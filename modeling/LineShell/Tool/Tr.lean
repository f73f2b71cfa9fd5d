import LineShell.Tool.Echo
import LineShell.Tool.Number
import LineShell.Tool.Options
import LineShell.Text.ByteClass

/-!
# tr

Replaces, deletes or squeezes bytes.  The bytes are given by arrays: rows of bytes, ranges,
classes and repeated bytes.

## Main definitions

* `Tool.Tr.Element` — a part of an array.
* `Tool.Tr.elementsOf` — reads an array.
* `Tool.Tr.pairs` — which byte of one array belongs to which one of another.
* `Tool.tr` — the tool.
-/

namespace LineShell.Tool

namespace Tr

/-! ### Arrays -/

/-- A part of an array. -/
inductive Element where
  | byte (c : Char)
  | range (first last : Char)
  | class (name : Octets)
  /-- The bytes that count as the same as one. -/
  | same (c : Char)
  /-- A byte several times; 0 stands for as often as needed. -/
  | repeated (c : Char) (count : Nat)
deriving DecidableEq, Repr

/-- All bytes. -/
def allBytes : List Char := (List.range 256).map Char.ofNat

/-- The number of times that a byte is really repeated. -/
def mostRepeats : Nat := 65536

/-- The bytes of an element, in order. -/
def Element.bytes : Element → List Char
  | .byte c => [c]
  | .range first last =>
    (List.range (last.toNat + 1 - first.toNat)).map fun n => Char.ofNat (first.toNat + n)
  | .class name => allBytes.filter ((Octets.classTest? name).getD fun _ => false)
  | .same c => [c]
  | .repeated c count => List.replicate (min count mostRepeats) c

/-- Whether an element is the class of small or of capital letters. -/
def Element.isCase : Element → Bool
  | .class name => name = "lower".toList || name = "upper".toList
  | _ => false

/-- Whether an element is a class. -/
def Element.isClass : Element → Bool
  | .class _ => true
  | _ => false

/-- The number of bytes of elements. -/
def lengthOf (elements : List Element) : Nat := (elements.map (·.bytes.length)).sum

/-! ### Reading arrays -/

/-- A byte of an array, and whether it was escaped. -/
structure Mark where
  byte : Char
  isEscaped : Bool := false
deriving DecidableEq, Repr

/-- Whether a mark is a byte that has a special meaning. -/
def Mark.isSign (m : Mark) (c : Char) : Bool := m.byte = c && !m.isEscaped

/-- Replaces escapes, in at most `fuel` steps. The second value is warnings. -/
def unescape : Nat → Octets → List Mark × List Octets
  | 0, _ => ([], [])
  | _, [] => ([], [])
  | _, ['\\'] =>
    ([{ byte := '\\' }], ["warning: an unescaped backslash at end of string is not portable"])
  | fuel + 1, '\\' :: c :: rest =>
    if isOctalDigit c then
      let (value, used, after) := takeDigits 8 octalValue? 0 0 3 (c :: rest)
      if value < 256 then
        let (marks, warnings) := unescape fuel after
        ({ byte := Char.ofNat value, isEscaped := true } :: marks, warnings)
      else
        -- Only two of the digits fit into a byte.
        let digits := (c :: rest).take used
        let (value, _, after) := takeDigits 8 octalValue? 0 0 2 (c :: rest)
        let (marks, warnings) := unescape fuel after
        ({ byte := Char.ofNat value, isEscaped := true } :: marks,
          ("warning: the ambiguous octal escape \\" ++ digits ++
            " is being\n\tinterpreted as the 2-byte sequence \\0" ++ digits.take 2 ++ ", " ++
            digits.drop 2) :: warnings)
    else
      let control := match c with
        | 'a' | 'b' | 'f' | 'n' | 'r' | 't' | 'v' => (controlOf? c).getD c
        | _ => c
      let (marks, warnings) := unescape fuel rest
      ({ byte := control, isEscaped := true } :: marks, warnings)
  | fuel + 1, c :: rest =>
    let (marks, warnings) := unescape fuel rest
    ({ byte := c } :: marks, warnings)

/-- A byte in a message. -/
def shown (c : Char) : Octets := if Octets.isPrintable c then [c] else '\\' :: Octets.octal c

/-- The marks before a sign with a bracket after it, and those after the bracket. -/
def untilClosing (sign : Char) (before : List Mark) : List Mark → Option (List Mark × List Mark)
  | a :: b :: rest =>
    if a.isSign sign && b.isSign ']' then some (before.reverse, rest)
    else untilClosing sign (a :: before) (b :: rest)
  | _ => none

/-- The marks before a bracket, and those after it, if no escape comes before it. -/
def untilBracket (before : List Mark) : List Mark → Option (Octets × List Mark)
  | [] => none
  | m :: rest =>
    if m.isEscaped then none
    else if m.byte = ']' then some ((before.map (·.byte)).reverse, rest)
    else untilBracket (m :: before) rest

/-- The number of repeats that digits stand for. -/
def repeatsOf? (digits : Octets) : Option Nat :=
  if digits.isEmpty then some 0
  else
    let base := if digits.head? = some '0' then 8 else 10
    let digitOf (c : Char) : Option Nat :=
      if base = 8 then octalValue? c else if c.isDigit then hexValue? c else none
    let (value, used, _) := takeDigits base digitOf 0 0 digits.length digits
    if used = digits.length && value ≤ largestCount then some value else none

/-- Whether marks begin with a star, digits and a bracket. -/
def looksRepeated (marks : List Mark) : Bool :=
  match marks with
  | star :: rest =>
    star.isSign '*' &&
      match rest.dropWhile fun m => m.byte.isDigit with
      | m :: _ => m.isSign ']'
      | [] => false
  | [] => false

/-- A repeated byte after a bracket, if there is one, and what follows it. -/
def repeatedAfter (marks : List Mark) : Except Octets (Option (Element × List Mark)) :=
  match marks with
  | c :: star :: rest =>
    if !star.isSign '*' then .ok none
    else match untilBracket [] rest with
      | none => .ok none
      | some (digits, rest) =>
        match repeatsOf? digits with
        | some count => .ok (some (.repeated c.byte count, rest))
        | none => .error ("invalid repeat count " ++ Octets.quoted digits ++
          " in [c*n] construct")
  | _ => .ok none

/-- A class after a bracket, if there is one, and what follows it. -/
def classAfter (marks : List Mark) : Except Octets (Option (Element × List Mark)) :=
  match marks with
  | sign :: rest =>
    if !(sign.isSign ':' || sign.isSign '=') then .ok none
    else match untilClosing sign.byte [] rest with
      | none => .ok none
      | some (inner, after) =>
        let name := inner.map (·.byte)
        if sign.byte = ':' then
          if name.isEmpty then .error "missing character class name '[::]'"
          else if (Octets.classTest? name).isSome then .ok (some (.class name, after))
          else if looksRepeated rest then .ok none
          else .error ("invalid character class " ++ Octets.quoted (name.flatMap shown))
        else match name with
          | [] => .error "missing equivalence class character '[==]'"
          | [c] => .ok (some (.same c, after))
          | _ =>
            if looksRepeated rest then .ok none
            else .error (name.flatMap shown ++
              ": equivalence class operand must be a single character")
  | [] => .ok none

/-- What begins with a bracket, if it is a class or a repeated byte, and what follows it. -/
def bracketed (marks : List Mark) : Except Octets (Option (Element × List Mark)) := do
  match ← classAfter marks with
  | some found => return some found
  | none => repeatedAfter marks

/-- The elements of marks, in at most `fuel` steps. -/
def elementsFrom : Nat → List Mark → Except Octets (List Element)
  | 0, _ => .ok []
  | fuel + 1, marks =>
    match marks with
    | a :: b :: c :: rest => do
      let found ← if a.isSign '[' then bracketed (b :: c :: rest) else pure none
      match found with
      | some (element, rest) => return element :: (← elementsFrom fuel rest)
      | none =>
        if b.isSign '-' then
          if c.byte < a.byte then
            throw ("range-endpoints of '" ++ shown a.byte ++ "-" ++ shown c.byte ++
              "' are in reverse collating sequence order")
          else return .range a.byte c.byte :: (← elementsFrom fuel rest)
        else return .byte a.byte :: (← elementsFrom fuel (b :: c :: rest))
    | _ => .ok (marks.map fun m => .byte m.byte)

/-- Reads an array. The second value is warnings. -/
def elementsOf (text : Octets) : Except Octets (List Element) × List Octets :=
  let (marks, warnings) := unescape (text.length + 1) text
  (elementsFrom (marks.length + 1) marks, warnings)

/-! ### Pairs -/

/-- What the options say. -/
structure Settings where
  complements : Bool := false
  deletes : Bool := false
  squeezes : Bool := false
  truncates : Bool := false
deriving DecidableEq, Repr

/-- The bytes of elements. -/
def bytesOf (elements : List Element) : List Char := elements.flatMap Element.bytes

/-- The bytes that are not among those of elements. -/
def complementOf (elements : List Element) : List Char :=
  let bytes := bytesOf elements
  allBytes.filter (!bytes.contains ·)

/-- Whether classes of letters in the second array stand opposite to such in the first one. The
arrays are given as what is left of each, with the bytes of the first element that are left. -/
def areAligned : Nat → List Char → List Element → List Char → List Element → Bool
  | 0, _, _, _, _ => true
  | fuel + 1, a, as, b, bs =>
    match a, as, b, bs with
    | [], [], _, _ => bs.head?.all (!·.isCase) || !b.isEmpty
    | _, _, [], [] => true
    | [], x :: as, [], y :: bs =>
      if y.isCase then x.isCase && areAligned fuel [] as [] bs
      else areAligned fuel x.bytes as y.bytes bs
    | _ :: _, _, [], y :: bs => !y.isCase && areAligned fuel a as y.bytes bs
    | [], x :: as, _ :: _, _ => areAligned fuel x.bytes as b bs
    | _ :: a, _, _ :: b, _ => areAligned fuel a as b bs

/-- Which byte of the first array belongs to which one of the second one. Opposite classes of
letters change the case. -/
def pairs : Nat → List Char → List Element → List Char → List Element → List (Char × Char)
  | 0, _, _, _, _ => []
  | fuel + 1, a, as, b, bs =>
    match a, as, b, bs with
    | [], [], _, _ => []
    | _, _, [], [] => []
    | [], x :: as, [], y :: bs =>
      if x.isCase && y.isCase then
        (x.bytes.zip (if x = y then x.bytes else y.bytes)) ++ pairs fuel [] as [] bs
      else pairs fuel x.bytes as y.bytes bs
    | _ :: _, _, [], y :: bs => pairs fuel a as y.bytes bs
    | [], x :: as, _ :: _, _ => pairs fuel x.bytes as b bs
    | c :: a, _, d :: b, _ => (c, d) :: pairs fuel a as b bs

/-- The length of an array, where each class of letters counts once if it stands opposite to
another one. -/
def lengthByCase (foldsCase : Bool) (elements : List Element) : Nat :=
  (elements.map fun e => if foldsCase && e.isCase then 1 else e.bytes.length).sum

/-- The number of repeats without a count. -/
def openRepeats (elements : List Element) : Nat :=
  elements.countP fun e =>
    match e with
    | .repeated _ 0 => true
    | _ => false

/-- Fills the repeat without a count. -/
def fill (count : Nat) (elements : List Element) : List Element :=
  elements.map fun e =>
    match e with
    | .repeated c 0 => .repeated c count
    | e => e

/-- Whether all bytes of elements are the same. -/
def isUniform (elements : List Element) : Bool :=
  match bytesOf elements with
  | [] => false
  | c :: rest => rest.all (· = c)

/-- The second array when it is shorter than the first: its last byte is repeated. -/
def extend (first second : Nat) (elements : List Element) : Except String (List Element) :=
  match elements.getLast? with
  | none => .error "when not truncating set1, string2 must be non-empty"
  | some (.class _) => .error ("when translating with string1 longer than string2,\n" ++
      "the latter string must not end with a character class")
  | some (.byte c) | some (.same c) | some (.repeated c _) | some (.range _ c) =>
    .ok (elements ++ [.repeated c (first - second)])

/-- The second array as it is used, or what is wrong with the two. -/
def agree (s : Settings) (translates : Bool) (first second : List Element) :
    Except String (List Element) := do
  let length := if s.complements then (complementOf first).length else lengthOf first
  let filled :=
    if openRepeats second = 1 && length ≥ lengthOf second then
      fill (length - lengthOf second) second
    else second
  if openRepeats second > 1 then
    throw "only one [c*] repeat construct may appear in string2"
  if !translates then
    if openRepeats second > 0 then
      throw "the [c*] construct may appear in string2 only when translating"
    return filled
  if second.any fun e => match e with
      | .same _ => true
      | _ => false then
    throw "[=c=] expressions may not appear in string2 when translating"
  if second.any fun e => e.isClass && !e.isCase then
    throw ("when translating, the only character classes that may appear in\n" ++
      "string2 are 'upper' and 'lower'")
  let foldsCase := !s.complements && filled.any Element.isClass
  let fuel := 2 * (lengthOf first + lengthOf filled + first.length + filled.length) + 2
  if foldsCase && !areAligned fuel [] first [] filled then
    throw "misaligned [:upper:] and/or [:lower:] construct"
  let n := if s.complements then length else lengthByCase foldsCase first
  let m := lengthByCase foldsCase filled
  let extended ← if n > m && !s.truncates then extend n m filled else pure filled
  let m := if n > m && !s.truncates then n else m
  if s.complements && first.any Element.isClass && !(m = n && isUniform extended) then
    throw ("when translating with complemented character classes,\n" ++
      "string2 must map all characters in the domain to one")
  return extended

/-! ### Filters -/

/-- A table that says for each byte what becomes of it. -/
abbrev Table (α : Type) := Array α

/-- The entry of a byte. -/
def entry {α : Type} (t : Table α) (default : α) (c : Char) : α := t.getD c.toNat default

/-- The table of the bytes in a set. -/
def members (bytes : List Char) : Table Bool :=
  bytes.foldl (fun t c => t.setIfInBounds c.toNat true) (Array.replicate 256 false)

/-- The table of what replaces each byte; the last pair of a byte counts. -/
def replacements (pairs : List (Char × Char)) : Table Char :=
  pairs.foldl (fun t (c, d) => t.setIfInBounds c.toNat d) allBytes.toArray

/-- What a filter does with a byte. -/
structure Filter where
  deleted : Table Bool
  replaced : Table Char
  squeezed : Table Bool

/-- Passes bytes through a filter. The last byte that was written, and what was written in
reverse, come before the bytes. -/
def Filter.pass (f : Filter) (last : Option Char) (written : Octets) :
    Octets → Option Char × Octets
  | [] => (last, written)
  | c :: rest =>
    if entry f.deleted false c then f.pass last written rest
    else
      let d := entry f.replaced c c
      if last = some d && entry f.squeezed false d then f.pass last written rest
      else f.pass (some d) (d :: written) rest

/-- The filter of two arrays; without a second one nothing is replaced. -/
def filterOf (s : Settings) (first : List Element) (second : Option (List Element)) : Filter :=
  let chosen := if s.complements then complementOf first else bytesOf first
  let nothing := members []
  let same := replacements []
  match s.deletes, second with
  | true, none => { deleted := members chosen, replaced := same, squeezed := nothing }
  | true, some second =>
    { deleted := members chosen, replaced := same, squeezed := members (bytesOf second) }
  | false, none => { deleted := nothing, replaced := same, squeezed := members chosen }
  | false, some second =>
    let fuel := 2 * (lengthOf first + lengthOf second + first.length + second.length) + 2
    let mapping :=
      if s.complements then chosen.zip (bytesOf second) else pairs fuel [] first [] second
    { deleted := nothing
      replaced := replacements mapping
      squeezed := if s.squeezes then members (bytesOf second) else nothing }

/-! ### The tool -/

/-- The options. -/
def grammar : Grammar where
  letters := "AcCdst"
  long := [⟨"complement", .none, 'c'⟩, ⟨"delete", .none, 'd'⟩, ⟨"squeeze-repeats", .none, 's'⟩,
    ⟨"truncate-set1", .none, 't'⟩]
  order := .first

/-- Complains about operands, with a line of explanation. -/
def misuseWith (i : Invocation) (text explanation : Octets) : Program Nat := do
  complain i text
  let _ ← Program.write Program.standardError (explanation ++ "\n")
  adviseOnly i
where
  /-- Writes where to find help. -/
  adviseOnly (i : Invocation) : Program Nat := do
    let _ ← Program.write Program.standardError
      ("Try '" ++ i.name ++ " --help' for more information.\n")
    pure 1

/-- Makes remarks, one after the other. -/
def warn (i : Invocation) : List Octets → Program Unit
  | [] => pure ()
  | text :: rest => do
    complain i text
    warn i rest

/-- Reads an array, or ends. -/
def readArray (i : Invocation) (text : Octets) : Program (List Element) := do
  let (elements, warnings) := elementsOf text
  warn i warnings
  match elements with
  | .ok elements => pure elements
  | .error problem => fail i problem

/-- Passes the standard input through a filter. -/
def apply (i : Invocation) (f : Filter) : Program Nat := do
  let (_, failure) ← Program.foldBlocks Program.standardInput (2 * Program.blockSize)
    (fun last block => do
      let (last, written) := f.pass last [] (Octets.ofData block)
      print i written.reverse
      pure last) Program.forever none
  match failure with
  | some e => fail i ("read error: " ++ e.text)
  | none => pure 0

/-- Runs the tool on its operands. -/
def run (i : Invocation) (s : Settings) (operands : List Octets) : Program Nat := do
  let least := if s.deletes = s.squeezes then 2 else 1
  let most := if s.deletes && !s.squeezes then 1 else 2
  match operands with
  | [] => misuse i "missing operand"
  | first :: others =>
    if operands.length < least then
      misuseWith i ("missing operand after " ++ Octets.quoted first)
        (if s.squeezes then
          "Two strings must be given when both deleting and squeezing repeats."
        else "Two strings must be given when translating.")
    else if operands.length > most then
      let problem := "extra operand " ++ Octets.quoted ((operands[most]?).getD [])
      if operands.length = 2 then
        misuseWith i problem
          "Only one string may be given when deleting without squeezing repeats."
      else misuse i problem
    else
      let array ← readArray i first
      let second ← match others with
        | [] => pure none
        | text :: _ => do
          let elements ← readArray i text
          pure (some elements)
      if openRepeats array > 0 then
        fail i "the [c*] repeat construct may not appear in string1"
      match second with
      | none => apply i (filterOf s array none)
      | some elements =>
        match agree s (!s.deletes) array elements with
        | .error problem => fail i problem
        | .ok elements => apply i (filterOf s array (some elements))

end Tr

/-- Replaces, deletes or squeezes bytes. -/
def tr (i : Invocation) : Program Nat :=
  withOptions Tr.grammar i i.operands fun p =>
    Tr.run i
      { complements := p.has 'c' || p.has 'C'
        deletes := p.has 'd'
        squeezes := p.has 's'
        truncates := p.has 't' } p.operands

end LineShell.Tool
