import LineShell.Numeral.Extended

/-!
# Orders of lines

Lines are compared by keys: parts of a line with a way of comparing them.  Lines whose keys
are all equal are compared as wholes.

## Main definitions

* `Sorting.Order` — a way of comparing keys.
* `Sorting.Key` — where a key lies in a line, and its order.
* `Sorting.Rules` — the keys, and what is done about lines whose keys are equal.
* `Sorting.Rules.compare` — compares two lines.
* `Sorting.versionCompare` — compares names with version numbers.
-/

namespace LineShell.Sorting

/-! ### Strings -/

/-- Compares strings byte by byte. -/
def bytesCompare : Octets → Octets → Ordering
  | [], [] => .eq
  | [], _ => .lt
  | _, [] => .gt
  | a :: as, b :: bs => if a < b then .lt else if b < a then .gt else bytesCompare as bs

/-- Whether a byte separates fields when no separator is given. -/
def isBlank (c : Char) : Bool := c = ' ' || c = '\t' || c = '\n'

/-! ### Numbers -/

/-- A number in decimal at the beginning of a string: its sign, its digits before and after
the point, and what follows. -/
def scanDecimal (text : Octets) : Bool × Octets × Octets × Octets :=
  let isNegative := text.head? = some '-'
  let text := if isNegative then text.tail else text
  let whole := text.takeWhile Char.isDigit
  match text.drop whole.length with
  | '.' :: rest =>
    let fraction := rest.takeWhile Char.isDigit
    (isNegative, whole, fraction, rest.drop fraction.length)
  | rest => (isNegative, whole, [], rest)

/-- Compares the decimal numbers at the beginning of two strings. A string without a number
counts as zero. -/
def numberCompare (a b : Octets) : Ordering :=
  let (s, n, f, _) := scanDecimal a
  let (t, m, g, _) := scanDecimal b
  let places := max f.length g.length
  let value (isNegative : Bool) (whole fraction : Octets) : Int :=
    let digits := whole ++ fraction ++ List.replicate (places - fraction.length) '0'
    let n : Int := Octets.digitsValue digits
    if isNegative then -n else n
  compare (value s n f) (value t m g)

/-- The rank of a unit that stands after a number. -/
def unitRank (c : Char) : Int :=
  match c with
  | 'k' | 'K' => 1
  | 'M' => 2
  | 'G' => 3
  | 'T' => 4
  | 'P' => 5
  | 'E' => 6
  | 'Z' => 7
  | 'Y' => 8
  | _ => 0

/-- The rank of the unit of the number at the beginning of a string. -/
def unitOrder (text : Octets) : Int :=
  let (isNegative, whole, fraction, rest) := scanDecimal text
  if (whole ++ fraction).all (· = '0') then 0
  else
    let rank := unitRank (rest.headD ' ')
    if isNegative then -rank else rank

/-- Compares numbers with units. -/
def humanCompare (a b : Octets) : Ordering :=
  (compare (unitOrder a) (unitOrder b)).then (numberCompare a b)

/-- Compares extended numbers. What begins with no number comes first, then what is called no
number. -/
def generalCompare (a b : Octets) : Ordering :=
  match Extended.scan a, Extended.scan b with
  | none, none => .eq
  | none, some _ => .lt
  | some _, none => .gt
  | some (x, _), some (y, _) =>
    match x.compare y with
    | some o => o
    | none =>
      match x.isUndefined, y.isUndefined with
      | true, false => .lt
      | false, true => .gt
      | _, _ => .eq

/-- The abbreviations of the months. -/
def months : List String :=
  ["JAN", "FEB", "MAR", "APR", "MAY", "JUN", "JUL", "AUG", "SEP", "OCT", "NOV", "DEC"]

/-- The number of the month that a string begins with, or 0. -/
def monthOf (text : Octets) : Nat :=
  let word := (text.take 3).map Char.toUpper
  match months.findIdx? fun month => month.toList == word with
  | some i => i + 1
  | none => 0

/-! ### Versions -/

/-- The rank of the first byte of a string among those that are no digits; the end comes before
letters, and these before signs. -/
def letterRank (text : Octets) : Int :=
  match text with
  | [] => -1
  | c :: _ =>
    if c.isDigit then 0
    else if c.isAlpha then c.toNat
    else if c = '~' then -2
    else c.toNat + 256

/-- Compares strings up to the next digit in both of them. The result is what follows, if
there was no difference. -/
def lettersCompare : Nat → Octets → Octets → Ordering ⊕ (Octets × Octets)
  | 0, a, b => .inr (a, b)
  | fuel + 1, a, b =>
    let stands (text : Octets) : Bool := text.isEmpty || (text.headD 'x').isDigit
    if stands a && stands b then .inr (a, b)
    else if letterRank a ≠ letterRank b then .inl (compare (letterRank a) (letterRank b))
    else lettersCompare fuel a.tail b.tail

/-- Compares the parts of two strings in turn: letters and signs, then numbers. -/
def partsCompare : Nat → Octets → Octets → Ordering
  | 0, _, _ => .eq
  | fuel + 1, a, b =>
    if a.isEmpty && b.isEmpty then .eq
    else match lettersCompare (a.length + b.length) a b with
      | .inl o => o
      | .inr (a, b) =>
        let n := a.takeWhile Char.isDigit
        let m := b.takeWhile Char.isDigit
        match compare (Octets.digitsValue n) (Octets.digitsValue m) with
        | .eq => partsCompare fuel (a.drop n.length) (b.drop m.length)
        | o => o

/-- Compares two strings part by part. -/
def revisionCompare (a b : Octets) : Ordering := partsCompare (a.length + b.length + 1) a b

/-- What follows an ending that begins with a point, if the string begins with one. -/
def dropEnding? (text : Octets) : Option Octets :=
  match text with
  | '.' :: c :: rest =>
    if c.isAlpha || c = '~' then some (rest.dropWhile fun c => c.isAlphanum || c = '~') else none
  | _ => none

/-- What follows all endings at the beginning of a string. -/
def dropEndings : Nat → Octets → Octets
  | 0, text => text
  | fuel + 1, text =>
    match dropEnding? text with
    | some rest => dropEndings fuel rest
    | none => text

/-- The number of bytes before the endings of a name. -/
def stemFrom (taken : Nat) : Octets → Nat
  | [] => taken
  | _ :: rest =>
    if (dropEndings rest.length rest).isEmpty then taken + 1 else stemFrom (taken + 1) rest

/-- A name without its endings. -/
def stem (name : Octets) : Octets := name.take (stemFrom 0 name)

/-- The class of a name: nothing, the directory itself, its parent, hidden names, others. -/
def nameClass (name : Octets) : Nat :=
  match name with
  | [] => 0
  | ['.'] => 1
  | ['.', '.'] => 2
  | '.' :: _ => 3
  | _ => 4

/-- Compares names with version numbers, at first without their endings. -/
def versionCompare (a b : Octets) : Ordering :=
  match compare (nameClass a) (nameClass b) with
  | .eq =>
    if nameClass a < 3 then .eq
    else match revisionCompare (stem a) (stem b) with
      | .eq => revisionCompare a b
      | o => o
  | o => o

/-! ### Keys -/

/-- What is compared. -/
inductive Sense where
  | text
  | number
  | general
  | human
  | month
  | version
  | random
deriving DecidableEq, Repr

/-- Which bytes are passed over. -/
inductive Passing where
  | nothing
  /-- All but letters, digits and blanks. -/
  | signs
  /-- What has no shape. -/
  | shapeless
deriving DecidableEq, Repr

/-- A way of comparing keys, with the letters that ask for it. -/
structure Order where
  /-- What is compared; letters may ask for several things. -/
  senses : List Sense := []
  /-- Which bytes are passed over. -/
  passing : Passing := .nothing
  /-- Small letters count as capitals. -/
  folds : Bool := false
  /-- The order is turned round. -/
  reverse : Bool := false
  /-- Blanks before the start are passed over. -/
  startBlanks : Bool := false
  /-- Blanks before the end are passed over. -/
  endBlanks : Bool := false
deriving DecidableEq, Repr

/-- Whether nothing but the direction was asked for. -/
def Order.isPlain (o : Order) : Bool := { o with reverse := false } = ({} : Order)

/-- Where a key lies. Fields and bytes are counted from 0. -/
structure Key where
  /-- The field in which it starts, and how many bytes after the field's beginning. There is
  none for a key that starts with the line. -/
  start : Option (Nat × Nat) := none
  /-- The field in which it ends, and how many bytes of that it has; 0 bytes stand for the
  whole field. There is none for a key that ends with the line. -/
  finish : Option (Nat × Nat) := none
  /-- How it is compared. -/
  order : Order := {}
deriving DecidableEq, Repr

/-- What follows a number of fields. -/
def dropFields (separator : Option Char) : Nat → Octets → Octets
  | 0, text => text
  | count + 1, text =>
    match separator with
    | some c => dropFields separator count ((text.dropWhile (· ≠ c)).drop 1)
    | none => dropFields separator count ((text.dropWhile isBlank).dropWhile (!isBlank ·))

/-- The number of bytes before the end of a field, without the separator after it. -/
def fieldEnd (separator : Option Char) (field : Nat) (text : Octets) : Nat :=
  let text' := dropFields separator field text
  let rest := match separator with
    | some c => text'.dropWhile (· ≠ c)
    | none => (text'.dropWhile isBlank).dropWhile (!isBlank ·)
  text.length - rest.length

/-- The number of bytes before a key. -/
def Key.startIn (separator : Option Char) (k : Key) (line : Octets) : Nat :=
  let skip (text : Octets) : Octets := if k.order.startBlanks then text.dropWhile isBlank else text
  match k.start with
  | none => line.length - (skip line).length
  | some (field, offset) =>
    min line.length (line.length - (skip (dropFields separator field line)).length + offset)

/-- The number of bytes before the end of a key. -/
def Key.finishIn (separator : Option Char) (k : Key) (line : Octets) : Nat :=
  match k.finish with
  | none => line.length
  | some (field, 0) => fieldEnd separator field line
  | some (field, bytes) =>
    let rest := dropFields separator field line
    let rest := if k.order.endBlanks then rest.dropWhile isBlank else rest
    min line.length (line.length - rest.length + bytes)

/-- Whether a byte is passed over. -/
def Passing.drops (p : Passing) (c : Char) : Bool :=
  match p with
  | .nothing => false
  | .signs => !(c.isAlphanum || isBlank c)
  | .shapeless => !Octets.isPrintable c

/-- The text of a key in a line, as it is compared. -/
def Key.textIn (separator : Option Char) (k : Key) (line : Octets) : Octets :=
  let start := k.startIn separator line
  let text := (line.take (k.finishIn separator line)).drop start
  let text := if k.order.passing = .nothing then text else text.filter (!k.order.passing.drops ·)
  if k.order.folds then text.map Char.toUpper else text

/-- Compares the texts of a key. -/
def Order.compareTexts (o : Order) (a b : Octets) : Ordering :=
  let skip (text : Octets) : Octets := text.dropWhile isBlank
  let result := match o.senses.head?.getD .text with
    | .number => numberCompare (skip a) (skip b)
    | .general => generalCompare a b
    | .human => humanCompare (skip a) (skip b)
    | .month => compare (monthOf (skip a)) (monthOf (skip b))
    | .version => versionCompare a b
    | .text | .random => bytesCompare a b
  if o.reverse then result.swap else result

/-! ### Lines -/

/-- How lines are compared. -/
structure Rules where
  /-- The keys. -/
  keys : List Key := []
  /-- The separator of fields, if it is not blanks. -/
  separator : Option Char := none
  /-- Lines with equal keys stay as they are. -/
  stable : Bool := false
  /-- Of lines with equal keys only the first one is kept. -/
  unique : Bool := false
  /-- The order of whole lines is turned round. -/
  reverse : Bool := false
deriving DecidableEq, Repr

/-- A line with the texts of its keys. -/
structure Line where
  text : Octets
  keys : List Octets
deriving DecidableEq, Repr

/-- A line with the texts of its keys. -/
def Rules.prepare (r : Rules) (text : Octets) : Line :=
  ⟨text, r.keys.map fun k => k.textIn r.separator text⟩

/-- Compares the texts of keys one after the other. -/
def compareKeys : List Key → List Octets → List Octets → Ordering
  | k :: keys, a :: as, b :: bs => (k.order.compareTexts a b).then (compareKeys keys as bs)
  | _, _, _ => .eq

/-- Compares two lines. -/
def Rules.compare (r : Rules) (a b : Line) : Ordering :=
  let byKeys := compareKeys r.keys a.keys b.keys
  if byKeys ≠ .eq || (!r.keys.isEmpty && (r.stable || r.unique)) then byKeys
  else
    let whole := bytesCompare a.text b.text
    if r.reverse then whole.swap else whole

/-- Keeps the first one of lines in a row that are equal. What was kept so far is given in
reverse. -/
def Rules.dropRepeats (r : Rules) (kept : List Line) : List Line → List Line
  | [] => kept.reverse
  | line :: rest =>
    if kept.head?.any fun last => r.compare last line = .eq then r.dropRepeats kept rest
    else r.dropRepeats (line :: kept) rest

/-- Puts lines in order. -/
def Rules.sort (r : Rules) (lines : List Line) : List Line :=
  let sorted := lines.mergeSort fun a b => r.compare a b ≠ .gt
  if r.unique then r.dropRepeats [] sorted else sorted

/-- Puts a line among others that are in order by line and input, each the first one of an
input. -/
def Rules.insert (r : Rules) (input : Nat) (line : Line) (rest : List Line) :
    List (Nat × Line × List Line) → List (Nat × Line × List Line)
  | [] => [(input, line, rest)]
  | (other, line', rest') :: more =>
    let o := r.compare line line'
    if o = .lt || (o = .eq && input < other) then
      (input, line, rest) :: (other, line', rest') :: more
    else (other, line', rest') :: r.insert input line rest more

/-- Merges inputs whose first lines are in order, in at most `fuel` steps. What was merged so
far is given in reverse. -/
def Rules.mergeFrom (r : Rules) (merged : List Line) :
    Nat → List (Nat × Line × List Line) → List Line
  | 0, _ => merged.reverse
  | _, [] => merged.reverse
  | fuel + 1, (input, line, rest) :: more =>
    match rest with
    | [] => r.mergeFrom (line :: merged) fuel more
    | next :: rest => r.mergeFrom (line :: merged) fuel (r.insert input next rest more)

/-- Merges inputs, each of which should be in order. -/
def Rules.merge (r : Rules) (inputs : List (List Line)) : List Line :=
  let start := inputs.zipIdx.foldl (fun held (lines, input) =>
    match lines with
    | [] => held
    | line :: rest => r.insert input line rest held) []
  let merged := r.mergeFrom [] ((inputs.map List.length).sum) start
  if r.unique then r.dropRepeats [] merged else merged

/-- The first line that should not follow the one before it, with its number; the lines are
counted from `number` on. -/
def Rules.disorder? (r : Rules) (number : Nat) : List Line → Option (Nat × Line)
  | a :: b :: rest =>
    let o := r.compare a b
    if o = .gt || (r.unique && o = .eq) then some (number + 1, b)
    else r.disorder? (number + 1) (b :: rest)
  | _ => none

end LineShell.Sorting
