import LineShell.Tool.Block
import LineShell.Tool.Number
import LineShell.Tool.Options
import LineShell.Tool.Sort.Order

/-!
# sort

Puts the lines of its inputs in order, merges inputs that are in order, or checks whether an
input is.

## Main definitions

* `Tool.Sorter.Settings` — what the options say.
* `Tool.Sorter.keyOf` — reads where a key lies.
* `Tool.sort` — the tool.
-/

namespace LineShell.Tool

namespace Sorter

open Sorting

/-- What the options say. -/
structure Settings where
  /-- The order of keys that have none of their own. -/
  order : Order := {}
  keys : List Key := []
  separator : Option Char := none
  /-- The file for the output. -/
  output : Option Octets := none
  /-- The letter of the option that asks for a check. -/
  check : Option Char := none
  merges : Bool := false
  stable : Bool := false
  unique : Bool := false
  lineEnd : Char := '\n'
deriving DecidableEq, Repr

/-! ### Orders and keys -/

/-- Takes a letter into account that says how keys are compared, at the start of a key or at
its end. There is no answer if it says nothing. -/
def setOrder? (atStart atEnd : Bool) (o : Order) (c : Char) : Option Order :=
  let withSense (s : Sense) : Option Order :=
    some { o with senses := if o.senses.contains s then o.senses else o.senses ++ [s] }
  match c with
  | 'b' => some { o with
      startBlanks := o.startBlanks || atStart
      endBlanks := o.endBlanks || atEnd }
  | 'd' => some { o with passing := .signs }
  | 'f' => some { o with folds := true }
  | 'g' => withSense .general
  | 'h' => withSense .human
  | 'i' => some { o with passing := if o.passing = .nothing then .shapeless else o.passing }
  | 'M' => withSense .month
  | 'n' => withSense .number
  | 'r' => some { o with reverse := true }
  | 'R' => withSense .random
  | 'V' => withSense .version
  | _ => none

/-- Takes the letters at the beginning of a string into account, and tells what follows. -/
def scanOrder (atStart atEnd : Bool) (o : Order) : Octets → Order × Octets
  | [] => (o, [])
  | c :: rest =>
    match setOrder? atStart atEnd o c with
    | some o => scanOrder atStart atEnd o rest
    | none => (o, c :: rest)

/-- A number in the description of a key, and what follows it. -/
def scanCount (what : Octets) (text : Octets) : Except Refusal (Nat × Octets) :=
  let bare := text.dropWhile Octets.isSpacing
  let bare := if bare.head? = some '+' then bare.tail else bare
  let digits := bare.takeWhile Char.isDigit
  if digits.isEmpty then
    .error { text := what ++ ": invalid count at start of " ++ Octets.quoted text }
  else .ok (min (Octets.digitsValue digits) largestCount, bare.drop digits.length)

/-- A number that counts from 1, and what follows it. -/
def scanPosition (what zero text whole : Octets) : Except Refusal (Nat × Octets) := do
  match ← scanCount what text with
  | (0, _) => .error { text := zero ++ ": invalid field specification " ++ Octets.quoted whole }
  | (n + 1, rest) => .ok (n, rest)

/-- Reads where a key lies. -/
def keyOf (text : Octets) : Except Refusal Key := do
  let (field, rest) ← scanPosition "invalid number at field start" "field number is zero" text text
  let (byte, rest) ← match rest with
    | '.' :: rest => scanPosition "invalid number after '.'" "character offset is zero" rest text
    | _ => pure (0, rest)
  let start := if field = 0 && byte = 0 then none else some (field, byte)
  let (order, rest) := scanOrder true false {} rest
  let (finish, order, rest) ← match rest with
    | ',' :: rest => do
      let (field, rest) ← scanPosition "invalid number after ','" "field number is zero" rest text
      let (bytes, rest) ← match rest with
        | '.' :: rest => scanCount "invalid number after '.'" rest
        | _ => pure (0, rest)
      let (order, rest) := scanOrder false true order rest
      pure (some (field, bytes), order, rest)
    | _ => pure (none, order, rest)
  if rest.isEmpty then pure { start, finish, order }
  else .error {
    text := "stray character in field spec: invalid field specification " ++ Octets.quoted text }

/-- The old form of a position, `F.CO`: its numbers, and what follows them. -/
def scanOldPosition? (text : Octets) : Option (Nat × Nat × Octets) :=
  let digits := text.takeWhile Char.isDigit
  let rest := text.drop digits.length
  match rest with
  | '.' :: rest' =>
    let digits' := rest'.takeWhile Char.isDigit
    some (Octets.digitsValue digits, Octets.digitsValue digits', rest'.drop digits'.length)
  | _ => if digits.isEmpty then none else some (Octets.digitsValue digits, 0, rest)

/-- Whether a string consists of letters that say how keys are compared. -/
def isOrder (text : Octets) : Bool := text.all fun c => (setOrder? true true {} c).isSome

/-- The new form of an argument that is the start of a key in the old form. -/
def newStart? (argument : Octets) : Option Octets :=
  match argument with
  | '+' :: text =>
    match scanOldPosition? text with
    | some (field, byte, order) =>
      if isOrder order then
        some (Octets.ofNat (field + 1) ++ '.' :: Octets.ofNat (byte + 1) ++ order)
      else none
    | none => none
  | _ => none

/-- The new form of an argument that is the end of a key in the old form. -/
def newFinish? (argument : Octets) : Option Octets :=
  match argument with
  | '-' :: c :: text =>
    match if c.isDigit then scanOldPosition? (c :: text) else none with
    | some (field, bytes, order) =>
      if bytes = 0 then some (Octets.ofNat (max field 1) ++ order)
      else some (Octets.ofNat (field + 1) ++ '.' :: Octets.ofNat bytes ++ order)
    | none => none
  | _ => none

/-- The new form of keys that are given in an old form, by an argument with a plus sign that
may be followed by one with a hyphen; `held` is a key that still lacks its end. -/
def modernize (held : Option Octets) : List Octets → List Octets
  | [] => (held.map fun key => [Octets.ofText "-k", key]).getD []
  | argument :: rest =>
    match held, held.bind fun _ => newFinish? argument with
    | some key, some finish => Octets.ofText "-k" :: (key ++ ',' :: finish) :: modernize none rest
    | held, _ =>
      let before : List Octets := (held.map fun key => [Octets.ofText "-k", key]).getD []
      if argument = ['-', '-'] then before ++ argument :: rest
      else match newStart? argument with
        | some key => before ++ modernize (some key) rest
        | none => before ++ argument :: modernize none rest

/-- The letters of an order, without those for blanks and for the direction. -/
def lettersOf (o : Order) : Octets :=
  let has (s : Sense) (c : Char) : Octets := if o.senses.contains s then [c] else []
  (if o.passing = .signs then ['d'] else []) ++ (if o.folds then ['f'] else []) ++
    has .general 'g' ++ has .human 'h' ++ (if o.passing = .shapeless then ['i'] else []) ++
    has .month 'M' ++ has .number 'n' ++ has .random 'R' ++ has .version 'V'

/-- Whether the letters of an order contradict each other. -/
def isContradictory (o : Order) : Bool :=
  let exact := o.senses.filter fun s => s ≠ .version && s ≠ .random
  let loose := o.passing ≠ .nothing || o.senses.contains .version || o.senses.contains .random
  exact.length + (if loose then 1 else 0) > 1

/-- Refuses options that contradict each other. -/
def incompatible (letters : Octets) : Refusal :=
  { text := "options '-" ++ letters ++ "' are incompatible" }

/-! ### Options -/

/-- The letters of the words for an order. -/
def orderWords : List (String × Char) :=
  [("general-numeric", 'g'), ("human-numeric", 'h'), ("month", 'M'), ("numeric", 'n'),
    ("random", 'R'), ("version", 'V')]

/-- The letters of the words for a check. -/
def checkWords : List (String × Char) := [("quiet", 'C'), ("silent", 'C'), ("diagnose-first", 'c')]

/-- The separator of fields that is asked for. -/
def separatorOf (text : Octets) : Except Refusal Char :=
  match text with
  | [] => .error { text := "empty tab" }
  | [c] => .ok c
  | ['\\', '0'] => .ok '\x00'
  | _ => .error { text := "multi-character tab " ++ Octets.quoted text }

/-- Takes an option into account. -/
def set (s : Settings) (key : Char) (value : Option Octets) : Except Refusal Settings :=
  let text := value.getD []
  match key with
  | 'c' | 'C' => do
    let key ← match value with
      | none => pure key
      | some word => valueOfWord "--check" checkWords word
    if s.check.any (· ≠ key) then throw (incompatible "cC")
    return { s with check := some key }
  | 'k' => (keyOf text).map fun k => { s with keys := s.keys ++ [k] }
  | 'm' => .ok { s with merges := true }
  | 'o' =>
    if s.output.any (· ≠ text) then .error { text := "multiple output files specified" }
    else .ok { s with output := some text }
  | 's' => .ok { s with stable := true }
  | 't' =>
    match separatorOf text with
    | .error refusal => .error refusal
    | .ok c =>
      if s.separator.any (· ≠ c) then .error { text := "incompatible tabs" }
      else .ok { s with separator := some c }
  | 'u' => .ok { s with unique := true }
  | 'z' => .ok { s with lineEnd := '\x00' }
  | '\x10' => do
    let c ← valueOfWord "--sort" orderWords text
    return { s with order := (setOrder? true true s.order c).getD s.order }
  | c => .ok { s with order := (setOrder? true true s.order c).getD s.order }

/-- The options. -/
def grammar : Grammar where
  letters := "bcCdfghik:mMno:rRsS:t:T:uVy:z"
  long := [⟨"ignore-leading-blanks", .none, 'b'⟩, ⟨"check", .optional, 'c'⟩,
    ⟨"compress-program", .required, 'y'⟩, ⟨"debug", .none, 'y'⟩,
    ⟨"dictionary-order", .none, 'd'⟩, ⟨"ignore-case", .none, 'f'⟩,
    ⟨"files0-from", .required, 'y'⟩, ⟨"general-numeric-sort", .none, 'g'⟩,
    ⟨"ignore-nonprinting", .none, 'i'⟩, ⟨"key", .required, 'k'⟩, ⟨"merge", .none, 'm'⟩,
    ⟨"month-sort", .none, 'M'⟩, ⟨"numeric-sort", .none, 'n'⟩,
    ⟨"human-numeric-sort", .none, 'h'⟩, ⟨"version-sort", .none, 'V'⟩,
    ⟨"random-sort", .none, 'R'⟩, ⟨"random-source", .required, 'y'⟩, ⟨"sort", .required, '\x10'⟩,
    ⟨"output", .required, 'o'⟩, ⟨"reverse", .none, 'r'⟩, ⟨"stable", .none, 's'⟩,
    ⟨"batch-size", .required, 'y'⟩, ⟨"buffer-size", .required, 'S'⟩,
    ⟨"field-separator", .required, 't'⟩, ⟨"temporary-directory", .required, 'T'⟩,
    ⟨"unique", .none, 'u'⟩, ⟨"zero-terminated", .none, 'z'⟩, ⟨"parallel", .required, 'y'⟩]

/-- The rules that settings make. Keys without an order of their own have the common one, which
makes a key if there is none. -/
def rulesOf (s : Settings) : Rules :=
  let keys := s.keys.map fun k =>
    if k.order.isPlain && !k.order.reverse then { k with order := s.order } else k
  { keys := if s.keys.isEmpty && !s.order.isPlain then [{ order := s.order }] else keys
    separator := s.separator
    stable := s.stable
    unique := s.unique
    reverse := s.order.reverse }

/-! ### The tool -/

/-- The exit code of a sort that fails. -/
def failure : Nat := 2

/-- How the output is dealt with. -/
def outputRules (o : Output) : Output :=
  { o with
    blockLost := some "write failed: 'standard output'"
    restLost := some "fflush failed: 'standard output'" }

/-- Looks whether all inputs can be read. -/
def checkInputs (i : Invocation) : List Octets → Program Unit
  | [] => pure ()
  | name :: rest => do
    if name = dash then checkInputs i rest
    else match ← Program.call (.mayAccess name .read) with
      | .error e => fail i ("cannot read: " ++ Octets.fileName name ++ ": " ++ e.text) failure
      | .ok () => checkInputs i rest

/-- Looks whether the standard input is open if it is the first input. -/
def checkOpen (i : Invocation) (name : Octets) : Program Unit := do
  if name = dash then
    match ← Program.call (.statusOpen Program.standardInput) with
    | .error e => fail i ("stat failed: " ++ name ++ ": " ++ e.text) failure
    | .ok _ => pure ()

/-- The lines of an input. -/
def linesOf (i : Invocation) (s : Settings) (name : Octets) : Program (List Octets) := do
  match ← openOperand name with
  | .error e => fail i ("open failed: " ++ Octets.fileName name ++ ": " ++ e.text) failure
  | .ok descriptor =>
    let data ← Program.readAll descriptor
    closeOperand name descriptor
    match data with
    | .error e => fail i ("read failed: " ++ Octets.fileName name ++ ": " ++ e.text) failure
    | .ok data => pure (Octets.lines (Octets.ofData data) s.lineEnd)

/-- The lines of all inputs. -/
def linesOfAll (i : Invocation) (s : Settings) : List Octets → Program (List (List Octets))
  | [] => pure []
  | name :: rest => do
    let lines ← linesOf i s name
    let others ← linesOfAll i s rest
    pure (lines :: others)

/-- Opens the file for the output, which takes the place of the standard output. -/
def openOutput (i : Invocation) (name : Octets) (mode : OpenMode) : Program Unit := do
  match ← Program.openFile name mode with
  | .error e => fail i ("open failed: " ++ Octets.fileName name ++ ": " ++ e.text) failure
  | .ok descriptor =>
    let _ ← Program.call (.redirect descriptor Program.standardOutput)
    Program.close descriptor

/-- Checks whether an input is in order. -/
def checkInput (i : Invocation) (s : Settings) (r : Rules) (name : Octets) (letter : Char) :
    Program Nat := do
  let lines ← linesOf i s name
  match r.disorder? 1 (lines.map r.prepare) with
  | none => pure 0
  | some (number, line) =>
    if letter = 'c' then
      complain i (name ++ ":" ++ Octets.ofNat number ++ ": disorder: " ++ line.text)
    pure 1

/-- Puts the lines of inputs in order. -/
def run (i : Invocation) (s : Settings) (operands : List Octets) : Program Nat := do
  let r := rulesOf s
  match r.keys.find? fun k => isContradictory k.order with
  | some k => (incompatible (lettersOf k.order)).raise i failure
  | none => pure ()
  let names := orStandard operands
  match s.check with
  | some letter =>
    match names with
    | _ :: extra :: _ =>
      fail i ("extra operand " ++ Octets.shellQuoted extra ++ " not allowed with -" ++ [letter])
        failure
    | _ =>
      if s.output.isSome then (incompatible [letter, 'o']).raise i failure
      else checkInput i s r (names.headD dash) letter
  | none =>
    checkInputs i names
    match s.output with
    | some name => openOutput i name { writes := true, creates := true }
    | none => pure ()
    if !s.merges then checkOpen i (names.headD dash)
    let inputs ← linesOfAll i s names
    match s.output with
    | some name => openOutput i name { writes := true, empties := true }
    | none => pure ()
    let prepared := inputs.map (·.map r.prepare)
    let sorted := if s.merges then r.merge prepared else r.sort prepared.flatten
    print i (sorted.flatMap fun line => line.text ++ [s.lineEnd])
    pure 0

end Sorter

/-- Puts lines in order. -/
def sort (i : Invocation) : Program Nat :=
  withSettings Sorter.grammar i (Sorter.modernize none i.operands) {} Sorter.set (Sorter.run i)
    Sorter.failure

end LineShell.Tool
