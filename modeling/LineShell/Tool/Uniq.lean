import LineShell.Tool.Number
import LineShell.Tool.Options
import LineShell.Tool.Sort

/-!
# uniq

Writes lines of which several equal ones in a row are taken together.

## Main definitions

* `Tool.Uniq.Settings` — what the options say.
* `Tool.Uniq.State`, `Tool.Uniq.step` — the lines that were seen, and one more of them.
* `Tool.uniq` — the tool.
-/

namespace LineShell.Tool

namespace Uniq

/-- Where groups of equal lines are set off by an empty line. -/
inductive Gap where
  | none
  /-- Before each. -/
  | before
  /-- After each. -/
  | after
  /-- Between two of them. -/
  | between
  /-- Before the first and after each. -/
  | both
deriving DecidableEq, Repr

/-- What the options say. -/
structure Settings where
  /-- The operands. -/
  operands : List Octets := []
  /-- Lines that stand alone are written. -/
  single : Bool := true
  /-- The first one of several equal lines is written. -/
  firstOfMany : Bool := true
  /-- The other ones of several equal lines are written. -/
  othersOfMany : Bool := false
  /-- The number of equal lines is written. -/
  counts : Bool := false
  /-- How groups of equal lines are set off when all of their lines are written. -/
  delimiting : Gap := .none
  /-- How groups are set off when all lines are written. -/
  grouping : Gap := .none
  /-- Whether an option says which lines are written. -/
  chosen : Bool := false
  folds : Bool := false
  /-- The number of fields that do not count. -/
  fields : Nat := 0
  /-- Whether that number was given by digits only. -/
  fieldsByDigits : Bool := true
  /-- The number of bytes after the fields that do not count. -/
  bytes : Nat := 0
  /-- The number of bytes that count. -/
  most : Option Nat := none
  lineEnd : Char := '\n'
deriving DecidableEq, Repr

/-! ### Comparing lines -/

/-- What follows a number of fields. -/
def dropFields : Nat → Octets → Octets
  | 0, text => text
  | count + 1, text =>
    if text.isEmpty then []
    else dropFields count ((text.dropWhile Sorting.isBlank).dropWhile (!Sorting.isBlank ·))

/-- The part of a line that counts. -/
def part (s : Settings) (line : Octets) : Octets :=
  let text := (dropFields (min s.fields line.length) line).drop s.bytes
  let text := match s.most with
    | some n => text.take n
    | none => text
  if s.folds then text.map Char.toUpper else text

/-! ### Lines in a row -/

/-- What was seen of the lines. -/
structure State where
  /-- The line that was kept last. -/
  line : Option Octets := none
  /-- The number of lines after it that are equal to it. -/
  repeats : Nat := 0
  /-- Whether some group of equal lines was completed. -/
  completed : Bool := false
deriving DecidableEq, Repr

/-- What is written of a line; `repeated` tells whether the next line is equal, and `repeats`
how many lines before it are. -/
def written (s : Settings) (line : Octets) (repeated : Bool) (repeats : Nat) : Octets :=
  let wanted :=
    if repeats = 0 then s.single else if repeated then s.othersOfMany else s.firstOfMany
  if !wanted then []
  else
    let count :=
      if s.counts then Octets.padLeft 7 (Octets.ofNat (repeats + 1)) ++ [' '] else []
    count ++ line ++ [s.lineEnd]

/-- Whether the lines are written as they come, each group at its first line. -/
def isSimple (s : Settings) : Bool := s.single && s.firstOfMany && !s.counts

/-- One more line, when groups are written at their first line. -/
def stepSimple (s : Settings) (t : State) (line : Octets) : State × Octets :=
  let isNew := !(t.line.any fun last => part s last = part s line)
  let gap :=
    isNew && (s.grouping = .before || s.grouping = .both ||
      (t.line.isSome && (s.grouping = .after || s.grouping = .between)))
  let text := if isNew || s.grouping ≠ .none then line ++ [s.lineEnd] else []
  ({ t with line := if isNew || s.grouping ≠ .none then some line else t.line },
    (if gap then [s.lineEnd] else []) ++ text)

/-- One more line, when groups are written at their last line. -/
def stepCounted (s : Settings) (t : State) (line : Octets) : State × Octets :=
  match t.line with
  | none => ({ t with line := some line }, [])
  | some last =>
    let isSame := part s last = part s line
    let repeats := if isSame then t.repeats + 1 else t.repeats
    let gap := isSame && repeats = 1 &&
      (s.delimiting = .before || (s.delimiting = .between && t.completed))
    let completed := t.completed || (!isSame && repeats > 0)
    let text := if !isSame || s.othersOfMany then written s last isSame repeats else []
    ({ line := if !isSame || s.othersOfMany then some line else t.line
       repeats := if isSame then repeats else 0
       completed },
      (if gap then [s.lineEnd] else []) ++ text)

/-- One more line: the state after it, and what is written. -/
def step (s : Settings) (t : State) (line : Octets) : State × Octets :=
  if isSimple s then stepSimple s t line else stepCounted s t line

/-- What is written at the end. -/
def finish (s : Settings) (t : State) : Octets :=
  match t.line with
  | none => []
  | some line =>
    if isSimple s then
      if s.grouping = .both || s.grouping = .after then [s.lineEnd] else []
    else written s line false t.repeats

/-! ### Options -/

/-- The number in the value of an option. -/
def sizeOf (text what : Octets) : Except Refusal Nat :=
  match readCount [] text with
  | .ok n => .ok n
  | .error .overflow => .ok largestCount
  | .error .malformed => .error { text := text ++ ": " ++ what }

/-- The words for gaps between groups of which all lines are written. -/
def delimitingWords : List (String × Gap) :=
  [("none", .none), ("prepend", .before), ("separate", .between)]

/-- The words for gaps between groups when all lines are written. -/
def groupingWords : List (String × Gap) :=
  [("prepend", .before), ("append", .after), ("separate", .between), ("both", .both)]

/-- Takes an operand into account. -/
def addOperand (s : Settings) (text : Octets) : Except Refusal Settings :=
  let count := if text.head? = some '+' then (readCount [] text).toOption else none
  match count with
  | some n => .ok { s with bytes := n }
  | none =>
    if s.operands.length = 2 then
      .error { text := "extra operand " ++ Octets.quoted text, advised := true }
    else .ok { s with operands := s.operands ++ [text] }

/-- Takes an option into account. -/
def set (s : Settings) (key : Char) (value : Option Octets) : Except Refusal Settings :=
  let text := value.getD []
  match key with
  | 'c' => .ok { s with counts := true, chosen := true }
  | 'd' => .ok { s with single := false, chosen := true }
  | 'D' => do
    let delimiting ← match value with
      | none => pure .none
      | some word => valueOfWord "--all-repeated" delimitingWords word
    return { s with single := false, othersOfMany := true, chosen := true, delimiting }
  | 'f' => do
    let fields ← sizeOf text "invalid number of fields to skip"
    return { s with fields, fieldsByDigits := false }
  | 'i' => .ok { s with folds := true }
  | 's' => do return { s with bytes := ← sizeOf text "invalid number of bytes to skip" }
  | 'u' => .ok { s with firstOfMany := false, chosen := true }
  | 'w' => do
    return { s with most := some (← sizeOf text "invalid number of bytes to compare") }
  | 'z' => .ok { s with lineEnd := '\x00' }
  | '\x10' => do
    let grouping ← match value with
      | none => pure .between
      | some word => valueOfWord "--group" groupingWords word
    return { s with grouping }
  | c =>
    if c = operandKey then addOperand s text
    else if c.isDigit then
      let fields := if s.fieldsByDigits then s.fields else 0
      .ok { s with
        fields := min largestCount (fields * 10 + (c.toNat - '0'.toNat))
        fieldsByDigits := true }
    else .ok s

/-- The options. -/
def grammar : Grammar where
  letters := "0123456789Dcdf:is:uw:z"
  long := [⟨"count", .none, 'c'⟩, ⟨"repeated", .none, 'd'⟩, ⟨"all-repeated", .optional, 'D'⟩,
    ⟨"group", .optional, '\x10'⟩, ⟨"ignore-case", .none, 'i'⟩, ⟨"unique", .none, 'u'⟩,
    ⟨"skip-fields", .required, 'f'⟩, ⟨"skip-chars", .required, 's'⟩,
    ⟨"check-chars", .required, 'w'⟩, ⟨"zero-terminated", .none, 'z'⟩]
  order := .kept

/-- Lets a file take the place of a standard stream. -/
def replace (i : Invocation) (name : Octets) (mode : OpenMode) (stream : Nat) : Program Unit := do
  if name = dash then pure ()
  else match ← Program.openFile name mode with
    | .error e => fail i (Octets.fileName name ++ ": " ++ e.text)
    | .ok descriptor =>
      let _ ← Program.call (.redirect descriptor stream)
      Program.close descriptor

/-- Runs the tool. -/
def run (i : Invocation) (s : Settings) : Program Nat := do
  if s.grouping ≠ .none && s.chosen then
    misuse i "--group is mutually exclusive with -c/-d/-D/-u"
  if s.counts && s.othersOfMany then
    misuse i "printing all duplicated lines and repeat counts is meaningless"
  let input := s.operands.headD dash
  replace i input .input Program.standardInput
  replace i ((s.operands[1]?).getD dash) .output Program.standardOutput
  let (t, failure) ← foldLines Program.standardInput s.lineEnd
    (fun t lines => do
      let (t, shown) := lines.foldl (fun (t, shown) line =>
        let (t, text) := step s t line
        (t, text.reverse ++ shown)) (t, [])
      print i shown.reverse
      pure t)
    (fun t line => do
      let (t, text) := step s t line
      print i text
      pure t) ({} : State)
  match failure with
  | some _ => fail i ("error reading " ++ Octets.shellQuoted input)
  | none =>
    print i (finish s t)
    pure 0

end Uniq

/-- Takes equal lines in a row together. -/
def uniq (i : Invocation) : Program Nat :=
  withSettings Uniq.grammar i i.operands {} Uniq.set fun s _ => Uniq.run i s

end LineShell.Tool
