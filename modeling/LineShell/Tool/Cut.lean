import LineShell.Tool.Number
import LineShell.Tool.Options

/-!
# cut

Writes chosen bytes or fields of lines.

## Main definitions

* `Tool.Cut.Ranges` — the positions that are chosen.
* `Tool.Cut.readList` — reads a list of positions.
* `Tool.cut` — the tool.
-/

namespace LineShell.Tool

namespace Cut

/-! ### Positions -/

/-- Positions from a first to a last one, counted from 1; there is no last one up to the end of
the line. -/
abbrev Ranges := List (Nat × Option Nat)

/-- Whether a position lies in one of the ranges. -/
def Ranges.contains (r : Ranges) (position : Nat) : Bool :=
  r.any fun (first, last) => first ≤ position && last.all (position ≤ ·)

/-- Whether a range begins at a position. -/
def Ranges.startsAt (r : Ranges) (position : Nat) : Bool := r.any (·.1 == position)

/-- Puts ranges in order and joins those that overlap. -/
def Ranges.joined (r : Ranges) : Ranges :=
  let sorted := r.mergeSort fun a b => a.1 ≤ b.1
  (sorted.foldl (fun done (first, last) =>
    match done with
    | (first', last') :: rest =>
      if last'.all (first ≤ ·) then
        let last := match last, last' with
          | some a, some b => some (max a b)
          | _, _ => none
        (first', last) :: rest
      else (first, last) :: done
    | [] => [(first, last)]) ([] : Ranges)).reverse

/-- How far reading a list has come. -/
structure ListState where
  ranges : Ranges := []
  /-- The number that is being read. -/
  value : Nat := 0
  /-- The digits of that number. -/
  digits : Octets := []
  /-- The start of the range, if its hyphen was read. -/
  start : Option Nat := none
  /-- Whether there are digits before the hyphen. -/
  hasLeft : Bool := false
  /-- Whether there are digits after the hyphen. -/
  hasRight : Bool := false

/-- Refuses a list. -/
def refuse {α : Type} (text : Octets) : Except Refusal α := .error { text, advised := true }

/-- What is said about the position 0. -/
def fromOne (fields : Bool) : Octets :=
  if fields then "fields are numbered from 1" else "byte/character positions are numbered from 1"

/-- Ends one entry of a list. -/
def endEntry (fields : Bool) (s : ListState) : Except Refusal ListState :=
  match s.start with
  | some first =>
    if !s.hasLeft && !s.hasRight then refuse "invalid range with no endpoint: -"
    else if !s.hasRight then .ok { ranges := s.ranges ++ [(first, none)] }
    else if s.value < first then refuse "invalid decreasing range"
    else .ok { ranges := s.ranges ++ [(first, some s.value)] }
  | none =>
    if s.value = 0 then refuse (fromOne fields)
    else .ok { ranges := s.ranges ++ [(s.value, some s.value)] }

/-- Reads a list of positions after the part that was read. -/
def readFrom (fields : Bool) (s : ListState) : Octets → Except Refusal ListState
  | [] => endEntry fields s
  | c :: rest =>
    if c = '-' then
      if s.start.isSome then
        refuse (if fields then "invalid field range" else "invalid byte or character range")
      else if s.hasLeft && s.value = 0 then refuse (fromOne fields)
      else readFrom fields
        { s with start := some (if s.hasLeft then s.value else 1), value := 0, digits := [] } rest
    else if c = ',' || c = ' ' || c = '\t' then
      match endEntry fields s with
      | .error refusal => .error refusal
      | .ok s => readFrom fields s rest
    else if c.isDigit then
      let digits := s.digits ++ [c]
      let value := s.value * 10 + (c.toNat - '0'.toNat)
      if value ≥ largestCount then
        let number := Octets.quoted (digits ++ rest.takeWhile Char.isDigit)
        refuse ((if fields then Octets.ofText "field number " else "byte/character offset ") ++
          number ++ " is too large")
      else readFrom fields
        { s with
          value
          digits
          hasLeft := s.hasLeft || s.start.isNone
          hasRight := s.hasRight || s.start.isSome } rest
    else
      refuse ((if fields then Octets.ofText "invalid field value "
        else "invalid byte/character position ") ++ Octets.quoted (c :: rest))

/-- Reads a list of positions. -/
def readList (fields : Bool) (text : Octets) : Except Refusal Ranges :=
  (readFrom fields {} text).map (·.ranges.joined)

/-! ### Lines -/

/-- What the options say. -/
structure Settings where
  /-- The positions, if there are any, and whether they are those of fields. -/
  list : Option (Bool × Octets) := none
  delimiter : Option Char := none
  /-- Lines without a delimiter are left out. -/
  onlyDelimited : Bool := false
  complements : Bool := false
  output : Option Octets := none
  lineEnd : Char := '\n'
deriving DecidableEq, Repr

/-- The chosen bytes of a line from a position on. A range that follows another one comes
after the output delimiter. -/
def cutBytes (s : Settings) (r : Ranges) (position : Nat) (started : Bool) (shown : Octets) :
    Octets → Octets
  | [] => shown.reverse
  | c :: rest =>
    if r.contains position != s.complements then
      let starts := if s.complements then position > 1 && r.contains (position - 1)
        else r.startsAt position
      let between := if started && starts then (s.output.getD []).reverse else []
      cutBytes s r (position + 1) true (c :: between ++ shown) rest
    else cutBytes s r (position + 1) started shown rest

/-- The chosen fields of a line; there are none for a line that is left out. -/
def cutFields (s : Settings) (r : Ranges) (line : Octets) : Option Octets :=
  let delimiter := s.delimiter.getD '\t'
  if !line.contains delimiter then if s.onlyDelimited then none else some line
  else
    let fields := (Octets.splitOn delimiter line).zipIdx 1
    let chosen := (fields.filter fun (_, position) => r.contains position != s.complements).map
      (·.1)
    some (Octets.join (s.output.getD [delimiter]) chosen)

/-- What is written for a line. -/
def cutLine (s : Settings) (fields : Bool) (r : Ranges) (line : Octets) : Octets :=
  if fields then
    match cutFields s r line with
    | none => []
    | some text => text ++ [s.lineEnd]
  else cutBytes s r 1 false [] line ++ [s.lineEnd]

/-! ### The tool -/

/-- Takes an option into account. -/
def set (s : Settings) (key : Char) (value : Option Octets) : Except Refusal Settings :=
  let text := value.getD []
  let setList (fields : Bool) : Except Refusal Settings :=
    if s.list.isSome then refuse "only one list may be specified"
    else .ok { s with list := some (fields, text) }
  match key with
  | 'b' | 'c' => setList false
  | 'f' => setList true
  | 'd' =>
    match text with
    | [] => .ok { s with delimiter := some '\x00' }
    | [c] => .ok { s with delimiter := some c }
    | _ => refuse "the delimiter must be a single character"
  | 's' => .ok { s with onlyDelimited := true }
  | 'z' => .ok { s with lineEnd := '\x00' }
  | 'O' => .ok { s with output := some (if text.isEmpty then ['\x00'] else text) }
  | 'C' => .ok { s with complements := true }
  | _ => .ok s

/-- The options. -/
def grammar : Grammar where
  letters := "b:c:d:f:nsz"
  long := [⟨"bytes", .required, 'b'⟩, ⟨"characters", .required, 'c'⟩, ⟨"fields", .required, 'f'⟩,
    ⟨"delimiter", .required, 'd'⟩, ⟨"only-delimited", .none, 's'⟩,
    ⟨"output-delimiter", .required, 'O'⟩, ⟨"complement", .none, 'C'⟩,
    ⟨"zero-terminated", .none, 'z'⟩]

/-- Cuts the lines of an operand. -/
def cutOperand (i : Invocation) (s : Settings) (fields : Bool) (r : Ranges) (name : Octets) :
    Program Bool := do
  match ← openOperand name with
  | .error e =>
    complain i (Octets.fileName name ++ ": " ++ e.text)
    pure false
  | .ok descriptor =>
    let ((), failure) ← foldLines descriptor s.lineEnd
      (fun () lines => print i (lines.flatMap (cutLine s fields r)))
      (fun () line => print i (cutLine s fields r line)) ()
    closeOperand name descriptor
    match failure with
    | none => pure true
    | some e =>
      complain i (Octets.fileName name ++ ": " ++ e.text)
      pure false

end Cut

/-- Writes chosen parts of lines. -/
def cut (i : Invocation) : Program Nat :=
  withSettings Cut.grammar i i.operands {} Cut.set fun s operands => do
    match s.list with
    | none => misuse i "you must specify a list of bytes, characters, or fields"
    | some (fields, text) =>
      if !fields && s.delimiter.isSome then
        misuse i "an input delimiter may be specified only when operating on fields"
      if !fields && s.onlyDelimited then
        misuse i
          "suppressing non-delimited lines makes sense\n\tonly when operating on fields"
      match Cut.readList fields text with
      | .error refusal => refusal.raise i
      | .ok r =>
        let names := orStandard operands
        forAll (Cut.cutOperand i s fields r) names >>= closeInput i names dash

end LineShell.Tool
