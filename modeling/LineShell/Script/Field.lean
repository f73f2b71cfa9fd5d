import LineShell.Script.Pattern
import LineShell.Text.Octets

/-!
# Fields

What is put into a word is cut into fields at separators, while the bytes that stand in the
word itself are not.  So the bytes of a word are kept in cells that know where they are
from.

## Main definitions

* `Cell` — a byte of an expanded word, or a place in it.
* `fieldsOf` — the fields of an expanded word.
* `Cell.text`, `Cell.pattern` — its string, and the pattern that it is.
-/

namespace LineShell.Script

/-- A byte of an expanded word, or a place in it. -/
inductive Cell where
  /-- A byte of the word itself. -/
  | plain (c : Char)
  /-- A byte that is protected. -/
  | quoted (c : Char)
  /-- A byte that was put in. -/
  | result (c : Char)
  /-- A place where there are quotes. -/
  | mark
  /-- A place where a field ends. -/
  | gap
deriving DecidableEq, Repr

/-! ### Strings and patterns -/

/-- The byte in a cell. -/
def Cell.byte? : Cell → Option Char
  | .plain c | .quoted c | .result c => some c
  | .mark | .gap => none

/-- The string of cells. -/
def Cell.text (cells : List Cell) : Octets := cells.filterMap Cell.byte?

/-- The bytes of a pattern in a cell. -/
def Cell.patternByte? : Cell → Option PatternByte
  | .plain c | .result c => some ⟨c, false⟩
  | .quoted c => some ⟨c, true⟩
  | .mark | .gap => none

/-- The bytes of the pattern in cells. -/
def Cell.patternBytes (cells : List Cell) : List PatternByte :=
  cells.filterMap Cell.patternByte?

/-- The pattern in cells. -/
def Cell.pattern (cells : List Cell) : Pattern := Pattern.ofBytes (Cell.patternBytes cells)

/-! ### Cutting -/

/-- What was cut so far. -/
structure Cutting where
  /-- The fields, the last one first. -/
  fields : List (List Cell) := []
  /-- The cells of the field that is not complete, the last one first. -/
  current : List Cell := []
  /-- Whether there were blanks since the last field ended. -/
  afterBlank : Bool := false
deriving DecidableEq, Repr

namespace Cutting

/-- Ends a field. -/
def close (afterBlank : Bool) (k : Cutting) : Cutting :=
  { fields := k.current.reverse :: k.fields, afterBlank }

/-- Adds a cell to the field. -/
def add (cell : Cell) (k : Cutting) : Cutting :=
  { k with current := cell :: k.current, afterBlank := false }

/-- Whether a separator is a blank. -/
def isBlank (c : Char) : Bool := c = ' ' || c = '\t' || c = '\n'

/-- Takes a byte that was put in, if it is a separator. Several blanks count as one separator, also
together with another one. -/
def separate (c : Char) (k : Cutting) : Cutting :=
  if isBlank c then if k.current.isEmpty then k else k.close true
  else if k.afterBlank && k.current.isEmpty then { k with afterBlank := false }
  else k.close false

/-- Takes one more cell. -/
def step (separators : Octets) (k : Cutting) (cell : Cell) : Cutting :=
  match cell with
  | .result c => if separators.contains c then k.separate c else k.add cell
  | .gap => if k.current.isEmpty then k else k.close false
  | cell => k.add cell

/-- The fields at the end. -/
def finish (k : Cutting) : List (List Cell) :=
  (if k.current.isEmpty then k.fields else k.current.reverse :: k.fields).reverse

end Cutting

/-- The fields of an expanded word. -/
def fieldsOf (separators : Octets) (cells : List Cell) : List (List Cell) :=
  (cells.foldl (Cutting.step separators) {}).finish

/-! ### Cutting a line into a number of fields -/

/-- The string of a line in at most `count` fields: the last one holds all that is left, but for
blanks at its end. -/
def linesFields (separators : Octets) : Nat → List Cell → List Octets
  | 0, _ => []
  | count + 1, cells =>
    let isSeparator (cell : Cell) : Bool :=
      match cell with
      | .result c => separators.contains c
      | _ => false
    let isBlankCell (cell : Cell) : Bool :=
      isSeparator cell && cell.byte?.any Cutting.isBlank
    let cells := cells.dropWhile isBlankCell
    let field := cells.takeWhile (!isSeparator ·)
    let rest := cells.drop field.length
    let after := rest.dropWhile isBlankCell
    let after :=
      if after.head?.any isSeparator then (after.tail).dropWhile isBlankCell else after
    if cells.isEmpty then []
    else if count > 0 then Cell.text field :: linesFields separators count after
    else if after.isEmpty then [Cell.text field]
    else [Cell.text (cells.reverse.dropWhile isBlankCell).reverse]

end LineShell.Script
