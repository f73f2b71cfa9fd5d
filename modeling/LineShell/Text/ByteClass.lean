import LineShell.Text.Octets

/-!
# Classes of bytes

Patterns name sets of bytes in brackets: single bytes, ranges and classes.

## Main definitions

* `Octets.classTest?` — the bytes of a class.
* `ByteSet` — a set of bytes that is written in brackets.
-/

namespace LineShell

/-- The bytes of a class. There is no answer for a name that is none. -/
def Octets.classTest? (name : Octets) : Option (Char → Bool) :=
  match String.ofList name with
  | "alnum" => some Char.isAlphanum
  | "alpha" => some Char.isAlpha
  | "blank" => some fun c => c = ' ' || c = '\t'
  | "cntrl" => some isControl
  | "digit" => some Char.isDigit
  | "graph" => some fun c => isPrintable c && c ≠ ' '
  | "lower" => some Char.isLower
  | "print" => some isPrintable
  | "punct" => some isSign
  | "space" => some isSpacing
  | "upper" => some Char.isUpper
  | "xdigit" => some fun c => c.isDigit || ('a' ≤ c && c ≤ 'f') || ('A' ≤ c && c ≤ 'F')
  | _ => none

/-- What stands in brackets. -/
inductive ByteRange where
  /-- The bytes from one to another one. -/
  | between (first last : Char)
  /-- The bytes of a class. -/
  | class (name : Octets)
deriving DecidableEq, Repr

/-- Whether a byte belongs to what stands in brackets. -/
def ByteRange.contains (r : ByteRange) (c : Char) : Bool :=
  match r with
  | .between first last => first ≤ c && c ≤ last
  | .class name => ((Octets.classTest? name).getD fun _ => false) c

/-- A set of bytes that is written in brackets. -/
structure ByteSet where
  /-- What stands in the brackets. -/
  ranges : List ByteRange
  /-- Whether all other bytes are meant. -/
  inverted : Bool := false
  /-- Whether small and capital letters count as the same. -/
  folds : Bool := false
deriving DecidableEq, Repr

namespace ByteSet

/-- Whether a byte is named in the brackets. -/
def names (s : ByteSet) (c : Char) : Bool :=
  s.ranges.any fun r =>
    r.contains c || (s.folds && (r.contains c.toLower || r.contains c.toUpper))

/-- Whether a byte belongs to the set. -/
def contains (s : ByteSet) (c : Char) : Bool := s.names c != s.inverted

/-- The set of the other bytes. -/
def invert (s : ByteSet) : ByteSet := { s with inverted := !s.inverted }

/-- The set of one byte. -/
def single (c : Char) : ByteSet := { ranges := [.between c c] }

/-- The set of all bytes. -/
def all : ByteSet := { ranges := [], inverted := true }

/-- The set of all bytes but one. -/
def allBut (c : Char) : ByteSet := (single c).invert

end ByteSet

end LineShell
