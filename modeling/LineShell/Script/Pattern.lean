import LineShell.Text.ByteClass

/-!
# Patterns

A pattern describes strings: a star stands for any string, a question mark for any byte,
brackets for a byte of a set.  Bytes that are protected stand for themselves.

## Main definitions

* `PatternByte` — a byte of a written pattern.
* `Pattern`, `Pattern.ofBytes` — patterns and how they are written.
* `Pattern.accepts` — whether a string is described.
* `Pattern.trimStart`, `Pattern.trimEnd` — a string without what is described at one end.
* `Pattern.trimRowStart`, `Pattern.trimRowEnd` — the same for strings that stand in a row.
-/

namespace LineShell.Script

/-- A byte of a written pattern. -/
structure PatternByte where
  byte : Char
  /-- Whether it stands for itself. -/
  isQuoted : Bool
deriving DecidableEq, Repr

/-- A part of a pattern. -/
inductive PatternPart where
  | byte (c : Char)
  /-- Any byte. -/
  | any
  /-- Any string. -/
  | run
  /-- A byte of a set. -/
  | set (set : ByteSet)
deriving DecidableEq, Repr

/-- A pattern. -/
abbrev Pattern := List PatternPart

namespace Pattern

/-! ### Reading -/

/-- The name of a class up to its end, and what follows. -/
def className? (name : Octets) : List PatternByte → Option (Octets × List PatternByte)
  | [] => none
  | b :: rest =>
    if b.byte = ':' then
      match rest with
      | next :: rest => if next = ⟨']', false⟩ then some (name.reverse, rest) else none
      | [] => none
    else className? (b.byte :: name) rest

/-- The class at the beginning of something in brackets, and what follows. -/
def class? (bytes : List PatternByte) : Option (Octets × List PatternByte) :=
  match bytes with
  | ⟨'[', false⟩ :: ⟨':', false⟩ :: rest =>
    (className? [] rest).filter fun (name, _) => (Octets.classTest? name).isSome
  | _ => none

/-- What stands in brackets, and what follows them. There is no answer if they are not closed;
`isFirst` tells whether a closing bracket stands for itself. -/
def bracketFrom (isFirst : Bool) (ranges : List ByteRange) :
    Nat → List PatternByte → Option (List ByteRange × List PatternByte)
  | 0, _ => none
  | steps + 1, bytes =>
    match class? bytes with
    | some (name, rest) => bracketFrom false (ranges ++ [.class name]) steps rest
    | none =>
      match bytes with
      | [] => none
      | b :: rest =>
        if b = ⟨']', false⟩ && !isFirst then some (ranges, rest)
        else
          match rest with
          | ⟨'-', false⟩ :: last :: after =>
            if last = ⟨']', false⟩ then
              bracketFrom false (ranges ++ [.between b.byte b.byte]) steps rest
            else bracketFrom false (ranges ++ [.between b.byte last.byte]) steps after
          | _ => bracketFrom false (ranges ++ [.between b.byte b.byte]) steps rest

/-- The set in brackets after the opening one, and what follows them. -/
def bracket? (bytes : List PatternByte) : Option (ByteSet × List PatternByte) :=
  let inverted := bytes.head?.any fun b => !b.isQuoted && (b.byte = '!' || b.byte = '^')
  let body := if inverted then bytes.tail else bytes
  (bracketFrom true [] (body.length + 1) body).map fun (ranges, rest) =>
    ({ ranges, inverted }, rest)

/-- The pattern that is written in so many bytes at most. -/
def ofBytesFrom : Nat → List PatternByte → Pattern
  | 0, _ => []
  | _, [] => []
  | steps + 1, ⟨c, true⟩ :: rest => .byte c :: ofBytesFrom steps rest
  | steps + 1, ⟨'*', false⟩ :: rest => .run :: ofBytesFrom steps rest
  | steps + 1, ⟨'?', false⟩ :: rest => .any :: ofBytesFrom steps rest
  | steps + 1, ⟨'\\', false⟩ :: b :: rest => .byte b.byte :: ofBytesFrom steps rest
  | steps + 1, ⟨'[', false⟩ :: rest =>
    match bracket? rest with
    | some (set, rest) => .set set :: ofBytesFrom steps rest
    | none => .byte '[' :: ofBytesFrom steps rest
  | steps + 1, ⟨c, false⟩ :: rest => .byte c :: ofBytesFrom steps rest

/-- The pattern that is written in some bytes. -/
def ofBytes (bytes : List PatternByte) : Pattern := ofBytesFrom bytes.length bytes

/-- Whether a pattern describes more than one string. -/
def isOpen (p : Pattern) : Bool :=
  p.any fun part =>
    match part with
    | .byte _ => false
    | _ => true

/-- The string of a pattern that describes only one. -/
def text (p : Pattern) : Octets :=
  p.filterMap fun part =>
    match part with
    | .byte c => some c
    | _ => none

/-! ### Matching -/

/-- Whether a condition holds for some rest of a string. -/
def someRest (test : Octets → Bool) : Octets → Bool
  | [] => test []
  | c :: rest => test (c :: rest) || someRest test rest

/-- Whether a pattern describes a string. -/
def accepts : Pattern → Octets → Bool
  | [], text => text.isEmpty
  | .run :: p, text => someRest (accepts p) text
  | .byte b :: p, text =>
    match text with
    | [] => false
    | c :: rest => b == c && accepts p rest
  | .any :: p, text =>
    match text with
    | [] => false
    | _ :: rest => accepts p rest
  | .set set :: p, text =>
    match text with
    | [] => false
    | c :: rest => set.contains c && accepts p rest

/-! ### Trimming -/

/-- The lengths of the beginnings of a string, in the order in which they are tried. -/
def lengths (longest : Bool) (text : Octets) : List Nat :=
  let lengths := List.range (text.length + 1)
  if longest then lengths.reverse else lengths

/-- A string without the part at its beginning that a pattern describes. -/
def trimStart (p : Pattern) (longest : Bool) (text : Octets) : Octets :=
  match (lengths longest text).find? fun n => accepts p (text.take n) with
  | some n => text.drop n
  | none => text

/-- A string without the part at its end that a pattern describes. -/
def trimEnd (p : Pattern) (longest : Bool) (text : Octets) : Octets :=
  match (lengths (!longest) text).find? fun n => accepts p (text.drop n) with
  | some n => text.take n
  | none => text

/-! ### Trimming rows

Strings that are trimmed together stand in a row, with dividers between them and after them.
The pattern follows.  A pattern is compared with a string only up to a divider, and from left to
right only the first string of the row is looked at.

Some bytes in strings are marked by a byte before them.  If there are such bytes in the first
string, a copy without the marks is made of it, behind the pattern, and the pattern is compared with
this copy.  From right to left a step goes over a byte of the row together with its mark, but over
one byte of what is compared: so a mark in the row takes part, and when a copy is used up, what
stands before it. -/

/-- The byte between strings that are trimmed together. -/
def divider : Char := '\x00'

/-- The byte that marks the one after it. -/
def mark : Char := '\x81'

/-- A string up to the first divider. -/
def firstOf (text : Octets) : Octets := text.takeWhile (· ≠ divider)

/-- Strings in a row. -/
def rowOf (texts : List Octets) : Octets := Octets.join [divider] texts

/-- Whether a byte is marked: one that could be taken for a mark, and in quotes what may have a
meaning in patterns and the names of files. -/
def isMarked (isQuoted : Bool) (c : Char) : Bool :=
  (mark ≤ c && c ≤ '\x88') || (isQuoted && "!*?[=~:/-\\".toList.contains c)

/-- How a pattern is written behind a row. -/
def rowText (bytes : List PatternByte) : Octets :=
  bytes.flatMap fun b => if b.isQuoted && isMarked true b.byte then ['\\', b.byte] else [b.byte]

/-- Strings in a row, with the marks. -/
def markedRow (isQuoted : Bool) (texts : List Octets) : Octets :=
  (rowOf texts).flatMap fun c => if isMarked isQuoted c then [mark, c] else [c]

/-- Whether a pattern describes what comes before a place in the row, if a longest part is looked
for; `used` is the number of steps to it. From a copy that is used up the steps go on to the
pattern, which is cut off there. -/
def fitsBefore (bytes : List PatternByte) (isQuoted : Bool) (texts : List Octets) (used : Nat) :
    Bool :=
  let first := texts.headD []
  if !first.any (isMarked isQuoted) then
    let row := markedRow isQuoted texts
    accepts (ofBytes bytes) (firstOf (row.take (row.length - used)))
  else if used ≤ first.length then accepts (ofBytes bytes) (first.take (first.length - used))
  else
    let written := rowText bytes
    let left := written.take (first.length + 1 + written.length - used)
    used ≤ first.length + 1 + written.length &&
      accepts (ofBytes (left.map fun c => ⟨c, false⟩)) first

/-- Whether a pattern describes what comes after a place in the row, if a shortest part is looked
for; `used` is the number of steps to it. -/
def fitsAfter (bytes : List PatternByte) (isQuoted : Bool) (texts : List Octets) (used : Nat) :
    Bool :=
  let first := texts.headD []
  let copy := if first.any (isMarked isQuoted)
    then [divider] ++ rowText bytes ++ [divider] ++ first else []
  let all := markedRow isQuoted texts ++ copy
  accepts (ofBytes bytes) (firstOf (all.drop (all.length - used)))

/-- A row of strings without the part at its beginning that a pattern describes. -/
def trimRowStart (bytes : List PatternByte) (longest isQuoted : Bool) (texts : List Octets) :
    Octets :=
  let row := rowOf texts
  let fits (n : Nat) : Bool :=
    if longest then fitsBefore bytes isQuoted texts (row.length - n)
    else accepts (ofBytes bytes) (firstOf (row.take n))
  match (lengths longest row).find? fits with
  | some n => row.drop n
  | none => row

/-- A row of strings without the part at its end that a pattern describes. -/
def trimRowEnd (bytes : List PatternByte) (longest isQuoted : Bool) (texts : List Octets) :
    Octets :=
  let row := rowOf texts
  let first := texts.headD []
  let fits (n : Nat) : Bool :=
    if longest then n ≤ first.length && accepts (ofBytes bytes) (first.drop n)
    else fitsAfter bytes isQuoted texts (row.length - n)
  match (lengths (!longest) row).find? fits with
  | some n => row.take n
  | none => row

end Pattern

end LineShell.Script
