import LineShell.Text.Quoted
import LineShell.Machine.Call

/-!
# Numbers in arguments

A count is a decimal number, which may be followed by a letter for a unit.  A number
beyond the range of the machine's words is refused in other terms than something that is no
number.

## Main definitions

* `NumberFault` — why something is no count.
* `readCount` — reads a count.
* `NumberFault.describe` — the complaint about it.
-/

namespace LineShell

/-- The largest count. -/
def largestCount : Nat := 2 ^ 64 - 1

/-- Why something is no count. -/
inductive NumberFault where
  /-- It is no number, or one with something after it. -/
  | malformed
  /-- It is out of range. -/
  | overflow
deriving DecidableEq, Repr

/-- The factor of a unit: a letter stands for a power of the base. -/
def unitFactor? (base : Nat) (c : Char) : Option Nat :=
  match c with
  | 'b' => some 512
  | 'c' => some 1
  | 'w' => some 2
  | 'B' => some 1024
  | 'k' | 'K' => some base
  | 'M' | 'm' => some (base ^ 2)
  | 'G' => some (base ^ 3)
  | 'T' | 't' => some (base ^ 4)
  | 'P' => some (base ^ 5)
  | 'E' => some (base ^ 6)
  | 'Z' => some (base ^ 7)
  | 'Y' => some (base ^ 8)
  | _ => none

/-- The factor of the unit after a number, out of the given letters, and what follows it. A
letter may be followed by `iB`, or by `B` for a base of ten. A unit `0` in the list stands
for leave to do so. -/
def readUnit (units : List Char) (text : Octets) : Option (Nat × Octets) :=
  match text with
  | [] => some (1, [])
  | c :: rest =>
    if !units.contains c || c = '0' then none
    else if units.contains '0' then
      match rest with
      | 'i' :: 'B' :: rest => (unitFactor? 1024 c).map (·, rest)
      | 'B' :: rest => (unitFactor? 1000 c).map (·, rest)
      | _ => (unitFactor? 1024 c).map (·, rest)
    else (unitFactor? 1024 c).map (·, rest)

/-- Reads a count with one of the given units. Blanks and a plus sign may precede it, and the
number 1 may be left out before a unit. -/
def readCount (units : List Char) (text : Octets) : Except NumberFault Nat :=
  let text := text.dropWhile Octets.isSpacing
  let text := if text.head? = some '+' then text.tail else text
  let digits := text.takeWhile Char.isDigit
  let rest := text.drop digits.length
  if digits.isEmpty && (rest.isEmpty || !units.contains (rest.headD '0')) then .error .malformed
  else
    let value := if digits.isEmpty then 1 else Octets.digitsValue digits
    match readUnit units rest with
    | none => .error .malformed
    | some (_, _ :: _) => .error .malformed
    | some (factor, []) =>
      if value > largestCount || value * factor > largestCount then .error .overflow
      else .ok (value * factor)

/-- The complaint about something that is no count: what it should have been, and the
thing itself. -/
def NumberFault.describe (what text : Octets) (f : NumberFault) : Octets :=
  what ++ ": " ++ Octets.quoted text ++
    match f with
    | .malformed => ""
    | .overflow => ": Value too large for defined data type"

/-- Reads a whole number that may have a sign, and blanks before it. -/
def readInteger (text : Octets) : Except NumberFault Int :=
  let text := text.dropWhile Octets.isSpacing
  let negative := text.head? = some '-'
  let digits := if negative || text.head? = some '+' then text.tail else text
  if digits.isEmpty || !digits.all Char.isDigit then .error .malformed
  else
    let n : Int := Octets.digitsValue digits
    let n := if negative then -n else n
    if n < -2 ^ 63 || n ≥ 2 ^ 63 then .error .overflow else .ok n

/-- A whole number within limits, or the complaint about a text that is none. -/
def integerWithin (low high : Int) (what text : Octets) : Except Octets Int :=
  match readInteger text with
  | .error fault => .error (fault.describe what text)
  | .ok n =>
    if low ≤ n && n ≤ high then .ok n
    else if n ≥ 2 ^ 30 || n < -2 ^ 30 then .error (NumberFault.overflow.describe what text)
    else .error (what ++ ": " ++ Octets.quoted text ++ ": " ++ Errno.ERANGE.message)

end LineShell
