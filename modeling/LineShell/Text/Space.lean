/-!
# White space

Two classes of white space meet in this shell, and they are not the same class.
Words are separated by *blanks*, of which there are four.  A line that asks the
shell to leave may be surrounded by any *space* in the sense of Unicode.

## Main definitions

* `isBlank c` — `c` separates words.
* `isSpace c` — `c` has the Unicode property `White_Space`.
* `trimSpace cs` — `cs` without the spaces at its two ends.

## Main results

* `isSpace_of_isBlank` — a blank is a space.
-/

namespace LineShell

/-- The characters that separate words: space, tab, carriage return, line feed. -/
def isBlank (c : Char) : Bool :=
  c == ' ' || c == '\t' || c == '\r' || c == '\n'

/-- The characters with the Unicode property `White_Space`. -/
def isSpace (c : Char) : Bool :=
  let n := c.toNat
  (0x09 ≤ n && n ≤ 0x0D) || n == 0x20 || n == 0x85 || n == 0xA0 || n == 0x1680 ||
    (0x2000 ≤ n && n ≤ 0x200A) || n == 0x2028 || n == 0x2029 || n == 0x202F ||
    n == 0x205F || n == 0x3000

/-- The text between the spaces at the two ends. -/
def trimSpace (cs : List Char) : List Char :=
  ((cs.dropWhile isSpace).reverse.dropWhile isSpace).reverse

/-- A blank is a space. -/
theorem isSpace_of_isBlank {c : Char} (h : isBlank c = true) : isSpace c = true := by
  simp only [isBlank, Bool.or_eq_true, beq_iff_eq] at h
  rcases h with ((rfl | rfl) | rfl) | rfl <;> decide

/-- A no-break space is a space and no blank. -/
theorem isSpace_nbsp : isSpace '\u00a0' = true ∧ isBlank '\u00a0' = false := by decide

end LineShell
