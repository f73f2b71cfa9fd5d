/-!
# Octets

Programs take files, arguments and the names of files for strings of bytes.  To be read
and written with ease, a byte stands here as the character of its number, so that such a
string is a list of characters below 256.

## Main definitions

* `Octets` — a string of bytes.
* `Octets.ofText` — the UTF-8 form of a text.
* `Octets.ofData`, `Octets.toData` — from and to an array of bytes.
* `Octets.splitOn`, `Octets.lines` — the pieces between separators, and the lines.
* `Octets.ofNat`, `Octets.toNat?` — numbers in decimal.
-/

namespace LineShell

-- Powers, sums and the comparison of byte arrays are those of the core library, also where
-- a library with instances of its own is imported besides: a definition reads the same there.
attribute [instance (1100)] instPowNat Zero.ofOfNat0 ByteArray.instDecidableEq
attribute [default_instance (20000)] instPowNat

/-- A string of bytes, each as the character of its number. -/
abbrev Octets := List Char

namespace Octets

/-! ### Bytes -/

/-- The string of an array of bytes. -/
def ofData (data : ByteArray) : Octets := data.data.toList.map Char.ofUInt8

/-- The array of the bytes of a string. -/
def toData (o : Octets) : ByteArray := ⟨(o.map Char.toUInt8).toArray⟩

/-- The UTF-8 form of a text. -/
def ofText (s : String) : Octets := ofData s.toUTF8

/-- Texts stand for their UTF-8 form. -/
instance : Coe String Octets := ⟨ofText⟩

/-- The text of which a string is the UTF-8 form. Where it is none, each byte becomes a
character. -/
def toText (o : Octets) : String := (String.fromUTF8? o.toData).getD (String.ofList o)

/-- The character that ends a line. -/
def lineFeed : Char := '\n'

/-! ### Pieces -/

/-- The pieces of the string that follows the unfinished piece `held`, which is given
last character first; the finished ones are in `done`, the last one first. -/
def splitFrom (separator : Char) (done : List Octets) (held : Octets) : Octets → List Octets
  | [] => (held.reverse :: done).reverse
  | c :: rest =>
    if c = separator then splitFrom separator (held.reverse :: done) [] rest
    else splitFrom separator done (c :: held) rest

/-- The pieces of a string between separators. There is always one more piece than there
are separators. -/
def splitOn (separator : Char) (o : Octets) : List Octets := splitFrom separator [] [] o

/-- The lines of a string without their ends, which may be marked by another character
than the line feed. The last one need not be ended. -/
def lines (o : Octets) (separator : Char := lineFeed) : List Octets :=
  let pieces := splitOn separator o
  if pieces.getLast? = some [] then pieces.dropLast else pieces

/-- Puts a string between others. -/
def join (between : Octets) (pieces : List Octets) : Octets :=
  (pieces.intersperse between).flatten

/-! ### Numbers -/

/-- A number in decimal. -/
def ofNat (n : Nat) : Octets := Nat.toDigits 10 n

/-- A number in decimal, with a sign if it is negative. -/
def ofInt : Int → Octets
  | .ofNat n => ofNat n
  | .negSucc n => '-' :: ofNat (n + 1)

/-- The number that a row of decimal digits stands for. -/
def digitsValue (digits : Octets) : Nat :=
  digits.foldl (fun n c => n * 10 + (c.toNat - '0'.toNat)) 0

/-- The number that a string is, which must consist of digits. -/
def toNat? (o : Octets) : Option Nat :=
  if o.isEmpty || !o.all Char.isDigit then none else some (digitsValue o)

/-- Spaces in front of a string up to a width. -/
def padLeft (width : Nat) (o : Octets) (fill : Char := ' ') : Octets :=
  List.replicate (width - o.length) fill ++ o

/-- Spaces after a string up to a width. -/
def padRight (width : Nat) (o : Octets) : Octets :=
  o ++ List.replicate (width - o.length) ' '

/-! ### Classes of bytes -/

/-- Whether a byte separates words: a blank, or one of the controls that move the place
where is written. -/
def isSpacing (c : Char) : Bool := c = ' ' || ('\t' ≤ c && c ≤ '\r')

/-- Whether a byte has a shape of its own or is a space. -/
def isPrintable (c : Char) : Bool := ' ' ≤ c && c ≤ '~'

/-- Whether a byte is a control. -/
def isControl (c : Char) : Bool := c < ' ' || c = '\x7f'

/-- Whether a byte is a sign that is neither letter nor digit. -/
def isSign (c : Char) : Bool := '!' ≤ c && c ≤ '~' && !c.isAlphanum

end Octets

end LineShell
