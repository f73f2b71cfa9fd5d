import LineShell.Numeral.Extended

/-!
# Formats of numbers

A number is written in one of several forms, padded to a width, with a precision and with
flags that are named for the signs by which they are asked for.

## Main definitions

* `Format` — flags, width and precision.
* `Format.integer` — writes a whole number in some base.
* `Format.real` — writes an extended number as a fraction, with a power, or the shorter one.
-/

namespace LineShell

/-- How something is written. -/
structure Format where
  /-- It is padded on the right. -/
  left : Bool := false
  /-- Numbers that are not negative have a plus sign. -/
  plus : Bool := false
  /-- Numbers that are not negative have a space in place of a sign. -/
  space : Bool := false
  /-- The form that shows more. -/
  alternate : Bool := false
  /-- It is padded with zeros. -/
  zeros : Bool := false
  /-- The least width. -/
  width : Nat := 0
  /-- The precision. -/
  precision : Option Nat := none
deriving DecidableEq, Repr

namespace Format

/-- Pads a text to the width. -/
def pad (f : Format) (text : Octets) : Octets :=
  if f.left then Octets.padRight f.width text else Octets.padLeft f.width text

/-- Puts a sign or another lead before digits and pads both to the width. -/
def padNumber (f : Format) (zeros : Bool) (lead digits : Octets) : Octets :=
  if zeros && !f.left then lead ++ Octets.padLeft (f.width - lead.length) digits '0'
  else f.pad (lead ++ digits)

/-- The sign of a number. -/
def sign (f : Format) (isNegative : Bool) : Octets :=
  if isNegative then ['-'] else if f.plus then ['+'] else if f.space then [' '] else []

/-! ### Whole numbers -/

/-- The digits of a natural number, with zeros in front up to the precision. -/
def digits (f : Format) (base : Nat) (upper : Bool) (n : Nat) : Octets :=
  let shown := if n = 0 then [] else Nat.toDigits base n
  let shown := if upper then shown.map Char.toUpper else shown
  Octets.padLeft (f.precision.getD 1) shown '0'

/-- Writes a whole number in decimal. -/
def integer (f : Format) (n : Int) : Octets :=
  f.padNumber (f.zeros && f.precision.isNone) (f.sign (n < 0)) (f.digits 10 false n.natAbs)

/-- Writes a natural number in a base: 8, 10 or 16. -/
def natural (f : Format) (base : Nat) (upper : Bool) (n : Nat) : Octets :=
  let shown := f.digits base upper n
  let shown :=
    if f.alternate && base = 8 && shown.head? ≠ some '0' then '0' :: shown else shown
  let lead : Octets :=
    if f.alternate && base = 16 && n ≠ 0 then (if upper then ['0', 'X'] else ['0', 'x']) else []
  f.padNumber (f.zeros && f.precision.isNone) lead shown

/-! ### Fractions -/

/-- Puts a point before the last digits of a number. -/
def withPoint (f : Format) (places : Nat) (n : Nat) : Octets :=
  let shown := Octets.padLeft (places + 1) (Octets.ofNat n) '0'
  let whole := shown.take (shown.length - places)
  if places = 0 then if f.alternate then whole ++ ['.'] else whole
  else whole ++ '.' :: shown.drop (shown.length - places)

/-- A quotient with a number of decimal places. -/
def fixed (f : Format) (places n d : Nat) : Octets :=
  f.withPoint places (Extended.halfEven (n * 10 ^ places) d)

/-- A quotient times a power of ten, rounded. -/
def scaleTen (n d : Nat) (power : Int) : Nat :=
  if power ≥ 0 then Extended.halfEven (n * 10 ^ power.toNat) d
  else Extended.halfEven n (d * 10 ^ (-power).toNat)

/-- Whether a quotient reaches a power of ten. -/
def reaches (n d : Nat) (power : Int) : Bool :=
  if power ≥ 0 then n ≥ d * 10 ^ power.toNat else n * 10 ^ (-power).toNat ≥ d

/-- The largest power of ten that a quotient reaches, sought downward. -/
def powerBelow (n d : Nat) : Nat → Int → Int
  | 0, power => power
  | steps + 1, power => if reaches n d power then power else powerBelow n d steps (power - 1)

/-- The power of ten of the first digit of a quotient. -/
def powerOf (n d : Nat) : Int :=
  let guess : Int := ((n.log2 : Int) - d.log2 + 1) * 30103 / 100000 + 1
  powerBelow n d 8 guess

/-- The digits of a quotient, as a number with `places + 1` of them, and the power of ten of
the first one. -/
def significant (places n d : Nat) : Nat × Int :=
  if n = 0 then (0, 0)
  else
    let power := powerOf n d
    let value := scaleTen n d (places - power)
    if value ≥ 10 ^ (places + 1) then (scaleTen n d (places - (power + 1)), power + 1)
    else (value, power)

/-- A power with a sign and at least `width` digits. -/
def powerText (width : Nat) (power : Int) : Octets :=
  (if power < 0 then '-' else '+') :: Octets.padLeft width (Octets.ofNat power.natAbs) '0'

/-- A quotient with one digit before the point and a power of ten. -/
def scientific (f : Format) (places n d : Nat) : Octets :=
  let (value, power) := significant places n d
  f.withPoint places value ++ 'e' :: powerText 2 power

/-- A number without the zeros at the end of its decimal places. -/
def trim (shown : Octets) : Octets :=
  if !shown.contains '.' then shown
  else
    let kept := shown.reverse.dropWhile (· = '0')
    (if kept.head? = some '.' then kept.tail else kept).reverse

/-- The shorter form of a quotient with a number of digits. -/
def general (f : Format) (count n d : Nat) : Octets :=
  let count := max count 1
  let (value, power) := significant (count - 1) n d
  let finish (shown : Octets) : Octets := if f.alternate then shown else trim shown
  if power < -4 || power ≥ count then
    finish (f.withPoint (count - 1) value) ++ 'e' :: powerText 2 power
  else finish (f.fixed (count - 1 - power).toNat n d)

/-- A mantissa of 64 bits in base 16 with a power of two, without the prefix for the base. -/
def hexadecimal (f : Format) (mantissa : Nat) (exponent : Int) : Octets :=
  let shift := if mantissa = 0 then 0 else 63 - mantissa.log2
  let mantissa := mantissa * 2 ^ shift
  let power := if mantissa = 0 then 0 else exponent - shift + 60
  let (mantissa, power, places) :=
    match f.precision with
    | some places =>
      if places < 15 then
        let rounded := Extended.halfEven mantissa (16 ^ (15 - places))
        if rounded ≥ 16 ^ (places + 1) then (rounded / 16, power + 4, places)
        else (rounded, power, places)
      else (mantissa * 16 ^ (places - 15), power, places)
    | none => (mantissa, power, 15)
  let shown := Octets.padLeft (places + 1) (Nat.toDigits 16 mantissa) '0'
  let after := shown.drop 1
  let after := if f.precision.isNone then (after.reverse.dropWhile (· = '0')).reverse else after
  shown.take 1 ++ (if after.isEmpty && !f.alternate then [] else ['.']) ++ after ++
    'p' :: powerText 1 power

/-- The default number of decimal places. -/
def defaultPlaces : Nat := 6

/-- Writes an extended number. The form is named by a letter: `f` for a fraction, `e` for a
power of ten, `g` for the shorter of them, `a` for base 16; a capital makes all letters
capitals. -/
def real (f : Format) (form : Char) (x : Extended) : Octets :=
  let places := f.precision.getD defaultPlaces
  let upper (text : Octets) : Octets := if form.isUpper then text.map Char.toUpper else text
  match x with
  | .infinity s => { f with zeros := false }.padNumber false (f.sign s) (upper "inf")
  | .undefined s => { f with zeros := false }.padNumber false (f.sign s) (upper "nan")
  | .number s mantissa exponent =>
    let (n, d) := Extended.ratioOf mantissa exponent
    match form.toLower with
    | 'e' => f.padNumber f.zeros (f.sign s) (upper (f.scientific places n d))
    | 'g' => f.padNumber f.zeros (f.sign s) (upper (f.general places n d))
    | 'a' => f.padNumber f.zeros (f.sign s ++ upper "0x") (upper (f.hexadecimal mantissa exponent))
    | _ => f.padNumber f.zeros (f.sign s) (f.fixed places n d)

end Format

end LineShell
