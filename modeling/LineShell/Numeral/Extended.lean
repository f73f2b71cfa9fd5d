import LineShell.Text.Octets

/-!
# Extended numbers

Tools that calculate with fractions keep 64 significant bits of a number.  Every operation
has the exact result, rounded to the nearest number that can be kept, and to the even one
of two that are equally near.

## Main definitions

* `Extended` — numbers with 64 significant bits, infinities and what is no number.
* `Extended.ofRatio` — the number nearest to a quotient.
* `Extended.add`, `Extended.mul`, `Extended.compare` — calculation.
* `Extended.scan` — the number at the beginning of a string.
-/

namespace LineShell

/-- A number with 64 significant bits. -/
inductive Extended where
  /-- The mantissa times two to the power of the exponent. -/
  | number (isNegative : Bool) (mantissa : Nat) (exponent : Int)
  /-- A number that is too large. -/
  | infinity (isNegative : Bool)
  /-- No number. -/
  | undefined (isNegative : Bool)
deriving DecidableEq, Repr

namespace Extended

/-! ### Rounding -/

/-- A quotient of natural numbers, rounded to the nearest one, and to the even one of two. -/
def halfEven (n d : Nat) : Nat :=
  let q := n / d
  let r := n % d
  if 2 * r > d || (2 * r == d && q % 2 == 1) then q + 1 else q

/-- The number of significant bits. -/
def precision : Nat := 64

/-- The least exponent. -/
def leastExponent : Int := -16445

/-- The largest exponent of a number with all its bits. -/
def largestExponent : Int := 16320

/-- A quotient times two to the power of an exponent, rounded to a natural number. -/
def scaled (n d : Nat) (exponent : Int) : Nat :=
  if exponent ≥ 0 then halfEven (n * 2 ^ exponent.toNat) d
  else halfEven n (d * 2 ^ (-exponent).toNat)

/-- The number nearest to a quotient of natural numbers. -/
def ofRatio (isNegative : Bool) (n d : Nat) : Extended :=
  if n = 0 || d = 0 then .number isNegative 0 0
  else
    -- The quotient lies between two to the power of `size - 1` and of `size + 1`.
    let size : Int := n.log2 - d.log2
    let low : Int := size - precision
    let exponent := if scaled n d (-low) ≥ 2 ^ precision then low + 1 else low
    let exponent := max exponent leastExponent
    let mantissa := scaled n d (-exponent)
    let (mantissa, exponent) :=
      if mantissa ≥ 2 ^ precision then (mantissa / 2, exponent + 1) else (mantissa, exponent)
    if exponent > largestExponent then .infinity isNegative
    else .number isNegative mantissa exponent

/-- The value of a mantissa and an exponent as a quotient. -/
def ratioOf (mantissa : Nat) (exponent : Int) : Nat × Nat :=
  if exponent ≥ 0 then (mantissa * 2 ^ exponent.toNat, 1) else (mantissa, 2 ^ (-exponent).toNat)

/-- A whole number. -/
def ofInt (n : Int) : Extended := ofRatio (n < 0) n.natAbs 1

/-! ### Signs and order -/

/-- Whether the sign is a minus. -/
def isNegative : Extended → Bool
  | .number s _ _ | .infinity s | .undefined s => s

/-- Whether it is no number. -/
def isUndefined : Extended → Bool
  | .undefined _ => true
  | _ => false

/-- Whether it is zero, of either sign. -/
def isZero : Extended → Bool
  | .number _ m _ => m == 0
  | _ => false

/-- A number as a whole multiple of two to the power of an exponent that is not above its
own. -/
def multipleOf (least : Int) (isNegative : Bool) (mantissa : Nat) (exponent : Int) : Int :=
  let n : Int := (mantissa * 2 ^ (exponent - least).toNat : Nat)
  if isNegative then -n else n

/-- The order of two numbers; there is none with what is no number. -/
def compare : Extended → Extended → Option Ordering
  | .undefined _, _ => none
  | _, .undefined _ => none
  | .infinity a, .infinity b => some (if a = b then .eq else if a then .lt else .gt)
  | .infinity a, _ => some (if a then .lt else .gt)
  | _, .infinity b => some (if b then .gt else .lt)
  | .number a m e, .number b n f =>
    let least := min e f
    some (Ord.compare (multipleOf least a m e) (multipleOf least b n f))

/-- Whether one number is less than another. -/
def isLess (a b : Extended) : Bool := a.compare b = some .lt

/-! ### Calculation -/

/-- The number nearest to a whole multiple of two to the power of an exponent. A zero has the
given sign. -/
def ofMultiple (zeroSign : Bool) (n : Int) (exponent : Int) : Extended :=
  if n = 0 then .number zeroSign 0 0
  else
    let (num, den) := ratioOf n.natAbs exponent
    ofRatio (n < 0) num den

/-- The sum of two numbers. -/
def add : Extended → Extended → Extended
  | .undefined s, _ => .undefined s
  | _, .undefined s => .undefined s
  | .infinity a, .infinity b => if a = b then .infinity a else .undefined true
  | .infinity a, _ => .infinity a
  | _, .infinity b => .infinity b
  | .number a m e, .number b n f =>
    let least := min e f
    ofMultiple (a && b) (multipleOf least a m e + multipleOf least b n f) least

/-- The product of two numbers. -/
def mul : Extended → Extended → Extended
  | .undefined s, _ => .undefined s
  | _, .undefined s => .undefined s
  | .number a m e, .number b n f =>
    if m * n = 0 then .number (a != b) 0 0
    else
      let (num, den) := ratioOf (m * n) (e + f)
      ofRatio (a != b) num den
  | x, y => if x.isZero || y.isZero then .undefined true
    else .infinity (x.isNegative != y.isNegative)

/-! ### Reading numbers -/

/-- The value of a digit in a base up to 36, which letters continue. -/
def digitValue? (base : Nat) (c : Char) : Option Nat :=
  let value :=
    if c.isDigit then c.toNat - '0'.toNat
    else if c.isLower then c.toNat - 'a'.toNat + 10
    else if c.isUpper then c.toNat - 'A'.toNat + 10
    else base
  if value < base then some value else none

/-- Digits at the beginning of a string: the number that they continue, how many there are,
and what follows them. -/
def scanDigits (base : Nat) (value count : Nat) : Octets → Nat × Nat × Octets
  | [] => (value, count, [])
  | c :: rest =>
    match digitValue? base c with
    | some d => scanDigits base (value * base + d) (count + 1) rest
    | none => (value, count, c :: rest)

/-- Digits that may have a point among them: the number without the point, how many digits
there are, how many of them come after the point, and what follows. -/
def scanFraction (base : Nat) (text : Octets) : Nat × Nat × Nat × Octets :=
  let (value, count, rest) := scanDigits base 0 0 text
  match rest with
  | '.' :: rest' =>
    let (value', count', rest'') := scanDigits base value count rest'
    if count' = 0 then (value, count, 0, rest) else (value', count', count' - count, rest'')
  | _ => (value, count, 0, rest)

/-- The power after a mantissa, marked by a letter of either case. -/
def scanPower (mark : Char) (text : Octets) : Int × Octets :=
  match text with
  | c :: rest =>
    if c.toLower ≠ mark then (0, text)
    else
      let isNegative := rest.head? = some '-'
      let digits := if isNegative || rest.head? = some '+' then rest.tail else rest
      let (value, count, rest') := scanDigits 10 0 0 digits
      if count = 0 then (0, text) else (if isNegative then -value else value, rest')
  | [] => (0, [])

/-- Beyond this power of ten a number is zero or infinite. -/
def largestPower : Int := 6000

/-- The number nearest to a whole number times a power. -/
def ofPower (isNegative : Bool) (value : Nat) (base : Nat) (power : Int) : Extended :=
  let digits : Int := value.log2 * 3 / 10
  if value = 0 then .number isNegative 0 0
  else if power + digits > 5 * largestPower then .infinity isNegative
  else if power + digits < -(5 * largestPower) then .number isNegative 0 0
  else if power ≥ 0 then ofRatio isNegative (value * base ^ power.toNat) 1
  else ofRatio isNegative value (base ^ (-power).toNat)

/-- Whether a string begins with a word, in letters of either case. -/
def startsWith (word : String) (text : Octets) : Bool :=
  word.toList.isPrefixOf ((text.take word.length).map Char.toLower)

/-- What follows a remark in parentheses, if there is one. -/
def skipRemark (text : Octets) : Octets :=
  match text with
  | '(' :: rest =>
    match rest.dropWhile fun c => c.isAlphanum || c = '_' with
    | ')' :: rest => rest
    | _ => text
  | _ => text

/-- The number without a sign at the beginning of a string, and what follows it. -/
def scanUnsigned (isNegative : Bool) (text : Octets) : Option (Extended × Octets) :=
  if startsWith "infinity" text then some (.infinity isNegative, text.drop 8)
  else if startsWith "inf" text then some (.infinity isNegative, text.drop 3)
  else if startsWith "nan" text then some (.undefined isNegative, skipRemark (text.drop 3))
  else
    let (hex, hexCount, hexAfter, hexRest) :=
      if startsWith "0x" text then scanFraction 16 (text.drop 2) else (0, 0, 0, [])
    if hexCount > 0 then
      let (power, rest) := scanPower 'p' hexRest
      some (ofPower isNegative hex 2 (power - 4 * hexAfter), rest)
    else
      let (value, count, after, rest) := scanFraction 10 text
      if count = 0 then none
      else
        let (power, rest) := scanPower 'e' rest
        some (ofPower isNegative value 10 (power - after), rest)

/-- The number at the beginning of a string, and what follows it. Blanks and a sign may
precede it. -/
def scan (text : Octets) : Option (Extended × Octets) :=
  match text.dropWhile Octets.isSpacing with
  | '-' :: rest => scanUnsigned true rest
  | '+' :: rest => scanUnsigned false rest
  | rest => scanUnsigned false rest

end Extended

end LineShell
