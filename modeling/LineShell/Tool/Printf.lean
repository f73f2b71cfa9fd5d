import LineShell.Numeral.Format
import LineShell.Tool.Echo

/-!
# printf

Writes its arguments as a format says.  The format is used again as long as arguments are
left.

## Main definitions

* `Template` — a format, taken apart.
* `Template.ofFormat` — takes a format apart.
* `Tool.printf` — the tool.
-/

namespace LineShell

/-! ### Formats -/

/-- A part of a format. -/
inductive Template where
  /-- Bytes that are written as they are. -/
  | text (bytes : Octets)
  /-- The end of all output. -/
  | stop
  /-- Something that makes the format unusable. -/
  | broken (problem : Octets)
  /-- An argument with escapes. -/
  | escaped
  /-- An argument in quotes. -/
  | quoted
  /-- An argument in some form. Width and precision may be arguments, too. -/
  | value (format : Format) (starWidth starPrecision : Bool) (form : Char)
deriving DecidableEq, Repr

namespace Template

/-- The letter and the number of digits of an escape for a character. -/
def characterEscape (letter : Char) (text : Octets) : Template × Octets :=
  let count := if letter = 'u' then 4 else 8
  let (n, used, rest) := takeDigits 16 hexValue? 0 0 count text
  let shown := Octets.padLeft count (Nat.toDigits 16 n) '0'
  if used < count then (.broken "missing hexadecimal number in escape", rest)
  else if (n ≤ 0x9f && n ≠ 0x24 && n ≠ 0x40 && n ≠ 0x60) ||
      (0xd800 ≤ n && n ≤ 0xdfff) then
    (.broken ("invalid universal character name \\" ++ letter :: shown), rest)
  else if n < 0x80 then (.text [Char.ofNat n], rest)
  else
    let wide := n ≥ 0x10000
    let digits := (Nat.toDigits 16 n).map Char.toUpper
    (.text (['\\', if wide then 'U' else 'u'] ++
      Octets.padLeft (if wide then 8 else 4) digits '0'), rest)

/-- What stands after a backslash, and what follows. The flag tells whether a zero may precede
octal digits. -/
def escape (zeroFirst : Bool) (text : Octets) : Template × Octets :=
  match text with
  | [] => (.text ['\\'], [])
  | 'c' :: rest => (.stop, rest)
  | '"' :: rest => (.text ['"'], rest)
  | 'x' :: rest =>
    let (n, used, rest) := takeDigits 16 hexValue? 0 0 2 rest
    if used = 0 then (.broken "missing hexadecimal number in escape", rest)
    else (.text [byteChar n], rest)
  | c :: rest =>
    if isOctalDigit c then
      let (n, _, rest) :=
        takeDigits 8 octalValue? 0 0 3 (if zeroFirst && c = '0' then rest else text)
      (.text [byteChar n], rest)
    else if c = 'u' || c = 'U' then characterEscape c rest
    else match controlOf? c with
      | some control => (.text [control], rest)
      | none => (.text ['\\', c], rest)

/-- The parts of a string with escapes, in at most `fuel` steps. -/
def ofEscapes (zeroFirst : Bool) : Nat → Octets → List Template
  | 0, _ => []
  | _, [] => []
  | fuel + 1, '\\' :: rest =>
    let (part, rest) := escape zeroFirst rest
    part :: ofEscapes zeroFirst fuel rest
  | fuel + 1, c :: rest => .text [c] :: ofEscapes zeroFirst fuel rest

/-- The forms that an argument may have. -/
def forms : List Char := "aAcdeEfFgGiosuxX".toList

/-- The flags at the beginning of a string, the forms that they leave, and what follows. -/
def scanFlags (f : Format) (allowed : List Char) : Octets → Format × List Char × Octets
  | [] => (f, allowed, [])
  | c :: rest =>
    let without (taken : String) : List Char := allowed.filter (!taken.toList.contains ·)
    match c with
    | '-' => scanFlags { f with left := true } allowed rest
    | '+' => scanFlags { f with plus := true } allowed rest
    | ' ' => scanFlags { f with space := true } allowed rest
    | '#' => scanFlags { f with alternate := true } (without "cdisu") rest
    | '0' => scanFlags { f with zeros := true } (without "cs") rest
    | 'I' | '\'' => scanFlags f (without "aAceEosxX") rest
    | _ => (f, allowed, c :: rest)

/-- A width or a precision: the number, whether it is an argument, and what follows. -/
def scanNumber (text : Octets) : Nat × Bool × Octets :=
  match text with
  | '*' :: rest => (0, true, rest)
  | _ =>
    let digits := text.takeWhile Char.isDigit
    (Octets.digitsValue digits, false, text.drop digits.length)

/-- What stands after a percent sign, and what follows. -/
def directive (text : Octets) : Template × Octets :=
  let (f, allowed, rest) := scanFlags {} forms text
  let (width, starWidth, rest) := scanNumber rest
  let (precision, starPrecision, allowed, rest) : Option Nat × Bool × List Char × Octets :=
    match rest with
    | '.' :: rest =>
      let (precision, star, rest) := scanNumber rest
      (some precision, star, allowed.filter (· ≠ 'c'), rest)
    | _ => (none, false, allowed, rest)
  let rest := rest.dropWhile fun c => "lLhjtz".toList.contains c
  match rest with
  | form :: after =>
    if allowed.contains form then
      (.value { f with width, precision } starWidth starPrecision form, after)
    else
      let shown := text.take (text.length - after.length)
      (.broken ('%' :: shown ++ ": invalid conversion specification"), after)
  | [] => (.broken ('%' :: text ++ ": invalid conversion specification"), [])

/-- The parts of a format, in at most `fuel` steps. -/
def ofFormatFrom : Nat → Octets → List Template
  | 0, _ => []
  | _, [] => []
  | fuel + 1, '%' :: '%' :: rest => .text ['%'] :: ofFormatFrom fuel rest
  | fuel + 1, '%' :: 'b' :: rest => .escaped :: ofFormatFrom fuel rest
  | fuel + 1, '%' :: 'q' :: rest => .quoted :: ofFormatFrom fuel rest
  | fuel + 1, '%' :: rest =>
    let (part, rest) := directive rest
    part :: ofFormatFrom fuel rest
  | fuel + 1, '\\' :: rest =>
    let (part, rest) := escape false rest
    part :: ofFormatFrom fuel rest
  | fuel + 1, c :: rest => .text [c] :: ofFormatFrom fuel rest

/-- Takes a format apart. -/
def ofFormat (format : Octets) : List Template := ofFormatFrom format.length format

end Template

/-! ### Numbers -/

/-- What is said about an argument that should be a number. -/
inductive Remark where
  /-- There is no number. -/
  | missing
  /-- Something follows the number. -/
  | incomplete
  /-- The number is out of range. -/
  | range
  /-- Something follows a character that stands for its number. -/
  | ignored (rest : Octets)
deriving DecidableEq, Repr

/-- The whole number at the beginning of a string, in base 8 after a zero and in base 16 after
`0x`: its sign, its amount, and what follows. There is no answer if there are no digits. -/
def scanInteger (text : Octets) : Option (Bool × Nat × Octets) :=
  let text := text.dropWhile Octets.isSpacing
  let isNegative := text.head? = some '-'
  let text := if isNegative || text.head? = some '+' then text.tail else text
  let (hex, hexCount, hexRest) :=
    if Extended.startsWith "0x" text then Extended.scanDigits 16 0 0 (text.drop 2) else (0, 0, [])
  if hexCount > 0 then some (isNegative, hex, hexRest)
  else
    let (value, count, rest) :=
      Extended.scanDigits (if text.head? = some '0' then 8 else 10) 0 0 text
    if count = 0 then none else some (isNegative, value, rest)

/-- The remark on what follows a number. -/
def remarkOn (rest : Octets) : Option Remark := if rest.isEmpty then none else some .incomplete

/-- The number that a quoted character stands for. -/
def characterValue? (text : Octets) : Option (Nat × Option Remark) :=
  match text with
  | quote :: c :: rest =>
    if quote = '"' || quote = '\'' then
      some (c.toNat, if rest.isEmpty then none else some (.ignored rest))
    else none
  | _ => none

/-- The whole number that an argument is, between two limits. -/
def integerOf (least most : Int) (text : Octets) : Int × Option Remark :=
  match characterValue? text with
  | some (n, remark) => (n, remark)
  | none =>
    match scanInteger text with
    | none => (0, if text.isEmpty then none else some .missing)
    | some (isNegative, n, rest) =>
      let n : Int := if isNegative then -n else n
      if n < least then (least, some .range)
      else if n > most then (most, some .range)
      else (n, remarkOn rest)

/-- The natural number that an argument is; a negative one is counted down from the largest. -/
def naturalOf (text : Octets) : Nat × Option Remark :=
  let (n, remark) := integerOf (-(2 ^ 64 - 1)) (2 ^ 64 - 1) text
  if n = -(2 ^ 64 - 1) && remark = some .range then (2 ^ 64 - 1, remark)
  else ((n % 2 ^ 64).toNat, remark)

/-- The extended number that an argument is. -/
def realOf (text : Octets) : Extended × Option Remark :=
  match characterValue? text with
  | some (n, remark) => (.ofInt n, remark)
  | none =>
    match Extended.scan text with
    | none => (.ofInt 0, if text.isEmpty then none else some .missing)
    | some (x, rest) => (x, remarkOn rest)

namespace Tool

namespace Printf

/-- Makes a remark on an argument. The value tells whether it is an error. -/
def remark (i : Invocation) (argument : Octets) : Option Remark → Program Bool
  | none => pure false
  | some .missing => do
    complain i (Octets.quoted argument ++ ": expected a numeric value")
    pure true
  | some .incomplete => do
    complain i (Octets.quoted argument ++ ": value not completely converted")
    pure true
  | some .range => do
    complain i (Octets.quoted argument ++ ": " ++ Errno.ERANGE.text)
    pure true
  | some (.ignored rest) => do
    complain i ("warning: " ++ rest ++
      ": character(s) following character constant have been ignored")
    pure false

/-- Writes parts that use no arguments. -/
def writeText (i : Invocation) : List Template → Program Unit
  | [] => pure ()
  | .text bytes :: rest => do
    print i bytes
    writeText i rest
  | .stop :: _ => Program.exit 0
  | .broken problem :: _ => fail i problem
  | _ :: rest => writeText i rest

/-- Writes an argument in some form. The value tells whether there was an error. -/
def writeValue (i : Invocation) (f : Format) (form : Char) (argument : Octets) :
    Program Bool := do
  match form with
  | 'd' | 'i' =>
    let (n, r) := integerOf (-(2 ^ 63)) (2 ^ 63 - 1) argument
    let wrong ← remark i argument r
    print i (f.integer n)
    pure wrong
  | 'o' | 'u' | 'x' | 'X' =>
    let (n, r) := naturalOf argument
    let wrong ← remark i argument r
    print i (f.natural (if form = 'o' then 8 else if form = 'u' then 10 else 16) (form = 'X') n)
    pure wrong
  | 'c' =>
    print i (f.pad [argument.headD '\x00'])
    pure false
  | 's' =>
    print i (f.pad (match f.precision with
      | some n => argument.take n
      | none => argument))
    pure false
  | _ =>
    let (x, r) := realOf argument
    let wrong ← remark i argument r
    print i (f.real form x)
    pure wrong

/-- The largest width or precision. -/
def largestWidth : Int := 2 ^ 31 - 1

/-- A width that is an argument. -/
def takeWidth (i : Invocation) (f : Format) (arguments : List Octets) :
    Program (Format × Bool × List Octets) :=
  match arguments with
  | [] => pure ({ f with width := 0 }, false, [])
  | argument :: rest => do
    let (n, r) := integerOf (-(2 ^ 63)) (2 ^ 63 - 1) argument
    let wrong ← remark i argument r
    if n.natAbs > largestWidth then
      fail i ("invalid field width: " ++ Octets.quoted argument)
    else pure ({ f with width := n.natAbs, left := f.left || n < 0 }, wrong, rest)

/-- A precision that is an argument. -/
def takePrecision (i : Invocation) (f : Format) (arguments : List Octets) :
    Program (Format × Bool × List Octets) :=
  match arguments with
  | [] => pure ({ f with precision := some 0 }, false, [])
  | argument :: rest => do
    let (n, r) := integerOf (-(2 ^ 63)) (2 ^ 63 - 1) argument
    let wrong ← remark i argument r
    if n > largestWidth then fail i ("invalid precision: " ++ Octets.quoted argument)
    else pure ({ f with precision := if n < 0 then none else some n.toNat }, wrong, rest)

/-- Writes the parts of a format once. The result is the arguments that are left and whether
there was an error. -/
def writeOnce (i : Invocation) (wrong : Bool) (arguments : List Octets) :
    List Template → Program (List Octets × Bool)
  | [] => pure (arguments, wrong)
  | part :: parts =>
    match part with
    | .escaped => do
      match arguments with
      | [] => writeOnce i wrong [] parts
      | argument :: rest =>
        writeText i (Template.ofEscapes true argument.length argument)
        writeOnce i wrong rest parts
    | .quoted => do
      match arguments with
      | [] => writeOnce i wrong [] parts
      | argument :: rest =>
        print i (Octets.quotedIfNeeded argument)
        writeOnce i wrong rest parts
    | .value f starWidth starPrecision form => do
      let (f, wrong', arguments) ←
        if starWidth then takeWidth i f arguments else pure (f, false, arguments)
      let (f, wrong'', arguments) ←
        if starPrecision then takePrecision i f arguments else pure (f, false, arguments)
      let wrong''' ← writeValue i f form (arguments.headD [])
      writeOnce i (wrong || wrong' || wrong'' || wrong''') arguments.tail parts
    | part => do
      writeText i [part]
      writeOnce i wrong arguments parts

/-- Writes a format as often as there are arguments for it, but at most `count` times. -/
def writeAll (i : Invocation) (parts : List Template) :
    Nat → Bool → List Octets → Program Nat
  | 0, wrong, _ => pure (if wrong then 1 else 0)
  | count + 1, wrong, arguments => do
    let (rest, wrong) ← writeOnce i wrong arguments parts
    match rest with
    | [] => pure (if wrong then 1 else 0)
    | argument :: _ =>
      if rest.length = arguments.length then
        complain i ("warning: ignoring excess arguments, starting with " ++
          Octets.quoted argument)
        pure (if wrong then 1 else 0)
      else writeAll i parts count wrong rest

end Printf

/-- Writes its arguments in a format. -/
def printf (i : Invocation) : Program Nat :=
  let operands := if i.operands.head? = some ['-', '-'] then i.operands.tail else i.operands
  match operands with
  | [] => misuse i "missing operand"
  | format :: arguments =>
    Printf.writeAll i (Template.ofFormat format) (arguments.length + 1) false arguments

end Tool

end LineShell
