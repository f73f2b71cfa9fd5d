import LineShell.Numeral.Format
import LineShell.Tool.Options

/-!
# seq

Writes the numbers from a first to a last one by a step.  As long as they are whole and not
negative they may have any number of digits; else they are extended numbers.

## Main definitions

* `Tool.Seq.Operand` — a number with the form in which it was given.
* `Tool.Seq.pattern` — the form in which the numbers are written.
* `Tool.seq` — the tool.
-/

namespace LineShell.Tool

namespace Seq

/-! ### Operands -/

/-- A number with the form in which it was given. -/
structure Operand where
  /-- The number. -/
  value : Extended
  /-- The width that it takes when it is written without a power. -/
  width : Int := 1
  /-- The number of its decimal places; there is none for what has no such form. -/
  precision : Option Int := some 0
deriving DecidableEq, Repr

/-- The position of a byte in a string. -/
def positionOf? (c : Char) (text : Octets) : Option Nat := text.findIdx? (· == c)

/-- The whole number after a power mark, which counts as 0 if there is none. -/
def powerAfter (text : Octets) : Int :=
  let text := text.dropWhile Octets.isSpacing
  let isNegative := text.head? = some '-'
  let digits := (if isNegative || text.head? = some '+' then text.tail else text).takeWhile
    Char.isDigit
  let n : Int := Octets.digitsValue digits
  if isNegative then -n else n

/-- The width and precision of a number in decimal. -/
def shapeOf (text : Octets) (precision : Option Int) : Int × Option Int :=
  let point := positionOf? '.' text
  let after := match point with
    | some p => text.drop (p + 1)
    | none => []
  let fraction : Nat := (after.takeWhile fun c => c ≠ 'e' && c ≠ 'E').length
  let width : Int := text.length
  let (width, precision) := match point with
    | none => (width, precision)
    | some p =>
      let bare := p = 0 || !((text[p - 1]?).any Char.isDigit)
      (width + (if fraction = 0 then -1 else if bare then 1 else 0), some (fraction : Int))
  match (positionOf? 'e' text).orElse fun _ => positionOf? 'E' text with
  | none => (width, precision)
  | some e =>
    let power := powerAfter (text.drop (e + 1))
    let precision := precision.map fun n => if power < 0 then n - power else n - min n power
    let width := width - (text.length - e : Nat)
    if power < 0 then
      let width := match point with
        | some p => if e = p + 1 then width + 1 else width
        | none => width + 1
      (width - power, precision)
    else
      let width := if point.isSome && precision = some 0 && fraction > 0 then width - 1 else width
      (width + (power - min (fraction : Int) power), precision)

/-- Reads an operand. -/
def Operand.ofText (text : Octets) : Except Refusal Operand :=
  let invalid : Except Refusal Operand :=
    .error { text := "invalid floating point argument: " ++ Octets.quoted text, advised := true }
  match Extended.scan text with
  | none => invalid
  | some (_, _ :: _) => invalid
  | some (value, []) =>
    match value with
    | .undefined _ =>
      .error {
        text := "invalid 'not-a-number' argument: " ++ Octets.quoted text
        advised := true }
    | _ =>
      let bare := text.dropWhile fun c => Octets.isSpacing c || c = '+'
      let precision : Option Int := if bare.contains '.' || bare.contains 'p' then none else some 0
      let isInfinite : Bool := match value with
        | .infinity _ => true
        | _ => false
      if bare.any (fun c => c = 'x' || c = 'X') || isInfinite then
        .ok { value, width := 0, precision }
      else
        let (width, precision) := shapeOf bare precision
        .ok { value, width, precision }

/-! ### Forms -/

/-- The form of the numbers: what stands before and after each, and how it is written. -/
structure Pattern where
  before : Octets := []
  format : Format := {}
  form : Char := 'f'
  after : Octets := []
deriving DecidableEq, Repr

/-- A number in a form. -/
def Pattern.write (p : Pattern) (x : Extended) : Octets :=
  p.before ++ p.format.real p.form x ++ p.after

/-- The bytes up to the first directive, in which doubled percent signs are made single, and
what follows it. -/
def plainPart (shown : Octets) : Octets → Octets × Option Octets
  | [] => (shown.reverse, none)
  | '%' :: '%' :: rest => plainPart ('%' :: shown) rest
  | '%' :: rest => (shown.reverse, some rest)
  | c :: rest => plainPart (c :: shown) rest

/-- The flags at the beginning of a string, and what follows. -/
def takeFlags (f : Format) : Octets → Format × Octets
  | [] => (f, [])
  | c :: rest =>
    match c with
    | '-' => takeFlags { f with left := true } rest
    | '+' => takeFlags { f with plus := true } rest
    | '#' => takeFlags { f with alternate := true } rest
    | '0' => takeFlags { f with zeros := true } rest
    | ' ' => takeFlags { f with space := true } rest
    | '\'' => takeFlags f rest
    | _ => (f, c :: rest)

/-- Reads a form. -/
def Pattern.ofText (text : Octets) : Except Refusal Pattern :=
  let refuse (problem : Octets) : Except Refusal Pattern :=
    .error { text := "format " ++ Octets.quoted text ++ problem }
  match plainPart [] text with
  | (_, none) => refuse " has no % directive"
  | (before, some rest) =>
    let (format, rest) := takeFlags {} rest
    let width := rest.takeWhile Char.isDigit
    let rest := rest.drop width.length
    let (precision, rest) : Option Nat × Octets := match rest with
      | '.' :: rest =>
        let digits := rest.takeWhile Char.isDigit
        (some (Octets.digitsValue digits), rest.drop digits.length)
      | _ => (none, rest)
    let rest := if rest.head? = some 'L' then rest.tail else rest
    match rest with
    | [] => refuse " ends in %"
    | form :: rest =>
      if !("efgaEFGA".toList.contains form) then
        refuse (" has unknown %" ++ form :: " directive".toList)
      else match plainPart [] rest with
        | (_, some _) => refuse " has too many % directives"
        | (after, none) =>
          .ok { before, form, after
                format := { format with width := Octets.digitsValue width, precision } }

/-- The form that fits the operands. -/
def Pattern.fitting (equalWidth : Bool) (first step last : Operand) : Pattern :=
  match first.precision, step.precision, last.precision with
  | some p, some q, some r =>
    let places := max p q
    let format : Format := { precision := some places.toNat }
    if equalWidth then
      let firstWidth := first.width + (places - p) + (if p = 0 && places ≠ 0 then 1 else 0)
      let lastWidth := last.width + (places - r) +
        (if r ≠ 0 && places = 0 then -1 else 0) + (if r = 0 && places ≠ 0 then 1 else 0)
      { format := { format with zeros := true, width := (max firstWidth lastWidth).toNat } }
    else { format }
  | _, _, _ => { form := 'g' }

/-! ### Output -/

/-- How many numbers are written at once. -/
def batch : Nat := 256

/-- Whole numbers by a step, each after a separator, up to a last one; the number after them
is missing if there are no more. The numbers are in reverse. -/
def wholes (separator : Octets) (step : Nat) (last : Option Nat) (shown : Octets) :
    Nat → Nat → Octets × Option Nat
  | 0, n => (shown, some n)
  | count + 1, n =>
    if last.any (· < n) then (shown, none)
    else
      wholes separator step last
        ((Octets.ofNat n).reverse ++ separator.reverse ++ shown) count (n + step)

/-- Writes whole numbers by a step. -/
def writeWholes (i : Invocation) (separator : Octets) (step : Nat) (last : Option Nat) :
    Nat → Nat → Program Unit
  | 0, _ => pure ()
  | count + 1, n => do
    let (shown, next) := wholes separator step last [] batch n
    print i shown.reverse
    match next with
    | none => pure ()
    | some n => writeWholes i separator step last count n

/-- Whether a number lies beyond the last one. -/
def isBeyond (step last x : Extended) : Bool :=
  if step.isLess (.ofInt 0) then x.isLess last else last.isLess x

/-- Whether a number that lies just beyond the last one looks like that one in its form, and
not like the number before it. -/
def looksLast (p : Pattern) (last before x : Extended) : Bool :=
  let shown := p.format.real p.form x
  match Extended.scan shown with
  | some (y, []) => y.compare last = some .eq && p.format.real p.form before ≠ shown
  | _ => false

/-- Writes extended numbers. The next one is the `count`-th after the first. -/
def writeNumbers (i : Invocation) (separator : Octets) (p : Pattern)
    (first step last : Extended) : Nat → Nat → Extended → Program Unit
  | 0, _, _ => pure ()
  | calls + 1, count, x => do
    print i (p.write x)
    let next := first.add ((Extended.ofInt (count + 1 : Nat)).mul step)
    if isBeyond step last next then
      if looksLast p last x next then print i (separator ++ p.write next)
    else
      print i separator
      writeNumbers i separator p first step last calls (count + 1) next

/-! ### Options -/

/-- What the options say. -/
structure Settings where
  format : Option Octets := none
  separator : Octets := ['\n']
  equalWidth : Bool := false
deriving DecidableEq, Repr

/-- Takes an option into account. -/
def set (s : Settings) (key : Char) (value : Option Octets) : Except Refusal Settings :=
  match key with
  | 'f' => .ok { s with format := value }
  | 's' => .ok { s with separator := value.getD [] }
  | 'w' => .ok { s with equalWidth := true }
  | _ => .ok s

/-- The options. -/
def grammar : Grammar where
  letters := "f:s:w"
  long := [⟨"equal-width", .none, 'w'⟩, ⟨"format", .required, 'f'⟩, ⟨"separator", .required, 's'⟩]
  order := .first

/-- Whether an argument looks like a negative number. -/
def isNegativeNumber (argument : Octets) : Bool :=
  match argument with
  | '-' :: c :: _ => c = '.' || c.isDigit
  | _ => false

/-- Whether an option takes the next argument for its value. -/
def takesNext (argument : Octets) : Bool :=
  match argument with
  | '-' :: '-' :: name =>
    !name.contains '=' && (name.head? = some 'f' || name.head? = some 's')
  | '-' :: letters =>
    match letters.dropWhile (· = 'w') with
    | [c] => c = 'f' || c = 's'
    | _ => false
  | _ => false

/-- The arguments before a negative number, which can be options, and those from there on. The
flag tells whether the first argument is the value of an option. -/
def splitOptions (owed : Bool) : List Octets → List Octets × List Octets
  | [] => ([], [])
  | argument :: rest =>
    if owed then
      let (options, others) := splitOptions false rest
      (argument :: options, others)
    else if isNegativeNumber argument || argument.head? ≠ some '-' || argument = ['-'] then
      ([], argument :: rest)
    else if argument = ['-', '-'] then ([argument], rest)
    else
      let (options, others) := splitOptions (takesNext argument) rest
      (argument :: options, others)

/-- Whether a string consists of digits. -/
def isWhole (text : Octets) : Bool := !text.isEmpty && text.all Char.isDigit

/-- The largest step by which digits are counted up. -/
def largestStep : Nat := 200

/-- The whole number of an operand that is not negative; `none` in the inner option is
infinity. -/
def wholeOf? (o : Operand) : Option (Option Nat) :=
  match o.value with
  | .infinity false => some none
  | .number false m e =>
    if o.precision ≠ some 0 then none
    else
      let (n, d) := Extended.ratioOf m e
      some (some (Extended.halfEven n d))
  | _ => none

/-- Writes the numbers that operands ask for. -/
def writeOperands (i : Invocation) (s : Settings) (pattern : Option Pattern)
    (first step last : Octets) : Program Nat := do
  let a ← match Operand.ofText first with
    | .ok o => pure o
    | .error refusal => refusal.raise i
  let b ← match Operand.ofText step with
    | .ok o => pure o
    | .error refusal => refusal.raise i
  if b.value.isZero then
    misuse i ("invalid Zero increment value: " ++ Octets.quoted step)
  let c ← match Operand.ofText last with
    | .ok o => pure o
    | .error refusal => refusal.raise i
  let plain := pattern.isNone && !s.equalWidth && s.separator.length = 1
  match plain, wholeOf? a, wholeOf? b, wholeOf? c with
  | true, some (some n), some (some d), some last =>
    if d ≤ largestStep && !last.any (· < n) then
      print i (Octets.ofNat n)
      writeWholes i s.separator d last Program.forever (n + d)
      print i ['\n']
  | _, _, _, _ =>
    let p := pattern.getD (.fitting s.equalWidth a b c)
    if !isBeyond b.value c.value a.value then
      writeNumbers i s.separator p a.value b.value c.value Program.forever 0 a.value
      print i ['\n']
  pure 0

end Seq

/-- Writes numbers in a row. -/
def seq (i : Invocation) : Program Nat :=
  let (options, others) := Seq.splitOptions false i.operands
  withSettings Seq.grammar i options {} Seq.set fun s operands => do
    let operands := operands ++ others
    if operands.isEmpty then misuse i "missing operand"
    if operands.length > 3 then
      misuse i ("extra operand " ++ Octets.quoted ((operands[3]?).getD []))
    let pattern ← match s.format.map Seq.Pattern.ofText with
      | none => pure none
      | some (.ok p) => pure (some p)
      | some (.error refusal) => refusal.raise i
    if pattern.isSome && s.equalWidth then
      misuse i "format string may not be specified when printing equal width strings"
    let (first, step, last) : Octets × Octets × Octets := match operands with
      | [last] => ("1", "1", last)
      | [first, last] => (first, "1", last)
      | [first, step, last] => (first, step, last)
      | _ => ([], [], [])
    let plain := pattern.isNone && !s.equalWidth && s.separator.length = 1
    if plain && [first, step, last].all Seq.isWhole &&
        0 < Octets.digitsValue step && Octets.digitsValue step ≤ Seq.largestStep then
      let n := Octets.digitsValue first
      let d := Octets.digitsValue step
      let last := Octets.digitsValue last
      if n ≤ last then
        print i (Octets.ofNat n)
        Seq.writeWholes i s.separator d (some last) Program.forever (n + d)
        print i ['\n']
      pure 0
    else Seq.writeOperands i s pattern first step last

end LineShell.Tool
