import LineShell.Script.State
import LineShell.Tool.Printf

/-!
# Printing from a script

The builtins `echo` and `printf` write their arguments; both replace escapes.

## Main definitions

* `Print.escape` — what stands after a backslash.
* `Print.echo`, `Print.printf` — the builtins.
-/

namespace LineShell.Script.Print

open Shell

/-! ### Escapes -/

/-- What stands after a backslash in a format: a byte, and what follows. -/
def escape (text : Octets) : Char × Octets :=
  match text with
  | [] => ('\\', [])
  | c :: rest =>
    if isOctalDigit c then
      let (value, _, after) := takeDigits 8 octalValue? 0 0 3 text
      (byteChar value, after)
    else match controlOf? c with
      | some control => (control, rest)
      | none => ('\\', text)

/-- What stands after a backslash in an argument: a byte, and what follows; nothing if it ends the
output. A zero may precede octal digits. -/
def argumentEscape (text : Octets) : Option (Char × Octets) :=
  match text with
  | 'c' :: _ => none
  | '0' :: c :: rest => some (escape (if isOctalDigit c then c :: rest else text))
  | _ => some (escape text)

/-- The bytes of an argument with escapes, after those in `done`, which are in reverse, and whether
the output ends with them. It takes so many steps at most. -/
def expandFrom (done : Octets) : Nat → Octets → Octets × Bool
  | 0, _ => (done.reverse, false)
  | _, [] => (done.reverse, false)
  | steps + 1, '\\' :: rest =>
    match argumentEscape rest with
    | none => (done.reverse, true)
    | some (c, rest) => expandFrom (c :: done) steps rest
  | steps + 1, c :: rest => expandFrom (c :: done) steps rest

/-- The bytes of an argument with escapes, and whether the output ends with them. -/
def expand (text : Octets) : Octets × Bool := expandFrom [] (text.length + 1) text

/-! ### echo -/

/-- What arguments look like in a row; a line feed ends it if `ends` holds. -/
def row (ends : Bool) : List Octets → Octets
  | [] => if ends then ['\n'] else []
  | argument :: rest =>
    let (text, stops) := expand argument
    if stops then text
    else match rest with
      | [] => text ++ (if ends then ['\n'] else [])
      | rest => text ++ ' ' :: row ends rest

/-- Writes arguments in a row. -/
def echo (arguments : List Octets) : Shell Nat :=
  match arguments with
  | ['-', 'n'] :: rest => emit (row false rest)
  | arguments => emit (row true arguments)

/-! ### printf -/

/-- The parts of a format, in so many steps. -/
def templatesFrom : Nat → Octets → List Template
  | 0, _ => []
  | _, [] => []
  | steps + 1, '\\' :: rest =>
    let (c, rest) := escape rest
    .text [c] :: templatesFrom steps rest
  | steps + 1, '%' :: '%' :: rest => .text ['%'] :: templatesFrom steps rest
  | steps + 1, '%' :: rest =>
    let (f, _, after) := Template.scanFlags {} Template.forms rest
    let (width, starWidth, after) := Template.scanNumber after
    let (precision, starPrecision, after) : Option Nat × Bool × Octets :=
      match after with
      | '.' :: after =>
        let (precision, star, after) := Template.scanNumber after
        (some precision, star, after)
      | _ => (none, false, after)
    match after with
    | [] => [.broken "missing format character"]
    | form :: after =>
      if form = 'b' || Template.forms.contains form then
        .value { f with width, precision } starWidth starPrecision form ::
          templatesFrom steps after
      else
        let shown := '%' :: rest.take (rest.length - after.length)
        [.broken (shown ++ ": invalid directive")]
  | steps + 1, c :: rest => .text [c] :: templatesFrom steps rest

/-- What was printed so far. -/
structure Output where
  /-- The bytes, in pieces, the last one first. -/
  pieces : List Octets := []
  /-- The arguments that are left. -/
  arguments : List Octets
  status : Nat := 0
  /-- Whether an argument has ended the output. -/
  stops : Bool := false

/-- Complains about an argument that should be a number. -/
def remark (argument : Octets) : Option Remark → Shell Nat
  | none | some (.ignored _) => pure 0
  | some .missing => do
    complain (argument ++ ": expected numeric value")
    pure 1
  | some .incomplete => do
    complain (argument ++ ": not completely converted")
    pure 1
  | some .range => do
    complain (argument ++ ": " ++ Errno.ERANGE.text)
    pure 1

/-- The value of an argument in some form, and the status that goes with it. -/
def shown (f : Format) (form : Char) (argument : Octets) : Shell (Octets × Nat) := do
  match form with
  | 'd' | 'i' =>
    let (n, r) := integerOf (-(2 ^ 63)) (2 ^ 63 - 1) argument
    pure (f.integer n, ← remark argument r)
  | 'o' | 'u' | 'x' | 'X' =>
    let (n, r) := naturalOf argument
    let base := if form = 'o' then 8 else if form = 'u' then 10 else 16
    pure (f.natural base (form = 'X') n, ← remark argument r)
  | 'c' => pure (f.pad [argument.headD '\x00'], 0)
  | 's' =>
    pure (f.pad (match f.precision with
      | some n => argument.take n
      | none => argument), 0)
  | _ =>
    let (x, r) := realOf argument
    pure (f.real form x, ← remark argument r)

/-- Takes an argument that is a width or a precision. -/
def takeNumber (o : Output) : Shell (Int × Output) := do
  match o.arguments with
  | [] => pure (0, o)
  | argument :: rest =>
    let (n, r) := integerOf (-(2 ^ 31)) (2 ^ 31 - 1) argument
    let wrong ← remark argument r
    pure (n, { o with arguments := rest, status := max o.status wrong })

/-- Prints the parts of a format once. -/
def printOnce (o : Output) : List Template → Shell Output
  | [] => pure o
  | part :: rest => do
    if o.stops then pure o
    else match part with
      | .text bytes => printOnce { o with pieces := bytes :: o.pieces } rest
      | .broken text =>
        let _ ← emit o.pieces.reverse.flatten
        fail text
      | .value f starWidth starPrecision form =>
        let (f, o) ←
          if starWidth then do
            let (n, o) ← takeNumber o
            pure ({ f with width := n.natAbs, left := f.left || n < 0 }, o)
          else pure (f, o)
        let (f, o) ←
          if starPrecision then do
            let (n, o) ← takeNumber o
            pure ({ f with precision := if n < 0 then none else some n.toNat }, o)
          else pure (f, o)
        let argument := o.arguments.headD []
        let o := { o with arguments := o.arguments.tail }
        if form = 'b' then
          let (bytes, stops) := expand argument
          let (shown, _) ← Print.shown f 's' bytes
          printOnce { o with pieces := shown :: o.pieces, stops } rest
        else
          let (shown, wrong) ← Print.shown f form argument
          printOnce { o with pieces := shown :: o.pieces, status := max o.status wrong } rest
      | _ => printOnce o rest

/-- Prints a format as often as there are arguments for it. -/
def printAll (parts : List Template) : Nat → Output → Shell Output
  | 0, o => pure o
  | steps + 1, o => do
    let before := o.arguments.length
    let o ← printOnce o parts
    if o.stops || o.arguments.isEmpty || o.arguments.length = before then pure o
    else printAll parts steps o

/-- Writes arguments in a format. -/
def printf (arguments : List Octets) : Shell Nat := do
  let (_, arguments) ← takeOptions [] arguments
  match arguments with
  | [] => fail "usage: printf format [arg ...]"
  | format :: arguments =>
    let parts := templatesFrom (format.length + 1) format
    let o ← printAll parts (arguments.length + 1) { arguments }
    emit o.pieces.reverse.flatten o.status

end LineShell.Script.Print
