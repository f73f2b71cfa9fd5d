import LineShell.Tool.Basic

/-!
# echo

Writes its arguments with spaces between them, on request with escapes replaced.

## Main definitions

* `Tool.Echo.escape` — what the letters after a backslash stand for.
* `Tool.Echo.expand` — the bytes of a string with escapes, up to one that ends the output.
* `Tool.echo` — the tool.
-/

namespace LineShell

/-! ### Escapes -/

/-- Whether a byte is an octal digit. -/
def isOctalDigit (c : Char) : Bool := '0' ≤ c && c ≤ '7'

/-- The value of a hexadecimal digit. -/
def hexValue? (c : Char) : Option Nat :=
  if c.isDigit then some (c.toNat - '0'.toNat)
  else if 'a' ≤ c && c ≤ 'f' then some (c.toNat - 'a'.toNat + 10)
  else if 'A' ≤ c && c ≤ 'F' then some (c.toNat - 'A'.toNat + 10)
  else none

/-- At most `count` digits of a base at the beginning of a string: their value, how many they
are, and what follows. -/
def takeDigits (base : Nat) (value? : Char → Option Nat) (value used : Nat) :
    Nat → Octets → Nat × Nat × Octets
  | 0, rest => (value, used, rest)
  | _, [] => (value, used, [])
  | count + 1, c :: rest =>
    match value? c with
    | some d => takeDigits base value? (value * base + d) (used + 1) count rest
    | none => (value, used, c :: rest)

/-- The value of an octal digit. -/
def octalValue? (c : Char) : Option Nat :=
  if isOctalDigit c then some (c.toNat - '0'.toNat) else none

/-- The byte of a number, of which eight bits count. -/
def byteChar (n : Nat) : Char := Char.ofNat (n % 256)

/-- The control that a letter after a backslash stands for. -/
def controlOf? (c : Char) : Option Char :=
  match c with
  | 'a' => some '\x07'
  | 'b' => some '\x08'
  | 'e' => some '\x1b'
  | 'f' => some '\x0c'
  | 'n' => some '\n'
  | 'r' => some '\r'
  | 't' => some '\t'
  | 'v' => some '\x0b'
  | '\\' => some '\\'
  | _ => none

namespace Tool

namespace Echo

/-- What the first arguments ask for. -/
structure Style where
  /-- A line feed ends the output. -/
  ends : Bool := true
  /-- Escapes are replaced. -/
  escapes : Bool := false
deriving DecidableEq, Repr

/-- The style after one more argument, if that is made of options only. -/
def Style.take? (s : Style) (argument : Octets) : Option Style :=
  match argument with
  | '-' :: c :: rest =>
    if (c :: rest).all fun c => c = 'n' || c = 'e' || c = 'E' then
      some <| (c :: rest).foldl (fun s c =>
        match c with
        | 'n' => { s with ends := false }
        | 'e' => { s with escapes := true }
        | _ => { s with escapes := false }) s
    else none
  | _ => none

/-- The style that arguments ask for, and the arguments after them. -/
def styleOf (s : Style) : List Octets → Style × List Octets
  | [] => (s, [])
  | argument :: rest =>
    match s.take? argument with
    | some s => styleOf s rest
    | none => (s, argument :: rest)

/-- What stands after a backslash: the bytes for it and what follows, or nothing if it ends the
output. -/
def escape (text : Octets) : Option (Octets × Octets) :=
  match text with
  | [] => some (['\\'], [])
  | 'c' :: _ => none
  | 'x' :: rest =>
    let (value, used, after) := takeDigits 16 hexValue? 0 0 2 rest
    some (if used = 0 then (['\\', 'x'], rest) else ([byteChar value], after))
  | '0' :: rest =>
    let (value, _, after) := takeDigits 8 octalValue? 0 0 3 rest
    some ([byteChar value], after)
  | c :: rest =>
    if isOctalDigit c then
      let (value, _, after) := takeDigits 8 octalValue? 0 0 3 text
      some ([byteChar value], after)
    else match controlOf? c with
      | some control => some ([control], rest)
      | none => some (['\\', c], rest)

/-- The bytes of a string with escapes, which no more than `fuel` steps take. They are given in
reverse; the flag tells whether the output ends with them. -/
def expand (shown : Octets) : Nat → Octets → Octets × Bool
  | 0, _ => (shown, false)
  | _, [] => (shown, false)
  | fuel + 1, '\\' :: rest =>
    match escape rest with
    | none => (shown, true)
    | some (bytes, rest) => expand (bytes.reverse ++ shown) fuel rest
  | fuel + 1, c :: rest => expand (c :: shown) fuel rest

end Echo

/-- Writes its arguments. -/
def echo (i : Invocation) : Program Nat := do
  let (style, words) := Echo.styleOf {} i.operands
  let text := Octets.join [' '] words
  let (shown, stops) :=
    if style.escapes then Echo.expand [] text.length text else (text.reverse, false)
  print i (if style.ends && !stops then ('\n' :: shown).reverse else shown.reverse)
  pure 0

end Tool

end LineShell
