import LineShell.Text.Octets

/-!
# Quoted strings

Messages quote the strings that they mention.  A name is quoted in the way of a shell, so
that it can be used again as it stands: with single quotes, or double ones if it holds a
single quote and little else; bytes without a shape are written as escapes between `$'`
and `'`.  A string that is no name stands between single quotes, with escapes.

## Main definitions

* `Octets.needsQuotes` — whether a shell would not take a string for itself.
* `Octets.shellQuoted` — the string in quotes for a shell.
* `Octets.quotedIfNeeded` — the string, in quotes if need be.
* `Octets.quoted` — the string between single quotes, with escapes.
-/

namespace LineShell.Octets

/-- The letter that stands for a control in an escape. -/
def escapeLetter? (c : Char) : Option Char :=
  match c with
  | '\x07' => some 'a'
  | '\x08' => some 'b'
  | '\t' => some 't'
  | '\n' => some 'n'
  | '\x0b' => some 'v'
  | '\x0c' => some 'f'
  | '\r' => some 'r'
  | _ => none

/-- A byte as three octal digits. -/
def octal (c : Char) : Octets :=
  [Nat.digitChar (c.toNat / 64), Nat.digitChar (c.toNat / 8 % 8), Nat.digitChar (c.toNat % 8)]

/-- The escape of a byte that has no shape. -/
def escape (c : Char) : Octets :=
  match escapeLetter? c with
  | some letter => ['\\', letter]
  | none => '\\' :: octal c

/-! ### Quotes for a shell -/

/-- The bytes that mean something to a shell wherever they stand. -/
def shellSigns : List Char :=
  [' ', '!', '"', '$', '&', '(', ')', '*', ';', '<', '=', '>', '?', '[', '^', '`', '|', '\'']

/-- Whether a shell would not take a string for itself. Bytes in `more` need quotes, too. -/
def needsQuotes (more : List Char) (o : Octets) : Bool :=
  o.isEmpty || o = ['{'] || o = ['}'] || ['#', '~'].contains (o.headD 'x') ||
    o.any fun c => shellSigns.contains c || more.contains c || !isPrintable c

/-- The bytes that may stand beside a single quote between double quotes. -/
def isMild (c : Char) : Bool :=
  c.isAlphanum || [' ', '\'', '%', '+', ',', '-', '.', '/', ':', ']', '_', '@'].contains c

/-- The rest of a string between single quotes. The flag tells whether an escape sequence
is open. -/
def shellQuotedFrom (escaping : Bool) : Octets → Octets
  | [] => ['\'']
  | c :: rest =>
    if !isPrintable c then
      (if escaping then [] else ['\'', '$', '\'']) ++ escape c ++ shellQuotedFrom true rest
    else if c = '\'' then ['\'', '\\', '\'', '\''] ++ shellQuotedFrom false rest
    else (if escaping then ['\'', '\''] else []) ++ c :: shellQuotedFrom false rest

/-- A string in quotes for a shell. -/
def shellQuoted (o : Octets) : Octets :=
  if o.contains '\'' && o.all isMild then '"' :: o ++ ['"']
  else '\'' :: shellQuotedFrom false o

/-- A string, in quotes for a shell if need be. -/
def quotedIfNeeded (o : Octets) (more : List Char := []) : Octets :=
  if needsQuotes more o then shellQuoted o else o

/-- A file name in front of a message, which a colon ends. -/
def fileName (o : Octets) : Octets := quotedIfNeeded o [':']

/-! ### Quotes for a reader -/

/-- A string between single quotes, with escapes for what would be misread. -/
def quoted (o : Octets) : Octets :=
  '\'' :: (o.flatMap fun c =>
    if c = '\'' || c = '\\' then ['\\', c]
    else if isPrintable c then [c]
    else escape c) ++ ['\'']

end LineShell.Octets
