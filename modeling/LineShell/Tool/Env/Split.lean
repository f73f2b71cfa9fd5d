import LineShell.Environment
import LineShell.Text.Quoted

/-!
# Arguments in one string

A string can hold several arguments with blanks between them.  Quotes keep blanks together, a
backslash takes the meaning from a byte or gives one to it, and the values of variables can be
put in.

## Main definitions

* `Tool.Env.Split` — how far a string has been taken apart.
* `Tool.Env.split` — the arguments in a string.
-/

namespace LineShell.Tool.Env

/-- How far a string has been taken apart. -/
structure Split where
  /-- The arguments before the current one, the last one first. -/
  done : List Octets := []
  /-- The current argument in reverse, if one has begun. -/
  held : Option Octets := none
  /-- The quote that is open. -/
  quote : Option Char := none
deriving DecidableEq, Repr

namespace Split

/-- Adds bytes to the current argument. -/
def add (text : Octets) (s : Split) : Split :=
  { s with held := some (text.reverse ++ s.held.getD []) }

/-- Ends the current argument. -/
def close (s : Split) : Split :=
  match s.held with
  | none => s
  | some held => { s with done := held.reverse :: s.done, held := none }

/-- The arguments at the end. -/
def arguments (s : Split) : List Octets := s.close.done.reverse

end Split

/-- Whether a byte stands between arguments. -/
def isGap (c : Char) : Bool := " \t\n\x0b\x0c\r".toList.contains c

/-- The byte that a letter after a backslash stands for. -/
def escaped? (c : Char) : Option Char :=
  match c with
  | 'f' => some '\x0c'
  | 'n' => some '\n'
  | 'r' => some '\r'
  | 't' => some '\t'
  | 'v' => some '\x0b'
  | '"' | '#' | '$' | '\'' | '\\' => some c
  | _ => none

/-- The name of a variable in braces at the start of a text, and what follows it. -/
def braced? (text : Octets) : Option (Octets × Octets) :=
  match text with
  | '{' :: rest =>
    let name := rest.takeWhile fun c => c.isAlphanum || c = '_'
    match rest.drop name.length with
    | '}' :: after =>
      if name.isEmpty || name.head?.any Char.isDigit then none else some (name, after)
    | _ => none
  | _ => none

/-- Takes a string apart, or tells what is wrong with it. -/
def splitFrom (environment : List Octets) : Nat → Split → Octets → Except Octets (List Octets)
  | 0, s, _ => .ok s.arguments
  | _ + 1, s, [] =>
    if s.quote.isSome then .error "no terminating quote in -S string" else .ok s.arguments
  | fuel + 1, s, c :: rest =>
    let go := splitFrom environment fuel
    let plain := go (s.add [c]) rest
    if s.quote = some '\'' then
      match c, rest with
      | '\'', _ => go { s.add [] with quote := none } rest
      | '\\', '\\' :: rest => go (s.add ['\\']) rest
      | '\\', '\'' :: rest => go (s.add ['\'']) rest
      | _, _ => plain
    else match c, rest with
      | '"', _ =>
        go { s.add [] with quote := if s.quote = some '"' then none else some '"' } rest
      | '\'', _ => if s.quote.isSome then plain else go { s.add [] with quote := some '\'' } rest
      | '\\', [] => .error "invalid backslash at end of string in -S"
      | '\\', 'c' :: _ =>
        if s.quote.isSome then .error "'\\c' must not appear in double-quoted -S string"
        else .ok s.arguments
      | '\\', '_' :: rest => if s.quote.isSome then go (s.add [' ']) rest else go s.close rest
      | '\\', c :: rest =>
        match escaped? c with
        | none => .error ("invalid sequence '\\" ++ [c] ++ "' in -S")
        | some byte => go (s.add [byte]) rest
      | '$', text =>
        match braced? text with
        | some (name, rest) =>
          match Environment.value? name environment with
          | some value => go (s.add value) rest
          | none => go s rest
        | none =>
          .error ("only $\x7bVARNAME\x7d expansion is supported, error at: " ++ c :: text)
      | '#', _ => if s.held.isNone && s.quote.isNone then .ok s.arguments else plain
      | c, _ => if s.quote.isNone && isGap c then go s.close rest else plain

/-- The arguments in a string. -/
def split (environment : List Octets) (text : Octets) : Except Octets (List Octets) :=
  splitFrom environment (text.length + 1) {} text

end LineShell.Tool.Env
