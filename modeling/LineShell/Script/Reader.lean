import LineShell.Script.Syntax

/-!
# Reading a script

A script is read byte by byte.  A backslash before the end of a line joins the line to the
next one.  What was given so far may not be all of the script; where it ends too early,
reading is tried again with more of it.

## Main definitions

* `Token` — the tokens of a script, with their names in messages.
* `Reader` — what is left to be read.
* `Reading` — a computation that reads.
* `raw`, `joined`, `peek` — the next byte.
-/

namespace LineShell.Script

/-! ### Tokens -/

/-- Words with a meaning of their own where a command may begin. -/
inductive Keyword where
  | bang
  | caseOf
  | doBody
  | done
  | elseIf
  | elseBody
  | esac
  | fi
  | forEach
  | ifTest
  | inList
  | thenBody
  | untilTest
  | whileTest
  | openBrace
  | closeBrace
deriving DecidableEq, Repr

namespace Keyword

/-- All of them, with their spelling. -/
def spellings : List (String × Keyword) :=
  [("!", .bang), ("case", .caseOf), ("do", .doBody), ("done", .done), ("elif", .elseIf),
    ("else", .elseBody), ("esac", .esac), ("fi", .fi), ("for", .forEach), ("if", .ifTest),
    ("in", .inList), ("then", .thenBody), ("until", .untilTest), ("while", .whileTest),
    ("\x7b", .openBrace), ("\x7d", .closeBrace)]

/-- The spelling. -/
def spelling (k : Keyword) : Octets := ((spellings.find? (·.2 = k)).map (·.1.toList)).getD []

/-- The keyword with a spelling. -/
def ofOctets? (text : Octets) : Option Keyword :=
  (spellings.find? (·.1.toList = text)).map (·.2)

/-- Whether a list of commands ends before it. -/
def endsList : Keyword → Bool
  | .doBody | .done | .elseIf | .elseBody | .esac | .fi | .thenBody | .closeBrace => true
  | _ => false

end Keyword

/-- The tokens of a script. -/
inductive Token where
  | finish
  | newline
  | semicolon
  | ampersand
  | both
  | either
  | bar
  | opening
  | closing
  | caseEnd
  /-- A redirection, whose word follows; the flag tells whether tabs at the beginning of lines
  are taken away from its document. -/
  | redirection (descriptor : Nat) (route : Route) (strips : Bool)
  /-- A word, and whether something in it is protected. -/
  | word (word : Word) (isProtected : Bool)
  | keyword (keyword : Keyword)

namespace Token

/-- Puts a text between quotes. -/
def inQuotes (text : Octets) : Octets := '"' :: text ++ ['"']

/-- How a token is called in messages. -/
def name : Token → Octets
  | .finish => "end of file"
  | .newline => "newline"
  | .semicolon => inQuotes ";"
  | .ampersand => inQuotes "&"
  | .both => inQuotes "&&"
  | .either => inQuotes "||"
  | .bar => inQuotes "|"
  | .opening => inQuotes "("
  | .closing => inQuotes ")"
  | .caseEnd => inQuotes ";;"
  | .redirection _ _ _ => "redirection"
  | .word _ _ => "word"
  | .keyword k => inQuotes k.spelling

/-- Whether a list of commands ends before it. -/
def endsList : Token → Bool
  | .finish | .closing | .caseEnd => true
  | .keyword k => k.endsList
  | _ => false

end Token

/-! ### The reader -/

/-- A document that was announced. -/
structure Pending where
  /-- Its number. -/
  number : Nat
  /-- The line that ends it. -/
  marker : Octets
  /-- Whether tabs at the beginning of lines are taken away. -/
  strips : Bool
  /-- Whether nothing is put in. -/
  isLiteral : Bool
deriving DecidableEq, Repr

/-- An alias whose text is being read. -/
structure AliasUse where
  name : Octets
  /-- The number of bytes that are left after its text. -/
  after : Nat
  /-- Whether its text ends in a blank, so that the word after it may be an alias as well. -/
  endsInBlank : Bool
deriving DecidableEq, Repr

/-- What is left to be read. -/
structure Reader where
  /-- The bytes. -/
  rest : Octets
  /-- The number of the line. -/
  line : Nat := 1
  /-- Whether nothing follows the bytes. -/
  isWhole : Bool := true
  /-- A token that was given back. -/
  pushed : Option Token := none
  /-- The last token. -/
  last : Token := .newline
  /-- The documents that were announced and not yet read. -/
  pending : List Pending := []
  /-- The document that is being read. -/
  document : Option Pending := none
  /-- The documents that were read, by their numbers. -/
  documents : List (Nat × Word) := []
  /-- The number of the next document. -/
  nextDocument : Nat := 0
  /-- Words that stand for other text. -/
  aliases : List (Octets × Octets) := []
  /-- Those of them whose text is being read. -/
  inUse : List AliasUse := []
  /-- The number of bytes that were left before the last word and the blanks in front of it. It is
  known where there are aliases. -/
  before : Nat := 0
  /-- The number of bytes that were left from the last word on. -/
  begun : Nat := 0

/-- The number of bytes that are left, where there are aliases. -/
def Reader.left (r : Reader) : Nat := if r.aliases.isEmpty then 0 else r.rest.length

/-- Why reading failed. -/
inductive Fault where
  /-- More is needed. -/
  | incomplete
  /-- There is something wrong in a line. -/
  | wrong (line : Nat) (text : Octets)
deriving DecidableEq, Repr

/-- A computation that reads. -/
abbrev Reading := StateT Reader (Except Fault)

/-- More steps than reading can take. -/
def mostSteps : Nat := 2 ^ 62

/-- Says that something is wrong. -/
def wrong {α : Type} (text : Octets) : Reading α := do
  throw (.wrong (← get).line text)

/-- Says that the last token should not stand there, and what should. -/
def unexpected {α : Type} (expected : Option Token := none) : Reading α := do
  let found := (← get).last.name ++ " unexpected"
  match expected with
  | none => wrong found
  | some token => wrong (found ++ " (expecting " ++ token.name ++ ")")

/-! ### Bytes -/

/-- The number of the line and what is left after joins. -/
def skipJoins (line : Nat) : Octets → Nat × Octets
  | '\\' :: '\n' :: rest => skipJoins (line + 1) rest
  | text => (line, text)

/-- The next byte, which is taken. -/
def raw : Reading (Option Char) := do
  let r ← get
  match r.rest with
  | [] => if r.isWhole then pure none else throw .incomplete
  | c :: rest =>
    set { r with rest, line := if c = '\n' then r.line + 1 else r.line }
    pure (some c)

/-- The next byte after joins, which is not taken. -/
def peek : Reading (Option Char) := do
  let r ← get
  let (line, rest) := skipJoins r.line r.rest
  if !r.isWhole && (rest = [] || rest = ['\\']) then throw .incomplete
  else
    set { r with line, rest }
    pure rest.head?

/-- The next byte after joins, which is taken. -/
def joined : Reading (Option Char) := do
  let _ ← peek
  raw

/-- Takes the next byte if it is the given one. -/
def takeIf (c : Char) : Reading Bool := do
  if (← peek) = some c then
    let _ ← raw
    pure true
  else pure false

/-- Takes bytes while a condition holds. -/
def takeWhile (test : Char → Bool) (taken : Octets) : Nat → Reading Octets
  | 0 => pure taken.reverse
  | steps + 1 => do
    match ← peek with
    | some c =>
      if test c then
        let _ ← raw
        takeWhile test (c :: taken) steps
      else pure taken.reverse
    | none => pure taken.reverse

/-- Gives a token back. -/
def pushBack (token : Token) : Reading Unit :=
  modify fun r => { r with pushed := some token, last := token }

end LineShell.Script
