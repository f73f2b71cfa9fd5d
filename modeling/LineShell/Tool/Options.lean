import LineShell.Tool.Basic

/-!
# Options of tools

Options have a letter or a long name, or both.  Letters may stand together after one
hyphen; long names follow two hyphens and may be cut short as long as it is clear which one
is meant.  A value follows in the same argument or is the next argument.

## Main definitions

* `Tool.Grammar` — the options that a tool has.
* `Tool.Parsed` — the options that were found, and the first thing that is wrong.
* `Tool.Grammar.parse` — finds the options in the arguments.
* `Tool.withOptions`, `Tool.withSettings` — run a tool on what was found.
-/

namespace LineShell.Tool

/-! ### Grammars -/

/-- Whether an option has a value. -/
inductive Arity where
  | none
  | required
  /-- Only if it stands in the same argument. -/
  | optional
deriving DecidableEq, Repr

/-- An option with a long name. -/
structure LongOption where
  /-- Its name. -/
  name : String
  /-- Whether it has a value. -/
  arity : Arity
  /-- What it is known by, which is its letter if it has one. -/
  key : Char
deriving DecidableEq, Repr

/-- What is done about arguments that are no options. -/
inductive Placement where
  /-- Options may follow them. -/
  | any
  /-- They are found in their place among the options, with an own key. -/
  | kept
  /-- The first of them ends the options. -/
  | first
deriving DecidableEq, Repr

/-- The options that a tool has. -/
structure Grammar where
  /-- The letters. A colon after a letter says that it has a value. -/
  letters : String := ""
  /-- The long names. -/
  long : List LongOption := []
  /-- What is done about other arguments. -/
  order : Placement := .any

/-- The key of arguments that are kept among the options. -/
def operandKey : Char := '\x01'

/-- The key of the option that asks for help. -/
def helpKey : Char := '\x02'

/-- The key of the option that asks for the version. -/
def versionKey : Char := '\x03'

/-- Options that all tools have. -/
def commonOptions : List LongOption :=
  [⟨"help", .none, helpKey⟩, ⟨"version", .none, versionKey⟩]

/-- What was found in arguments. -/
structure Parsed where
  /-- The options before the first thing that is wrong, with their values. -/
  options : List (Char × Option Octets) := []
  /-- The other arguments. -/
  operands : List Octets := []
  /-- What is wrong. -/
  problem : Option Octets := none
deriving DecidableEq, Repr

namespace Parsed

/-- Adds an option. -/
def add (key : Char) (value : Option Octets) (p : Parsed) : Parsed :=
  { p with options := p.options ++ [(key, value)] }

/-- Whether an option was found. -/
def has (p : Parsed) (key : Char) : Bool := p.options.any (·.1 == key)

/-- The last value of an option. -/
def value? (p : Parsed) (key : Char) : Option Octets :=
  (p.options.filterMap fun (k, v) => if k == key then v else none).getLast?

/-- The last one of some options that was found. -/
def lastOf? (p : Parsed) (keys : List Char) : Option Char :=
  ((p.options.map (·.1)).filter (keys.contains ·)).getLast?

end Parsed

namespace Grammar

/-- Whether a letter has a value; there is no answer for a letter that is no option. -/
def arityOf? (letters : List Char) (c : Char) : Option Arity :=
  match letters with
  | [] => none
  | letter :: ':' :: ':' :: rest => if letter = c then some .optional else arityOf? rest c
  | letter :: ':' :: rest => if letter = c then some .required else arityOf? rest c
  | letter :: rest => if letter = c then some .none else arityOf? rest c

/-- What became of an argument: the options in it, and whether the last one still needs a
value. -/
structure Taken where
  parsed : Parsed
  owed : Option (Char × Octets) := none

/-- Finds the options in letters that stand together. -/
def takeLetters (letters : List Char) (p : Parsed) : Octets → Taken
  | [] => { parsed := p }
  | c :: rest =>
    match if c = ':' then none else arityOf? letters c with
    | none => { parsed := { p with problem := some ("invalid option -- '" ++ [c, '\'']) } }
    | some .none => takeLetters letters (p.add c none) rest
    | some .optional =>
      { parsed := p.add c (if rest.isEmpty then none else some rest) }
    | some .required =>
      if rest.isEmpty then
        { parsed := p
          owed := some (c, "option requires an argument -- '" ++ [c, '\'']) }
      else { parsed := p.add c (some rest) }

/-- The long options that a name may stand for: the one with this name, or all that begin
with it. -/
def matching (long : List LongOption) (name : Octets) : List LongOption :=
  match long.find? fun o => o.name.toList == name with
  | some o => [o]
  | none => long.filter fun o => name.isPrefixOf o.name.toList

/-- Finds the option in a long name, which may be followed by a value. -/
def takeLong (long : List LongOption) (p : Parsed) (text : Octets) : Taken :=
  let name := text.takeWhile (· ≠ '=')
  let value := if text.contains '=' then some (text.drop (name.length + 1)) else none
  let refuse (problem : Octets) : Taken := { parsed := { p with problem := some problem } }
  match matching long name with
  | [] => refuse ("unrecognized option '--" ++ text ++ "'")
  | o :: others =>
    if others.any fun other => other.key ≠ o.key || other.arity ≠ o.arity then
      refuse ("option '--" ++ text ++ "' is ambiguous; possibilities:" ++
        (o :: others).flatMap fun o => Octets.ofText (" '--" ++ o.name ++ "'"))
    else match o.arity, value with
      | .none, some _ => refuse ("option '--" ++ o.name ++ "' doesn't allow an argument" : String)
      | .required, none =>
        { parsed := p
          owed := some (o.key, ("option '--" ++ o.name ++ "' requires an argument" : String)) }
      | _, _ => { parsed := p.add o.key value }

/-- Finds the options in arguments; `owed` is an option that still needs its value, with
what is wrong if there is none. -/
def parseFrom (g : Grammar) (p : Parsed) (owed : Option (Char × Octets)) :
    List Octets → Parsed
  | [] =>
    match owed with
    | some (_, problem) => { p with problem := some problem }
    | none => p
  | argument :: rest =>
    match owed with
    | some (key, _) => g.parseFrom (p.add key (some argument)) none rest
    | none =>
      let go (t : Taken) : Parsed :=
        if t.parsed.problem.isSome then t.parsed else g.parseFrom t.parsed t.owed rest
      match argument with
      | ['-', '-'] =>
        match g.order with
        | .kept =>
          { p with options := p.options ++ rest.map fun operand => (operandKey, some operand) }
        | _ => { p with operands := p.operands ++ rest }
      | '-' :: '-' :: text => go (takeLong (g.long ++ commonOptions) p text)
      | '-' :: c :: text => go (takeLetters g.letters.toList p (c :: text))
      | _ =>
        match g.order with
        | .any => g.parseFrom { p with operands := p.operands ++ [argument] } none rest
        | .kept => g.parseFrom (p.add operandKey (some argument)) none rest
        | .first => { p with operands := p.operands ++ argument :: rest }

/-- Finds the options in arguments. -/
def parse (g : Grammar) (arguments : List Octets) : Parsed := g.parseFrom {} none arguments

end Grammar

/-- Runs a tool on the options that were found in its arguments, unless something is wrong
with them or a help text is asked for. -/
def withOptions (g : Grammar) (i : Invocation) (arguments : List Octets)
    (run : Parsed → Program Nat) (code : Nat := 1) : Program Nat :=
  let p := g.parse arguments
  match p.problem with
  | some problem => misuse i problem code
  | none => if p.has helpKey || p.has versionKey then pure 0 else run p

/-- Why a tool does not take the value of an option, or an argument. -/
structure Refusal where
  /-- What is wrong. -/
  text : Octets
  /-- Whether the tool adds where to find help. -/
  advised : Bool := false
  /-- The exit code, if it is not the one that the tool has for refusals. -/
  code : Option Nat := none
deriving DecidableEq, Repr

/-- Complains about a refusal, and ends. -/
def Refusal.raise {α : Type} (r : Refusal) (i : Invocation) (code : Nat := 1) : Program α :=
  if r.advised then misuse i r.text (r.code.getD code) else fail i r.text (r.code.getD code)

/-! ### Words as values -/

/-- The words for the same values side by side. -/
def listWords {α : Type} [DecidableEq α] (last : Option α) : List (String × α) → Octets
  | [] => []
  | (word, a) :: rest =>
    (if last = some a then Octets.ofText ", " else Octets.ofText "\n  - ") ++
      Octets.quoted (Octets.ofText word) ++ listWords (some a) rest

/-- The value that a word, or the beginning of one, stands for. -/
def valueOfWord {α : Type} [DecidableEq α] (option : Octets) (words : List (String × α))
    (text : Octets) : Except Refusal α :=
  let refuse (what : Octets) : Except Refusal α := .error {
    text := what ++ " argument " ++ Octets.quoted text ++ " for " ++ Octets.quoted option ++
      "\nValid arguments are:" ++ listWords none words
    advised := true
    code := some 1 }
  match words.find? (·.1.toList == text) with
  | some (_, a) => .ok a
  | none =>
    match (words.filter fun (word, _) => text.isPrefixOf word.toList).map (·.2) with
    | [] => refuse "invalid"
    | a :: others => if others.all (· = a) then .ok a else refuse "ambiguous"

/-- Runs a tool with the settings that its options make, one after the other. An option that
is refused comes before what is wrong with later arguments. -/
def withSettings {σ : Type} (g : Grammar) (i : Invocation) (arguments : List Octets)
    (start : σ) (set : σ → Char → Option Octets → Except Refusal σ)
    (run : σ → List Octets → Program Nat) (code : Nat := 1) : Program Nat :=
  let p := g.parse arguments
  match p.options.foldlM (fun s (key, value) => set s key value) start with
  | .error refusal => refusal.raise i code
  | .ok s =>
    match p.problem with
    | some problem => misuse i problem code
    | none => if p.has helpKey || p.has versionKey then pure 0 else run s p.operands

end LineShell.Tool
