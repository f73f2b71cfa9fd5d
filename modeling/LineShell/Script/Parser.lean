import LineShell.Script.Lexer

/-!
# The grammar of scripts

Commands are put together from tokens by recursive descent.  Every function reads as far
as its part of the grammar goes; a token that does not belong to it is given back.

## Main definitions

* `Expecting` — what kinds of tokens are looked for.
* `readToken` — the next token, with keywords and aliases replaced.
* `innerList`, `andOr`, `pipeline`, `command` — the parts of the grammar.
* `Parsed`, `parseLine` — the next complete command of a script.
-/

namespace LineShell.Script

/-! ### Looking for tokens -/

/-- What is done before and with the next token. -/
structure Expecting where
  /-- Line ends are passed over. -/
  pastLines : Bool := false
  /-- Words may be keywords. -/
  keywords : Bool := false
  /-- Words may be aliases. -/
  aliases : Bool := false
  /-- The word ends a document. -/
  endsDocument : Bool := false
deriving DecidableEq, Repr

/-- Where a command begins. -/
def Expecting.start : Expecting := { keywords := true, aliases := true }

/-- Where a command begins, maybe on a later line. -/
def Expecting.startBelow : Expecting := { Expecting.start with pastLines := true }

/-- The next token, or the one that was given back. -/
def takeToken (inner : Inner) (e : Expecting) : Reading Token := do
  match (← get).pushed with
  | some token =>
    modify fun r => { r with pushed := none }
    pure token
  | none =>
    modify fun r => { r with before := r.left }
    token inner e.endsDocument mostSteps

/-- The text of an alias, unless that is being read already. -/
def aliasText? (r : Reader) (name : Octets) : Option Octets :=
  if r.inUse.any fun use => use.name = name && use.after < r.begun then none
  else (r.aliases.find? (·.1 = name)).map (·.2)

/-- Whether the text of an alias that ends in a blank has ended right before the last word. -/
def followsBlank (r : Reader) : Bool :=
  r.inUse.any fun use => use.endsInBlank && r.begun ≤ use.after && use.after < r.before

/-- Whether a byte is a blank. -/
def isBlankByte (c : Char) : Bool := c = ' ' || c = '\t'

/-- Lets the text of an alias be read next. -/
def readAlias (name text : Octets) : Reading Unit :=
  modify fun r =>
    let use : AliasUse :=
      { name, after := r.left, endsInBlank := text.getLast?.any isBlankByte }
    { r with
      rest := text ++ r.rest
      inUse := use :: r.inUse.filter (·.after < r.begun) }

/-- The next token. -/
def readToken (inner : Inner) (e : Expecting) : Nat → Reading Token
  | 0 => pure .finish
  | steps + 1 => do
    let found ← takeToken inner e
    match found with
    | .newline =>
      if e.pastLines then
        takeDocuments inner
        readToken inner e steps
      else
        modify fun r => { r with last := found }
        pure found
    | .word word false =>
      match word.plain? with
      | none =>
        modify fun r => { r with last := found }
        pure found
      | some text =>
        match if e.keywords then Keyword.ofOctets? text else none with
        | some k =>
          modify fun r => { r with last := .keyword k }
          pure (.keyword k)
        | none =>
          let r ← get
          match if e.aliases || followsBlank r then aliasText? r text else none with
          | some replacement =>
            readAlias text replacement
            readToken inner e steps
          | none =>
            modify fun r => { r with last := found }
            pure found
    | _ =>
      modify fun r => { r with last := found }
      pure found

/-! ### Parts of commands -/

/-- The name of the file in a redirection, or the marker of its document. -/
def redirectionWord (inner : Inner) (descriptor : Nat) (route : Route) (strips : Bool) :
    Reading Redirection := do
  let endsDocument := match route with
    | .document _ => true
    | _ => false
  match ← readToken inner { endsDocument } mostSteps, route with
  | .word word isProtected, .document number =>
    let p : Pending := { number, marker := word.text, strips, isLiteral := isProtected }
    modify fun r => { r with pending := r.pending ++ [p] }
    pure (.mk descriptor route [])
  | .word word _, _ => pure (.mk descriptor route word)
  | _, _ => unexpected

/-- The redirections after a command. -/
def redirectionsFrom (inner : Inner) (done : List Redirection) : Nat → Reading (List Redirection)
  | 0 => pure done.reverse
  | steps + 1 => do
    match ← readToken inner .start mostSteps with
    | .redirection descriptor route strips =>
      let redirection ← redirectionWord inner descriptor route strips
      redirectionsFrom inner (redirection :: done) steps
    | token =>
      pushBack token
      pure done.reverse

/-- The words after `in`, up to the end of the line. -/
def loopWords (inner : Inner) (done : List Word) : Nat → Reading (List Word)
  | 0 => pure done.reverse
  | steps + 1 => do
    match ← readToken inner {} mostSteps with
    | .word word _ => loopWords inner (word :: done) steps
    | .newline | .semicolon => pure done.reverse
    | _ => unexpected

/-- The patterns of a case, the first of which was read already. Whatever stands in their place
counts as one. -/
def casePatterns (inner : Inner) (done : List Word) (token : Token) :
    Nat → Reading (List Word)
  | 0 => pure done.reverse
  | steps + 1 => do
    let word : Word := match token with
      | .word word _ => word
      | .keyword k => Word.ofOctets k.spelling
      | _ => []
    match ← readToken inner {} mostSteps with
    | .bar =>
      let next ← readToken inner {} mostSteps
      casePatterns inner (word :: done) next steps
    | .closing => pure (word :: done).reverse
    | _ => unexpected (some .closing)

/-- The names of builtins that are part of the language more than others. -/
def specialNames : List String :=
  [".", ":", "break", "continue", "eval", "exec", "exit", "export", "readonly", "return", "set",
    "shift", "times", "trap", "unset"]

/-- The name of a function, which is the only word so far. -/
def functionName (words : List Word) : Reading Octets := do
  match (words.head?.bind Word.plain?).filter isName with
  | some name =>
    if specialNames.any (·.toList = name) then wrong "Bad function name" else pure name
  | none => wrong "Bad function name"

/-- Puts commands one after the other. -/
def inSequence (first : Option Command) (second : Command) : Command :=
  match first with
  | none => second
  | some first => .sequence first second

/-- A command that nobody waits for. -/
def inBackground (line : Nat) : Command → Command
  | .redirected line command redirections => .background line command redirections
  | command => .background line command []

/-- Adds redirections to a command. -/
def withRedirections (line : Nat) (command : Command) : List Redirection → Command
  | [] => command
  | redirections =>
    match command with
    | .subshell line command _ => .subshell line command redirections
    | command => .redirected line command redirections

/-! ### Commands -/

/-- Where a list of commands stands. -/
inductive Extent where
  /-- On a line, at whose end it ends. -/
  | line
  /-- In a command, where there must be one. -/
  | body
  /-- In brackets or a case, where it may be empty. -/
  | enclosed
deriving DecidableEq, Repr

/-- Reads a token that must be there. -/
def require (inner : Inner) (e : Expecting) (expected : Token) (test : Token → Bool) :
    Reading Unit := do
  if test (← readToken inner e mostSteps) then pure () else unexpected (some expected)

/-- Reads a keyword that must be there. -/
def requireKeyword (inner : Inner) (e : Expecting) (k : Keyword) : Reading Unit :=
  require inner e (.keyword k) fun token =>
    match token with
    | .keyword other => other = k
    | _ => false

/-- Reads a closing bracket that must be there. -/
def requireClosing (inner : Inner) : Reading Unit :=
  require inner {} .closing fun token =>
    match token with
    | .closing => true
    | _ => false

mutual

/-- How a list in a word is read. -/
def innerList (steps : Nat) (closes : Bool) : Reading (Option Command) :=
  match steps with
  | 0 => pure none
  | steps + 1 => do
    let command ← listFrom steps .enclosed true none
    if closes then requireClosing (innerList steps)
    pure command

/-- Reads the rest of a list of commands; `isFirst` tells whether nothing was read of it. -/
def listFrom (steps : Nat) (extent : Extent) (isFirst : Bool) (done : Option Command) :
    Reading (Option Command) :=
  match steps with
  | 0 => pure done
  | steps + 1 => do
    let inner := innerList steps
    let found ← readToken inner { Expecting.start with pastLines := extent ≠ .line } mostSteps
    match found with
    | .newline =>
      takeDocuments inner
      pure done
    | .finish =>
      takeDocuments inner
      pushBack found
      pure done
    | _ =>
      pushBack found
      if found.endsList && (extent = .enclosed || (extent = .body && !isFirst)) then pure done
      else
        let next ← andOr steps
        let line := (← get).line
        let token ← readToken inner {} mostSteps
        match token with
        | .ampersand =>
          listFrom steps extent false (some (inSequence done (inBackground line next)))
        | .semicolon => listFrom steps extent false (some (inSequence done next))
        | .newline | .finish =>
          pushBack token
          listFrom steps extent false (some (inSequence done next))
        | _ =>
          if extent = .line then unexpected
          else
            pushBack token
            pure (some (inSequence done next))

/-- Reads pipelines that depend on one another. -/
def andOr (steps : Nat) : Reading Command :=
  match steps with
  | 0 => unexpected
  | steps + 1 => do andOrFrom steps (← pipeline steps {})

/-- Reads the pipelines that depend on one. -/
def andOrFrom (steps : Nat) (done : Command) : Reading Command :=
  match steps with
  | 0 => unexpected
  | steps + 1 => do
    match ← readToken (innerList steps) {} mostSteps with
    | .both => andOrFrom steps (.and done (← pipeline steps .startBelow))
    | .either => andOrFrom steps (.or done (← pipeline steps .startBelow))
    | token =>
      pushBack token
      pure done

/-- Reads a pipeline. -/
def pipeline (steps : Nat) (e : Expecting) : Reading Command :=
  match steps with
  | 0 => unexpected
  | steps + 1 => do
    match ← readToken (innerList steps) e mostSteps with
    | .keyword .bang =>
      let first ← command steps .start
      pure (.not (← pipelineFrom steps [first]))
    | token =>
      pushBack token
      let first ← command steps {}
      pipelineFrom steps [first]

/-- Reads the rest of a pipeline. -/
def pipelineFrom (steps : Nat) (done : List Command) : Reading Command :=
  match steps with
  | 0 => unexpected
  | steps + 1 => do
    match ← readToken (innerList steps) {} mostSteps with
    | .bar =>
      let next ← command steps .startBelow
      pipelineFrom steps (next :: done)
    | token =>
      pushBack token
      match done with
      | [only] => pure only
      | done => pure (.pipeline done.reverse)

/-- Reads a command. -/
def command (steps : Nat) (e : Expecting) : Reading Command :=
  match steps with
  | 0 => unexpected
  | steps + 1 => do
    let inner := innerList steps
    let line := (← get).line
    match ← readToken inner e mostSteps with
    | .keyword .ifTest =>
      let condition ← body steps
      requireKeyword inner {} .thenBody
      let yes ← body steps
      let no ← alternatives steps
      requireKeyword inner {} .fi
      finishCommand steps line (.conditional condition yes no)
    | .keyword .whileTest => loopCommand steps line false
    | .keyword .untilTest => loopCommand steps line true
    | .keyword .forEach =>
      match ← readToken inner {} mostSteps with
      | .word word false =>
        match word.plain?.filter isName with
        | none => wrong "Bad for loop variable"
        | some name =>
          let words ←
            match ← readToken inner .startBelow mostSteps with
            | .keyword .inList => loopWords inner [] mostSteps
            | .semicolon => pure [[Segment.parameter ['@'] .value false [] true]]
            | token =>
              pushBack token
              pure [[Segment.parameter ['@'] .value false [] true]]
          requireKeyword inner .startBelow .doBody
          let body ← body steps
          requireKeyword inner {} .done
          finishCommand steps line (.each line name words body)
      | _ => wrong "Bad for loop variable"
    | .keyword .caseOf =>
      match ← readToken inner {} mostSteps with
      | .word word _ =>
        requireKeyword inner .startBelow .inList
        let cases ← casesFrom steps []
        finishCommand steps line (.choice line word cases)
      | _ => unexpected (some (.word [] false))
    | .opening =>
      let inside ← body steps
      requireClosing inner
      finishCommand steps line (.subshell line inside [])
    | .keyword .openBrace =>
      let inside ← body steps
      requireKeyword inner {} .closeBrace
      finishCommand steps line inside
    | token@(.word _ _) | token@(.redirection _ _ _) =>
      pushBack token
      simpleFrom steps (← get).line true [] [] []
    | _ => unexpected

/-- Reads a list of commands in a command. There is none only where the script ends, so that
whatever must follow is missing too. -/
def body (steps : Nat) : Reading Command :=
  match steps with
  | 0 => unexpected
  | steps + 1 => do
    pure ((← listFrom steps .body true none).getD (.simple (← get).line [] [] []))

/-- Reads the loop after its keyword. -/
def loopCommand (steps : Nat) (line : Nat) (untilHolds : Bool) : Reading Command :=
  match steps with
  | 0 => unexpected
  | steps + 1 => do
    let condition ← body steps
    requireKeyword (innerList steps) {} .doBody
    let repeated ← body steps
    requireKeyword (innerList steps) {} .done
    finishCommand steps line (.loop untilHolds condition repeated)

/-- Reads the redirections of a command. -/
def finishCommand (steps : Nat) (line : Nat) (command : Command) : Reading Command :=
  match steps with
  | 0 => unexpected
  | steps + 1 => do
    let redirections ← redirectionsFrom (innerList steps) [] mostSteps
    pure (withRedirections line command redirections)

/-- Reads what is done if a condition does not hold. -/
def alternatives (steps : Nat) : Reading (Option Command) :=
  match steps with
  | 0 => unexpected
  | steps + 1 => do
    match ← readToken (innerList steps) {} mostSteps with
    | .keyword .elseIf =>
      let condition ← body steps
      requireKeyword (innerList steps) {} .thenBody
      let yes ← body steps
      pure (some (.conditional condition yes (← alternatives steps)))
    | .keyword .elseBody => pure (some (← body steps))
    | token =>
      pushBack token
      pure none

/-- Reads the rest of the cases of a choice. -/
def casesFrom (steps : Nat) (done : List (List Word × Option Command)) :
    Reading (List (List Word × Option Command)) :=
  match steps with
  | 0 => unexpected
  | steps + 1 => do
    let inner := innerList steps
    let e : Expecting := { pastLines := true, keywords := true }
    match ← readToken inner e mostSteps with
    | .keyword .esac => pure done.reverse
    | token =>
      let first ← match token with
        | .opening => readToken inner {} mostSteps
        | token => pure token
      let patterns ← casePatterns inner [] first mostSteps
      let inside ← listFrom steps .enclosed true none
      let done := (patterns, inside) :: done
      match ← readToken inner e mostSteps with
      | .keyword .esac => pure done.reverse
      | .caseEnd => casesFrom steps done
      | _ => unexpected (some .caseEnd)

/-- Reads the rest of a simple command, or the definition of a function. What was read of it is
given in reverse; words may be aliases and give values to variables if `isOpen` holds. -/
def simpleFrom (steps : Nat) (line : Nat) (isOpen : Bool) (assignments words : List Word)
    (redirections : List Redirection) : Reading Command :=
  match steps with
  | 0 => unexpected
  | steps + 1 => do
    let inner := innerList steps
    let finish (token : Token) : Reading Command := do
      pushBack token
      pure (.simple line assignments.reverse words.reverse redirections.reverse)
    match ← readToken inner { aliases := isOpen } mostSteps with
    | .word word _ =>
      if isOpen && word.assignment?.isSome then
        simpleFrom steps line true (word :: assignments) words redirections
      else simpleFrom steps line false assignments (word :: words) redirections
    | .redirection descriptor route strips =>
      let redirection ← redirectionWord inner descriptor route strips
      simpleFrom steps line isOpen assignments words (redirection :: redirections)
    | .opening =>
      if words.length = 1 && assignments.isEmpty && redirections.isEmpty then
        requireClosing inner
        let name ← functionName words
        pure (.define name (← command steps .startBelow))
      else finish .opening
    | token => finish token

end

/-! ### Complete commands -/

/-- The next complete command of a script. -/
inductive Parsed where
  /-- There is none. -/
  | finished
  /-- A line without any command. -/
  | blank (next : Reader)
  /-- A command; the flag tells whether the script ends with it. -/
  | command (command : Command) (isLast : Bool) (next : Reader)

/-- Reads the next complete command. -/
def parseLine (r : Reader) : Except Fault Parsed :=
  match (listFrom mostSteps .line true none).run { r with pushed := none, pending := [] } with
  | .error fault => .error fault
  | .ok (found, next) =>
    let atEnd := match next.pushed with
      | some .finish => true
      | _ => false
    match found with
    | none => .ok (if atEnd then .finished else .blank next)
    | some command => .ok (.command command atEnd next)

end LineShell.Script
