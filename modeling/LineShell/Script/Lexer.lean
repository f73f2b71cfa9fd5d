import LineShell.Script.Reader

/-!
# Words and tokens

The tokens of a script are words, operators and redirections.  Within a word there may be
quotes, parameters, arithmetic and whole commands; how commands are read is a parameter
here.

## Main definitions

* `wordFrom`, `quotesFrom`, `bracesFrom`, `arithmeticFrom` — words and what they hold.
* `documentFrom` — documents.
* `token` — tokens.
-/

namespace LineShell.Script

/-- How a list of commands in a word is read; the flag tells whether a bracket closes it. -/
abbrev Inner := Bool → Reading (Option Command)

/-! ### Bytes of words -/

/-- Whether a byte ends a word. -/
def endsWord (c : Char) : Bool :=
  c = ' ' || c = '\t' || c = '\n' || c = ';' || c = '&' || c = '|' || c = '(' || c = ')' ||
    c = '<' || c = '>'

/-- Whether a byte is the name of a parameter. -/
def isSpecial (c : Char) : Bool :=
  c.isDigit || c = '@' || c = '*' || c = '#' || c = '?' || c = '-' || c = '$' || c = '!'

/-- A byte that may be protected. -/
def byteSegment (isQuoted : Bool) (c : Char) : Segment := if isQuoted then .quoted c else .plain c

/-- What a backslash within double quotes and the byte after it stand for: only some bytes
need a backslash there. -/
def escapedInQuotes (special : List Char) (c : Option Char) : Word :=
  match c with
  | none => [.quoted '\\']
  | some c => if special.contains c then [.quoted c] else [.quoted '\\', .quoted c]

/-- Bytes that need a backslash within double quotes. -/
def quoteSpecials : List Char := ['\\', '\x60', '$', '"']

/-- Takes the rest of a quotation in single quotes. -/
def apostrophesFrom (taken : Octets) : Nat → Reading Octets
  | 0 => pure taken.reverse
  | steps + 1 => do
    match ← raw with
    | none => wrong "Unterminated quoted string"
    | some '\'' => pure taken.reverse
    | some c => apostrophesFrom (c :: taken) steps

/-- Takes the rest of a command in backquotes; `inQuotes` tells whether the place is within
double quotes. -/
def backquotesFrom (inQuotes : Bool) (taken : Octets) : Nat → Reading Octets
  | 0 => pure taken.reverse
  | steps + 1 => do
    match ← joined with
    | none => wrong "EOF in backquote substitution"
    | some '\x60' => pure taken.reverse
    | some '\\' =>
      match ← raw with
      | none => wrong "EOF in backquote substitution"
      | some c =>
        if c = '\\' || c = '\x60' || c = '$' || (inQuotes && c = '"') then
          backquotesFrom inQuotes (c :: taken) steps
        else backquotesFrom inQuotes (c :: '\\' :: taken) steps
    | some c => backquotesFrom inQuotes (c :: taken) steps

/-- Reads the command in a text. -/
def commandIn (inner : Inner) (text : Octets) : Reading (Option Command) := do
  let r ← get
  set ({ rest := text, nextDocument := r.nextDocument, aliases := r.aliases } : Reader)
  let command ← inner false
  let s ← get
  set { r with nextDocument := s.nextDocument, documents := r.documents ++ s.documents }
  pure command

/-- Reads the command up to a closing bracket. -/
def commandInBrackets (inner : Inner) : Reading (Option Command) := do
  let r ← get
  set { r with pushed := none, pending := [], document := none }
  let command ← inner true
  modify fun s =>
    { s with pushed := none, pending := r.pending, last := r.last, document := r.document }
  pure command

/-! ### Parameters -/

/-- The action that a byte after the name of a parameter stands for. -/
def actionOf? (c : Option Char) : Option Action :=
  match c with
  | some '-' => some .instead
  | some '+' => some .replace
  | some '?' => some .require
  | some '=' => some .assign
  | _ => none

/-- The name of a parameter in braces, and whether its length is meant. There is none if it
has no name. -/
def bracedName : Reading (Option (Octets × Bool)) := do
  match ← peek with
  | none => pure none
  | some c =>
    if beginsName c then pure (some (← takeWhile continuesName [] mostSteps, false))
    else if c.isDigit then pure (some (← takeWhile Char.isDigit [] mostSteps, false))
    else if c = '}' then pure none
    else
      let _ ← raw
      let next ← peek
      if c ≠ '#' then pure (if isSpecial c then some ([c], false) else none)
      else if next.any beginsName then
        pure (some (← takeWhile continuesName [] mostSteps, true))
      else if next.any Char.isDigit then
        pure (some (← takeWhile Char.isDigit [] mostSteps, true))
      else
        let start ← get
        let second ← raw
        if second = some '}' || (← peek) ≠ some '}' then
          set start
          pure (some (['#'], false))
        else pure (if second.any isSpecial then some (second.toList, true) else none)

/-- The action of a parameter in braces, whether an empty value counts as none, and whether a word
follows. -/
def bracedAction (isLength : Bool) : Reading (Action × Bool × Bool) := do
  if isLength then
    pure (if (← peek) = some '}' then .length else .unknown, false, true)
  else if ← takeIf '}' then pure (.value, false, false)
  else if ← takeIf ':' then
    match actionOf? (← peek) with
    | some action =>
      let _ ← raw
      pure (action, true, true)
    | none => pure (.unknown, false, true)
  else if ← takeIf '%' then pure (.trimEnd (← takeIf '%'), false, true)
  else if ← takeIf '#' then pure (.trimStart (← takeIf '#'), false, true)
  else
    let next ← peek
    match actionOf? next with
    | some action =>
      let _ ← raw
      pure (action, false, true)
    | none =>
      if next = some '\n' then
        modify fun r => { r with rest := r.rest.tail }
      pure (.unknown, false, true)

/-- Whether the word of an action is a pattern, in which quotes have their own meaning. -/
def Action.hasPattern : Action → Bool
  | .trimStart _ | .trimEnd _ => true
  | _ => false

/-! ### Documents -/

/-- Whether a document ends at its marker, and what follows then. -/
def endsDocument? (p : Pending) (text : Octets) : Option Octets :=
  let body := if p.strips then text.dropWhile (· = '\t') else text
  if p.marker.isPrefixOf body then
    match body.drop p.marker.length with
    | [] => some []
    | '\n' :: rest => some rest
    | _ => none
  else none

/-- Whether the document that is being read ends here, after a line end. -/
def isAtMarker (r : Reader) : Bool := r.document.any fun p => (endsDocument? p r.rest).isSome

/-- Fails since braces are not closed. -/
def unclosed {α : Type} (isQuoted : Bool) : Reading α := do
  wrong (if isQuoted && (← get).document.isNone then "Unterminated quoted string"
    else "Missing '\x7d'" : String)

/-! ### Words -/

mutual

/-- Reads the rest of a word. What was read of it is given in reverse; in a word that ends
a document nothing is put in. -/
def wordFrom (inner : Inner) (endsDocument : Bool) (done : Word) : Nat → Reading Word
  | 0 => pure done.reverse
  | steps + 1 => do
    match ← peek with
    | none => pure done.reverse
    | some c =>
      if endsWord c then pure done.reverse
      else
        let _ ← raw
        match c with
        | '\\' =>
          let next ← raw
          wordFrom inner endsDocument (.quoted (next.getD '\\') :: done) steps
        | '\'' =>
          let text ← apostrophesFrom [] mostSteps
          wordFrom inner endsDocument ((.mark :: Word.ofQuoted text).reverse ++ done) steps
        | '"' =>
          let quotation ← quotesFrom inner endsDocument [] steps
          wordFrom inner endsDocument (quotation.reverse ++ done) steps
        | '$' =>
          let value ← dollar inner endsDocument false steps
          wordFrom inner endsDocument (value.reverse ++ done) steps
        | '\x60' =>
          if endsDocument then wordFrom inner endsDocument (.plain c :: done) steps
          else
            let text ← backquotesFrom false [] mostSteps
            let command ← commandIn inner text
            wordFrom inner endsDocument (.command command false :: done) steps
        | c => wordFrom inner endsDocument (.plain c :: done) steps

/-- Reads the rest of a quotation in double quotes. -/
def quotesFrom (inner : Inner) (endsDocument : Bool) (done : Word) : Nat → Reading Word
  | 0 => pure done.reverse
  | steps + 1 => do
    match ← joined with
    | none => wrong "Unterminated quoted string"
    | some '"' =>
      pure <| match done with
        | [.parameter ['@'] .value emptyIsNone word isQuoted] =>
          [.parameter ['@'] .value emptyIsNone word isQuoted]
        | _ => .mark :: done.reverse
    | some '\\' =>
      let value := escapedInQuotes quoteSpecials (← raw)
      quotesFrom inner endsDocument (value.reverse ++ done) steps
    | some '$' =>
      let value ← dollar inner endsDocument true steps
      quotesFrom inner endsDocument (value.reverse ++ done) steps
    | some '\x60' =>
      if endsDocument then quotesFrom inner endsDocument (.quoted '\x60' :: done) steps
      else
        let text ← backquotesFrom true [] mostSteps
        let command ← commandIn inner text
        quotesFrom inner endsDocument (.command command true :: done) steps
    | some c => quotesFrom inner endsDocument (.quoted c :: done) steps

/-- Reads the rest of the word of an action. Within double quotes, further double quotes only
protect closing braces, which `guarded` tells. -/
def bracesFrom (inner : Inner) (isQuoted guarded : Bool) (done : Word) : Nat → Reading Word
  | 0 => pure done.reverse
  | steps + 1 => do
    let more (segments : Word) : Reading Word :=
      bracesFrom inner isQuoted guarded (segments.reverse ++ done) steps
    let next ← joined
    if next = some '\n' && isAtMarker (← get) then
      modify fun r => { r with line := r.line + 1 }
      unclosed isQuoted
    match next with
    | none => unclosed isQuoted
    | some '}' => if guarded then more [.quoted '}'] else pure done.reverse
    | some '"' =>
      if isQuoted then bracesFrom inner isQuoted (!guarded) done steps
      else more (← quotesFrom inner false [] steps)
    | some '\\' =>
      let next ← raw
      more (if isQuoted then escapedInQuotes ('}' :: quoteSpecials) next
        else [.quoted (next.getD '\\')])
    | some '\'' =>
      if isQuoted then more [.quoted '\'']
      else more (.mark :: Word.ofQuoted (← apostrophesFrom [] mostSteps))
    | some '$' => more (← dollar inner false isQuoted steps)
    | some '\x60' =>
      let text ← backquotesFrom isQuoted [] mostSteps
      more [.command (← commandIn inner text) isQuoted]
    | some c => more [byteSegment isQuoted c]

/-- Reads the rest of an arithmetic expression, in which so many brackets are open. -/
def arithmeticFrom (inner : Inner) (brackets : Nat) (done : Word) : Nat → Reading Word
  | 0 => pure done.reverse
  | steps + 1 => do
    match ← joined with
    | none => wrong "Missing '))'"
    | some '(' => arithmeticFrom inner (brackets + 1) (.quoted '(' :: done) steps
    | some ')' =>
      match brackets with
      | brackets + 1 => arithmeticFrom inner brackets (.quoted ')' :: done) steps
      | 0 =>
        if ← takeIf ')' then pure done.reverse
        else arithmeticFrom inner 0 (.quoted ')' :: done) steps
    | some '\\' =>
      let value := escapedInQuotes quoteSpecials (← raw)
      arithmeticFrom inner brackets (value.reverse ++ done) steps
    | some '$' =>
      let value ← dollar inner false true steps
      arithmeticFrom inner brackets (value.reverse ++ done) steps
    | some '\x60' =>
      let text ← backquotesFrom true [] mostSteps
      let command ← commandIn inner text
      arithmeticFrom inner brackets (.command command true :: done) steps
    | some c => arithmeticFrom inner brackets (.quoted c :: done) steps

/-- Reads what stands after a dollar sign. -/
def dollar (inner : Inner) (endsDocument isQuoted : Bool) : Nat → Reading Word
  | 0 => pure []
  | steps + 1 => do
    let next ← if endsDocument then pure none else peek
    match next with
    | some '(' =>
      let _ ← raw
      if ← takeIf '(' then
        pure [.arithmetic (← arithmeticFrom inner 0 [] steps) isQuoted]
      else pure [.command (← commandInBrackets inner) isQuoted]
    | some '{' =>
      let _ ← raw
      let (name, isLength) := (← bracedName).getD ([], false)
      if name.isEmpty then
        let _ ← bracesFrom inner isQuoted false [] steps
        pure [.parameter name .unknown false [] isQuoted]
      else
        let (action, emptyIsNone, hasWord) ← bracedAction isLength
        let word ←
          if hasWord then bracesFrom inner (isQuoted && !action.hasPattern) false [] steps
          else pure []
        pure [.parameter name action emptyIsNone word isQuoted]
    | some c =>
      if beginsName c then
        let name ← takeWhile continuesName [] mostSteps
        pure [.parameter name .value false [] isQuoted]
      else if isSpecial c then
        let _ ← raw
        pure [.parameter [c] .value false [] isQuoted]
      else pure [byteSegment isQuoted '$']
    | none => pure [byteSegment isQuoted '$']

end

/-! ### Reading documents -/

/-- Reads the rest of a document, of which the last line was read if `atStart` holds. -/
def documentFrom (inner : Inner) (p : Pending) (atStart : Bool) (done : Word) :
    Nat → Reading Word
  | 0 => pure done.reverse
  | steps + 1 => do
    let r ← get
    if atStart && !r.isWhole && !r.rest.contains '\n' then throw .incomplete
    let body := if atStart && p.strips then r.rest.dropWhile (· = '\t') else r.rest
    match if atStart then endsDocument? p body else none with
    | some rest =>
      set { r with rest, line := r.line + 1 }
      pure done.reverse
    | none =>
      set { r with rest := body }
      let next ← if p.isLiteral then raw else joined
      match next with
      | none => pure done.reverse
      | some c =>
        if c = '\n' || p.isLiteral then
          documentFrom inner p (c = '\n') (.quoted c :: done) steps
        else
          let value ←
            match c with
            | '\\' => do pure (escapedInQuotes ['\\', '\x60', '$'] (← raw))
            | '$' => dollar inner false true steps
            | '\x60' => do
              let text ← backquotesFrom true [] mostSteps
              pure [.command (← commandIn inner text) true]
            | c => pure [.quoted c]
          documentFrom inner p false (value.reverse ++ done) steps

/-- Reads the documents that were announced. -/
def readDocuments (inner : Inner) : List Pending → Reading Unit
  | [] => pure ()
  | p :: rest => do
    modify ({ · with document := some p })
    let document ← documentFrom inner p true [] mostSteps
    modify fun r => { r with documents := r.documents ++ [(p.number, document)], document := none }
    readDocuments inner rest

/-- Reads the documents that were announced, if any. -/
def takeDocuments (inner : Inner) : Reading Unit := do
  let pending := (← get).pending
  modify fun r => { r with pending := [] }
  readDocuments inner pending

/-! ### Tokens -/

/-- What kind of output a redirection is, after its first byte. -/
def outputRoute : Reading Route := do
  if ← takeIf '>' then pure .addition
  else if ← takeIf '|' then pure .overwrite
  else if ← takeIf '&' then pure .copy
  else pure .output

/-- What kind of input a redirection is, after its first byte. -/
def inputRoute : Reading Route := do
  if ← takeIf '&' then pure .copy
  else if ← takeIf '>' then pure .update
  else pure .input

/-- Reads the redirection after its descriptor, from its first byte on. -/
def redirectionToken (c : Char) (descriptor : Option Nat) : Reading Token := do
  if c = '>' then
    let route ← outputRoute
    pure (.redirection (descriptor.getD 1) route false)
  else if ← takeIf '<' then
    let strips ← takeIf '-'
    let number := (← get).nextDocument
    modify fun r => { r with nextDocument := number + 1 }
    pure (.redirection (descriptor.getD 0) (.document number) strips)
  else
    let route ← inputRoute
    pure (.redirection (descriptor.getD 0) route false)

/-- Whether something in a word is protected. -/
def Word.isProtected (word : Word) : Bool :=
  word.any fun segment =>
    match segment with
    | .quoted _ | .mark => true
    | _ => false

/-- Reads a word, or the redirection that it belongs to. -/
def wordToken (inner : Inner) (endsDocument : Bool) : Reading Token := do
  let word ← wordFrom inner endsDocument [] mostSteps
  let descriptor? : Option (Option Nat) :=
    match word with
    | [] => some none
    | [.plain c] => if c.isDigit then some (some (c.toNat - '0'.toNat)) else none
    | _ => none
  match ← peek, descriptor? with
  | some c, some descriptor =>
    if c = '<' || c = '>' then
      let _ ← raw
      redirectionToken c descriptor
    else pure (.word word word.isProtected)
  | _, _ => pure (.word word word.isProtected)

/-- Reads the next token. -/
def token (inner : Inner) (endsDocument : Bool) : Nat → Reading Token
  | 0 => pure .finish
  | steps + 1 => do
    match ← peek with
    | none => pure .finish
    | some ' ' | some '\t' =>
      let _ ← raw
      token inner endsDocument steps
    | some '#' =>
      let r ← get
      let rest := r.rest.dropWhile (· ≠ '\n')
      if rest.isEmpty && !r.isWhole then throw .incomplete
      set { r with rest }
      token inner endsDocument steps
    | some '\n' =>
      let _ ← raw
      pure .newline
    | some '&' =>
      let _ ← raw
      pure (if ← takeIf '&' then .both else .ampersand)
    | some '|' =>
      let _ ← raw
      pure (if ← takeIf '|' then .either else .bar)
    | some ';' =>
      let _ ← raw
      pure (if ← takeIf ';' then .caseEnd else .semicolon)
    | some '(' =>
      let _ ← raw
      pure .opening
    | some ')' =>
      let _ ← raw
      pure .closing
    | some _ =>
      modify fun r => { r with begun := r.left }
      wordToken inner endsDocument

end LineShell.Script
