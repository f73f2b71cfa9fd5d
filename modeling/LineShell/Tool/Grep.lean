import LineShell.Regex.Pattern
import LineShell.Tool.Number
import LineShell.Tool.Options

/-!
# grep

Writes the lines in which a regular expression matches.

## Main definitions

* `Tool.Grep.Settings` — what the options say.
* `Tool.Grep.State`, `Tool.Grep.step` — what was seen of an input, and one more line of it.
* `Tool.grep` — the tool.
-/

namespace LineShell.Tool

namespace Grep

/-! ### Settings -/

/-- How patterns are written. -/
inductive PatternKind where
  | basic
  | extended
  /-- They stand for themselves. -/
  | fixed
deriving DecidableEq, Repr

/-- What is done with a directory. -/
inductive DirectoryUse where
  /-- It is read like a file, which fails. -/
  | read
  /-- It is left out. -/
  | skip
  /-- The files in it are searched. -/
  | enter
deriving DecidableEq, Repr

/-- What is done with an input that holds bytes that texts do not have. -/
inductive BinaryUse where
  /-- It is only told that it has selected lines. -/
  | tell
  /-- It is taken for a text. -/
  | text
  /-- No line is selected in it. -/
  | skip
deriving DecidableEq, Repr

/-- What is written of an input. -/
inductive Report where
  /-- Its lines. -/
  | lines
  /-- The matches in them. -/
  | matches
  /-- The number of lines. -/
  | count
  /-- Its name if there is some line. -/
  | names
  /-- Its name if there is none. -/
  | otherNames
  /-- Nothing. -/
  | nothing
deriving DecidableEq, Repr

/-- What the options say. -/
structure Settings where
  /-- The patterns, which may stand in several lines. -/
  patterns : List Octets := []
  /-- The files that hold patterns. -/
  patternFiles : List Octets := []
  /-- Whether there is an option with patterns. -/
  chosen : Bool := false
  style : Option PatternKind := none
  folds : Bool := false
  inverted : Bool := false
  wholeWords : Bool := false
  wholeLines : Bool := false
  onlyMatches : Bool := false
  counts : Bool := false
  /-- Whether names are listed, and whether of the inputs with lines. -/
  names : Option Bool := none
  quiet : Bool := false
  silent : Bool := false
  numbers : Bool := false
  offsets : Bool := false
  /-- Whether the name of the input is written; without an option that depends on how many
  there are. -/
  named : Option Bool := none
  label : Option Octets := none
  nameEnd : Option Char := none
  most : Option Nat := none
  before : Option Nat := none
  after : Option Nat := none
  around : Option Nat := none
  gap : Option Octets := some ['-', '-']
  binary : BinaryUse := .tell
  directories : DirectoryUse := .read
  /-- Whether links in directories are followed. -/
  follows : Bool := false
  lineEnd : Char := '\n'
  /-- Where the output goes. -/
  output : Option FileStatus := none

/-- What is written of an input. -/
def Settings.report (s : Settings) : Report :=
  if s.quiet then .nothing
  else match s.names with
    | some true => .names
    | some false => .otherNames
    | none => if s.counts then .count else if s.onlyMatches then .matches else .lines

/-- The number of lines before a line that are written too. -/
def Settings.linesBefore (s : Settings) : Nat := (s.before.or s.around).getD 0

/-- The number of lines after a line that are written too. -/
def Settings.linesAfter (s : Settings) : Nat := (s.after.or s.around).getD 0

/-- Whether groups of lines are set off. -/
def Settings.setsOff (s : Settings) : Bool :=
  (s.before.or s.after).isSome || s.around.isSome

/-- The exit code for errors. -/
def failure : Nat := 2

/-- The number of lines in the value of an option. -/
def lengthOf (value : Octets) : Except Refusal Nat :=
  match Octets.toNat? value with
  | some n => .ok n
  | none => .error { text := value ++ ": invalid context length argument" }

/-- Settles how patterns are written, which is done once. -/
def Settings.withStyle (s : Settings) (style : PatternKind) : Except Refusal Settings :=
  if s.style.all (· = style) then .ok { s with style := some style }
  else .error { text := "conflicting matchers specified" }

/-- The uses of directories. -/
def directoryWords : List (String × DirectoryUse) :=
  [("read", .read), ("recurse", .enter), ("skip", .skip)]

/-- Takes an option into account. -/
def set (s : Settings) (key : Char) (value : Option Octets) : Except Refusal Settings := do
  let text := value.getD []
  match key with
  | 'e' => return { s with patterns := s.patterns ++ [text], chosen := true }
  | 'f' => return { s with patternFiles := s.patternFiles ++ [text], chosen := true }
  | 'E' => s.withStyle .extended
  | 'F' => s.withStyle .fixed
  | 'G' => s.withStyle .basic
  | 'i' | 'y' => return { s with folds := true }
  | 'j' => return { s with folds := false }
  | 'v' => return { s with inverted := true }
  | 'w' => return { s with wholeWords := true }
  | 'x' => return { s with wholeLines := true }
  | 'o' => return { s with onlyMatches := true }
  | 'c' => return { s with counts := true }
  | 'l' => return { s with names := some true }
  | 'L' => return { s with names := some false }
  | 'q' => return { s with quiet := true }
  | 's' => return { s with silent := true }
  | 'n' => return { s with numbers := true }
  | 'b' => return { s with offsets := true }
  | 'H' => return { s with named := some true }
  | 'h' => return { s with named := some false }
  | 'Z' => return { s with nameEnd := some '\x00' }
  | 'z' => return { s with lineEnd := '\x00' }
  | 'a' => return { s with binary := .text }
  | 'I' => return { s with binary := .skip }
  | 't' =>
    if text = "binary" then return { s with binary := .tell }
    else if text = "text" then return { s with binary := .text }
    else if text = "without-match" then return { s with binary := .skip }
    else throw { text := "unknown binary-files type" }
  | 'd' => return { s with directories := ← valueOfWord "--directories" directoryWords text }
  | 'r' => return { s with directories := .enter }
  | 'R' => return { s with directories := .enter, follows := true }
  | 'A' => return { s with after := some (← lengthOf text) }
  | 'B' => return { s with before := some (← lengthOf text) }
  | 'C' => return { s with around := some (← lengthOf text) }
  | 'k' => return { s with label := value }
  | 'g' => return { s with gap := value }
  | 'm' =>
    match readCount ['k', 'M', 'G'] (if text.head? = some '-' then text.tail else text) with
    | .ok n => return { s with most := if text.head? = some '-' then none else some n }
    | .error _ => throw { text := "invalid max count" }
  | c =>
    if c.isDigit then
      return { s with around := some (s.around.getD 0 * 10 + (c.toNat - '0'.toNat)) }
    else return s

/-- The options. -/
def grammar : Grammar where
  letters := "0123456789A:B:C:D:EFGHILTUVX:abcd:e:f:hiLlm:noqRrsuvwxyZz"
  long := [⟨"after-context", .required, 'A'⟩, ⟨"basic-regexp", .none, 'G'⟩,
    ⟨"before-context", .required, 'B'⟩, ⟨"binary", .none, 'U'⟩,
    ⟨"binary-files", .required, 't'⟩, ⟨"byte-offset", .none, 'b'⟩,
    ⟨"context", .required, 'C'⟩, ⟨"count", .none, 'c'⟩, ⟨"color", .optional, 'K'⟩,
    ⟨"colour", .optional, 'K'⟩, ⟨"directories", .required, 'd'⟩,
    ⟨"extended-regexp", .none, 'E'⟩, ⟨"file", .required, 'f'⟩,
    ⟨"files-with-matches", .none, 'l'⟩, ⟨"files-without-match", .none, 'L'⟩,
    ⟨"fixed-strings", .none, 'F'⟩, ⟨"group-separator", .required, 'g'⟩,
    ⟨"no-group-separator", .none, 'g'⟩, ⟨"ignore-case", .none, 'i'⟩,
    ⟨"no-ignore-case", .none, 'j'⟩, ⟨"label", .required, 'k'⟩, ⟨"line-buffered", .none, 'K'⟩,
    ⟨"line-number", .none, 'n'⟩, ⟨"line-regexp", .none, 'x'⟩, ⟨"max-count", .required, 'm'⟩,
    ⟨"no-filename", .none, 'h'⟩, ⟨"no-messages", .none, 's'⟩, ⟨"null", .none, 'Z'⟩,
    ⟨"null-data", .none, 'z'⟩, ⟨"only-matching", .none, 'o'⟩, ⟨"quiet", .none, 'q'⟩,
    ⟨"recursive", .none, 'r'⟩, ⟨"dereference-recursive", .none, 'R'⟩,
    ⟨"regexp", .required, 'e'⟩, ⟨"invert-match", .none, 'v'⟩, ⟨"silent", .none, 'q'⟩,
    ⟨"text", .none, 'a'⟩, ⟨"with-filename", .none, 'H'⟩, ⟨"word-regexp", .none, 'w'⟩]

/-! ### Matching -/

/-- The expression of a pattern. -/
def expressionOf (s : Settings) (pattern : Octets) : Except Regex.Fault Regex :=
  match s.style.getD .basic with
  | .fixed => .ok (Regex.ofOctets s.folds pattern)
  | .basic => Regex.read { folds := s.folds, crosses := true } pattern
  | .extended => Regex.read { extended := true, folds := s.folds, crosses := true } pattern

/-- What is strange about a pattern: repetitions of nothing in an extended expression. -/
def warningsOf (s : Settings) (pattern : Octets) : List Octets :=
  match s.style with
  | some .extended =>
    match Regex.piecesOf { extended := true } pattern with
    | .ok pieces => (Regex.idleRepetitions true pieces).map fun p =>
        "warning: " ++ Regex.repetitionSign p ++ " at start of expression"
    | .error _ => []
  | _ => []

/-- Whether a match from one place to another one is wanted. -/
def isWanted (s : Settings) (start finish : Regex.Cursor) : Bool :=
  if s.wholeLines then start.previous.isNone && finish.rest.isEmpty
  else !s.wholeWords ||
    (!start.previous.any Regex.isWordByte && !finish.rest.head?.any Regex.isWordByte)

/-- The first match from a place on, and the longest of those there. -/
def findMatch? (s : Settings) (expressions : List Regex) (place : Regex.Cursor) :
    Option (Regex.Cursor × Regex.Cursor) :=
  let found := expressions.filterMap fun r => r.find? (isWanted s) place
  found.foldl (fun best m =>
    match best with
    | none => some m
    | some b =>
      if m.1.position < b.1.position ||
          (m.1.position = b.1.position && b.2.position < m.2.position)
      then some m else best) none

/-- The strings of the matches in a line that are not empty, with their places. There are no
more than `count` ones. -/
def matchesFrom (s : Settings) (expressions : List Regex) :
    Nat → Regex.Cursor → List (Nat × Octets)
  | 0, _ => []
  | count + 1, place =>
    match findMatch? s expressions place with
    | none => []
    | some (start, finish) =>
      if start.position = finish.position then
        if start.rest.isEmpty then [] else matchesFrom s expressions count start.advance
      else
        (start.position, start.rest.take (finish.position - start.position)) ::
          matchesFrom s expressions count finish

/-! ### Lines -/

/-- A line of the input. -/
structure Line where
  text : Octets
  /-- The number of lines up to it. -/
  number : Nat
  /-- The number of bytes before it. -/
  offset : Nat

/-- What was seen of an input. -/
structure State where
  /-- The number of lines. -/
  lines : Nat := 0
  /-- The number of bytes. -/
  offset : Nat := 0
  /-- The number of lines that were selected. -/
  selected : Nat := 0
  /-- The last lines that were not written, the last one first. -/
  held : List Line := []
  /-- The number of lines that are still written after a selected one. -/
  pending : Nat := 0
  /-- The last line that was written. -/
  last : Option Nat := none
  /-- Whether some line was written of this or another input. -/
  used : Bool := false
  /-- Whether there was a byte in it that texts do not have. -/
  isBinary : Bool := false

/-- What stands before a line, or a match in it: the name of the input, the number, the place. -/
def heading (s : Settings) (name : Option Octets) (mark : Char) (number offset : Nat) : Octets :=
  (match name with
    | none => []
    | some name => name ++ [s.nameEnd.getD mark]) ++
  (if s.numbers then Octets.ofNat number ++ [mark] else []) ++
  (if s.offsets then Octets.ofNat offset ++ [mark] else [])

/-- What is written for a line. -/
def shown (s : Settings) (name : Option Octets) (mark : Char) (line : Line) : Octets :=
  heading s name mark line.number line.offset ++ line.text ++ [s.lineEnd]

/-- Whether enough lines were selected. -/
def isFull (s : Settings) (t : State) : Bool := s.most.any (· ≤ t.selected)

/-- Whether nothing more is to be found out about the input. -/
def isDone (s : Settings) (t : State) : Bool :=
  match s.report with
  | .names | .otherNames | .nothing => t.selected > 0 || isFull s t
  | .count => isFull s t
  | _ => (isFull s t && t.pending = 0) || (t.isBinary && t.selected > 0)

/-- What is written for a selected line. -/
def stepSelected (s : Settings) (expressions : List Regex) (name : Option Octets) (t : State)
    (line : Line) : State × Octets :=
  let held := t.held.take s.linesBefore
  let first := (held.getLast?.getD line).number
  let gap : Octets :=
    match s.gap with
    | some gap =>
      if s.setsOff && t.used && t.last ≠ some (first - 1) then gap ++ [s.lineEnd] else []
    | none => []
  let context := if s.onlyMatches then [] else held.reverse.flatMap (shown s name '-')
  let own :=
    if s.onlyMatches then
      if s.inverted then []
      else
        (matchesFrom s expressions (line.text.length + 1) { rest := line.text }).flatMap
          fun (place, text) =>
            heading s name ':' line.number (line.offset + place) ++ text ++ [s.lineEnd]
    else shown s name ':' line
  ({ t with
      selected := t.selected + 1
      held := []
      pending := s.linesAfter
      last := some line.number
      used := true },
    gap ++ context ++ own)

/-- One more line: the state after it, and what is written. -/
def step (s : Settings) (expressions : List Regex) (name : Option Octets) (t : State)
    (text : Octets) : State × Octets :=
  let line : Line := { text, number := t.lines + 1, offset := t.offset }
  let t := { t with lines := t.lines + 1, offset := t.offset + text.length + 1 }
  let isSelected :=
    !isFull s t && (findMatch? s expressions { rest := text }).isSome != s.inverted
  let shows := (s.report = .lines || s.report = .matches) && !t.isBinary
  if isSelected then
    if shows then stepSelected s expressions name t line
    else ({ t with selected := t.selected + 1 }, [])
  else if shows && t.pending > 0 then
    ({ t with pending := t.pending - 1, last := some line.number },
      if s.onlyMatches then [] else shown s name '-' line)
  else ({ t with held := if s.linesBefore = 0 then [] else line :: t.held.take s.linesBefore }, [])

/-- Goes through lines until nothing more is to be found out; `done` is what is written for the
lines before, the last one first. -/
def steps (s : Settings) (expressions : List Regex) (name : Option Octets)
    (done : List Octets) (t : State) : List Octets → State × Octets
  | [] => (t, done.reverse.flatten)
  | text :: rest =>
    if isDone s t then (t, done.reverse.flatten)
    else
      let (t, written) := step s expressions name t text
      steps s expressions name (written :: done) t rest

/-! ### Inputs -/

/-- The number of bytes that are read at once. -/
def readSize : Nat := 98304

/-- Searches what is left of a descriptor; `held` is the part of a line. Bytes that texts do not
have end lines. -/
def searchFrom (i : Invocation) (s : Settings) (expressions : List Regex)
    (name : Option Octets) (descriptor : Nat) :
    Nat → State → Octets → Program (State × Option Errno)
  | 0, t, _ => pure (t, none)
  | count + 1, t, held => do
    if isDone s t then pure (t, none)
    else
      match ← Program.call (.read descriptor readSize) with
      | .error e => pure (t, some e)
      | .ok block =>
        let bytes := Octets.ofData block
        let t := { t with isBinary := t.isBinary ||
          (s.binary ≠ .text && s.lineEnd = '\n' && bytes.contains '\x00') }
        let bytes :=
          if t.isBinary then bytes.map fun c => if c = '\x00' then s.lineEnd else c else bytes
        if t.isBinary && s.binary = .skip then pure ({ t with selected := 0 }, none)
        else if bytes.isEmpty then
          let (t, written) := steps s expressions name [] t
            (if held.isEmpty then [] else [held.reverse])
          print i written failure
          pure (t, none)
        else
          let (lines, held) := cutLines s.lineEnd [] held bytes
          let (t, written) := steps s expressions name [] t lines
          if !written.isEmpty then print i written failure
          searchFrom i s expressions name descriptor count t held

/-- What became of the inputs so far. -/
structure Progress where
  /-- Whether some line was selected. -/
  found : Bool := false
  /-- Whether something went wrong. -/
  failed : Bool := false
  /-- Whether some line was written. -/
  used : Bool := false

/-- Complains about an input. -/
def complainOf (i : Invocation) (s : Settings) (name : Octets) (e : Errno) (p : Progress) :
    Program Progress := do
  if !s.silent then complain i (name ++ ": " ++ e.text)
  pure { p with failed := true }

/-- Searches an open input. -/
def searchInput (i : Invocation) (s : Settings) (expressions : List Regex) (named : Bool)
    (shownName : Octets) (descriptor : Nat) (p : Progress) : Program Progress := do
  let name := if named then some shownName else none
  let (t, failed) ← searchFrom i s expressions name descriptor Program.forever
    { used := p.used } []
  let p := { p with found := p.found || t.selected > 0, used := t.used }
  let p ← match failed with
    | some e => complainOf i s shownName e p
    | none => pure p
  match s.report with
  | .count =>
    print i (heading { s with numbers := false, offsets := false } name ':' 0 0 ++
      Octets.ofNat t.selected ++ "\n") failure
  | .names =>
    if t.selected > 0 then print i (shownName ++ [s.nameEnd.getD '\n']) failure
  | .otherNames =>
    if t.selected = 0 then print i (shownName ++ [s.nameEnd.getD '\n']) failure
  | .nothing => if t.selected > 0 then Program.exit 0
  | _ => if t.isBinary && t.selected > 0 then complain i (shownName ++ ": binary file matches")
  pure p

/-- Whether the input is the file to which the output goes. -/
def isOutput (s : Settings) (descriptor : Nat) : Program Bool := do
  match s.report with
  | .lines | .matches =>
    match s.output, ← Program.call (.statusOpen descriptor) with
    | some output, .ok input =>
      pure (descriptor ≠ Program.standardInput && output.kind = .regular &&
        input.kind = .regular && input.node.isSome && input.node = output.node)
    | _, _ => pure false
  | _ => pure false

/-- Searches a file. -/
def searchFile (i : Invocation) (s : Settings) (expressions : List Regex) (named : Bool)
    (name : Octets) (p : Progress) : Program Progress := do
  if name = dash then
    searchInput i s expressions named (s.label.getD "(standard input)") Program.standardInput p
  else match ← Program.openFile name .input with
    | .error e => complainOf i s name e p
    | .ok descriptor =>
      if ← isOutput s descriptor then
        if !s.silent then complain i (name ++ ": input file is also the output")
        Program.close descriptor
        pure { p with failed := true }
      else
        let p ← searchInput i s expressions named name descriptor p
        Program.close descriptor
        pure p

/-- A file that is to be searched. -/
structure Place where
  path : Octets
  /-- The directories that it was found in, if it is not an operand. -/
  within : Option (List (Option NodeId)) := none
  /-- Whether its path is left out of the paths of the files in it. -/
  isImplied : Bool := false

/-- A file in a directory with some node. -/
def Place.child (place : Place) (node : Option NodeId) (name : Octets) : Place where
  path :=
    if place.isImplied then name
    else (place.path.reverse.dropWhile (· = '/')).reverse ++ ['/'] ++ name
  within := some (node :: place.within.getD [])

/-- What is to be done about a file. -/
inductive Task where
  | search
  | skip
  | enter (node : Option NodeId)
  /-- It is a directory that it was found in. -/
  | warn

/-- What is to be done about a file. Links are followed if they are operands, or if that is asked
for; devices in directories are left out. -/
def taskOf (s : Settings) (place : Place) : Program Task := do
  let isOperand := place.within.isNone
  if isOperand && (place.path = dash || s.directories = .read) then pure .search
  else match ← Program.call (.status place.path (isOperand || s.follows)) with
    | .error _ => pure .search
    | .ok status =>
      match status.kind with
      | .regular => pure .search
      | .link => pure .skip
      | .device | .pipe => pure (if isOperand then .search else .skip)
      | .directory =>
        if s.directories = .skip then pure .skip
        else if status.node.isSome && (place.within.getD []).contains status.node then pure .warn
        else pure (.enter status.node)

/-- Searches files one after the other, and those in directories if that is asked for.
Directories are entered at most so often. -/
def searchAll (i : Invocation) (s : Settings) (expressions : List Regex) (named : Bool) :
    Nat → List Place → Progress → Program Progress
  | 0, _, p => pure p
  | _ + 1, [], p => pure p
  | count + 1, place :: rest, p => do
    match ← taskOf s place with
    | .skip => searchAll i s expressions named count rest p
    | .warn =>
      if !s.silent then complain i (place.path ++ ": warning: recursive directory loop")
      searchAll i s expressions named count rest p
    | .search =>
      let p ← searchFile i s expressions named place.path p
      searchAll i s expressions named count rest p
    | .enter node =>
      match ← Program.call (.list place.path) with
      | .error e =>
        let p ← complainOf i s place.path e p
        searchAll i s expressions named count rest p
      | .ok names =>
        searchAll i s expressions named count (names.map (place.child node) ++ rest) p

/-! ### Calls -/

/-- Tells how the tool is called, and ends. -/
def usage {α : Type} (i : Invocation) (code : Nat := failure) : Program α := do
  let name := (i.name.reverse.takeWhile (· ≠ '/')).reverse
  let _ ← Program.write Program.standardError
    ("Usage: " ++ name ++ " [OPTION]... PATTERNS [FILE]...\nTry '" ++ name ++
      " --help' for more information.\n")
  Program.exit code

/-- The patterns in files. -/
def readPatterns (i : Invocation) : List Octets → Program (List Octets)
  | [] => pure []
  | name :: rest => do
    match ← readOperand name with
    | .error e => fail i (name ++ ": " ++ e.text) failure
    | .ok data =>
      let patterns := Octets.lines (Octets.ofData data)
      let others ← readPatterns i rest
      pure (patterns ++ others)

/-- Whether what is written is not kept. -/
def isLost (output : Option FileStatus) : Program Bool := do
  match output, ← Program.call (.status "/dev/null" true) with
  | some output, .ok device => pure (output.node.isSome && output.node = device.node)
  | _, _ => pure false

/-- Searches the files that are named for the given patterns. -/
def run (i : Invocation) (s : Settings) (patterns names : List Octets) : Program Nat := do
  let output := (← Program.call (.statusOpen Program.standardOutput)).toOption
  let s := { s with output, quiet := s.quiet || (← isLost output) }
  match patterns.mapM (expressionOf s) with
  | .error fault => fail i fault.text failure
  | .ok expressions =>
    let _ ← (patterns.flatMap (warningsOf s)).mapM (complain i)
    let enters := s.directories = .enter
    let places : List Place :=
      if !names.isEmpty then names.map ({ path := · })
      else if enters then [{ path := ['.'], isImplied := true }]
      else [{ path := dash }]
    let named ← match s.named, places with
      | some named, _ => pure named
      | none, [place] =>
        if !enters || place.path = dash then pure false
        else match ← Program.call (.status place.path true) with
          | .ok status => pure (status.kind == .directory)
          | .error _ => pure false
      | none, _ => pure true
    if s.most = some 0 then pure 1
    else
      let p ← searchAll i s expressions named Program.forever places {}
      pure (if p.failed then failure else if p.found then 0 else 1)

end Grep

/-- Writes the lines in which a regular expression matches. -/
def grep (i : Invocation) : Program Nat := do
  let p := Grep.grammar.parse i.operands
  match p.options.foldlM (fun s (key, value) => Grep.set s key value) ({} : Grep.Settings) with
  | .error refusal =>
    complain i refusal.text
    let code := refusal.code.getD Grep.failure
    if refusal.advised then Grep.usage i code else Program.exit code
  | .ok s =>
    match p.problem with
    | some problem =>
      complain i problem
      Grep.usage i
    | none =>
      if p.has helpKey || p.has versionKey then pure 0
      else
        let inFiles ← Grep.readPatterns i s.patternFiles
        let given := s.patterns.flatMap (Octets.splitOn '\n')
        match s.chosen, p.operands with
        | true, names => Grep.run i s (given ++ inFiles) names
        | false, pattern :: names => Grep.run i s (Octets.splitOn '\n' pattern) names
        | false, [] => Grep.usage i

end LineShell.Tool
