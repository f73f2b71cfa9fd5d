import LineShell.Script.Arithmetic
import LineShell.Script.Field
import LineShell.Script.State

/-!
# Expanding words

Before a command is run its words are expanded: values of parameters, results of arithmetic
and outputs of commands are put in, what was put in is cut into fields, and fields that are
patterns become the names of files.  How a command is run for its output is a parameter.

## Main definitions

* `parameterValue?` — the value of a parameter.
* `wordCells` — the cells of a word.
* `matchingPaths` — the files whose names a pattern describes.
* `expandAll`, `expandOne` — the fields of words, and the string of a word that is not cut.
-/

namespace LineShell.Script

open Shell

/-- How a command is run for its output. -/
abbrev Substitute := Option Command → Shell Octets

/-! ### Parameters -/

/-- The value of a parameter: a string, or all positional parameters. -/
inductive Value where
  | one (text : Octets)
  | all (texts : List Octets)
deriving DecidableEq, Repr

/-- The letters of the options in the order in which they are shown. -/
def optionLetters : List Char := "pubaCEVvxsnmiIfe".toList

/-- The value of a parameter, if it has one. -/
def parameterValue? (name : Octets) (s : State) : Option Value :=
  match name with
  | ['@'] | ['*'] => some (.all s.parameters)
  | ['#'] => some (.one (Octets.ofNat s.parameters.length))
  | ['?'] => some (.one (Octets.ofNat s.status))
  | ['$'] => some (.one (Octets.ofNat s.root))
  | ['!'] => s.lastBackground.map fun id => .one (Octets.ofNat id)
  | ['-'] => some (.one (optionLetters.filter s.has))
  | name =>
    match Octets.toNat? name with
    | some 0 => some (.one s.name)
    | some n => (s.parameters[n - 1]?).map .one
    | none => (s.lookUp? name).map .one

/-- What stands between positional parameters in one string. -/
def between (s : State) : Octets := s.separators.take 1

/-- The string of a value. -/
def Value.text (s : State) : Value → Octets
  | .one text => text
  | .all texts => Octets.join (between s) texts

/-- The cells of a string that is put in. -/
def resultCells (isQuoted : Bool) (text : Octets) : List Cell :=
  text.map fun c => if isQuoted then .quoted c else .result c

/-- Whether positional parameters are kept apart. -/
def keepsApart (name : Octets) (cuts isQuoted : Bool) : Bool :=
  cuts && !(isQuoted && name = ['*'])

/-- The cells of a value. The positional parameters are kept apart where words are cut, but for
`$*` in quotes. -/
def valueCells (s : State) (name : Octets) (cuts isQuoted : Bool) : Value → List Cell
  | .one text => resultCells isQuoted text
  | .all texts =>
    if !keepsApart name cuts isQuoted then
      resultCells isQuoted (Octets.join (between s) texts)
    else if isQuoted then
      ((texts.map fun text => .mark :: resultCells true text).intersperse [.gap]).flatten
    else ((texts.map (resultCells false)).intersperse [.gap]).flatten

/-- The cells of a value from which what a pattern describes is taken away at one end. -/
def trimmedCells (s : State) (name : Octets) (cuts isQuoted atStart longest : Bool)
    (bytes : List PatternByte) : Value → List Cell
  | .one text => resultCells isQuoted (trim text)
  | .all [] => []
  | .all texts =>
    if keepsApart name cuts isQuoted then
      let row :=
        if atStart then Pattern.trimRowStart bytes longest isQuoted texts
        else Pattern.trimRowEnd bytes longest isQuoted texts
      valueCells s name cuts isQuoted (.all (Octets.splitOn Pattern.divider row))
    else resultCells isQuoted (trim (Octets.join (between s) texts))
where
  trim (text : Octets) : Octets :=
    if atStart then (Pattern.ofBytes bytes).trimStart longest text
    else (Pattern.ofBytes bytes).trimEnd longest text

/-- Fails because a parameter has no value. -/
def failUnset {α : Type} (name : Octets) : Shell α := fail (name ++ ": parameter not set")

/-! ### Home directories -/

/-- The home directories of users. -/
def homes : List (String × String) :=
  [("root", "/root"), ("daemon", "/usr/sbin"), ("bin", "/bin"), ("sys", "/dev"),
    ("nobody", "/nonexistent")]

/-- The home directory of a user, or one's own. -/
def homeOf? (s : State) (user : Octets) : Option Octets :=
  if user.isEmpty then s.lookUp? "HOME"
  else (homes.find? (·.1.toList = user)).map fun (_, path) => path.toList

/-- Replaces a tilde with a user at the beginning of a word by the home directory. The name of
the user ends at a slash, or at a colon if `atColons` holds. -/
def expandHome (s : State) (atColons : Bool) (word : Word) : Word :=
  match word with
  | .plain '~' :: rest =>
    let ends (c : Char) : Bool := c = '/' || (atColons && c = ':')
    let user := rest.takeWhile fun segment => segment.plain?.any (!ends ·)
    let after := rest.drop user.length
    let isComplete := match after with
      | [] => true
      | segment :: _ => segment.plain?.any ends
    if !isComplete then word
    else match homeOf? s (Word.text user) with
      | some home => Word.ofQuoted home ++ after
      | none => word
  | _ => word

/-- Replaces tildes at the beginning of a word and after its colons. -/
def expandHomes (s : State) : Nat → Word → Word
  | 0, word => word
  | steps + 1, word =>
    let word := expandHome s true word
    let first := word.takeWhile fun segment => !segment.plain?.any (· = ':')
    match word.drop first.length with
    | [] => word
    | colon :: rest => first ++ colon :: expandHomes s steps rest

/-! ### Cells -/

/-- The number that is the value of an arithmetic expression; variables may change. -/
def arithmeticValue (text : Octets) : Shell Octets := do
  let s ← get
  match Arithmetic.evaluate s.lookUp text with
  | .error fault => fail (fault.message text)
  | .ok (value, changes) =>
    for (name, n) in changes do
      setVariable name (Octets.ofInt n)
    pure (Octets.ofInt value)

/-- A string without the line ends at its end. -/
def withoutLineEnds (text : Octets) : Octets := (text.reverse.dropWhile (· = '\n')).reverse

/-- The cells of the word of an action, whose own bytes are cut where the place is not quoted. -/
def asResult (isQuoted : Bool) (cells : List Cell) : List Cell :=
  if isQuoted then cells
  else cells.map fun cell =>
    match cell with
    | .plain c => .result c
    | cell => cell

/-- What an action does with the value of a parameter. The cells of its word are computed only if
they are needed, in a word that is cut or not. -/
def act (name : Octets) (action : Action) (emptyIsNone cuts isQuoted : Bool)
    (word : Bool → Shell (List Cell)) : Shell (List Cell) := do
  let s ← get
  let value := parameterValue? name s
  let isSet := value.any fun v => !(emptyIsNone && (v.text s).isEmpty)
  let shown : List Cell := (value.map (valueCells s name cuts isQuoted)).getD []
  let exempt := name = ['@'] || name = ['*']
  let mustBeSet : Shell Unit :=
    if value.isNone && s.has 'u' && !exempt then failUnset name else pure ()
  match action with
  | .value =>
    mustBeSet
    pure shown
  | .length =>
    mustBeSet
    pure (resultCells isQuoted (Octets.ofNat ((value.map (·.text s)).getD []).length))
  | .instead => if isSet then pure shown else asResult isQuoted <$> word cuts
  | .replace => if isSet then asResult isQuoted <$> word cuts else pure []
  | .assign =>
    if isSet then pure shown
    else
      let text := Cell.text (← word false)
      setVariable name text
      pure (resultCells isQuoted text)
  | .require =>
    if isSet then pure shown
    else
      let text := Cell.text (← word false)
      if text.isEmpty then
        if emptyIsNone then fail (name ++ ": parameter not set or null") else failUnset name
      else fail (name ++ ": " ++ text)
  | .trimStart longest =>
    mustBeSet
    match value with
    | none => pure []
    | some v =>
      let bytes := Cell.patternBytes (← word false)
      pure (trimmedCells s name cuts isQuoted true longest bytes v)
  | .trimEnd longest =>
    mustBeSet
    match value with
    | none => pure []
    | some v =>
      let bytes := Cell.patternBytes (← word false)
      pure (trimmedCells s name cuts isQuoted false longest bytes v)
  | .unknown => fail "Bad substitution"

mutual

/-- The cells of a segment. Where words are not cut, `cuts` does not hold. -/
def segmentCells (substitute : Substitute) (cuts : Bool) : Segment → Shell (List Cell)
  | .plain c => pure [.plain c]
  | .quoted c => pure [.quoted c]
  | .mark => pure [.mark]
  | .parameter name action emptyIsNone word isQuoted =>
    act name action emptyIsNone cuts isQuoted fun cuts => wordCells substitute cuts word
  | .command command isQuoted => do
    pure (resultCells isQuoted (withoutLineEnds (← substitute command)))
  | .arithmetic expression isQuoted => do
    let text := Cell.text (← wordCells substitute false expression)
    pure (resultCells isQuoted (← arithmeticValue text))

/-- The cells of the segments of a word. -/
def wordCells (substitute : Substitute) (cuts : Bool) : List Segment → Shell (List Cell)
  | [] => pure []
  | segment :: rest => do
    let first ← segmentCells substitute cuts segment
    let others ← wordCells substitute cuts rest
    pure (first ++ others)

end

/-! ### Names of files -/

/-- The parts of a written pattern between slashes. -/
def pathParts (bytes : List PatternByte) : List (List PatternByte) :=
  (bytes.foldr (fun b (parts : List PatternByte × List (List PatternByte)) =>
    if b.byte = '/' then ([], parts.1 :: parts.2) else (b :: parts.1, parts.2)) ([], [])) |>
    fun (first, others) => first :: others

/-- The names in a directory that a part of a pattern describes. Names that begin with a point are
only found by patterns that do so as well. -/
def matchingNames (directory : Octets) (part : Pattern) : Shell (List Octets) := do
  match ← call (.list (if directory.isEmpty then ['.'] else directory)) with
  | .error _ => pure []
  | .ok names =>
    let withPoint := part.head? = some (.byte '.')
    let names := if withPoint then ['.'] :: ['.', '.'] :: names else names
    pure (names.filter fun name =>
      (withPoint || name.head? ≠ some '.') && part.accepts name)

/-- The strings that are found for some things, one after the other. -/
def gather {α : Type} (f : α → Shell (List Octets)) : List α → Shell (List Octets)
  | [] => pure []
  | a :: rest => do
    let first ← f a
    let others ← gather f rest
    pure (first ++ others)

/-- The paths with a given beginning whose rest a pattern describes. Names that are no patterns
must exist if `checks` holds. -/
def pathsFrom (start : Octets) (checks : Bool) : List (List PatternByte) → Shell (List Octets)
  | [] => pure []
  | part :: rest =>
    let pattern := Pattern.ofBytes part
    if pattern.isOpen then do
      let names ← matchingNames start pattern
      gather (fun name =>
        match rest with
        | [] => pure [start ++ name]
        | _ :: _ => pathsFrom (start ++ name ++ ['/']) true rest) names
    else
      let path := start ++ pattern.text
      match rest with
      | [] => do
        if !checks then pure [path]
        else match ← call (.status path false) with
          | .ok _ => pure [path]
          | .error _ => pure []
      | _ :: _ => pathsFrom (path ++ ['/']) checks rest

/-- The files whose names a written pattern describes, in order. -/
def matchingPaths (bytes : List PatternByte) : Shell (List Octets) := do
  let found ← pathsFrom [] false (pathParts bytes)
  pure (found.mergeSort fun a b => !(decide (b < a)))

/-- The strings of a field: the names of files if it is a pattern that describes some. -/
def fieldStrings (cells : List Cell) : Shell (List Octets) := do
  let s ← get
  if s.has 'f' || !(Cell.pattern cells).isOpen then pure [Cell.text cells]
  else
    let found ← matchingPaths (Cell.patternBytes cells)
    pure (if found.isEmpty then [Cell.text cells] else found)

/-- The strings of fields. -/
def stringsOf (fields : List (List Cell)) : Shell (List Octets) :=
  gather fieldStrings fields

/-! ### Words -/

/-- The fields of a word. -/
def expand (substitute : Substitute) (word : Word) : Shell (List Octets) := do
  let cells ← wordCells substitute true (expandHome (← get) false word)
  stringsOf (fieldsOf (← get).separators cells)

/-- The fields of words. -/
def expandAll (substitute : Substitute) (words : List Word) : Shell (List Octets) :=
  gather (expand substitute) words

/-- The cells of a word that is not cut. -/
def uncutCells (substitute : Substitute) (word : Word) : Shell (List Cell) := do
  wordCells substitute false (expandHome (← get) false word)

/-- The string of a word that is not cut. -/
def expandOne (substitute : Substitute) (word : Word) : Shell Octets :=
  Cell.text <$> uncutCells substitute word

/-- The string of a word that gives a variable its value. -/
def expandValue (substitute : Substitute) (word : Word) : Shell Octets := do
  let word := expandHomes (← get) (word.length + 1) word
  pure (Cell.text (← wordCells substitute false word))

end LineShell.Script
