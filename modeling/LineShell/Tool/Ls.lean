import LineShell.Tool.Directory
import LineShell.Tool.Number
import LineShell.Tool.Sort.Order

/-!
# ls

Lists the names in directories, in some order and in some layout.

## Main definitions

* `Tool.Ls.Settings` — what the options say.
* `Tool.Ls.Entry`, `Tool.Ls.inOrder` — a name that is listed, and the order of names.
* `Tool.Ls.layOut` — the text in which names are listed.
* `Tool.ls` — the tool.
-/

namespace LineShell.Tool

namespace Ls

/-! ### Settings -/

/-- What names are sorted by. -/
inductive SortKey where
  | name
  | none
  | size
  | ending
  | version
deriving DecidableEq, Repr

/-- How names are laid out. -/
inductive Layout where
  /-- One on a line. -/
  | lines
  /-- In columns, which are filled one after the other. -/
  | columns
  /-- In columns, the rows of which are filled one after the other. -/
  | across
  /-- With commas between them. -/
  | commas
deriving DecidableEq, Repr

/-- How names are written. -/
inductive Quoting where
  | literal
  | shell
  | shellAlways
  | double
  | escape
  | single
deriving DecidableEq, Repr

/-- Which kinds of files have a sign after their names. -/
inductive Signs where
  | none
  | directories
  | kinds
  | all
deriving DecidableEq, Repr

/-- Which names are shown. -/
inductive Shown where
  | plain
  | almostAll
  | all
deriving DecidableEq, Repr

/-- What the options say. -/
structure Settings where
  shown : Shown := .plain
  key : SortKey := .name
  reversed : Bool := false
  /-- Whether directories come before other files. -/
  directoriesFirst : Bool := false
  layout : Layout := .lines
  quoting : Quoting := .literal
  /-- Whether bytes without a shape are shown as question marks. -/
  masks : Bool := false
  signs : Signs := .none
  /-- Whether directories are listed as such, and not what is in them. -/
  asNames : Bool := false
  recursive : Bool := false
  /-- Whether links to directories on the command line are not followed. -/
  long : Bool := false
  /-- Whether names that end with a tilde are left out. -/
  dropsBackups : Bool := false
  /-- The width of lines; 0 for no bound. -/
  width : Nat := 80
  /-- The distance of tab stops; 0 for none. -/
  tabStop : Nat := 8
  lineEnd : Char := '\n'
deriving DecidableEq, Repr

/-! ### Names -/

/-- A name that is listed. -/
structure Entry where
  name : Octets
  path : Octets
  status : Option FileStatus := none

/-- Whether an entry is a directory. -/
def Entry.isDirectory (e : Entry) : Bool := e.status.any (·.kind = .directory)

/-- The ending of a name from the last point on. -/
def endingOf (name : Octets) : Octets :=
  if name.contains '.' then '.' :: (name.reverse.takeWhile (· ≠ '.')).reverse else []

/-- The order of strings, byte by byte. -/
def compareBytes (a b : Octets) : Ordering :=
  if a = b then .eq else if a.lex b then .lt else .gt

/-- The order of two entries. -/
def compareEntries (key : SortKey) (a b : Entry) : Ordering :=
  let byKey : Ordering := match key with
    | .name | .none => .eq
    | .size =>
      compare ((b.status.map FileStatus.size).getD 0) ((a.status.map FileStatus.size).getD 0)
    | .ending => compareBytes (endingOf a.name) (endingOf b.name)
    | .version => Sorting.versionCompare a.name b.name
  byKey.then (compareBytes a.name b.name)

/-- Entries in order. -/
def inOrder (s : Settings) (entries : List Entry) : List Entry :=
  let sorted := match s.key with
    | .none => entries
    | key =>
      let sorted := entries.mergeSort fun a b => compareEntries key a b ≠ .gt
      if s.reversed then sorted.reverse else sorted
  if s.directoriesFirst then
    sorted.filter (·.isDirectory) ++ sorted.filter (!·.isDirectory)
  else sorted

/-- The names in a directory that are shown. -/
def shownNames (s : Settings) (names : List Octets) : List Octets :=
  let names := match s.shown with
    | .all => ['.'] :: ['.', '.'] :: names
    | .almostAll => names
    | .plain => names.filter (·.head? ≠ some '.')
  if s.dropsBackups then names.filter (·.getLast? ≠ some '~') else names

/-- The sign after a name that tells what it stands for. -/
def signOf (signs : Signs) (status : FileStatus) : Octets :=
  match signs, status.kind with
  | .none, _ => []
  | _, .directory => ['/']
  | .kinds, .link | .all, .link => ['@']
  | .kinds, .pipe | .all, .pipe => ['|']
  | .all, .regular => if status.mode &&& 0o111 ≠ 0 then ['*'] else []
  | _, _ => []

/-- A name with escapes for bytes without a shape, and for some others. -/
def escaped (others : List Char) (name : Octets) : Octets :=
  name.flatMap fun c =>
    if others.contains c then ['\\', c]
    else if Octets.isPrintable c then [c]
    else Octets.escape c

/-- A name as it is written. -/
def written (s : Settings) (name : Octets) : Octets :=
  match s.quoting with
  | .literal =>
    if s.masks then name.map fun c => if Octets.isPrintable c then c else '?' else name
  | .shell => Octets.quotedIfNeeded name
  | .shellAlways => Octets.shellQuoted name
  | .double => '"' :: escaped ['"', '\\'] name ++ ['"']
  | .escape => escaped [' ', '\\'] name
  | .single => Octets.quoted name

/-- What is written for an entry. -/
def label (s : Settings) (e : Entry) : Octets :=
  written s e.name ++ (e.status.map (signOf s.signs)).getD []

/-! ### Layouts -/

/-- The width of a text. -/
def widthOf (text : Octets) : Nat := text.countP Octets.isPrintable

/-- The gap between two columns of a line. -/
def gap (tabStop start finish : Nat) : Nat → Octets
  | 0 => []
  | fuel + 1 =>
    if start ≥ finish then []
    else if tabStop ≠ 0 && finish / tabStop > (start + 1) / tabStop then
      '\t' :: gap tabStop (start + tabStop - start % tabStop) finish fuel
    else ' ' :: gap tabStop (start + 1) finish fuel

/-- The least width of a column. -/
def leastColumn : Nat := 3

/-- The widths of columns for names of some widths, if there are `count` columns. -/
def columnWidths (down : Bool) (count : Nat) (widths : List Nat) : List Nat :=
  let rows := (widths.length + count - 1) / count
  let place (n : Nat) : Nat := if down then n / rows else n % count
  (List.range count).map fun column =>
    let inside := (widths.zipIdx.filter fun (_, n) => place n = column).map (·.1)
    inside.foldl (fun most w => max most (if column + 1 = count then w else w + 2)) leastColumn

/-- The widths of the most columns, of at most `count` ones, that fit into a line. -/
def fitColumns (down : Bool) (width : Nat) (widths : List Nat) : Nat → List Nat
  | 0 => []
  | 1 => columnWidths down 1 widths
  | count + 1 =>
    let columns := columnWidths down (count + 1) widths
    if columns.sum < width then columns else fitColumns down width widths count

/-- The names of one row in columns; `start` is the place where the row goes on. -/
def writeRow (tabStop start : Nat) : List (Octets × Nat) → Octets
  | [] => []
  | [(text, _)] => text
  | (text, width) :: rest =>
    text ++ gap tabStop (start + widthOf text) (start + width) (width + 1) ++
      writeRow tabStop (start + width) rest

/-- Names in columns. -/
def inColumns (s : Settings) (down : Bool) (texts : List Octets) : Octets :=
  let widths := texts.map widthOf
  let most := min (max 1 ((s.width + leastColumn - 1) / leastColumn)) texts.length
  let columns := fitColumns down s.width widths most
  let count := max 1 columns.length
  let rows := (texts.length + count - 1) / count
  (List.range rows).flatMap fun row =>
    let places := (List.range count).map fun column =>
      if down then column * rows + row else row * count + column
    let cells := (places.zip columns).filterMap fun (n, width) => texts[n]?.map (·, width)
    writeRow s.tabStop 0 cells ++ [s.lineEnd]

/-- Names with separators between them, after `start` bytes of a line. -/
def separated (width start : Nat) (separator : Octets) : List Octets → Octets
  | [] => []
  | text :: rest =>
    let size := widthOf text
    if start = 0 then text ++ separated width (size + 1) separator rest
    else if width = 0 || start - 1 + size + 2 < width then
      separator ++ ' ' :: text ++ separated width (start + size + 2) separator rest
    else separator ++ '\n' :: text ++ separated width (size + 1) separator rest

/-- The text in which names are listed. -/
def layOut (s : Settings) (texts : List Octets) : Octets :=
  if texts.isEmpty then []
  else match s.layout with
    | .lines => texts.flatMap (· ++ [s.lineEnd])
    | .commas => separated s.width 0 [','] texts ++ [s.lineEnd]
    | .columns | .across =>
      if s.width = 0 then separated 0 0 [' '] texts ++ [s.lineEnd]
      else inColumns s (s.layout = .columns) texts

/-! ### Directories -/

/-- Whether more than names has to be known about entries. -/
def needsStatus (s : Settings) : Bool :=
  s.signs ≠ .none || s.recursive || s.key = .size || s.directoriesFirst

/-- The entries for names in a directory. -/
def entriesOf (s : Settings) (directory : Octets) : List Octets → Program (List Entry)
  | [] => pure []
  | name :: rest => do
    let path := Path.within directory name
    let status ←
      if needsStatus s then pure (← Program.call (.status path false)).toOption else pure none
    let others ← entriesOf s directory rest
    pure (⟨name, path, status⟩ :: others)

/-- Lists directories one after the other; what lies below them comes after each to a depth, if
it is asked for. The code so far is passed on. -/
def listAll (i : Invocation) (s : Settings) (headed : Bool) :
    Nat → Bool → Nat → List Octets → Program Nat
  | 0, _, code, _ => pure code
  | _, _, code, [] => pure code
  | fuel + 1, isFirst, code, path :: rest => do
    match ← Program.call (.list path) with
    | .error e =>
      complain i ("cannot open directory " ++ Octets.shellQuoted path ++ ": " ++ e.text)
      listAll i s headed fuel isFirst 2 rest
    | .ok names =>
      if headed then
        print i ((if isFirst then [] else ['\n']) ++ written s path ++ ":\n")
      let entries ← entriesOf s path (shownNames s names)
      let entries := inOrder s entries
      print i (layOut s (entries.map (label s)))
      let inner := if !s.recursive then []
        else entries.filter fun e => e.isDirectory && e.name ≠ ['.'] && e.name ≠ ['.', '.']
      listAll i s headed fuel false code (inner.map (·.path) ++ rest)

/-- The entries for operands, and the code so far. Operands that cannot be found are complained
about. -/
def entriesOfOperands (i : Invocation) (s : Settings) :
    List Octets → Program (List Entry × Nat)
  | [] => pure ([], 0)
  | path :: rest => do
    let follows := !(s.asNames || s.signs = .all || s.long)
    let status ← match ← Program.call (.status path follows) with
      | .ok status =>
        if follows && status.kind ≠ .directory then Program.call (.status path false)
        else pure (.ok status)
      | .error e =>
        match follows, ← Program.call (.status path false) with
        | true, .ok status => pure (Except.ok status)
        | _, _ => pure (Except.error e)
    match status with
    | .error e =>
      complain i ("cannot access " ++ Octets.shellQuoted path ++ ": " ++ e.text)
      let (entries, _) ← entriesOfOperands i s rest
      pure (entries, 2)
    | .ok status =>
      let (entries, code) ← entriesOfOperands i s rest
      pure (⟨path, path, some status⟩ :: entries, code)

/-! ### Options -/

/-- The words for what names are sorted by. -/
def sortWords : List (String × SortKey) :=
  [("none", .none), ("size", .size), ("time", .name), ("version", .version),
    ("extension", .ending)]

/-- The words for layouts. -/
def layoutWords : List (String × Layout) :=
  [("verbose", .lines), ("long", .lines), ("commas", .commas), ("horizontal", .across),
    ("across", .across), ("vertical", .columns), ("single-column", .lines)]

/-- The words for ways of writing names. -/
def quotingWords : List (String × Quoting) :=
  [("literal", .literal), ("shell", .shell), ("shell-always", .shellAlways),
    ("shell-escape", .shell), ("shell-escape-always", .shellAlways), ("c", .double),
    ("escape", .escape), ("locale", .single), ("clocale", .double)]

/-- The words for signs. -/
def signWords : List (String × Signs) :=
  [("none", .none), ("slash", .directories), ("file-type", .kinds), ("classify", .all)]

/-- A count in the value of an option. -/
def sizeOf (what text : Octets) : Except Refusal Nat :=
  match readCount [] text with
  | .ok n => .ok n
  | .error .overflow => .ok 0
  | .error .malformed => .error { text := what ++ ": " ++ Octets.quoted text }

/-- Takes an option into account. -/
def set (s : Settings) (key : Char) (value : Option Octets) : Except Refusal Settings := do
  let text := value.getD []
  match key with
  | 'a' => return { s with shown := .all }
  | 'A' => return { s with shown := .almostAll }
  | 'd' => return { s with asNames := true }
  | 'f' => return { s with shown := .all, key := .none }
  | 'F' => return { s with signs := .all }
  | 'p' => return { s with signs := .directories }
  | 'r' => return { s with reversed := true }
  | 'R' => return { s with recursive := true }
  | 'U' => return { s with key := .none }
  | 'S' => return { s with key := .size }
  | 'X' => return { s with key := .ending }
  | 'v' => return { s with key := .version }
  | 't' => return { s with key := .name }
  | 'C' => return { s with layout := .columns }
  | 'x' => return { s with layout := .across }
  | 'm' => return { s with layout := .commas }
  | '1' => return { s with layout := .lines }
  | 'l' | 'g' | 'n' | 'o' => return { s with layout := .lines, long := true }
  | 'Q' => return { s with quoting := .double }
  | 'b' => return { s with quoting := .escape }
  | 'N' => return { s with quoting := .literal }
  | 'q' => return { s with masks := true }
  | 'B' => return { s with dropsBackups := true }
  | 'w' => return { s with width := ← sizeOf "invalid line width" text }
  | 'T' => return { s with tabStop := ← sizeOf "invalid tab size" text }
  | '\x10' => return { s with key := ← valueOfWord "--sort" sortWords text }
  | '\x11' => return { s with layout := ← valueOfWord "--format" layoutWords text }
  | '\x12' => return { s with quoting := ← valueOfWord "--quoting-style" quotingWords text }
  | '\x13' => return { s with signs := ← valueOfWord "--indicator-style" signWords text }
  | '\x14' => return { s with directoriesFirst := true }
  | '\x15' => return { s with signs := .kinds }
  | '\x16' => return { s with lineEnd := '\x00', layout := .lines, quoting := .literal }
  | _ => return s

/-- The options. -/
def grammar : Grammar where
  letters := "abcdfghiklmnopqrstuvw:xABCDFGHI:LNQRST:UXZ1"
  long := [⟨"all", .none, 'a'⟩, ⟨"escape", .none, 'b'⟩, ⟨"directory", .none, 'd'⟩,
    ⟨"group-directories-first", .none, '\x14'⟩, ⟨"human-readable", .none, 'h'⟩,
    ⟨"inode", .none, 'i'⟩, ⟨"kibibytes", .none, 'k'⟩, ⟨"numeric-uid-gid", .none, 'n'⟩,
    ⟨"no-group", .none, 'G'⟩, ⟨"hide-control-chars", .none, 'q'⟩, ⟨"reverse", .none, 'r'⟩,
    ⟨"size", .none, 's'⟩, ⟨"width", .required, 'w'⟩, ⟨"almost-all", .none, 'A'⟩,
    ⟨"ignore-backups", .none, 'B'⟩, ⟨"classify", .optional, 'F'⟩, ⟨"file-type", .none, '\x15'⟩,
    ⟨"si", .none, 'h'⟩, ⟨"dereference-command-line", .none, 'H'⟩, ⟨"ignore", .required, 'I'⟩,
    ⟨"indicator-style", .required, '\x13'⟩, ⟨"dereference", .none, 'L'⟩,
    ⟨"literal", .none, 'N'⟩, ⟨"quote-name", .none, 'Q'⟩,
    ⟨"quoting-style", .required, '\x12'⟩, ⟨"recursive", .none, 'R'⟩,
    ⟨"format", .required, '\x11'⟩, ⟨"show-control-chars", .none, 'N'⟩,
    ⟨"sort", .required, '\x10'⟩, ⟨"tabsize", .required, 'T'⟩, ⟨"color", .optional, 'k'⟩,
    ⟨"zero", .none, '\x16'⟩]

end Ls

/-- Lists directories. -/
def ls (i : Invocation) : Program Nat :=
  withSettings Ls.grammar i i.operands {} Ls.set (fun s operands => do
    let operands := if operands.isEmpty then [['.']] else operands
    let (entries, code) ← Ls.entriesOfOperands i s operands
    let sorted := Ls.inOrder s entries
    let isListed (e : Ls.Entry) : Bool := e.isDirectory && !s.asNames
    let others := sorted.filter (!isListed ·)
    print i (Ls.layOut s (others.map (Ls.label s)))
    let headed := operands.length > 1 || s.recursive
    Ls.listAll i s headed Program.forever others.isEmpty code
      ((sorted.filter isListed).map (·.path))) 2

end LineShell.Tool
