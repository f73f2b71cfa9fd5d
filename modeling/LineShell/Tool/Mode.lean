import LineShell.Tool.Options

/-!
# Permission bits in arguments

Permission bits are given by octal digits, or by clauses that change them: for whom, in what
way, and which.

## Main definitions

* `ModeChange` — a change of permission bits.
* `ModeChange.parse` — reads such a change.
* `ModeChange.apply` — the bits after it.
* `Tool.chmod`, `Tool.touch` — the tools that change permission bits, and create files.
-/

namespace LineShell

/-- In what way bits are changed. -/
inductive ModeAction where
  | add
  | remove
  | set
deriving DecidableEq, Repr

/-- Which bits are meant. -/
inductive ModeBits where
  /-- The given ones for everybody; the flag says that running is meant only for directories
  and for what somebody may run. -/
  | given (bits : Nat) (runsIfAny : Bool)
  /-- Those that the owner (6), the group (3) or the others (0) have, by their shift. -/
  | copied (shift : Nat)
deriving DecidableEq, Repr

/-- A change of permission bits. -/
inductive ModeChange where
  /-- They become these. -/
  | octal (bits : Nat)
  /-- Clauses, one after the other: whom they concern, and what changes. Whom is 0 if nobody
  is named. -/
  | clauses (clauses : List (Nat × ModeAction × ModeBits))
deriving DecidableEq, Repr

namespace ModeChange

/-- The bits of those named by letters, and what follows the letters. -/
def scanWhom (whom : Nat) : Octets → Nat × Octets
  | [] => (whom, [])
  | c :: rest =>
    match c with
    | 'u' => scanWhom (whom ||| 0o4700) rest
    | 'g' => scanWhom (whom ||| 0o2070) rest
    | 'o' => scanWhom (whom ||| 0o1007) rest
    | 'a' => scanWhom (whom ||| 0o7777) rest
    | _ => (whom, c :: rest)

/-- The bits named by letters, and what follows the letters. -/
def scanBits (bits : Nat) (runsIfAny : Bool) : Octets → ModeBits × Octets
  | [] => (.given bits runsIfAny, [])
  | c :: rest =>
    match c with
    | 'r' => scanBits (bits ||| 0o444) runsIfAny rest
    | 'w' => scanBits (bits ||| 0o222) runsIfAny rest
    | 'x' => scanBits (bits ||| 0o111) runsIfAny rest
    | 'X' => scanBits bits true rest
    | 's' => scanBits (bits ||| 0o6000) runsIfAny rest
    | 't' => scanBits (bits ||| 0o1000) runsIfAny rest
    | _ => (.given bits runsIfAny, c :: rest)

/-- The letters of a clause after the action. -/
def scanWhat (text : Octets) : ModeBits × Octets :=
  match text with
  | 'u' :: rest => (.copied 6, rest)
  | 'g' :: rest => (.copied 3, rest)
  | 'o' :: rest => (.copied 0, rest)
  | _ => scanBits 0 false text

/-- The action that a sign stands for. -/
def actionOf? (c : Char) : Option ModeAction :=
  match c with
  | '+' => some .add
  | '-' => some .remove
  | '=' => some .set
  | _ => none

/-- The actions of a clause for somebody, at most `fuel` of them, and what follows. -/
def scanActions (whom : Nat) : Nat → Octets → List (Nat × ModeAction × ModeBits) × Octets
  | 0, text => ([], text)
  | fuel + 1, text =>
    match text with
    | c :: rest =>
      match actionOf? c with
      | none => ([], text)
      | some action =>
        let (bits, rest) := scanWhat rest
        let (others, rest) := scanActions whom fuel rest
        ((whom, action, bits) :: others, rest)
    | [] => ([], [])

/-- The clauses of a string without the commas between them. -/
def clausesOf? : List Octets → Option (List (Nat × ModeAction × ModeBits))
  | [] => some []
  | text :: rest =>
    let (whom, after) := scanWhom 0 text
    match scanActions whom after.length after with
    | ([], _) => none
    | (_, _ :: _) => none
    | (actions, []) => (clausesOf? rest).map (actions ++ ·)

/-- Reads a change of permission bits. -/
def parse (text : Octets) : Option ModeChange :=
  if !text.isEmpty && text.all fun c => '0' ≤ c && c ≤ '7' then
    let bits := text.foldl (fun n c => n * 8 + (c.toNat - '0'.toNat)) 0
    if bits ≤ 0o7777 then some (.octal bits) else none
  else (clausesOf? (Octets.splitOn ',' text)).map .clauses

/-- The bits after one clause. Bits in `mask` are changed for nobody unless somebody is
named. -/
def applyClause (mask : Nat) (isDirectory : Bool) (mode : Nat)
    (clause : Nat × ModeAction × ModeBits) : Nat :=
  let (whom, action, bits) := clause
  let concerned := if whom = 0 then 0o7777 ^^^ (mask &&& 0o777) else whom
  let value := match bits with
    | .given bits runsIfAny =>
      if runsIfAny && (isDirectory || mode &&& 0o111 ≠ 0) then bits ||| 0o111 else bits
    | .copied shift =>
      let three := mode / 2 ^ shift % 8
      three * 0o111
  let value := value &&& concerned
  match action with
  | .add => mode ||| value
  | .remove => mode &&& (0o7777 ^^^ value)
  | .set =>
    let kept := if whom = 0 then 0 else mode &&& (0o7777 ^^^ concerned)
    kept ||| value

/-- The bits after a change. -/
def apply (mask : Nat) (isDirectory : Bool) (mode : Nat) : ModeChange → Nat
  | .octal bits => bits
  | .clauses parts => parts.foldl (applyClause mask isDirectory) mode

end ModeChange

namespace Program

/-- The permission bits that new files do not get. -/
def currentMask : Program Nat := do
  let mask ← call (.mask 0)
  let _ ← call (.mask mask)
  pure mask

end Program

namespace Tool

/-! ### chmod -/

namespace Chmod

/-- Whether an argument is a change that begins with a hyphen. -/
def isRemoval (argument : Octets) : Bool :=
  match argument with
  | '-' :: c :: _ => "rwxXstugoa,=+01234567".toList.contains c
  | _ => false

/-- How much is told about changes. -/
inductive Telling where
  | nothing
  | changes
  | everything
deriving DecidableEq, Repr

/-- What the options say. -/
structure Settings where
  recursive : Bool := false
  quiet : Bool := false
  telling : Telling := .nothing
  /-- Whether the change begins with a hyphen, so that bits may be left by oversight. -/
  isRemoval : Bool := false

/-- Three letters for three bits, the last of which may be combined with another one. -/
def letters (three : Nat) (special : Bool) (sign : Char) : Octets :=
  let runs := three &&& 1 ≠ 0
  [if three &&& 4 ≠ 0 then 'r' else '-', if three &&& 2 ≠ 0 then 'w' else '-',
    if special then (if runs then sign else sign.toUpper) else if runs then 'x' else '-']

/-- Permission bits as letters. -/
def shown (mode : Nat) : Octets :=
  letters (mode / 64 % 8) (mode &&& 0o4000 ≠ 0) 's' ++
    letters (mode / 8 % 8) (mode &&& 0o2000 ≠ 0) 's' ++
    letters (mode % 8) (mode &&& 0o1000 ≠ 0) 't'

/-- Permission bits as digits and as letters. -/
def described (mode : Nat) : Octets :=
  let digits := [mode / 512 % 8, mode / 64 % 8, mode / 8 % 8, mode % 8].map Nat.digitChar
  digits ++ " (" ++ shown mode ++ ")"

/-- Tells that bits were changed or that they are as before. -/
def tell (i : Invocation) (s : Settings) (path : Octets) (before after : Nat) : Program Unit :=
  if before = after then
    if s.telling = .everything then
      print i ("mode of " ++ Octets.shellQuoted path ++ " retained as " ++ described before ++ "\n")
    else pure ()
  else if s.telling = .nothing then pure ()
  else
    print i ("mode of " ++ Octets.shellQuoted path ++ " changed from " ++ described before ++
      " to " ++ described after ++ "\n")

/-- Complains about bits that are left although they were to be removed. -/
def checkRemoval (i : Invocation) (s : Settings) (path : Octets) (expected mode : Nat) :
    Program Bool := do
  if s.isRemoval && mode &&& (0o7777 ^^^ expected) ≠ 0 then
    complain i (Octets.fileName path ++ ": new permissions are " ++ shown mode ++ ", not " ++
      shown expected)
    pure false
  else pure true

/-- Changes the permission bits at a path. -/
def change (i : Invocation) (s : Settings) (mode : ModeChange) (path : Octets) :
    Program Bool := do
  match ← Program.call (.status path true) with
  | .error e =>
    if !s.quiet then
      match e, ← Program.call (.status path false) with
      | .ENOENT, .ok _ =>
        complain i ("cannot operate on dangling symlink " ++ Octets.shellQuoted path)
      | _, _ => complain i ("cannot access " ++ Octets.shellQuoted path ++ ": " ++ e.text)
    if s.telling = .everything then
      print i (Octets.shellQuoted path ++ " could not be accessed\n")
    pure false
  | .ok status =>
    let mask ← Program.currentMask
    let isDirectory := status.kind = .directory
    let wanted := mode.apply mask isDirectory status.mode
    match ← Program.call (.changeMode path wanted) with
    | .ok () =>
      tell i s path status.mode wanted
      checkRemoval i s path (mode.apply 0 isDirectory status.mode) wanted
    | .error e =>
      if !s.quiet then
        complain i ("changing permissions of " ++ Octets.shellQuoted path ++ ": " ++ e.text)
      if s.telling = .everything then
        print i ("failed to change mode of " ++ Octets.shellQuoted path ++ " from " ++
          described status.mode ++ " to " ++ described wanted ++ "\n")
      pure false

/-- The greatest depth of paths. -/
def deepest : Nat := 4096

/-- Changes the permission bits at some paths, and at those below them to a depth: those of a
directory come before those of what is in it. -/
def changeBelow (i : Invocation) (s : Settings) (mode : ModeChange) :
    Nat → List Octets → Program Bool
  | 0, _ => pure true
  | _, [] => pure true
  | depth + 1, path :: rest => do
    let well ← change i s mode path
    let names ← match ← Program.call (.status path false) with
      | .ok { kind := .directory, .. } => Program.call (.list path)
      | _ => pure (.ok [])
    let well' ← match names with
      | .ok names => changeBelow i s mode depth (names.map (Path.within path ·))
      | .error e => do
        if !s.quiet then
          complain i ("cannot read directory " ++ Octets.shellQuoted path ++ ": " ++ e.text)
        pure false
    let others ← changeBelow i s mode depth rest
    pure (well && well' && others)

/-- The settings of some options. -/
def settingsOf (isRemoval : Bool) (p : Parsed) : Settings where
  recursive := p.has 'R'
  quiet := p.has 'f'
  telling :=
    match p.lastOf? ['c', 'v'] with
    | some 'v' => .everything
    | some _ => .changes
    | none => .nothing
  isRemoval := isRemoval

/-- The options. -/
def grammar : Grammar where
  letters := "Rcfv"
  long := [⟨"changes", .none, 'c'⟩, ⟨"recursive", .none, 'R'⟩, ⟨"quiet", .none, 'f'⟩,
    ⟨"silent", .none, 'f'⟩, ⟨"verbose", .none, 'v'⟩]

end Chmod

/-- Changes permission bits. -/
def chmod (i : Invocation) : Program Nat :=
  let options := i.operands.takeWhile (· ≠ ['-', '-'])
  let removals := options.filter Chmod.isRemoval
  let arguments := options.filter (!Chmod.isRemoval ·) ++ i.operands.drop options.length
  withOptions Chmod.grammar i arguments fun p => do
    let (mode, paths) := if removals.isEmpty then (p.operands.head?, p.operands.tail)
      else (some (Octets.join [','] removals), p.operands)
    match mode, paths with
    | none, _ => misuse i "missing operand"
    | some mode, [] =>
      if removals.isEmpty then misuse i ("missing operand after " ++ Octets.quoted mode)
      else misuse i "missing operand"
    | some mode, paths =>
      match ModeChange.parse mode with
      | none => misuse i ("invalid mode: " ++ Octets.quoted mode)
      | some change =>
        let s := Chmod.settingsOf (!removals.isEmpty) p
        if s.recursive then
          let well ← Chmod.changeBelow i s change Chmod.deepest paths
          pure (if well then 0 else 1)
        else forAll (Chmod.change i s change) paths

/-! ### touch -/

namespace Touch

/-- Creates a file if it does not exist. Without leave to create it, it need not exist unless
it is `required`. -/
def create (i : Invocation) (creates required : Bool) (path : Octets) : Program Bool := do
  if path = dash then pure true
  else
    let opened ←
      if creates then Program.openFile path { writes := true, creates := true }
      else pure (.error .ENOENT)
    match opened with
    | .ok descriptor =>
      Program.close descriptor
      pure true
    | .error failure =>
      match ← Program.call (.status path (!required)) with
      | .ok _ => pure true
      | .error e =>
        if !creates && !required && e = .ENOENT then pure true
        else
          let problem : Octets :=
            if failure = .EISDIR || !creates then
              "setting times of " ++ Octets.shellQuoted path ++ ": " ++ e.text
            else "cannot touch " ++ Octets.shellQuoted path ++ ": " ++ failure.text
          complain i problem
          pure false

end Touch

/-- Creates files that do not exist. -/
def touch (i : Invocation) : Program Nat :=
  let grammar : Grammar := {
    letters := "acd:fhmr:t:"
    long := [⟨"time", .required, 'T'⟩, ⟨"no-create", .none, 'c'⟩, ⟨"date", .required, 'd'⟩,
      ⟨"reference", .required, 'r'⟩, ⟨"no-dereference", .none, 'h'⟩] }
  withOptions grammar i i.operands fun p =>
    if p.operands.isEmpty then misuse i "missing file operand"
    else forAll (Touch.create i (!(p.has 'c' || p.has 'h')) (p.has 'h' && !p.has 'c')) p.operands

end Tool

end LineShell
