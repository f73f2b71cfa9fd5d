import LineShell.Tool.Directory

/-!
# Files and their names

`cp` copies files, `mv` gives them other names, `ln` gives them more names, and `rm` takes names
away.

## Main definitions

* `Tool.Target` — where operands go.
* `Tool.cp`, `Tool.mv`, `Tool.ln`, `Tool.rm` — the tools.
* `Tool.readlink` — where a link leads.
-/

namespace LineShell.Tool

/-! ### Operands with a target -/

/-- Where operands go. -/
inductive Target where
  /-- Into a directory. -/
  | into (directory : Octets)
  /-- To a path. -/
  | exactly (path : Octets)
deriving DecidableEq, Repr

/-- The path to which an operand goes. -/
def Target.of (t : Target) (operand : Octets) : Octets :=
  match t with
  | .into directory => Path.within directory (Path.base operand)
  | .exactly path => path

/-- The operands and their target, which is the last operand or the value of an option. -/
def targetOf (i : Invocation) (p : Parsed) : Program (List Octets × Target) := do
  if p.options.countP (·.1 = 't') > 1 then fail i "multiple target directories specified"
  match p.value? 't' with
  | some directory =>
    if p.operands.isEmpty then misuse i "missing file operand"
    if p.has 'T' then
      fail i "cannot combine --target-directory (-t) and --no-target-directory (-T)"
    if ← Program.isDirectory directory then pure (p.operands, .into directory)
    else
      let e ← match ← Program.call (.status directory true) with
        | .ok _ => pure Errno.ENOTDIR
        | .error e => pure e
      fail i ("target directory " ++ Octets.shellQuoted directory ++ ": " ++ e.text)
  | none =>
    match p.operands.reverse with
    | [] => misuse i "missing file operand"
    | [only] => misuse i ("missing destination file operand after " ++ Octets.shellQuoted only)
    | last :: others =>
      if p.has 'T' then
        match others with
        | [source] => pure ([source], .exactly last)
        | _ => misuse i ("extra operand " ++ Octets.shellQuoted ((p.operands[2]?).getD []))
      else if ← Program.isDirectory last then pure (others.reverse, .into last)
      else match others with
        | [source] => pure ([source], .exactly last)
        | _ => do
          let e ← match ← Program.call (.status last true) with
            | .ok _ => pure Errno.ENOTDIR
            | .error e => pure e
          fail i ("target " ++ Octets.shellQuoted last ++ ": " ++ e.text)

/-- Options for a target. -/
def targetOptions : List LongOption :=
  [⟨"target-directory", .required, 't'⟩, ⟨"no-target-directory", .none, 'T'⟩,
    ⟨"verbose", .none, 'v'⟩, ⟨"force", .none, 'f'⟩, ⟨"interactive", .none, 'i'⟩,
    ⟨"suffix", .required, 'S'⟩, ⟨"backup", .optional, 'b'⟩]

/-- Tells what was done if it is asked for. -/
def tellArrow (i : Invocation) (p : Parsed) (lead source target : Octets) : Program Unit :=
  if p.has 'v' then
    print i (lead ++ Octets.shellQuoted source ++ " -> " ++ Octets.shellQuoted target ++ "\n")
  else pure ()

/-- Whether two paths lead to the same node. -/
def areSame (a b : Octets) (follows : Bool) : Program Bool := do
  match ← Program.call (.status a follows), ← Program.call (.status b follows) with
  | .ok x, .ok y => pure (x.node.isSome && x.node = y.node)
  | _, _ => pure false

/-! ### rm -/

namespace Rm

/-- Whether a path ends with the directory itself or its parent. -/
def isDots (path : Octets) : Bool :=
  let name := (path.reverse.dropWhile (· = '/')).takeWhile (· ≠ '/')
  name = ['.'] || name = ['.', '.']

/-- Why something is not removed. -/
def failure (path : Octets) (e : Errno) : Octets :=
  "cannot remove " ++ Octets.shellQuoted path ++ ": " ++ e.text

/-- Removes what is at a path, which is no directory. -/
def removeFile (i : Invocation) (p : Parsed) (path : Octets) : Program Bool := do
  match ← Program.call (.remove path) with
  | .ok () =>
    if p.has 'v' then print i ("removed " ++ Octets.shellQuoted path ++ "\n")
    pure true
  | .error e =>
    complain i (failure path e)
    pure false

/-- Removes an empty directory. -/
def removeDirectory (i : Invocation) (p : Parsed) (path : Octets) : Program Bool := do
  match ← Program.call (.removeDirectory path) with
  | .ok () =>
    if p.has 'v' then print i ("removed directory " ++ Octets.shellQuoted path ++ "\n")
    pure true
  | .error e =>
    complain i (failure path e)
    pure false

/-- Removes what is at some paths, with what lies below directories, down to a depth. -/
def removeAll (i : Invocation) (p : Parsed) : Nat → List Octets → Program Bool
  | 0, _ => pure false
  | _, [] => pure true
  | depth + 1, path :: rest => do
    let well ← match ← Program.call (.status path false) with
      | .error e =>
        if (p.has 'f') && (e = .ENOENT || e = .ENOTDIR) then pure true
        else
          complain i (failure path e)
          pure false
      | .ok status =>
        if status.kind ≠ .directory then removeFile i p path
        else if p.has 'r' then
          match ← Program.call (.list path) with
          | .error e =>
            complain i (failure path e)
            pure false
          | .ok names =>
            let well ← removeAll i p depth (names.map (Path.within path ·))
            if well then removeDirectory i p path else pure false
        else if p.has 'd' then
          match ← Program.call (.list path) with
          | .ok (_ :: _) =>
            complain i (failure path .ENOTEMPTY)
            pure false
          | _ => removeDirectory i p path
        else
          complain i (failure path .EISDIR)
          pure false
    let others ← removeAll i p depth rest
    pure (well && others)

/-- Removes an operand. -/
def removeOperand (i : Invocation) (p : Parsed) (path : Octets) : Program Bool := do
  if p.has 'r' && isDots path then
    complain i ("refusing to remove '.' or '..' directory: skipping " ++ Octets.shellQuoted path)
    pure false
  else if ← (if p.has 'r' then areSame path ['/'] false else pure false) then
    let note : String := if path = ['/'] then "" else " (same as '/')"
    complain i ("it is dangerous to operate recursively on " ++ Octets.shellQuoted path ++ note)
    complain i "use --no-preserve-root to override this failsafe"
    pure false
  else removeAll i p Chmod.deepest [path]

end Rm

/-- Takes names away. -/
def rm (i : Invocation) : Program Nat :=
  let grammar : Grammar := {
    letters := "dfirvIR"
    long := [⟨"force", .none, 'f'⟩, ⟨"interactive", .optional, 'i'⟩,
      ⟨"one-file-system", .none, 'O'⟩, ⟨"no-preserve-root", .none, 'N'⟩,
      ⟨"preserve-root", .optional, 'P'⟩, ⟨"recursive", .none, 'r'⟩, ⟨"dir", .none, 'd'⟩,
      ⟨"verbose", .none, 'v'⟩] }
  withOptions grammar i i.operands fun p =>
    let p := if p.has 'R' then p.add 'r' none else p
    if p.operands.isEmpty then if p.has 'f' then pure 0 else misuse i "missing operand"
    else forAll (Rm.removeOperand i p) p.operands

/-! ### cp -/

namespace Cp

/-- Copies what a file holds. -/
def copyContents (i : Invocation) (p : Parsed) (source target : Octets) (status : FileStatus) :
    Program Bool := do
  match ← Program.openFile source .input with
  | .error e =>
    complain i ("cannot open " ++ Octets.shellQuoted source ++ " for reading: " ++ e.text)
    pure false
  | .ok input =>
    let isThere := (← Program.call (.status target true)).isOk
    let mode := status.mode &&& 0o777
    let first ← Program.call (.openFile target .output mode)
    let opened ← match first with
      | .ok descriptor => pure (.ok descriptor)
      | .error e =>
        if p.has 'f' && isThere then
          let _ ← Program.call (.remove target)
          Program.call (.openFile target .output mode)
        else pure (Except.error e)
    match opened with
    | .error e =>
      Program.close input
      complain i ("cannot create regular file " ++ Octets.shellQuoted target ++ ": " ++ e.text)
      pure false
    | .ok output =>
      let data ← Program.readAll input
      Program.close input
      match data with
      | .error e =>
        complain i ("error reading " ++ Octets.shellQuoted source ++ ": " ++ e.text)
        Program.close output
        pure false
      | .ok data =>
        let result ← Program.writeData output data
        Program.close output
        if p.has 'p' then
          let _ ← Program.call (.changeMode target status.mode)
        match result with
        | .ok () => pure true
        | .error e =>
          complain i ("error writing " ++ Octets.shellQuoted target ++ ": " ++ e.text)
          pure false

/-- Copies a link as a link. -/
def copyLink (i : Invocation) (source target : Octets) : Program Bool := do
  match ← Program.call (.readLink source) with
  | .error e =>
    complain i ("cannot read symbolic link " ++ Octets.shellQuoted source ++ ": " ++ e.text)
    pure false
  | .ok text =>
    match ← Program.call (.makeLink text target) with
    | .ok () => pure true
    | .error .EEXIST =>
      let _ ← Program.call (.remove target)
      match ← Program.call (.makeLink text target) with
      | .ok () => pure true
      | .error e =>
        complain i ("cannot create symbolic link " ++ Octets.shellQuoted target ++ ": " ++ e.text)
        pure false
    | .error e =>
      complain i ("cannot create symbolic link " ++ Octets.shellQuoted target ++ ": " ++ e.text)
      pure false

/-- Copies what is at some paths to others, with what lies below directories, down to a depth. -/
def copyAll (i : Invocation) (p : Parsed) : Nat → List (Octets × Octets) → Program Bool
  | 0, _ => pure false
  | _, [] => pure true
  | depth + 1, (source, target) :: rest => do
    let whole := p.has 'r'
    let well ← match ← Program.call (.status source (!whole)) with
      | .error e =>
        complain i ("cannot stat " ++ Octets.shellQuoted source ++ ": " ++ e.text)
        pure false
      | .ok status =>
        let there := (← Program.call (.status target true)).toOption
        if status.kind = .directory then
          if !whole then
            complain i ("-r not specified; omitting directory " ++ Octets.shellQuoted source)
            pure false
          else if there.any (·.kind ≠ .directory) then
            complain i ("cannot overwrite non-directory " ++ Octets.shellQuoted target ++
              " with directory " ++ Octets.shellQuoted source)
            pure false
          else
            let names := ((← Program.call (.list source)).toOption).getD []
            let made ← if there.isSome then pure (.ok ())
              else Program.call (.makeDirectory target (status.mode ||| 0o700))
            match made with
            | .error e =>
              complain i ("cannot create directory " ++ Octets.shellQuoted target ++ ": " ++ e.text)
              pure false
            | .ok () =>
              tellArrow i p [] source target
              copyAll i p depth
                (names.map fun name => (Path.within source name, Path.within target name))
        else if there.any (·.kind = .directory) then
          complain i ("cannot overwrite directory " ++ Octets.shellQuoted target ++
            " with non-directory")
          pure false
        else if ← areSame source target true then
          complain i (Octets.shellQuoted source ++ " and " ++ Octets.shellQuoted target ++
            " are the same file")
          pure false
        else if p.has 'n' && there.isSome then pure true
        else
          let well ←
            if status.kind = .link then copyLink i source target
            else copyContents i p source target status
          if well then tellArrow i p [] source target
          pure well
    let others ← copyAll i p depth rest
    pure (well && others)

end Cp

/-- Copies files. -/
def cp (i : Invocation) : Program Nat :=
  let grammar : Grammar := {
    letters := "abdfHilLnprst:uvxPRS:TZ"
    long := targetOptions ++ [⟨"archive", .none, 'a'⟩, ⟨"recursive", .none, 'r'⟩,
      ⟨"no-clobber", .none, 'n'⟩, ⟨"update", .none, 'u'⟩, ⟨"preserve", .optional, 'p'⟩,
      ⟨"symbolic-link", .none, 's'⟩, ⟨"link", .none, 'l'⟩, ⟨"dereference", .none, 'L'⟩] }
  withOptions grammar i i.operands fun p => do
    let p := if p.has 'a' then (p.add 'r' none).add 'p' none else p
    let p := if p.has 'R' then p.add 'r' none else p
    let (operands, target) ← targetOf i p
    let inside (source : Octets) : Bool :=
      p.has 'r' && match target with
        | .into directory => Path.names directory = Path.names source
        | .exactly _ => false
    forAll (fun source => do
      if inside source then
        complain i ("cannot copy a directory, " ++ Octets.shellQuoted source ++ ", into itself, " ++
          Octets.shellQuoted (target.of source))
        pure false
      else Cp.copyAll i p Chmod.deepest [(source, target.of source)]) operands

/-! ### mv -/

namespace Mv

/-- Gives something at a path another one. -/
def move (i : Invocation) (p : Parsed) (source target : Octets) : Program Bool := do
  let complainFalse (text : Octets) : Program Bool := do
    complain i text
    pure false
  match ← Program.call (.status source false) with
  | .error e => complainFalse ("cannot stat " ++ Octets.shellQuoted source ++ ": " ++ e.text)
  | .ok status =>
    let found ← Program.call (.status target false)
    let there := found.toOption
    let moves := status.kind = .directory
    let problem : Option Errno := match found with
      | .error e => if e = .ENOENT then none else some e
      | .ok _ => none
    if let some e := problem then
      fail i ("cannot stat " ++ Octets.shellQuoted target ++ ": " ++ e.text)
    let onto := status.kind = .link && there.any (·.kind ≠ .link)
    if p.has 'n' && there.isSome then pure true
    else if ← areSame source target onto then
      complainFalse (Octets.shellQuoted source ++ " and " ++ Octets.shellQuoted target ++
        " are the same file")
    else if !moves && there.any (·.kind = .directory) then
      complainFalse ("cannot overwrite directory " ++ Octets.shellQuoted target ++
        " with non-directory")
    else if moves && there.any (·.kind ≠ .directory) then
      complainFalse ("cannot overwrite non-directory " ++ Octets.shellQuoted target ++
        " with directory " ++ Octets.shellQuoted source)
    else match ← Program.call (.rename source target) with
      | .ok () =>
        tellArrow i p "renamed " source target
        pure true
      | .error e =>
        if e = .EINVAL then
          complainFalse ("cannot move " ++ Octets.shellQuoted source ++
            " to a subdirectory of itself, " ++ Octets.shellQuoted target)
        else
          complainFalse ("cannot move " ++ Octets.shellQuoted source ++ " to " ++
            Octets.shellQuoted target ++ ": " ++ e.text)

end Mv

/-- Gives files other names. -/
def mv (i : Invocation) : Program Nat :=
  let grammar : Grammar := {
    letters := "bfint:uvS:TZ"
    long := targetOptions ++ [⟨"no-clobber", .none, 'n'⟩, ⟨"update", .none, 'u'⟩,
      ⟨"strip-trailing-slashes", .none, 'X'⟩] }
  withOptions grammar i i.operands fun p => do
    let (operands, target) ← targetOf i p
    forAll (fun source => Mv.move i p source (target.of source)) operands

/-! ### ln -/

namespace Ln

/-- Why a name cannot be given. -/
def failure (symbolic : Bool) (source target : Octets) (e : Errno) : Octets :=
  let what : Octets := if symbolic then "symbolic link " else "hard link "
  let arrow : Octets :=
    if symbolic then
      if source.isEmpty then " -> " ++ Octets.shellQuoted source else []
    else if e = .EEXIST then []
    else " => " ++ Octets.shellQuoted source
  "failed to create " ++ what ++ Octets.shellQuoted target ++ arrow ++ ": " ++ e.text

/-- Whether a target is a directory, and whether its name would be taken from the source itself. -/
def standing (source target : Octets) (follows : Bool) : Program (Bool × Bool) := do
  match ← Program.call (.status target false), ← Program.call (.status source follows) with
  | .ok { kind := .directory, .. }, _ => pure (true, false)
  | .ok t, .ok s =>
    let inSameDirectory ← areSame (Path.directory source) (Path.directory target) true
    pure (false, t.node.isSome && t.node = s.node &&
      (inSameDirectory && Path.base source = Path.base target))
  | _, _ => pure (false, false)

/-- Gives something one more name. -/
def link (i : Invocation) (p : Parsed) (source target : Octets) : Program Bool := do
  let symbolic := p.has 's'
  let ready ← if symbolic then pure true
    else match ← Program.call (.status source (p.has 'L')) with
      | .error e =>
        complain i ("failed to access " ++ Octets.shellQuoted source ++ ": " ++ e.text)
        pure false
      | .ok status =>
        if status.kind = .directory then
          complain i (Octets.fileName source ++ ": hard link not allowed for directory")
          pure false
        else pure true
  if !ready then pure false
  else
    let attempt : Program (Except Errno Unit) :=
      if symbolic then Program.call (.makeLink source target)
      else Program.call (.addName source target)
    let (isDirectory, same) ← if p.has 'f' then standing source target symbolic
      else pure (false, false)
    if isDirectory then
      complain i (Octets.fileName target ++ ": cannot overwrite directory")
      pure false
    else if same then
      complain i (Octets.shellQuoted source ++ " and " ++ Octets.shellQuoted target ++
        " are the same file")
      pure false
    else
      let first ← attempt
      let result ← match first with
        | .error .EEXIST =>
          if p.has 'f' then
            let _ ← Program.call (.remove target)
            attempt
          else pure first
        | _ => pure first
      match result with
      | .ok () =>
        if p.has 'v' then
          let arrow : Octets := if symbolic then " -> " else " => "
          print i (Octets.shellQuoted target ++ arrow ++ Octets.shellQuoted source ++ "\n")
        pure true
      | .error e =>
        complain i (failure symbolic source target e)
        pure false

end Ln

/-- Gives files more names. -/
def ln (i : Invocation) : Program Nat :=
  let grammar : Grammar := {
    letters := "bdfinrst:vFLPS:T"
    long := targetOptions ++ [⟨"symbolic", .none, 's'⟩, ⟨"no-dereference", .none, 'n'⟩,
      ⟨"relative", .none, 'r'⟩, ⟨"logical", .none, 'L'⟩, ⟨"physical", .none, 'P'⟩] }
  withOptions grammar i i.operands fun p => do
    if p.options.countP (·.1 = 't') > 1 then fail i "multiple target directories specified"
    if p.operands.isEmpty then misuse i "missing file operand"
    if p.has 'r' && !p.has 's' then fail i "cannot do --relative without --symbolic"
    if p.has 'T' && p.has 't' then
      fail i "cannot combine --target-directory and --no-target-directory"
    match p.operands, p.has 't' || p.has 'T' with
    | [source], false =>
      forAll (fun source => Ln.link i p source ("./" ++ Path.base source)) [source]
    | _, _ =>
      let (operands, target) ← targetOf i p
      let target ← match target with
        | .into directory =>
          let isLink ← match p.has 'n', ← Program.call (.status directory false) with
            | true, .ok { kind := .link, .. } => pure true
            | _, _ => pure false
          pure (if isLink then .exactly directory else target)
        | .exactly _ => pure target
      forAll (fun source => Ln.link i p source (target.of source)) operands

/-! ### Where names lead -/

/-- Writes where links lead. -/
def readlink (i : Invocation) : Program Nat :=
  let grammar : Grammar := {
    letters := "efmnqsvz"
    long := [⟨"canonicalize", .none, 'f'⟩, ⟨"canonicalize-existing", .none, 'e'⟩,
      ⟨"canonicalize-missing", .none, 'm'⟩, ⟨"no-newline", .none, 'n'⟩, ⟨"quiet", .none, 'q'⟩,
      ⟨"silent", .none, 's'⟩, ⟨"verbose", .none, 'v'⟩, ⟨"zero", .none, 'z'⟩] }
  withOptions grammar i i.operands fun p => do
    if p.operands.isEmpty then misuse i "missing operand"
    if p.has 'n' && p.operands.length > 1 then
      complain i "ignoring --no-newline with multiple arguments"
    forAll (fun path => do
      match ← Program.call (.readLink path) with
      | .ok target =>
        print i (target ++ if p.has 'n' && p.operands.length = 1 then []
          else if p.has 'z' then ['\x00'] else ['\n'])
        pure true
      | .error e =>
        if p.has 'v' then complain i (Octets.fileName path ++ ": " ++ e.text)
        pure false) p.operands

end LineShell.Tool
