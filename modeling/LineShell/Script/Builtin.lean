import LineShell.Script.Builtin.Directory
import LineShell.Script.Builtin.Job
import LineShell.Script.Builtin.Parameter
import LineShell.Script.Builtin.Read
import LineShell.Script.Condition
import LineShell.Script.Print

/-!
# Builtins

## Main definitions

* `builtins`, `builtinOf?` — the builtins.
* `describe` — what kind of command a name stands for.
-/

namespace LineShell.Script

open Shell

namespace Builtin

/-! ### Aliases -/

/-- Makes aliases, or shows them. -/
def makeAliases (status : Nat) : List Octets → Shell Nat
  | [] => pure status
  | argument :: rest => do
    let name := argument.takeWhile (· ≠ '=')
    if name.length < argument.length && !name.isEmpty then
      let text := argument.drop (name.length + 1)
      modify fun s => { s with aliases := s.aliases.filter (·.1 ≠ name) ++ [(name, text)] }
      makeAliases status rest
    else match (← get).aliases.find? (·.1 = argument) with
      | some (name, text) =>
        let _ ← emit (name ++ '=' :: inApostrophes text ++ ['\n'])
        makeAliases status rest
      | none =>
        put Program.standardError ("alias: " ++ argument ++ " not found\n")
        makeAliases 1 rest

/-- Makes aliases, or shows them all. -/
def setAliases (arguments : List Octets) : Shell Nat := do
  if arguments.isEmpty then
    emit ((← get).aliases.flatMap fun (name, text) => name ++ '=' :: inApostrophes text ++ ['\n'])
  else makeAliases 0 arguments

/-- Removes aliases. -/
def unalias (arguments : List Octets) : Shell Nat := do
  let (options, names) ← takeOptions ['a'] arguments
  if !options.isEmpty then
    modify ({ · with aliases := [] })
    pure 0
  else remove 0 names
where
  /-- Removes some aliases. -/
  remove (status : Nat) : List Octets → Shell Nat
    | [] => pure status
    | name :: rest => do
      if (← get).aliases.any (·.1 = name) then
        modify fun s => { s with aliases := s.aliases.filter (·.1 ≠ name) }
        remove status rest
      else
        put Program.standardError ("unalias: " ++ name ++ " not found\n")
        remove 1 rest

/-! ### Running commands -/

/-- Runs its arguments as a command. -/
def eval (e : Evaluator) (arguments : List Octets) : Shell Nat := do
  if arguments.isEmpty then pure 0 else e.runText (Octets.join [' '] arguments)

/-- The first of some paths at which there is a regular file. -/
def findFile : List Octets → Shell (Option Octets)
  | [] => pure none
  | path :: rest => do
    match ← call (.status path true) with
    | .ok status => if status.kind == .regular then pure (some path) else findFile rest
    | .error _ => findFile rest

/-- Runs the commands in a file. -/
def dot (e : Evaluator) (arguments : List Octets) : Shell Nat := do
  let (_, operands) ← takeOptions [] arguments
  match operands with
  | [] => pure 0
  | name :: _ =>
    let path ←
      if name.contains '/' then pure name
      else match ← findFile (pathsFor (← get).searchPath name) with
        | some path => pure path
        | none => fail (name ++ ": not found")
    match ← call (.openFile path .input 0) with
    | .error error => fail ("cannot open " ++ path ++ ": " ++ errorText .open error)
    | .ok opened =>
      let source ← match ← call (.duplicate opened leastPrivate) with
        | .ok copy => do
          let _ ← call (.close opened)
          pure copy
        | .error _ => pure opened
      modify ({ · with builtin := some path, status := 0 })
      ensuring (do
        match ← attempt (e.runFile source) with
        | .ok status => pure status
        | .error .back => pure (← get).status
        | .error jump => throw jump) (do
        let _ ← call (.close source))

/-- Becomes a program. -/
def exec (arguments : List Octets) : Shell Nat := do
  if arguments.isEmpty then pure 0 else become (← get).searchPath arguments

end Builtin

/-! ### All builtins -/

/-- The builtins, but for those that ask about commands. -/
def plainBuiltins : List Builtin :=
  open Builtin in
  [{ name := ".", isSpecial := true, run := dot },
    { name := ":", isSpecial := true, run := fun _ _ => pure 0 },
    { name := "[", run := fun _ arguments => do
        if arguments.getLast? = some [']'] then
          pure (if ← Condition.evaluate false arguments.dropLast then 0 else 1)
        else fail "missing ]" },
    { name := "alias", takesAssignments := true, run := fun _ => setAliases },
    { name := "bg", run := fun _ => resume },
    { name := "break", isSpecial := true, run := fun _ => leave .leave },
    { name := "cd", run := fun _ => changeDirectory },
    { name := "chdir", run := fun _ => changeDirectory },
    { name := "continue", isSpecial := true, run := fun _ => leave .continue },
    { name := "echo", run := fun _ => Print.echo },
    { name := "eval", isSpecial := true, run := eval },
    { name := "exec", isSpecial := true, run := fun _ => exec },
    { name := "exit", isSpecial := true, run := fun _ => Builtin.exit },
    { name := "export", isSpecial := true, takesAssignments := true, run := fun _ =>
        markVariables "export" ({ · with isExported := true }) (·.isExported) },
    { name := "false", run := fun _ _ => pure 1 },
    { name := "fg", run := fun _ => resume },
    { name := "getopts", run := fun _ => getOptions },
    { name := "jobs", run := fun _ => showJobs },
    { name := "kill", run := fun _ => kill },
    { name := "local", isSpecial := true, takesAssignments := true, run := fun _ =>
        localVariables },
    { name := "printf", run := fun _ => Print.printf },
    { name := "pwd", run := fun _ => showDirectory },
    { name := "read", run := fun _ => Builtin.read },
    { name := "readonly", isSpecial := true, takesAssignments := true, run := fun _ =>
        markVariables "readonly" ({ · with isFixed := true }) (·.isFixed) },
    { name := "return", isSpecial := true, run := fun _ => back },
    { name := "set", isSpecial := true, run := fun _ => Builtin.setAll },
    { name := "shift", isSpecial := true, run := fun _ => Builtin.shift },
    { name := "test", run := fun _ arguments => do
        pure (if ← Condition.evaluate false arguments then 0 else 1) },
    { name := "times", isSpecial := true, run := fun _ _ =>
        emit "0m0.000000s 0m0.000000s\n0m0.000000s 0m0.000000s\n" },
    { name := "trap", isSpecial := true, run := fun _ => trap },
    { name := "true", run := fun _ _ => pure 0 },
    { name := "ulimit", run := fun _ _ => emit "unlimited\n" },
    { name := "umask", run := fun _ => mask },
    { name := "unalias", run := fun _ => unalias },
    { name := "unset", isSpecial := true, run := fun _ => unset },
    { name := "wait", run := wait }]

/-- The names of the builtins that ask about commands. -/
def askingNames : List String := ["command", "hash", "type"]

/-- Whether a name is that of a builtin. -/
def isBuiltinName (name : Octets) : Bool :=
  plainBuiltins.any (·.name.toList = name) || askingNames.any (·.toList = name)

/-- What kind of command a name stands for. The text is a sentence if `isLong` holds; the status
tells whether there is such a command. Without the standard search path, the shell tells what it
knows of programs. -/
def describe (isLong isStandard : Bool) (name : Octets) : Shell (Octets × Nat) := do
  let s ← get
  let line (long short : Octets) : Shell (Octets × Nat) :=
    pure ((if isLong then name ++ long else short) ++ ['\n'], 0)
  let isBuiltin := plainBuiltins.find? (·.name.toList = name)
  if (Keyword.ofOctets? name).isSome then line " is a shell keyword" name
  else match s.aliases.find? (·.1 = name) with
    | some (_, text) =>
      line (" is an alias for " ++ text) ("alias " ++ name ++ '=' :: Builtin.inApostrophes text)
    | none =>
      if s.functions.any (·.1 = name) then line " is a shell function" name
      else if isBuiltin.any (·.isSpecial) then line " is a special shell builtin" name
      else if isBuiltinName name then line " is a shell builtin" name
      else
        let searchPath := if isStandard then State.standardPath else s.searchPath
        let isKnown := !isStandard && s.known.any (·.name = name)
        let found ←
          match s.known.find? fun k => isKnown && k.name = name with
          | some k => pure (.program k.index)
          | none => if isStandard then findProgram searchPath name else locate name
        let path? := match found with
          | .missing _ => none
          | .program index => (pathsFor searchPath name)[index]?
        let exists? ←
          if isKnown || !name.contains '/' then pure path?
          else match ← call (.status name true) with
            | .ok _ => pure path?
            | .error _ => pure none
        match exists? with
        | some path => line ((if isKnown then " is a tracked alias for " else " is ") ++ path) path
        | none => pure (if isLong then name ++ ": not found\n" else [], 127)

/-- Describes some commands, one after the other. -/
def describeAll (isLong : Bool) (status : Nat) : List Octets → Shell Nat
  | [] => pure status
  | name :: rest => do
    let (text, code) ← describe isLong false name
    let written ← emit text code
    describeAll isLong (max status written) rest

/-- Looks for some commands afresh. -/
def lookForAll (status : Nat) : List Octets → Shell Nat
  | [] => pure status
  | name :: rest => do
    modify (·.forget name)
    if isBuiltinName name || (← get).functions.any (·.1 = name) then lookForAll status rest
    else match ← locate name with
      | .program _ => lookForAll status rest
      | .missing e =>
        complain (name ++ ": " ++ errorText .run e)
        lookForAll 1 rest

/-- The number of groups into which commands are divided. -/
def commandGroups : Nat := 31

/-- The group of a command. -/
def groupOfCommand (name : Octets) : Nat :=
  (16 * (name.headD '\x00').toNat + (name.map Char.toNat).sum) % 2 ^ 15 % commandGroups

/-- The paths of the programs that the shell knows, group by group, with a sign where they may have
changed. -/
def knownPaths (s : State) : Octets :=
  let entries := s.known.map fun k =>
    let path := ((pathsFor s.searchPath k.name)[k.index]?).getD k.name
    (groupOfCommand k.name, path ++ (if k.isStale then ['*'] else []) ++ ['\n'])
  ((entries.mergeSort fun a b => a.1 ≤ b.1).map (·.2)).flatten

/-- The builtins. -/
def builtins : List Builtin :=
  plainBuiltins ++
    [{ name := "command", run := fun _ arguments => do
        let (options, names) ← takeOptions ['p', 'v', 'V'] arguments
        match names with
        | [] => pure 0
        | name :: _ =>
          let isLong := (options.filter (·.1 ≠ 'p')).getLast?.any (·.1 = 'V')
          let (text, code) ← describe isLong (options.any (·.1 = 'p')) name
          emit text code },
      { name := "hash", run := fun _ arguments => do
        let (options, names) ← takeOptions ['r'] arguments
        if !options.isEmpty then
          modify ({ · with known := [] })
          pure 0
        else if names.isEmpty then emit (knownPaths (← get))
        else lookForAll 0 names },
      { name := "type", run := fun _ arguments => do
        describeAll true 0 arguments }]

/-- The builtin of a name. -/
def builtinOf? (name : Octets) : Option Builtin := builtins.find? (·.name.toList = name)

end LineShell.Script
