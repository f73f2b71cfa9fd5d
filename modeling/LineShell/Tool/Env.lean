import LineShell.Tool.Env.Split
import LineShell.Tool.Execute
import LineShell.Tool.Options

/-!
# env

Runs a program with other variables in its environment.

## Main definitions

* `Tool.Env.expand` — takes the strings among the options apart that hold several arguments.
* `Tool.Env.Settings` — what the options say.
* `Tool.env` — the tool.
-/

namespace LineShell.Tool

namespace Env

/-- The exit code when the tool itself fails. -/
def failure : Nat := 125

/-! ### Strings with several arguments -/

/-- The long option whose value holds several arguments. -/
def longName : Octets := "--split-string"

/-- Whether a long option takes the next argument for its value. -/
def takesNext (argument : Octets) : Bool :=
  !argument.contains '=' && argument.length > 2 &&
    (argument.isPrefixOf (Octets.ofText "--unset") ||
      argument.isPrefixOf (Octets.ofText "--chdir"))

/-- The letters of an argument before a value, the letter that has one, and the rest. -/
def beforeValue (letters : Octets) : Octets → Option (Octets × Char × Octets)
  | [] => none
  | c :: rest =>
    if c = 'S' || c = 'u' || c = 'C' then some (letters.reverse, c, rest)
    else beforeValue (c :: letters) rest

/-- The arguments with those in place of an option that it holds in a string. Only options
before the first operand count. -/
def expand (environment : List Octets) : Nat → List Octets → Except Octets (List Octets)
  | 0, arguments => .ok arguments
  | _ + 1, [] => .ok []
  | fuel + 1, argument :: rest =>
    let insert (text : Octets) (rest : List Octets) : Except Octets (List Octets) := do
      expand environment fuel ((← split environment text) ++ rest)
    let keep (kept rest : List Octets) : Except Octets (List Octets) :=
      (expand environment fuel rest).map (kept ++ ·)
    match argument with
    | ['-'] | ['-', '-'] => .ok (argument :: rest)
    | '-' :: '-' :: _ =>
      let name := argument.takeWhile (· ≠ '=')
      if name.isPrefixOf longName && name.length > 2 then
        if argument.contains '=' then insert (argument.drop (name.length + 1)) rest
        else match rest with
          | text :: rest => insert text rest
          | [] => .ok [argument]
      else if takesNext argument then keep (argument :: rest.take 1) (rest.drop 1)
      else keep [argument] rest
    | '-' :: letters =>
      match beforeValue [] letters with
      | none => keep [argument] rest
      | some (before, 'S', text) =>
        let kept := if before.isEmpty then [] else ['-' :: before]
        if !text.isEmpty then (insert text rest).map (kept ++ ·)
        else match rest with
          | text :: rest => (insert text rest).map (kept ++ ·)
          | [] => .ok [argument]
      | some (_, _, value) =>
        if value.isEmpty then keep (argument :: rest.take 1) (rest.drop 1)
        else keep [argument] rest
    | _ => .ok (argument :: rest)

/-! ### The tool -/

/-- What the options say. -/
structure Settings where
  /-- Whether the environment begins empty. -/
  ignores : Bool := false
  /-- The variables that are left out. -/
  unset : List Octets := []
  lineEnd : Char := '\n'
  directory : Option Octets := none
  /-- Whether the tool tells what it does. -/
  tells : Bool := false

/-- Takes an option into account. -/
def set (s : Settings) (key : Char) (value : Option Octets) : Except Refusal Settings :=
  match key with
  | 'i' => .ok { s with ignores := true }
  | 'u' => .ok { s with unset := s.unset ++ [value.getD []] }
  | '0' => .ok { s with lineEnd := '\x00' }
  | 'C' => .ok { s with directory := value }
  | 'v' => .ok { s with tells := true }
  | _ => .ok s

/-- The options. -/
def grammar : Grammar where
  letters := "C:iS:u:v0"
  long := [⟨"ignore-environment", .none, 'i'⟩, ⟨"null", .none, '0'⟩, ⟨"unset", .required, 'u'⟩,
    ⟨"chdir", .required, 'C'⟩, ⟨"debug", .none, 'v'⟩, ⟨"split-string", .required, 'S'⟩,
    ⟨"block-signal", .optional, 'B'⟩, ⟨"default-signal", .optional, 'D'⟩,
    ⟨"ignore-signal", .optional, 'I'⟩, ⟨"list-signal-handling", .none, 'L'⟩]
  order := .first

/-- Tells what is done, if that is asked for. -/
def tell (s : Settings) (text : Octets) : Program Unit := do
  if s.tells then
    let _ ← Program.write Program.standardError (text ++ "\n")

/-- Leaves variables out. -/
def leaveOut (i : Invocation) (s : Settings) (environment : List Octets) :
    List Octets → Program (List Octets)
  | [] => pure environment
  | name :: rest => do
    tell s ("unset:    " ++ name)
    if name.isEmpty || name.contains '=' then
      fail i ("cannot unset " ++ Octets.quoted name ++ ": " ++ Errno.EINVAL.text) failure
    else leaveOut i s (Environment.remove name environment) rest

/-- Puts variables in. -/
def putIn (s : Settings) (environment : List Octets) : List Octets → Program (List Octets)
  | [] => pure environment
  | entry :: rest => do
    tell s ("setenv:   " ++ entry)
    putIn s (Environment.put entry environment) rest

/-- Tells about arguments, counted from a number. -/
def tellArguments (s : Settings) (number : Nat) : List Octets → Program Unit
  | [] => pure ()
  | argument :: rest => do
    tell s ("   arg[" ++ Octets.ofNat number ++ "]= " ++ Octets.quoted argument)
    tellArguments s (number + 1) rest

/-- Runs a program with its arguments in an environment. -/
def runProgram (i : Invocation) (s : Settings) (environment : List Octets) (name : Octets)
    (arguments : List Octets) : Program Nat := do
  match s.directory with
  | none => pure ()
  | some path =>
    tell s ("chdir:    " ++ Octets.shellQuoted path)
    match ← Program.call (.enter path) with
    | .ok () => pure ()
    | .error e =>
      fail i ("cannot change directory to " ++ Octets.shellQuoted path ++ ": " ++ e.text) failure
  tell s ("executing: " ++ name)
  tellArguments s 0 (name :: arguments)
  let e ← Program.executeFound name (name :: arguments) environment
  complain i (Octets.quoted name ++ ": " ++ e.text)
  if e = .ENOENT && name.any isGap then
    complain i "use -[v]S to pass options in shebang lines"
  pure (if e = .ENOENT then 127 else 126)

/-- Runs the tool. -/
def run (i : Invocation) (s : Settings) (operands : List Octets) : Program Nat := do
  let s := { s with ignores := s.ignores || operands.head? = some dash }
  let operands := if operands.head? = some dash then operands.tail else operands
  let environment ←
    if s.ignores then
      tell s "cleaning environ"
      pure []
    else leaveOut i s i.environment s.unset
  let entries := operands.takeWhile (·.contains '=')
  let environment ← putIn s environment entries
  match operands.drop entries.length with
  | [] =>
    if s.directory.isSome then misuse i "must specify command with --chdir (-C)" failure
    print i (environment.flatMap (· ++ [s.lineEnd])) failure
    pure 0
  | name :: arguments =>
    if s.lineEnd ≠ '\n' then misuse i "cannot specify --null (-0) with command" failure
    runProgram i s environment name arguments

/-- The most steps it takes to take the arguments apart. -/
def sizeOf (arguments : List Octets) : Nat := (arguments.map (·.length + 1)).sum + 1

end Env

/-- Runs a program with other variables. -/
def env (i : Invocation) : Program Nat :=
  match Env.expand i.environment (Env.sizeOf i.operands) i.operands with
  | .error text => fail i text Env.failure
  | .ok arguments => withSettings Env.grammar i arguments {} Env.set (Env.run i) Env.failure

end LineShell.Tool
