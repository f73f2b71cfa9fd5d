import LineShell.Script.Builtin.Basic

/-!
# Builtins for variables, parameters and options

## Main definitions

* `Builtin.markVariables`, `Builtin.localVariables`, `Builtin.unset` — variables.
* `Builtin.shift`, `Builtin.getOptions` — positional parameters.
* `Builtin.optionNames`, `Builtin.setAll` — options of the shell.
-/

namespace LineShell.Script

open Shell

namespace Builtin

/-! ### Variables -/

/-- Marks variables, which may get values, or shows the ones that are marked. -/
def markVariables (lead : String) (mark : Variable → Variable) (test : Variable → Bool)
    (arguments : List Octets) : Shell Nat := do
  let (options, names) ← takeOptions ['p'] arguments
  if !options.isEmpty || names.isEmpty then emit (showVariables (lead ++ " " : String) test (← get))
  else
    for argument in names do
      match assignmentOf? argument with
      | some (name, value) =>
        setVariable name value
        change name mark
      | none =>
        if argument.contains '=' then requireName (argument.takeWhile (· ≠ '='))
        change argument mark
    pure 0

/-- Makes variables local to the function that is run. One that is given a value is not looked at
for its name. -/
def localVariables (arguments : List Octets) : Shell Nat := do
  if (← get).frames.isEmpty then fail "not in a function"
  else
    for argument in arguments do
      match assignmentOf? argument with
      | some (name, value) =>
        keep name
        setVariable name value
      | none =>
        let name := argument.takeWhile (· ≠ '=')
        if argument ≠ name then
          keep name
          modify (·.put name { value := some (argument.drop (name.length + 1)) })
          continue
        if argument ≠ optionsName then requireName argument
        let isNew := ((← get).binding? argument).isNone
        keep argument
        if isNew && argument ≠ optionsName then modify (·.put argument {})
    pure 0

/-- Removes variables or functions. -/
def unset (arguments : List Octets) : Shell Nat := do
  let (options, names) ← takeOptions ['v', 'f'] arguments
  let functions := (options.getLast?).any (·.1 = 'f')
  for name in names do
    if functions then
      modify fun s => { s with functions := s.functions.filter (·.1 ≠ name) }
    else
      requireName name
      if ((← get).binding? name).any (·.isFixed) then fail (name ++ ": is read only")
      else modify fun s => (s.drop name).forgetAt name
  pure 0

/-- Drops positional parameters. -/
def shift (arguments : List Octets) : Shell Nat := do
  let count ← match arguments with
    | [] => pure 1
    | text :: _ => numberOf text
  let s ← get
  if count > s.parameters.length then fail "can't shift that many"
  else
    set (s.withParameters (s.parameters.drop count))
    pure 0

/-! ### Options -/

/-- The long names of options, in the order in which they are shown. -/
def optionNames : List (String × Char) :=
  [("errexit", 'e'), ("noglob", 'f'), ("ignoreeof", 'I'), ("interactive", 'i'), ("monitor", 'm'),
    ("noexec", 'n'), ("stdin", 's'), ("xtrace", 'x'), ("verbose", 'v'), ("vi", 'V'),
    ("emacs", 'E'), ("noclobber", 'C'), ("allexport", 'a'), ("notify", 'b'), ("nounset", 'u'),
    ("privileged", 'p'), ("nolog", '\x01'), ("debug", '\x02')]

/-- The options as a table, or as commands that set them. -/
def showOptions (asCommands : Bool) (isOn : Char → Bool) : Octets :=
  let line (entry : String × Char) : Octets :=
    if asCommands then
      (if isOn entry.2 then "set -o " else "set +o ") ++ Octets.ofText entry.1 ++ ['\n']
    else
      Octets.padRight 16 entry.1 ++ (if isOn entry.2 then "on" else "off") ++ ['\n']
  (if asCommands then [] else Octets.ofText "Current option settings\n") ++
    optionNames.flatMap line

/-- Sets options by their letters. Those that need a name take the next arguments; the result is
the number of arguments that were taken. With `isOpen` no option counts as off yet. -/
def setLetters (isOpen value : Bool) (next : List Octets) (taken : Nat) : Octets → Shell Nat
  | [] => pure taken
  | 'o' :: rest => do
    match next with
    | [] =>
      let s ← get
      let _ ← emit (showOptions (!value) fun option => isOpen || s.has option)
      setLetters isOpen value [] taken rest
    | name :: next =>
      match optionNames.find? (·.1.toList = name) with
      | some (_, option) =>
        modify (·.setOption option value)
        setLetters isOpen value next (taken + 1) rest
      | none => fail ("Illegal option -o " ++ name)
  | c :: rest => do
    if optionNames.any fun (_, option) => option = c && ' ' < c then
      modify (·.setOption c value)
      setLetters isOpen value next taken rest
    else fail ("Illegal option -" ++ [c])

/-- Gives up control over jobs, for which there would have to be a terminal. -/
def giveUpControl : Shell Unit := do
  if (← get).has 'm' then
    complain "can't access tty; job control turned off"
    modify (·.setOption 'm' false)

/-- Sets options; so many arguments at first belong to options before them. The result is the
positional parameters, if they are to be set. -/
def setFrom (skips : Nat) : List Octets → Shell (Option (List Octets))
  | [] => pure none
  | argument :: rest => do
    match skips, argument with
    | skips + 1, _ => setFrom skips rest
    | 0, ['-'] =>
      modify fun s => (s.setOption 'x' false).setOption 'v' false
      pure (if rest.isEmpty then none else some rest)
    | 0, ['-', '-'] => pure (some rest)
    | 0, '-' :: letters => do setFrom (← setLetters false true rest 0 letters) rest
    | 0, '+' :: letters => do setFrom (← setLetters false false rest 0 letters) rest
    | 0, _ => pure (some (argument :: rest))

/-- Sets options and positional parameters, or shows all variables. -/
def setAll (arguments : List Octets) : Shell Nat := do
  if arguments.isEmpty then emit (showVariables [] (·.value.isSome) (← get))
  else
    let parameters ← setFrom 0 arguments
    giveUpControl
    match parameters with
    | some texts => modify (·.withParameters texts)
    | none => pure ()
    pure 0

/-- What the next option of a parameter is: its letter, the letters after it, and whether it is
known and has a value. -/
def optionArity? (letters : Octets) (c : Char) : Option Bool :=
  match letters.dropWhile (· ≠ c) with
  | [] => none
  | _ :: rest => if c = ':' then none else some (rest.head? = some ':')

/-- Takes the next option of the parameters apart. -/
def getOptions (arguments : List Octets) : Shell Nat := do
  let (_, arguments) ← takeOptions [] arguments
  match arguments with
  | letters :: name :: given => do
    let s ← get
    let texts := if given.isEmpty then s.parameters else given
    let index := s.optionIndex
    let isSilent := letters.head? = some ':'
    let known := if isSilent then letters.tail else letters
    let finish (answer : Octets) (index place : Nat) (status : Nat) : Shell Nat := do
      setVariable "OPTIND" (Octets.ofNat index)
      modify (·.lookAt index place)
      setVariable name answer
      pure status
    let current : Octets :=
      if s.optionPlace = 0 || index ≤ 1 then []
      else ((texts[index - 2]?).getD []).drop s.optionPlace
    let (word, index, isEnd) : Octets × Nat × Bool :=
      if !current.isEmpty then (current, index, false)
      else match texts[index - 1]? with
        | some ('-' :: c :: rest) =>
          if c = '-' && rest.isEmpty then ([], index + 1, true) else (c :: rest, index + 1, false)
        | _ => ([], index, true)
    match word with
    | [] => finish ['?'] index 0 (if isEnd then 1 else 0)
    | c :: rest =>
      let whole := ((texts[index - 2]?).getD [])
      let place := if rest.isEmpty then 0 else whole.length - rest.length
      match optionArity? known c with
      | none =>
        if isSilent then setVariable "OPTARG" [c]
        else
          put Program.standardError ("Illegal option -" ++ [c, '\n'])
          modify (·.drop "OPTARG")
        finish ['?'] index place 0
      | some false =>
        setVariable "OPTARG" []
        finish [c] index place 0
      | some true =>
        if !rest.isEmpty then
          setVariable "OPTARG" rest
          finish [c] index 0 0
        else match texts[index - 1]? with
          | some value =>
            setVariable "OPTARG" value
            finish [c] (index + 1) 0 0
          | none =>
            if isSilent then
              setVariable "OPTARG" [c]
              finish [':'] index 0 0
            else
              put Program.standardError ("No arg for -" ++ [c] ++ " option\n")
              modify (·.drop "OPTARG")
              finish ['?'] index 0 0
  | _ => fail "Usage: getopts optstring var [arg...]"

end Builtin

end LineShell.Script
