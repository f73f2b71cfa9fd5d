import LineShell.Script.Builtin
import LineShell.Script.Expand

/-!
# Running commands

A command is run by cases of what it is.  Simple commands are builtins, functions or
programs; a program is run by a child, unless nothing follows it.  Since loops and functions
may go on for ever, every function here is given a number of steps.

## Main definitions

* `Context` — what is known about the place of a command.
* `run` — runs a command.
* `runSource`, `runText` — run all commands of a script or a text.
* `conclude` — the end of a shell.
-/

namespace LineShell.Script

open Shell

/-- What is known about the place of a command. -/
structure Context where
  /-- Whether its failure is expected. -/
  isTested : Bool := false
  /-- Whether nothing follows it. -/
  isLast : Bool := false
deriving DecidableEq, Repr

/-- The context of a condition. -/
def Context.tested : Context := { isTested := true }

/-- The context of a command after which something follows. -/
def Context.inner (c : Context) : Context := { c with isLast := false }

/-! ### Scripts -/

/-- A script, of which maybe only a part was read. -/
structure Source where
  reader : Reader
  /-- Where more of it can be read. -/
  descriptor : Option Nat := none
  /-- Whether it is what the shell was started for, so that a user may be asked for its lines. -/
  isMain : Bool := false

/-- The number of bytes of a script that are read at once. -/
def scriptBlock : Nat := 8192

/-- The source with more of the script. -/
def Source.extend (source : Source) : Shell Source := do
  match source.descriptor with
  | none => pure { source with reader := { source.reader with isWhole := true } }
  | some descriptor =>
    let more ← match ← call (.read descriptor scriptBlock) with
      | .ok data => pure (Octets.ofData data)
      | .error _ => pure []
    let r := source.reader
    let known := more.filter (· ≠ '\x00')
    pure { source with reader := { r with rest := r.rest ++ known, isWhole := more.isEmpty } }

/-- The bytes of a reader that another one has left behind. -/
def Reader.consumed (r next : Reader) : Octets := r.rest.take (r.rest.length - next.rest.length)

/-- Asks the user for lines by a prompt, as often as given. -/
def ask (source : Source) (prompt : Octets) (count : Nat) : Shell Unit := do
  let s ← get
  if s.has 'i' && source.isMain then
    put Program.standardError (List.replicate count (s.lookUp prompt)).flatten

/-- How often the end of a script is ignored if that is asked for. -/
def mostEnds : Nat := 50

/-- What is written at the end of a script that a user was asked for, or that should not end. -/
def showEnd (source : Source) : Shell Unit := do
  let s ← get
  if source.isMain then
    if s.has 'I' then
      let prompt := if s.has 'i' then s.lookUp "PS1" else []
      put Program.standardError
        (List.replicate mostEnds ("\nUse \"exit\" to leave shell.\n" ++ prompt)).flatten
    else if s.has 'i' then put Program.standardError ['\n']

/-- The next complete command of a script, and what is left of it. -/
def nextCommand (source : Source) : Nat → Shell (Parsed × Source)
  | 0 => pure (.finished, source)
  | tries + 1 => do
    let s ← get
    let r := { source.reader with
      aliases := s.aliases, documents := [], nextDocument := s.nextDocument }
    match parseLine r with
    | .error .incomplete => nextCommand (← source.extend) tries
    | .error (.wrong line text) =>
      ask source "PS2" (line - r.line)
      modify ({ · with line })
      fail ("Syntax error: " ++ text)
    | .ok parsed =>
      match parsed with
      | .finished =>
        showEnd source
        pure (parsed, source)
      | .blank next | .command _ _ next =>
        ask source "PS2" (next.line - r.line - 1)
        if s.has 'v' && source.descriptor.isSome then
          put Program.standardError (r.consumed next)
        modify fun s =>
          { s with
            documents := s.documents ++ next.documents
            readLine := next.line
            nextDocument := next.nextDocument }
        pure (parsed, { source with reader := next })

/-! ### Parts of commands -/

/-- Whether a name stands for a function. -/
def functionOf? (name : Octets) (s : State) : Option Command :=
  (s.functions.find? (·.1 = name)).map (·.2)

/-- How a simple command is run. -/
structure Resolution where
  /-- Its first words. -/
  words : List Octets
  /-- Its words that were not yet expanded. -/
  rest : List Word
  /-- Whether functions do not count. -/
  skipsFunctions : Bool := false
  /-- Whether the standard search path is used. -/
  isStandard : Bool := false
  /-- The first builtin that was found. -/
  first : Option Builtin := none
  /-- The builtin that is run. -/
  builtin : Option Builtin := none

/-- Finds out where the program of a command in a pipeline is, so that the shell knows it and not only
a child. -/
def locateFirst (command : Command) : Shell Unit := do
  match command with
  | .simple _ _ (word :: _) _ =>
    match (Word.plain? word).filter isName with
    | some name =>
      if !isBuiltinName name && (functionOf? name (← get)).isNone then
        let _ ← locate name
    | none => pure ()
  | _ => pure ()

/-- What stands before the trace of a command. -/
def traceLead (word : Word) (substitute : Substitute) : Shell Octets := do
  modify ({ · with isTracing := true })
  let text ← expandOne substitute word
  modify ({ · with isTracing := false })
  pure text

/-- The word in a text in which values are put in. -/
def promptWord (text : Octets) : Word :=
  let p : Pending := { number := 0, marker := ['\x00'], strips := false, isLiteral := false }
  match (documentFrom (fun _ => pure none) p false [] (text.length + 1)).run { rest := text } with
  | .ok (word, _) => word
  | .error _ => Word.ofQuoted text

/-- The options that a word after `command` holds: whether all of them ask for the standard search
path. -/
def asksForStandard (argument : Octets) : Bool :=
  match argument with
  | '-' :: c :: rest => (c :: rest).all (· = 'p')
  | _ => false

/-- Whether a child of the shell must keep descriptors for what the shell has saved. -/
def Saved.copyOf? (descriptor : Nat) (saved : Saved) : Option Nat :=
  (saved.find? (·.1 == descriptor)).bind (·.2)

/-- The signals for which a child of the shell has no commands any more. -/
def State.caughtSignals (s : State) : List Nat :=
  (s.traps.filter fun (number, action) => number ≠ 0 && !action.isEmpty).map (·.1)

/-- The state of a child of the shell. -/
def State.forChild (s : State) : State :=
  { s with traps := s.traps.filter fun (_, action) => action.isEmpty, jobs := [] }

/-- Lets the system deal with signals again. -/
def resetSignals : List Nat → Shell Unit
  | [] => pure ()
  | number :: rest => do
    call (.dispose number .default)
    resetSignals rest

/-- The signals that a command in the background ignores. -/
def ignoreKeyboard : Shell Unit := do
  call (.dispose Signal.interrupt .ignore)
  call (.dispose Signal.quit .ignore)

/-- Lets the standard input hold nothing. -/
def emptyInput : Shell Unit := do
  let _ ← call (.close Program.standardInput)
  let _ ← call (.openFile "/dev/null" .input 0)

/-- Lets the input and the output of a command in a pipeline lead to pipes. -/
def joinPipes (input output : Option (Nat × Nat)) : Shell Unit := do
  match output with
  | some (readEnd, _) =>
    let _ ← call (.close readEnd)
  | none => pure ()
  match input with
  | some (readEnd, _) =>
    if readEnd > 0 then
      let _ ← call (.redirect readEnd Program.standardInput)
      let _ ← call (.close readEnd)
  | none => pure ()
  match output with
  | some (_, writeEnd) =>
    if writeEnd > 1 then
      let _ ← call (.redirect writeEnd Program.standardOutput)
      let _ ← call (.close writeEnd)
  | none => pure ()

/-- Runs a loop's body, and says whether the loop goes on. -/
def goesOn (body : Shell Unit) : Shell Bool := do
  match ← attempt body with
  | .ok () => pure true
  | .error (.leave n) => if n > 1 then throw (.leave (n - 1)) else pure false
  | .error (.continue n) => if n > 1 then throw (.continue (n - 1)) else pure true
  | .error jump => throw jump

/-- Runs something within one more loop. -/
def withinLoop (body : Shell Unit) : Shell Unit := do
  modify fun s => { s with loops := s.loops + 1 }
  ensuring body (modify fun s => { s with loops := s.loops - 1 })

/-- Ends the shell if a command has failed, where that is asked for. -/
def checkFailure (c : Context) : Shell Unit := do
  let s ← get
  if s.has 'e' && !c.isTested && s.status ≠ 0 then throw .exit

/-- Sets the status. -/
def setStatus (status : Nat) : Shell Unit := modify ({ · with status })

/-- The assignments and words of a command as they are traced. -/
def traced (assignments words : List Octets) : Octets := Octets.join [' '] (assignments ++ words)

/-- Lets descriptors lead to targets for good; the shell ends if that fails. -/
def redirectForGood (targets : List (Nat × Target)) : Shell Unit := do
  match ← redirectAll false [] targets with
  | (_, none) => pure ()
  | (_, some text) =>
    tell text
    modify ({ · with status := 2 })
    throw .fail

/-- Fails because of something that should have been noticed when the script was read. -/
def failReading {α : Type} (text : Octets) : Shell α := do
  modify fun s => { s with line := s.readLine }
  fail ("Syntax error: " ++ text)

/-- Where a redirection leads that has a path. With `protect` it does not empty a file. -/
def routeTarget (protect : Bool) (path : Octets) : Route → Target
  | .input => .file path .input
  | .addition => .file path .addition
  | .update => .file path { reads := true, writes := true, creates := true }
  | .output => if protect then .newFile path else .file path .output
  | _ => .file path .output

/-! ### Running -/

mutual

/-- Runs a command. -/
def run (c : Context) (command : Command) (steps : Nat) : Shell Unit :=
  match steps with
  | 0 => throw .exit
  | steps + 1 => do
    if (← get).has 'n' then pure ()
    else
      let _ ← takeSignals steps
      match command with
      | .simple line assignments words redirections =>
        runSimple c line assignments words redirections steps
        let _ ← takeSignals steps
        checkFailure c
      | .pipeline commands =>
        let ids ← startPipeline c false none commands steps
        setStatus (← finish ids)
        checkFailure c
      | .and first second =>
        run .tested first steps
        if (← get).status = 0 then run c second steps
      | .or first second =>
        run .tested first steps
        if (← get).status ≠ 0 then run c second steps
      | .sequence first second =>
        run c.inner first steps
        run c second steps
      | .not command =>
        run .tested command steps
        modify fun s => { s with status := if s.status = 0 then 1 else 0 }
      | .background _ (.pipeline commands) [] =>
        let ids ← startPipeline { isLast := true } true none commands steps
        modify (·.addJob ids)
        setStatus 0
      | .background line command redirections =>
        modify ({ · with line })
        let targets ← targetsOf redirections steps
        let id ← spawn (do
          ignoreKeyboard
          emptyInput
          redirectForGood targets
          run { isLast := true } command steps) steps
        modify (·.addJob [id])
        setStatus 0
        checkFailure c
      | .subshell line command redirections =>
        modify ({ · with line })
        let targets ← targetsOf redirections steps
        let body : Shell Unit := do
          redirectForGood targets
          run { c with isLast := true } command steps
        if c.isLast && !(← get).hasTraps then
          body
          throw .exit
        else
          let id ← spawn body steps
          setStatus (← finish [id])
          checkFailure c
      | .redirected line command redirections =>
        modify ({ · with line })
        let targets ← targetsOf redirections steps
        let (saved, problem) ← redirectAll true [] targets
        match problem with
        | some text =>
          tell text
          setStatus 2
          restoreAll saved
        | none => ensuring (run c.inner command steps) (restoreAll saved)
      | .conditional condition yes no =>
        run .tested condition steps
        if (← get).status = 0 then run c yes steps
        else match no with
          | some no => run c no steps
          | none => setStatus 0
      | .loop untilHolds condition body =>
        withinLoop (repeatWhile c.inner untilHolds condition body 0 steps)
      | .each line name words body =>
        modify ({ · with line })
        let fields ← expandAll (substitute steps) words
        withinLoop (repeatEach c.inner name body 0 fields steps)
      | .choice line word cases =>
        modify ({ · with line })
        let text ← expandOne (substitute steps) word
        choose c text cases steps
      | .define name body =>
        modify (·.define name body)
        setStatus 0
termination_by structural steps

/-- Runs a body as long as a condition does not fail, or until it does not. -/
def repeatWhile (c : Context) (untilHolds : Bool) (condition body : Command) (status : Nat)
    (steps : Nat) : Shell Unit :=
  match steps with
  | 0 => throw .exit
  | steps + 1 => do
    let continues ← goesOn (run .tested condition steps)
    if !continues then setStatus 0
    else if ((← get).status = 0) = untilHolds then setStatus status
    else if ← goesOn (run c body steps) then
      repeatWhile c untilHolds condition body (← get).status steps
    else pure ()
termination_by structural steps

/-- Runs a body for each value of a variable. -/
def repeatEach (c : Context) (name : Octets) (body : Command) (status : Nat)
    (values : List Octets) (steps : Nat) : Shell Unit :=
  match steps with
  | 0 => throw .exit
  | steps + 1 => do
    match values with
    | [] => setStatus status
    | value :: rest =>
      setVariable name value
      if ← goesOn (run c body steps) then repeatEach c name body (← get).status rest steps
      else pure ()
termination_by structural steps

/-- Runs the first case one of whose patterns describes a string. -/
def choose (c : Context) (text : Octets) (cases : List (List Word × Option Command))
    (steps : Nat) : Shell Unit :=
  match steps with
  | 0 => throw .exit
  | steps + 1 => do
    match cases with
    | [] => setStatus 0
    | (patterns, body) :: rest =>
      if ← describes text patterns steps then
        match body with
        | some command => run c command steps
        | none => setStatus 0
      else choose c text rest steps
termination_by structural steps

/-- Whether one of some patterns describes a string. -/
def describes (text : Octets) (patterns : List Word) (steps : Nat) : Shell Bool :=
  match steps with
  | 0 => throw .exit
  | steps + 1 => do
    match patterns with
    | [] => pure false
    | word :: rest =>
      let cells ← uncutCells (substitute steps) word
      if (Cell.pattern cells).accepts text then pure true else describes text rest steps
termination_by structural steps

/-- Where redirections lead. -/
def targetsOf (redirections : List Redirection) (steps : Nat) : Shell (List (Nat × Target)) :=
  match steps with
  | 0 => throw .exit
  | steps + 1 => do
    match redirections with
    | [] => pure []
    | r :: rest =>
      let target ← match r.route with
        | .document number => do
          let document := (((← get).documents.find? (·.1 = number)).map (·.2)).getD []
          match ← attempt (expandOne (substitute steps) document) with
          | .ok text => pure (Target.text text)
          | .error .fail => pure .broken
          | .error jump => throw jump
        | .copy => do
          match ← expandOne (substitute steps) r.word with
          | ['-'] => pure .nothing
          | text =>
            match text with
            | [c] =>
              if c.isDigit then pure (.descriptor (c.toNat - '0'.toNat))
              else failReading "Bad fd number"
            | _ => failReading "Bad fd number"
        | route => do
          let path ← expandOne (substitute steps) r.word
          pure (routeTarget ((← get).has 'C') path route)
      pure ((r.descriptor, target) :: (← targetsOf rest steps))
termination_by structural steps

/-- Starts a child of the shell. -/
def spawn (body : Shell Unit) (steps : Nat) : Shell ProcessId :=
  match steps with
  | 0 => throw .exit
  | steps + 1 => do
    let s ← get
    let child : Shell Unit := do
      resetSignals s.caughtSignals
      body
    start (do
      let (_, s) ← child.run.run s.forChild
      conclude s steps)
termination_by structural steps

/-- The end of a shell: the command for it is run, and the status is the exit code. -/
def conclude (s : State) (steps : Nat) : Program Nat :=
  match steps with
  | 0 => pure s.status
  | steps + 1 =>
    match s.trap? 0 with
    | none | some [] => pure s.status
    | some action => do
      let before := s.status
      let s := { s with traps := s.traps.filter (·.1 ≠ 0), loops := 0, ending := some before }
      let (result, s) ← (runText {} action steps).run.run s
      pure <| match result with
        | .error .exit | .error .fail => s.status
        | _ => before
termination_by structural steps

/-- Runs the output of a command is put in. -/
def substitute (steps : Nat) (command : Option Command) : Shell Octets :=
  match steps with
  | 0 => throw .exit
  | steps + 1 => do
    match command with
    | none =>
      modify ({ · with outputStatus := 0 })
      pure []
    | some command =>
      match ← call .pipe with
      | .error _ => fail "Pipe call failed"
      | .ok (readEnd, writeEnd) =>
        let id ← spawn (do
          joinPipes none (some (readEnd, writeEnd))
          run { isLast := true } command steps) steps
        let _ ← call (.close writeEnd)
        let data ← (Program.readAll readEnd : Program _)
        let _ ← call (.close readEnd)
        let outputStatus ← finish [id]
        modify ({ · with outputStatus })
        pure ((Octets.ofData (data.toOption.getD .empty)).filter (· ≠ '\x00'))
termination_by structural steps

/-- Starts the commands of a pipeline; the first one reads what `input` leads to. -/
def startPipeline (c : Context) (isBackground : Bool) (input : Option (Nat × Nat))
    (commands : List Command) (steps : Nat) : Shell (List ProcessId) :=
  match steps with
  | 0 => throw .exit
  | steps + 1 => do
    match commands with
    | [] => pure []
    | command :: rest =>
      locateFirst command
      let output ←
        if rest.isEmpty then pure none
        else match ← call .pipe with
          | .ok ends => pure (some ends)
          | .error _ => fail "Pipe call failed"
      let id ← spawn (do
        if isBackground then
          ignoreKeyboard
          if input.isNone then emptyInput
        joinPipes input output
        run { c with isLast := true } command steps) steps
      match input with
      | some (readEnd, _) =>
        let _ ← call (.close readEnd)
      | none => pure ()
      match output with
      | some (_, writeEnd) =>
        let _ ← call (.close writeEnd)
      | none => pure ()
      pure (id :: (← startPipeline c isBackground output rest steps))
termination_by structural steps

/-- Runs the commands for the signals that were noted, which are the result. -/
def takeSignals (steps : Nat) : Shell (List Nat) :=
  match steps with
  | 0 => pure []
  | steps + 1 => do
    let signals ← call .noted
    runTraps signals steps
    pure signals
termination_by structural steps

/-- Runs the commands for some signals. -/
def runTraps (signals : List Nat) (steps : Nat) : Shell Unit :=
  match steps with
  | 0 => pure ()
  | steps + 1 => do
    match signals with
    | [] => pure ()
    | number :: rest =>
      match (← get).trap? number with
      | none => pure ()
      | some action =>
        let before := (← get).status
        let _ ← runText {} action steps
        setStatus before
      runTraps rest steps
termination_by structural steps

/-- Runs the commands of a script; the result is the status of the last one. -/
def runSource (c : Context) (source : Source) (status : Nat) (steps : Nat) : Shell Nat :=
  match steps with
  | 0 => throw .exit
  | steps + 1 => do
    ask source "PS1" 1
    match ← nextCommand source mostSteps with
    | (.finished, _) => pure status
    | (.blank _, source) => runSource c source status steps
    | (.command command isLast _, source) =>
      run { c with isLast := c.isLast && isLast } command steps
      runSource c source (← get).status steps
termination_by structural steps

/-- Runs the commands in a text. -/
def runText (c : Context) (text : Octets) (steps : Nat) : Shell Nat :=
  match steps with
  | 0 => throw .exit
  | steps + 1 => do
    let line := (← get).readLine
    let status ← runSource c { reader := { rest := text } } 0 steps
    modify ({ · with readLine := line })
    pure status
termination_by structural steps

/-- How builtins run commands. -/
def evaluator (c : Context) (steps : Nat) : Evaluator :=
  match steps with
  | 0 =>
    { runText := fun _ => throw .exit
      runFile := fun _ => throw .exit
      takeSignals := pure [] }
  | steps + 1 =>
    { runText := fun text => runText c.inner text steps
      runFile := fun descriptor => runSource {}
        { reader := { rest := [], isWhole := false }, descriptor := some descriptor } 0 steps
      takeSignals := takeSignals steps }
termination_by structural steps

/-- Expands the words at the beginning of a simple command until it is clear what is run. -/
def resolve (r : Resolution) (steps : Nat) : Shell Resolution :=
  match steps with
  | 0 => throw .exit
  | steps + 1 => do
    match r.words, r.rest with
    | [], [] => pure r
    | [], word :: rest =>
      resolve { r with words := ← expand (substitute steps) word, rest } steps
    | name :: others, rest =>
      if !r.skipsFunctions && (functionOf? name (← get)).isSome then pure { r with builtin := none }
      else
        let found := builtinOf? name
        let r := { r with builtin := found, first := r.first.or found }
        if name ≠ Octets.ofText "command" then pure r
        else match others, rest with
          | [], [] => pure r
          | [], word :: rest =>
            resolve { r with words := name :: (← expand (substitute steps) word), rest } steps
          | argument :: after, rest =>
            if argument = ['-', '-'] then
              match after, rest with
              | [], [] => pure r
              | [], word :: rest =>
                resolve { r with
                  words := name :: argument :: (← expand (substitute steps) word), rest } steps
              | after, rest =>
                resolve { r with words := after, rest, skipsFunctions := true } steps
            else if asksForStandard argument then
              resolve { r with words := name :: after, isStandard := true } steps
            else if argument.head? = some '-' && argument.length > 1 then pure r
            else resolve { r with words := others, skipsFunctions := true } steps
termination_by structural steps

/-- Expands the words of a command that are left. For some builtins assignments are not cut. -/
def expandRest (uncut : Bool) (words : List Word) (steps : Nat) : Shell (List Octets) :=
  match steps with
  | 0 => throw .exit
  | steps + 1 => do
    match words with
    | [] => pure []
    | word :: rest =>
      let first ←
        match if uncut then word.assignment? else none with
        | some (name, value) => do
          pure [name ++ '=' :: (← expandValue (substitute steps) value)]
        | none => expand (substitute steps) word
      pure (first ++ (← expandRest uncut rest steps))
termination_by structural steps

/-- Gives variables their values before a command, which only it sees if `isLocal` holds. -/
def assignAll (isLocal isExported : Bool) (assignments : List Word) (steps : Nat) :
    Shell (List Octets) :=
  match steps with
  | 0 => throw .exit
  | steps + 1 => do
    match assignments with
    | [] => pure []
    | word :: rest =>
      match word.assignment? with
      | none => assignAll isLocal isExported rest steps
      | some (name, value) =>
        let text ← expandValue (substitute steps) value
        if isLocal then keep name
        setVariable name text
        if isLocal || isExported then change name ({ · with isExported := true })
        pure ((name ++ '=' :: text) :: (← assignAll isLocal isExported rest steps))
termination_by structural steps

/-- Writes the trace of a command if that is asked for. -/
def trace (descriptor : Nat) (assignments words : List Octets) (steps : Nat) : Shell Unit :=
  match steps with
  | 0 => throw .exit
  | steps + 1 => do
    let s ← get
    if s.has 'x' && !s.isTracing then
      let lead ← traceLead (promptWord (s.lookUp "PS4")) (substitute steps)
      put descriptor (lead ++ traced assignments words ++ ['\n'])
termination_by structural steps

/-- Runs a simple command. -/
def runSimple (c : Context) (line : Nat) (assignments words : List Word)
    (redirections : List Redirection) (steps : Nat) : Shell Unit :=
  match steps with
  | 0 => throw .exit
  | steps + 1 => do
    modify ({ · with line, outputStatus := 0 })
    let r ← resolve { words := [], rest := words } steps
    let uncut := r.builtin.any (·.takesAssignments)
    let fields := r.words ++ (← expandRest uncut r.rest steps)
    let isSpecial := r.first.any (·.isSpecial)
    let isExec := r.builtin.any (·.name == "exec")
    let isLocal := !fields.isEmpty && !isSpecial
    if isLocal then pushFrame
    ensuring (do
      let targets ← targetsOf redirections steps
      let (saved, problem) ← redirectAll true [] targets
      ensuring (do
        match problem with
        | some text =>
          tell text
          setStatus 2
          if isSpecial then throw .fail
        | none =>
          let values ← assignAll isLocal (isExec && fields.length > 1) assignments steps
          trace ((Saved.copyOf? 2 saved).getD 2) values fields steps
          runFields c r fields isSpecial steps)
        (if isExec then forgetAll saved else restoreAll saved))
      (if isLocal then popFrame else pure ())
termination_by structural steps

/-- Runs what the words of a simple command name. -/
def runFields (c : Context) (r : Resolution) (fields : List Octets) (isSpecial : Bool)
    (steps : Nat) : Shell Unit :=
  match steps with
  | 0 => throw .exit
  | steps + 1 => do
    let s ← get
    match fields with
    | [] => setStatus s.outputStatus
    | name :: arguments =>
      match if r.skipsFunctions then none else functionOf? name s with
      | some body => runFunction c body arguments steps
      | none =>
        match r.builtin with
        | some builtin => runBuiltin c builtin arguments isSpecial steps
        | none =>
          let searchPath := if r.isStandard then State.standardPath else s.searchPath
          match ← if r.isStandard then findProgram searchPath name else locate name with
          | .missing e =>
            complain (name ++ ": " ++ errorText .run e)
            setStatus 127
          | .program index =>
            if c.isLast && !s.hasTraps then become searchPath fields index
            else
              let id ← spawn (become searchPath fields index) steps
              setStatus (← finish [id])
termination_by structural steps

/-- Runs a builtin. -/
def runBuiltin (c : Context) (builtin : Builtin) (arguments : List Octets) (isSpecial : Bool)
    (steps : Nat) : Shell Unit :=
  match steps with
  | 0 => throw .exit
  | steps + 1 => do
    let before := (← get).builtin
    modify ({ · with builtin := some builtin.name.toList })
    let result ← attempt (builtin.run (evaluator c steps) arguments)
    modify ({ · with builtin := before })
    match result with
    | .ok status => setStatus status
    | .error .fail => if isSpecial then throw .fail else pure ()
    | .error jump => throw jump
termination_by structural steps

/-- Runs a function. -/
def runFunction (c : Context) (body : Command) (arguments : List Octets) (steps : Nat) :
    Shell Unit :=
  match steps with
  | 0 => throw .exit
  | steps + 1 => do
    let s ← get
    set { s.withParameters arguments with loops := 0 }
    let result ← attempt (run c.inner body steps)
    modify fun t =>
      { t with parameters := s.parameters, loops := s.loops }.lookAt s.optionIndex s.optionPlace
    match result with
    | .ok () | .error .back => pure ()
    | .error jump => throw jump
termination_by structural steps

end

end LineShell.Script
