import LineShell.Editor
import LineShell.Options

/-!
# The command line

The program as a whole: it reads its arguments and then either runs the one line
it was given, or handles the lines of its standard input.

## Main definitions

* `exitCodeOf` — the exit code for a status.
* `showsPrompt` — the terminals on which prompts are shown.
* `ProgramCall` — the circumstances of a call.
* `run` — runs the program.
-/

namespace LineShell

/-- The exit code for a status: exit codes are bytes, and a status beyond them is
brought to the nearest one. -/
def exitCodeOf (status : Int32) : UInt8 :=
  if status < 0 then 0 else if status > 255 then 255 else UInt8.ofNat status.toNatClampNeg

/-- Terminals without line editing, on which the prompt is written out plainly. -/
def plainTerminals : List String := ["dumb", "cons25", "emacs"]

/-- Whether prompts are written when the input is no terminal. -/
def showsPrompt (terminal : Option String) : Bool :=
  match terminal with
  | none => false
  | some name => plainTerminals.contains (name.map Char.toLower)

/-- The circumstances of a call. -/
structure ProgramCall where
  /-- The arguments. -/
  arguments : List String
  /-- The name of the terminal, if it is known. -/
  terminal : Option String := none
deriving DecidableEq, Repr

section Run

variable {σ : Type}

/-- Runs the one line that a call gives. -/
def runCommand (p : Platform σ) (line : String) (s : Session) (w : World σ) :
    UInt8 × World σ :=
  let (_, s, w) := s.handle p line w
  (exitCodeOf s.lastStatus, w)

/-- Handles the lines of the standard input. -/
def runLoop (p : Platform σ) (e : Editor σ) (prompt : Option String) (s : Session)
    (w : World σ) : UInt8 × World σ :=
  match s.readLoop p e prompt w with
  | (none, _, w) => (0, w)
  | (some fault, _, w) => (1, w.warn p fault.message)

/-- Runs the program, which reads the lines of its standard input through an editor. -/
def run (p : Platform σ) (e : Editor σ) (call : ProgramCall) (w : World σ) : UInt8 × World σ :=
  match Request.ofArguments call.arguments with
  | .error e => (1, { w with state := p.print .diagnostic (usageReport e) w.state })
  | .ok .help => (0, { w with state := p.print .standard (helpText ++ "\n") w.state })
  | .ok (.run options) =>
    let s : Session := { maxLine := options.maxLine.getD defaultMaxLine }
    match options.command with
    | some line => runCommand p line s w
    | none =>
      let prompt := options.prompt.getD defaultPrompt
      runLoop p e (if showsPrompt call.terminal then some prompt else none) s w

end Run

end LineShell
