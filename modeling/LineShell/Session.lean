import LineShell.Execution

/-!
# Sessions

A session handles lines one after the other and remembers the exit status of the
last one.  A line that says `exit` ends it, a line that is too long is refused,
a blank line does nothing, and every other line is executed.

## Main definitions

* `Session` — the length limit and the status of the last line.
* `Session.execute` — executes a line, whatever it says.
* `Session.handle` — handles a line as the read loop does.
-/

namespace LineShell

/-- The longest line that a session takes by default, in bytes. -/
def defaultMaxLine : Nat := 256

/-- What a session keeps from one line to the next. -/
structure Session where
  /-- The longest line that is taken, in bytes. -/
  maxLine : Nat := defaultMaxLine
  /-- The exit status of the last line that had one. -/
  lastStatus : Int32 := 0
deriving DecidableEq

/-- What the read loop does after a line. -/
inductive Step where
  /-- It reads the next line. -/
  | proceed
  /-- It ends. -/
  | leave
deriving DecidableEq, Repr

/-- Whether a line asks the session to end. -/
def isExit (line : String) : Bool := trimSpace line.toList = ['e', 'x', 'i', 't']

namespace Session

section Lines

variable {σ : Type}

/-- Executes a line. The status of the session becomes that of the report; without
a report it stays. -/
def execute (p : Platform σ) (line : String) (s : Session) (w : World σ) :
    Except Abort (Option Report) × Session × World σ :=
  match Pipeline.ofLine? line.toList with
  | none => (.ok none, s, w)
  | some pipeline =>
    match LineShell.execute p pipeline w with
    | (.error abort, w) => (.error abort, s, w)
    | (.ok report, w) => (.ok (some report), { s with lastStatus := report.lastStatus }, w)

/-- The report of a line of a number of bytes that is too long. -/
def overlongReport (bytes limit : Nat) : String :=
  "line too long (" ++ toString bytes ++ " bytes, limit " ++ toString limit ++ ")"

/-- Handles a line: leaves on `exit`, refuses a line that is too long, and executes
every other one. A refused line and an abandoned pipeline have the status 1. -/
def handle (p : Platform σ) (line : String) (s : Session) (w : World σ) :
    Step × Session × World σ :=
  if isExit line then (.leave, s, w)
  else if line.utf8ByteSize > s.maxLine then
    (.proceed, { s with lastStatus := 1 },
      w.warn p (overlongReport line.utf8ByteSize s.maxLine))
  else
    match s.execute p line w with
    | (.ok _, s, w) => (.proceed, s, w)
    | (.error abort, s, w) => (.proceed, { s with lastStatus := 1 }, w.warn p abort.message)

end Lines

end Session

end LineShell
