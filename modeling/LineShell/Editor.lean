import LineShell.Session
import LineShell.Text.Bytes
import LineShell.Text.Grapheme

/-!
# Reading lines

Away from a terminal the shell reads its lines as they come, and edits them only so far
that a backspace takes back the grapheme before it.  The read loop asks for one line
after the other, adds it to the history and handles it before it asks for the next.  An
interruption gives up the line that is being typed, and another one is asked for.

## Main definitions

* `Typed` — what stands on a line, and what backspaces would take back.
* `editedText?`, `lineOfBytes?` — the line that some bytes stand for.
* `Delivery`, `Editor` — what comes when a line is asked for.
* `LoopFault` — why the read loop gives up.
* `Session.readLoop` — handles the lines of an editor.
-/

namespace LineShell

/-! ### Backspaces -/

/-- The character that takes back what was typed last. -/
def backspace : Char := '\x08'

/-- What stands on a line. -/
structure Typed where
  /-- Its bytes, the last one first. -/
  reversed : Bytes := []
  /-- How many bytes the next backspaces take back, the next one first. -/
  sizes : List Nat := []
deriving DecidableEq, Repr

namespace Typed

/-- The sizes of graphemes are kept in one byte each. -/
def sizeLimit : Nat := 256

/-- Types one grapheme. A backspace that finds nothing does nothing. -/
def type (t : Typed) (grapheme : List Char) : Typed :=
  if grapheme = [backspace] then
    match t.sizes with
    | [] => t
    | size :: sizes => { reversed := t.reversed.drop size, sizes }
  else
    let bytes := Bytes.ofText (String.ofList grapheme)
    { reversed := bytes.reverse ++ t.reversed
      sizes := bytes.length % sizeLimit :: t.sizes }

end Typed

/-- What stands on a line after a text was typed. There is no answer if a character was
taken back in part. -/
def editedText? (text : String) : Option String :=
  Bytes.toText? ((graphemes text.toList).foldl Typed.type {}).reversed.reverse

/-! ### Lines -/

/-- A line in bytes without its end, a line feed that may follow a carriage return. -/
def dropLineEnd (line : Bytes) : Bytes :=
  if line.getLast? = some Bytes.lineFeed then
    let body := line.dropLast
    if body.getLast? = some 13 then body.dropLast else body
  else line

/-- The line that bytes stand for, the end of the line among them. -/
def lineOfBytes? (line : Bytes) : Option String :=
  (Bytes.toText? (dropLineEnd line)).bind editedText?

/-- What comes when a line is asked for. -/
inductive Delivery where
  /-- A line. -/
  | line (text : String)
  /-- An interruption; the line is given up as far as it was typed. -/
  | interrupted
  /-- The end of the input. -/
  | finished
  /-- The line cannot be read. -/
  | failed (reason : String)
deriving DecidableEq, Repr

/-- The delivery of the bytes of a line; there are none at the end of the input. -/
def Delivery.ofBytes (line : Bytes) : Delivery :=
  if line.isEmpty then .finished
  else match lineOfBytes? line with
    | some text => .line text
    | none => .failed "stream did not contain valid UTF-8"

/-- What lines are read from. -/
structure Editor (σ : Type) where
  /-- Asks for the next line. -/
  next : σ → Delivery × σ
  /-- A number of lines and interruptions that cannot be exceeded. -/
  most : σ → Nat
  /-- Why no line can be asked for, if the editor cannot be set up. -/
  refusal? : σ → Option String := fun _ => none
  /-- Adds a line to the history. The answer is why this fails, if it does. -/
  record : String → σ → Option String × σ := fun _ s => (none, s)

/-- Why the read loop gives up. -/
inductive LoopFault where
  /-- The editor cannot be set up. -/
  | setUp (reason : String)
  /-- A line cannot be added to the history. -/
  | history (reason : String)
  /-- A line cannot be read. -/
  | read (reason : String)
deriving DecidableEq, Repr

/-- The text of a fault. -/
def LoopFault.message : LoopFault → String
  | .setUp reason => "cannot initialise line editor: " ++ reason
  | .history reason => "cannot record history: " ++ reason
  | .read reason => "cannot read line: " ++ reason

/-! ### The read loop -/

namespace Session

section Loop

variable {σ : Type}

/-- Shows a prompt if there is one to be shown. -/
def showPrompt (p : Platform σ) (prompt : Option String) (w : World σ) : World σ :=
  match prompt with
  | some text => w.prompt p text
  | none => w

/-- Adds a line to the history of an editor, unless it is all space. -/
def record (e : Editor σ) (line : String) (w : World σ) : Option String × World σ :=
  if trimSpace line.toList = [] then (none, w)
  else
    let (refusal, state) := e.record line w.state
    (refusal, { w with state })

/-- Handles lines until one of them ends the session or there are no more, but asks for a
line at most a number of times. The result is the fault for which the loop gave up, if that is
how it ended. -/
def handleLines (p : Platform σ) (e : Editor σ) (prompt : Option String) :
    Nat → Session → World σ → Option LoopFault × Session × World σ
  | 0, s, w => (none, s, w)
  | count + 1, s, w =>
    let w := showPrompt p prompt w
    let (delivery, state) := e.next w.state
    let w := { w with state }
    match delivery with
    | .finished => (none, s, w)
    | .failed reason => (some (.read reason), s, w)
    | .interrupted => handleLines p e prompt count s w
    | .line text =>
      match record e text w with
      | (some reason, w) => (some (.history reason), s, w)
      | (none, w) =>
        match s.handle p text w with
        | (.leave, s, w) => (none, s, w)
        | (.proceed, s, w) => handleLines p e prompt count s w

/-- Sets up an editor and handles its lines. -/
def readLoop (p : Platform σ) (e : Editor σ) (prompt : Option String) (s : Session)
    (w : World σ) : Option LoopFault × Session × World σ :=
  match e.refusal? w.state with
  | some reason => (some (.setUp reason), s, w)
  | none => handleLines p e prompt (e.most w.state + 1) s w

end Loop

end Session

end LineShell
