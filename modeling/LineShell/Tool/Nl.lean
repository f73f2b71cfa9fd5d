import LineShell.Regex.Pattern
import LineShell.Tool.Number
import LineShell.Tool.Options

/-!
# nl

Numbers the lines of its inputs.  Lines of a certain form divide the inputs into pages with a
header, a body and a footer, and for each of these it is told which lines have numbers.

## Main definitions

* `Tool.Nl.Settings` — what the options say.
* `Tool.Nl.step` — one more line.
* `Tool.nl` — the tool.
-/

namespace LineShell.Tool

namespace Nl

/-- Which lines have numbers. -/
inductive Choice where
  | all
  | filled
  | none
  | matching (regex : Regex)
deriving DecidableEq, Repr

/-- The parts of a page. -/
inductive Part where
  | header
  | body
  | footer
deriving DecidableEq, Repr

/-- What the options say. -/
structure Settings where
  header : Choice := .none
  body : Choice := .filled
  footer : Choice := .none
  separator : Octets := ['\t']
  width : Nat := 6
  start : Int := 1
  increment : Int := 1
  /-- The number of empty lines that count as one. -/
  blanks : Nat := 1
  zeros : Bool := false
  left : Bool := false
  /-- Numbers go on from page to page. -/
  continues : Bool := false
  /-- The bytes that mark the parts of a page, once or several times. -/
  mark : Octets := ['\\', ':']
  /-- What is wrong with the options so far. -/
  faults : List Octets := []
deriving DecidableEq, Repr

/-- How far numbering has come. -/
structure State where
  part : Part := .body
  number : Int
  blanks : Nat := 0
deriving DecidableEq, Repr

/-- The choice for a part. -/
def Settings.choice (s : Settings) : Part → Choice
  | .header => s.header
  | .body => s.body
  | .footer => s.footer

/-! ### Lines -/

/-- A number in front of a line. -/
def label (s : Settings) (n : Int) : Octets :=
  let shown := Octets.ofInt n
  let shown :=
    if s.left then Octets.padRight s.width shown
    else if s.zeros then
      if n < 0 then '-' :: Octets.padLeft (s.width - 1) (Octets.ofNat n.natAbs) '0'
      else Octets.padLeft s.width shown '0'
    else Octets.padLeft s.width shown
  shown ++ s.separator

/-- The part of a page that begins with a line. -/
def partOf? (s : Settings) (line : Octets) : Option Part :=
  if s.mark.length < 2 then none
  else if line = s.mark ++ s.mark ++ s.mark then some .header
  else if line = s.mark ++ s.mark then some .body
  else if line = s.mark then some .footer
  else none

/-- Whether a line has a number, and the number of empty lines after it that are still to be
counted together with others. -/
def isNumbered (s : Settings) (t : State) (line : Octets) : Bool × Nat :=
  match s.choice t.part with
  | .all =>
    if line.isEmpty && s.blanks > 1 then
      if t.blanks + 1 = s.blanks then (true, 0) else (false, t.blanks + 1)
    else (true, 0)
  | .filled => (!line.isEmpty, t.blanks)
  | .none => (false, t.blanks)
  | .matching r => ((r.find? (fun _ _ => true) { rest := line }).isSome, t.blanks)

/-- One more line, and what is written for it. The numbers may come to an end. -/
def step (s : Settings) (t : State) (line : Octets) : Option (State × Octets) :=
  match partOf? s line with
  | some part =>
    some ({ t with part, number := if s.continues then t.number else s.start }, ['\n'])
  | none =>
    let (numbered, blanks) := isNumbered s t line
    if !numbered then
      some ({ t with blanks },
        List.replicate (s.width + s.separator.length) ' ' ++ line ++ ['\n'])
    else if t.number < -2 ^ 63 || t.number ≥ 2 ^ 63 then none
    else
      some ({ t with number := t.number + s.increment, blanks },
        label s t.number ++ line ++ ['\n'])

/-- Several lines. What is written for them comes after `shown`, which is given in reverse like
the result. -/
def steps (s : Settings) (t : State) (shown : Octets) : List Octets → Octets × Option State
  | [] => (shown, some t)
  | line :: rest =>
    match step s t line with
    | none => (shown, none)
    | some (t, text) => steps s t (text.reverse ++ shown) rest

/-! ### Options -/

/-- The choice that a letter names, or a pattern after the letter `p`. -/
def choiceOf? (text : Octets) : Option (Except Octets Choice) :=
  match text with
  | ['a'] => some (.ok .all)
  | ['t'] => some (.ok .filled)
  | ['n'] => some (.ok .none)
  | 'p' :: pattern =>
    match Regex.read { loose := true, crosses := true } pattern with
    | .ok r => some (.ok (.matching r))
    | .error fault => some (.error fault.text)
  | _ => none

/-- Takes the choice for a part into account. -/
def setChoice (s : Settings) (part : Octets) (text : Octets) (set : Choice → Settings) :
    Except Refusal Settings :=
  match choiceOf? text with
  | some (.ok choice) => .ok (set choice)
  | some (.error text) => .error { text }
  | none =>
    let fault := "invalid " ++ part ++ " numbering style: " ++ Octets.quoted text
    .ok { s with faults := s.faults ++ [fault] }

/-- A whole number in the value of an option. -/
def integerOf (low high : Int) (what text : Octets) : Except Refusal Int :=
  (integerWithin low high what text).mapError fun text => { text }

/-- Takes an option into account. -/
def set (s : Settings) (key : Char) (value : Option Octets) : Except Refusal Settings := do
  let text := value.getD []
  match key with
  | 'h' => setChoice s "header" text fun header => { s with header }
  | 'b' => setChoice s "body" text fun body => { s with body }
  | 'f' => setChoice s "footer" text fun footer => { s with footer }
  | 's' => return { s with separator := text }
  | 'w' =>
    let width ← integerOf 1 (2 ^ 31 - 1) "invalid line number field width" text
    return { s with width := width.toNat }
  | 'v' =>
    return { s with
      start := ← integerOf (-2 ^ 63) (2 ^ 63 - 1) "invalid starting line number" text }
  | 'i' =>
    return { s with
      increment := ← integerOf (-2 ^ 63) (2 ^ 63 - 1) "invalid line number increment" text }
  | 'l' =>
    let blanks ← integerOf 1 (2 ^ 63 - 1) "invalid line number of blank lines" text
    return { s with blanks := blanks.toNat }
  | 'p' => return { s with continues := true }
  | 'd' =>
    return { s with mark := match text with
      | [c] => [c, ':']
      | _ => text }
  | 'n' =>
    match String.ofList text with
    | "ln" => return { s with left := true, zeros := false }
    | "rn" => return { s with left := false, zeros := false }
    | "rz" => return { s with left := false, zeros := true }
    | _ =>
      let fault := "invalid line numbering format: " ++ Octets.quoted text
      return { s with faults := s.faults ++ [fault] }
  | _ => return s

/-- The settings that options make, up to the first one that is refused. -/
def settingsOf (s : Settings) : List (Char × Option Octets) → Settings × Option Refusal
  | [] => (s, none)
  | (key, value) :: rest =>
    match set s key value with
    | .error refusal => (s, some refusal)
    | .ok s => settingsOf s rest

/-- The options. -/
def grammar : Grammar where
  letters := "h:b:f:v:i:pl:s:w:n:d:"
  long := [⟨"header-numbering", .required, 'h'⟩, ⟨"body-numbering", .required, 'b'⟩,
    ⟨"footer-numbering", .required, 'f'⟩, ⟨"starting-line-number", .required, 'v'⟩,
    ⟨"line-increment", .required, 'i'⟩, ⟨"no-renumber", .none, 'p'⟩,
    ⟨"join-blank-lines", .required, 'l'⟩, ⟨"number-separator", .required, 's'⟩,
    ⟨"number-width", .required, 'w'⟩, ⟨"number-format", .required, 'n'⟩,
    ⟨"section-delimiter", .required, 'd'⟩]

/-! ### The tool -/

/-- Numbers some lines. -/
def number (i : Invocation) (s : Settings) (t : State) (lines : List Octets) :
    Program State := do
  let (shown, next) := steps s t [] lines
  print i shown.reverse
  match next with
  | none => fail i "line number overflow"
  | some t => pure t

/-- Numbers the lines of inputs one after the other. -/
def run (i : Invocation) (s : Settings) (t : State) (well : Bool) : List Octets → Program Nat
  | [] => pure (if well then 0 else 1)
  | name :: rest => do
    match ← openOperand name with
    | .error e =>
      complain i (Octets.fileName name ++ ": " ++ e.text)
      run i s t false rest
    | .ok descriptor =>
      let (t, failure) ←
        foldLines descriptor '\n' (number i s) (fun t line => number i s t [line]) t
      closeOperand name descriptor
      match failure with
      | none => run i s t well rest
      | some e =>
        complain i (Octets.fileName name ++ ": " ++ e.text)
        run i s t false rest

/-- Complains about several things. -/
def complainOf (i : Invocation) : List Octets → Program Unit
  | [] => pure ()
  | text :: rest => do
    complain i text
    complainOf i rest

end Nl

/-- Numbers lines. -/
def nl (i : Invocation) : Program Nat := do
  let p := Nl.grammar.parse i.operands
  let (s, refusal) := Nl.settingsOf {} p.options
  Nl.complainOf i s.faults
  match refusal, p.problem with
  | some refusal, _ => refusal.raise i
  | none, some problem => misuse i problem
  | none, none =>
    if !s.faults.isEmpty then adviseOnly i
    else if p.has helpKey || p.has versionKey then pure 0
    else
      let names := orStandard p.operands
      Nl.run i s { number := s.start } true names >>= closeInput i names dash

end LineShell.Tool
