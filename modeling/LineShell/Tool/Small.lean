import LineShell.Environment
import LineShell.Numeral.Extended
import LineShell.Tool.Options

/-!
# Small tools

`true` and `false` only end, `yes` repeats itself until it is stopped, `sleep` waits,
`basename` and `dirname` take paths apart, `rev` turns lines round, `pwd` and `printenv` tell
where a program runs and with which variables, and `env` runs a program with others.

## Main definitions

* `Tool.yes`, `Tool.sleep`, `Tool.basename`, `Tool.dirname`, `Tool.rev`, `Tool.pwd`,
  `Tool.printenv` — the tools.
-/

namespace LineShell.Tool

/-- Ends well. -/
def succeed (_ : Invocation) : Program Nat := pure 0

/-- Ends badly. -/
def flop (_ : Invocation) : Program Nat := pure 1

/-- A tool without options of its own. -/
def bareGrammar : Grammar := {}

/-- A tool without options of its own, whose operands may look like options after the first
one. -/
def bareFirstGrammar : Grammar := { order := .first }

/-! ### yes -/

namespace Yes

/-- Writes a block again and again. -/
def repeatBlock (i : Invocation) (block : ByteArray) : Nat → Program Nat
  | 0 => pure 0
  | count + 1 => do
    match ← Program.writeData Program.standardOutput block with
    | .ok () => repeatBlock i block count
    | .error e => fail i ("standard output: " ++ e.text)

end Yes

/-- Writes its arguments again and again. -/
def yes (i : Invocation) : Program Nat :=
  withOptions bareFirstGrammar i i.operands fun p =>
    let line : Octets :=
      (if p.operands.isEmpty then ['y'] else Octets.join [' '] p.operands) ++ ['\n']
    let copies := max 1 (2 * Program.blockSize / line.length)
    let block := Octets.toData (List.replicate copies line).flatten
    Yes.repeatBlock i block Program.forever

/-! ### sleep -/

namespace Sleep

/-- The number of seconds that a unit has. -/
def unit? (text : Octets) : Option Nat :=
  match text with
  | [] | ['s'] => some 1
  | ['m'] => some 60
  | ['h'] => some 3600
  | ['d'] => some 86400
  | _ => none

/-- The number of nanoseconds in an interval; `none` in the inner option is for ever. -/
def interval? (text : Octets) : Option (Option Nat) :=
  match Extended.scan text with
  | none => none
  | some (x, rest) =>
    match unit? rest, x with
    | some seconds, .number isNegative m e =>
      if isNegative && m ≠ 0 then none
      else
        let (n, d) := Extended.ratioOf m e
        some (some ((n * seconds * 10 ^ 9 + d - 1) / d))
    | some _, .infinity false => some none
    | _, _ => none

/-- Complains about the intervals that are none. The value tells whether there were any. -/
def check (i : Invocation) : List Octets → Program Bool
  | [] => pure false
  | text :: rest => do
    let wrong := (interval? text).isNone
    if wrong then complain i ("invalid time interval " ++ Octets.quoted text)
    let others ← check i rest
    pure (wrong || others)

/-- The time that stands for ever, in nanoseconds. -/
def forEver : Nat := 2 ^ 63 * 10 ^ 9

end Sleep

/-- Waits for the sum of some intervals. -/
def sleep (i : Invocation) : Program Nat :=
  withOptions bareGrammar i i.operands fun p => do
    if i.operands.isEmpty then misuse i "missing operand"
    else if ← Sleep.check i p.operands then adviseOnly i
    else
      let intervals := p.operands.filterMap Sleep.interval?
      let _ ← Program.call (.sleep ((intervals.map (·.getD Sleep.forEver)).sum))
      pure 0

/-! ### Paths -/

namespace Basename

/-- A name without an ending, unless nothing would be left. -/
def dropEnding (ending name : Octets) : Octets :=
  if ending.isSuffixOf name && ending.length < name.length then
    name.take (name.length - ending.length)
  else name

/-- The last name of a path without an ending. -/
def shorten (ending path : Octets) : Octets :=
  let name := Path.base path
  if name = ['/'] then name else dropEnding ending name

end Basename

/-- Writes the last names of paths. -/
def basename (i : Invocation) : Program Nat :=
  let grammar : Grammar := {
    letters := "as:z"
    long := [⟨"multiple", .none, 'a'⟩, ⟨"suffix", .required, 's'⟩, ⟨"zero", .none, 'z'⟩]
    order := .first }
  withOptions grammar i i.operands fun p => do
    let separator := if p.has 'z' then '\x00' else '\n'
    let several := p.has 'a' || p.has 's'
    match p.operands with
    | [] => misuse i "missing operand"
    | _ :: _ :: extra :: _ =>
      if several then
        print i (p.operands.flatMap fun path =>
          Basename.shorten ((p.value? 's').getD []) path ++ [separator])
        pure 0
      else misuse i ("extra operand " ++ Octets.quoted extra)
    | path :: rest =>
      if several then
        print i (p.operands.flatMap fun path =>
          Basename.shorten ((p.value? 's').getD []) path ++ [separator])
      else print i (Basename.shorten (rest.headD []) path ++ [separator])
      pure 0

/-- Writes what comes before the last names of paths. -/
def dirname (i : Invocation) : Program Nat :=
  let grammar : Grammar := {
    letters := "z"
    long := [⟨"zero", .none, 'z'⟩]
    order := .first }
  withOptions grammar i i.operands fun p => do
    let separator := if p.has 'z' then '\x00' else '\n'
    if p.operands.isEmpty then misuse i "missing operand"
    else
      print i (p.operands.flatMap fun path => Path.directory path ++ [separator])
      pure 0

/-! ### rev -/

/-- Turns the lines of an input round. -/
def revOperand (i : Invocation) (name : Option Octets) : Program Bool := do
  let opened ← match name with
    | none => pure (.ok Program.standardInput)
    | some name => Program.openFile name .input
  match opened with
  | .error e =>
    complain i ("cannot open " ++ name.getD [] ++ ": " ++ e.text)
    pure false
  | .ok descriptor =>
    let ((), failure) ← foldLines descriptor '\n'
      (fun () lines => print i (lines.flatMap fun line => line.reverse ++ ['\n']))
      (fun () line => print i line.reverse) ()
    if name.isSome then Program.close descriptor
    match failure with
    | none => pure true
    | some e =>
      complain i (name.getD "stdin" ++ ": " ++ e.text)
      pure false

/-- Turns lines round. -/
def rev (i : Invocation) : Program Nat :=
  withOptions { letters := "hV" } i i.operands fun p =>
    forAll (revOperand i) (if p.operands.isEmpty then [none] else p.operands.map some)

/-! ### Surroundings -/

/-- Writes the directory one is in. -/
def pwd (i : Invocation) : Program Nat :=
  let grammar : Grammar := {
    letters := "LP"
    long := [⟨"logical", .none, 'L'⟩, ⟨"physical", .none, 'P'⟩] }
  withOptions grammar i i.operands fun p => do
    if !p.operands.isEmpty then complain i "ignoring non-option arguments"
    match ← Program.call .whereabouts with
    | .ok path => print i (path ++ ['\n'])
    | .error e => fail i e.text
    pure 0

/-- Writes variables. -/
def printenv (i : Invocation) : Program Nat :=
  let grammar : Grammar := {
    letters := "0iu:"
    long := [⟨"null", .none, '0'⟩]
    order := .first }
  withOptions grammar i i.operands (fun p => do
    let separator := if p.has '0' then '\x00' else '\n'
    if p.operands.isEmpty then
      print i (i.environment.flatMap (· ++ [separator]))
      pure 0
    else
      let values := p.operands.map (Environment.value? · i.environment)
      print i ((values.filterMap id).flatMap (· ++ [separator]))
      pure (if values.all (·.isSome) then 0 else 1)) 2

end LineShell.Tool
