import LineShell.Tool.Options

/-!
# tee

Writes its input to its output and to several files.

## Main definitions

* `Tool.Tee.Policy` — what is done when something cannot be written.
* `Tool.Tee.writeAll` — writes a block to all outputs.
* `Tool.tee` — the tool.
-/

namespace LineShell.Tool

namespace Tee

/-- What is done when something cannot be written. -/
inductive Policy where
  /-- The tool complains; a reader that is gone ends it. -/
  | plain
  /-- The tool complains. -/
  | warn
  /-- The tool complains, but not of a reader that is gone. -/
  | warnOfOthers
  /-- The tool ends. -/
  | exit
  /-- The tool ends unless a reader is gone. -/
  | exitForOthers
deriving DecidableEq, Repr

/-- The words for the policies. -/
def policyWords : List (String × Policy) :=
  [("warn", .warn), ("warn-nopipe", .warnOfOthers), ("exit", .exit),
    ("exit-nopipe", .exitForOthers)]

/-- The signal that a writer gets whose reader is gone. -/
def pipeSignal : Nat := 13

/-- Whether the tool ends when something cannot be written. -/
def Policy.ends (p : Policy) : Bool := p = .exit || p = .exitForOthers

/-- Whether a failure counts. -/
def Policy.minds (p : Policy) (e : Errno) : Bool := e ≠ .EPIPE || p = .exit || p = .warn

/-- A file that is written to. -/
structure Target where
  descriptor : Nat
  name : Octets

/-- A descriptor above those of the standard streams for what was opened. -/
def aside (descriptor : Nat) : Program Nat := do
  if descriptor > 2 then pure descriptor
  else match ← Program.call (.duplicate descriptor 3) with
    | .error _ => pure descriptor
    | .ok other => do
      Program.close descriptor
      pure other

/-- Opens files. The value tells whether that went well for all of them. -/
def openAll (i : Invocation) (policy : Policy) (mode : OpenMode) :
    List Octets → Program (List Target × Bool)
  | [] => pure ([], true)
  | name :: rest => do
    match ← Program.openFile name mode with
    | .error e =>
      complain i (Octets.fileName name ++ ": " ++ e.text)
      if policy.ends then Program.exit 1
      let (targets, _) ← openAll i policy mode rest
      pure (targets, false)
    | .ok descriptor =>
      let descriptor ← aside descriptor
      let (targets, well) ← openAll i policy mode rest
      pure (⟨descriptor, name⟩ :: targets, well)

/-- Writes a block to all outputs. What is left are those that took it. -/
def writeAll (i : Invocation) (policy : Policy) (block : ByteArray) :
    List Target → Program (List Target × Bool)
  | [] => pure ([], true)
  | target :: rest => do
    match ← Program.writeData target.descriptor block with
    | .ok () =>
      let (targets, well) ← writeAll i policy block rest
      pure (target :: targets, well)
    | .error e =>
      let minds := policy.minds e
      if minds then
        complain i (Octets.fileName target.name ++ ": " ++ e.text)
        if policy.ends then Program.exit 1
      let (targets, well) ← writeAll i policy block rest
      pure (targets, well && !minds)

/-- Copies the standard input to outputs, as long as there are any. -/
def copy (i : Invocation) (policy : Policy) :
    Nat → List Target → Bool → Program Bool
  | 0, _, well => pure well
  | count + 1, targets, well => do
    if targets.isEmpty then pure well
    else match ← Program.call (.read Program.standardInput (2 * Program.blockSize)) with
      | .error e =>
        complain i ("read error: " ++ e.text)
        pure false
      | .ok block =>
        if block.isEmpty then pure well
        else
          let (targets, well') ← writeAll i policy block targets
          copy i policy count targets (well && well')

/-- The options. -/
def grammar : Grammar where
  letters := "aip"
  long := [⟨"append", .none, 'a'⟩, ⟨"ignore-interrupts", .none, 'i'⟩,
    ⟨"output-error", .optional, 'p'⟩]

/-- The policy that options ask for. -/
def policyOf (policy : Policy) (key : Char) (value : Option Octets) : Except Refusal Policy :=
  if key ≠ 'p' then .ok policy
  else match value with
    | none => .ok .warnOfOthers
    | some word => valueOfWord "--output-error" policyWords word

end Tee

/-- Writes the input to several files. -/
def tee (i : Invocation) : Program Nat :=
  let additions := (Tee.grammar.parse i.operands).has 'a'
  withSettings Tee.grammar i i.operands .plain Tee.policyOf fun policy names => do
    if policy ≠ .plain then Program.call (.dispose Tee.pipeSignal .ignore)
    let (targets, opened) ←
      Tee.openAll i policy (if additions then .addition else .output) names
    let well ← Tee.copy i policy Program.forever
      ({ descriptor := Program.standardOutput, name := "standard output" } :: targets) opened
    closeInput i [dash] "standard input" (if well then 0 else 1)

end LineShell.Tool
