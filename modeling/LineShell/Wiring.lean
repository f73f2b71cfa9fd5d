import LineShell.Pipeline

/-!
# Wiring

Each stage of a pipeline gets a plan that says where its standard streams come
from and go to: a redirection file if it has one, else its side of the pipe to
the neighbouring stage, else the stream of the shell itself.  A pipe end whose
place is taken by a file belongs to no plan; it is *displaced*.

## Main definitions

* `PipeEnd`, `Pipe` — one side of a pipe, and the two sides together.
* `Channel` — where a standard stream is connected to.
* `Plan` — what is needed to start one stage.
* `wire` — the plans of a pipeline and the displaced ends.

## Main results

* `length_plans_wire` — there is one plan for each stage.
-/

namespace LineShell

/-- The two sides of a pipe. -/
inductive Side where
  | read
  | write
deriving DecidableEq, Repr

/-- One side of a pipe. -/
structure PipeEnd where
  /-- The number of the pipe. -/
  pipe : Nat
  /-- The side. -/
  side : Side
deriving DecidableEq, Repr

/-- The two ends of a pipe. -/
structure Pipe where
  /-- What is written to the other end is read here. -/
  read : PipeEnd
  /-- What is written here is read at the other end. -/
  write : PipeEnd
deriving DecidableEq, Repr

/-- Both ends of a pipe. -/
def Pipe.ends (p : Pipe) : List PipeEnd := [p.read, p.write]

/-- The pipe of a number. -/
def Pipe.ofNumber (n : Nat) : Pipe := ⟨⟨n, .read⟩, ⟨n, .write⟩⟩

/-- Where a standard stream is connected to; `φ` says what a file is known by. -/
inductive Channel (φ : Type) where
  /-- The stream of the shell. -/
  | inherit
  /-- A pipe to a neighbouring stage. -/
  | pipe (tip : PipeEnd)
  /-- A file. -/
  | file (file : φ)
deriving DecidableEq, Repr

namespace Channel

/-- The pipe end in a channel, if there is one. -/
def ends {φ : Type} : Channel φ → List PipeEnd
  | .pipe tip => [tip]
  | .inherit | .file _ => []

/-- The file in a channel, if there is one. -/
def files {φ : Type} : Channel φ → List φ
  | .file f => [f]
  | .inherit | .pipe _ => []

/-- A redirection takes a stream before a pipe does. -/
def choose (path : Option String) (tip : Option PipeEnd) : Channel String :=
  match path, tip with
  | some path, _ => .file path
  | none, some tip => .pipe tip
  | none, none => .inherit

end Channel

/-- The end that loses its place to a redirection. -/
def displacedEnds (path : Option String) (tip : Option PipeEnd) : List PipeEnd :=
  if path.isSome then tip.toList else []

/-- What is needed to start one stage. -/
structure Plan where
  /-- The position of the stage, counted from 0. -/
  index : Nat
  /-- The argument words of the stage. -/
  arguments : List String
  /-- The source of the standard input, a file by its path. -/
  stdin : Channel String
  /-- The destination of the standard output, a file by its path. -/
  stdout : Channel String
deriving DecidableEq, Repr

namespace Plan

/-- The name of the program; empty for a stage without a command. -/
def program (p : Plan) : String := p.arguments.headD ""

/-- The pipe ends that the plan holds. -/
def ends (p : Plan) : List PipeEnd := p.stdin.ends ++ p.stdout.ends

end Plan

/-- The plans of a pipeline and the pipe ends that none of them holds. -/
structure Wiring where
  /-- One plan for each stage. -/
  plans : List Plan := []
  /-- The ends whose place is taken by a redirection. -/
  displaced : List PipeEnd := []
deriving DecidableEq, Repr

/-- The wiring of the stages from position `index` on. The pipe from the stage
before ends in `incoming`, and the remaining pipes follow the stages in order. -/
def wireFrom (index : Nat) (incoming : Option PipeEnd) :
    List Stage → List Pipe → Wiring
  | [], pipes => { displaced := incoming.toList ++ pipes.flatMap Pipe.ends }
  | stage :: stages, pipes =>
    let downstream := pipes.head?.map Pipe.write
    let rest := wireFrom (index + 1) (pipes.head?.map Pipe.read) stages pipes.tail
    { plans :=
        { index
          arguments := stage.arguments
          stdin := .choose stage.inputFile incoming
          stdout := .choose stage.outputFile downstream } :: rest.plans
      displaced :=
        displacedEnds stage.outputFile downstream ++
          displacedEnds stage.inputFile incoming ++ rest.displaced }

/-- The wiring of a pipeline with the pipes between its stages. -/
def wire (p : Pipeline) (pipes : List Pipe) : Wiring := wireFrom 0 none p.stages pipes

theorem length_plans_wireFrom (index : Nat) (incoming : Option PipeEnd)
    (stages : List Stage) (pipes : List Pipe) :
    (wireFrom index incoming stages pipes).plans.length = stages.length := by
  induction stages generalizing index incoming pipes with
  | nil => rfl
  | cons stage stages ih => simp [wireFrom, ih]

/-- There is one plan for each stage. -/
theorem length_plans_wire (p : Pipeline) (pipes : List Pipe) :
    (wire p pipes).plans.length = p.length :=
  length_plans_wireFrom 0 none p.stages pipes

end LineShell
