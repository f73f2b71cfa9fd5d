import LineShell.Machine.Reaction

/-!
# The schedule of the processes

The processes take turns, the oldest first.  A turn lasts until the process has to wait,
but no longer than a number of steps.  When all have to wait and some of them sleep, the
time goes on to the moment when the first of them awakes.

## Main definitions

* `Machine.runUntil` — lets the processes run until some state is reached.
* `Machine.settle` — lets them run as far as they get without waiting.
* `Machine.runChild` — lets them run until one of them has ended.
-/

namespace LineShell.Machine

/-- The number of steps in a turn. -/
def turnLength : Nat := 500

/-- The processes that have not ended. -/
def living (m : Machine) : List ProcessId := (m.processes.filter (·.isAlive)).map (·.id)

/-- The time at which the first process awakes. -/
def nextWake? (m : Machine) : Option Nat :=
  (m.processes.filterMap fun p => if p.isAlive then p.wake else none).min?

/-- Lets processes run for a number of steps at most, until `reached` holds at the end of a
round or nothing can go on any more. The processes in the list have not had their turn in
this round; the first one has `left` steps, and `moved` tells whether there was any step.
Unless `sleepless` holds, time goes on to the next awakening when all have to wait. -/
def runFrom (reached : Machine → Bool) (sleepless : Bool) :
    Nat → Nat → Bool → List ProcessId → Machine → Machine
  | 0, _, _, _, m => m
  | steps + 1, _, moved, [], m =>
    if reached m then m
    else if moved then runFrom reached sleepless steps turnLength false m.living m
    else match if sleepless then none else m.nextWake? with
      | none => m
      | some time =>
        runFrom reached sleepless steps turnLength false m.living
          { m with clock := max m.clock time }
  | steps + 1, left, moved, id :: rest, m =>
    match left, (m.process? id).filter (·.isAlive) with
    | _, none => runFrom reached sleepless steps turnLength moved rest m
    | 0, some _ => runFrom reached sleepless steps turnLength true rest m
    | left + 1, some p =>
      match m.step p with
      | (true, m) => runFrom reached sleepless steps left true (id :: rest) m
      | (false, m) => runFrom reached sleepless steps turnLength moved rest m

/-- Lets the processes run until some state is reached. -/
def runUntil (reached : Machine → Bool) (m : Machine) : Machine :=
  m.runFrom reached false Program.forever turnLength false m.living

/-- The number of steps that processes get when nobody waits for them. -/
def longestSettling : Nat := 20000

/-- Lets the processes run as far as they get without waiting. -/
def settle (m : Machine) : Machine :=
  m.runFrom (fun _ => false) true longestSettling turnLength false m.living

/-- Lets the processes run until one of them has ended. -/
def runChild (child : ProcessId) (m : Machine) : Machine :=
  (m.runUntil fun m => !(m.process? child).any (·.isAlive)).settle

end LineShell.Machine
