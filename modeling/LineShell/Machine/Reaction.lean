import LineShell.Machine.Image
import LineShell.Machine.State

/-!
# How the machine reacts to calls

To a call of a process the machine either gives an answer, or lets the process wait, or
the process does not go on with its program at all: it has ended or become another one.

## Main definitions

* `Reaction` — what becomes of a call.
* `Machine.react` — the reaction to a call of a process.
* `Machine.step` — one step of a process.
-/

namespace LineShell

/-- What becomes of a call that waits for answers of type `α`. -/
inductive Reaction (α : Type) where
  /-- It is answered. -/
  | answered (answer : α) (machine : Machine)
  /-- The process has to wait, and makes the call again. -/
  | blocked (machine : Machine)
  /-- The process does not go on with its program. -/
  | diverted (machine : Machine)

namespace Machine

/-! ### Reading and writing -/

/-- A call that fails without any effect. -/
def refuse {α : Type} (errno : Errno) (m : Machine) : Reaction (Except Errno α) :=
  .answered (.error errno) m

/-- The number of bytes that fit into a pipe. -/
def pipeCapacity : Nat := 65536

/-- The number of bytes that are written to a pipe all at once or not at all. -/
def atomicWrite : Nat := 4096

/-- The signal for a write to a pipe that nobody reads. -/
def brokenPipe : Nat := 13

/-- The most bytes that an endless device delivers at once. -/
def longestRead : Nat := 1048576

/-- Reads from something that was opened. -/
def readFile (number : Nat) (file : OpenFile) (count : Nat) (m : Machine) :
    Reaction (Except Errno ByteArray) :=
  match file with
  | .stream _ => m.refuse .EBADF
  | .pipe pipe side =>
    let data := m.pipes[pipe]?.getD .empty
    if side = .write then m.refuse .EBADF
    else if data.size > 0 then
      let m := { m with pipes := m.pipes.set! pipe (data.extract count data.size) }
      .answered (.ok (data.extract 0 count)) m
    else if m.hasWriter pipe then .blocked m
    else .answered (.ok .empty) m
  | .node id position mode =>
    if !mode.reads then m.refuse .EBADF
    else match m.store.content? id with
      | some (.file data) =>
        let piece := data.extract position (position + count)
        .answered (.ok piece) (m.reopen number (.node id (position + piece.size) mode))
      | some (.directory _ _) => m.refuse .EISDIR
      | some (.device .zero) | some (.device .full) =>
        .answered (.ok ⟨Array.replicate (min count longestRead) 0⟩) m
      | _ => .answered (.ok .empty) m

/-- Writes to something that was opened. Nobody being able to read what is written to a
pipe is told by a signal. -/
def writeFile (p : Process) (number : Nat) (file : OpenFile) (data : ByteArray)
    (m : Machine) : Reaction (Except Errno Nat) :=
  match file with
  | .stream .standard => .answered (.ok data.size) { m with output := m.output ++ data }
  | .stream .diagnostic => .answered (.ok data.size) { m with errors := m.errors ++ data }
  | .pipe pipe side =>
    if side = .read then m.refuse .EBADF
    else if !m.hasReader pipe then
      let m := m.signal p.id brokenPipe
      if (m.process? p.id).any (·.isAlive) then m.refuse .EPIPE else .diverted m
    else
      let held := m.pipes[pipe]?.getD .empty
      let room := pipeCapacity - held.size
      let count := min room data.size
      if count = 0 && data.size > 0 || (count < data.size && data.size ≤ atomicWrite) then
        .blocked m
      else
        .answered (.ok count)
          { m with pipes := m.pipes.set! pipe (held ++ data.extract 0 count) }
  | .node id position mode =>
    if !mode.writes then m.refuse .EBADF
    else match m.store.content? id with
      | some (.file old) =>
        let start := if mode.appends then old.size else position
        let store := m.store.setContent id (.file (Store.overwrite start data old))
        .answered (.ok data.size)
          ({ m with store }.reopen number (.node id (start + data.size) mode))
      | some (.device .full) => m.refuse .ENOSPC
      | _ => .answered (.ok data.size) m

/-- Goes to a position of something that was opened. -/
def seekFile (number : Nat) (file : OpenFile) (distance : Int) (origin : Origin)
    (m : Machine) : Reaction (Except Errno Nat) :=
  match file with
  | .stream _ | .pipe _ _ => m.refuse .ESPIPE
  | .node id position mode =>
    let size := match m.store.content? id with
      | some (.file data) => data.size
      | _ => 0
    let base : Nat := match origin with
      | .start => 0
      | .here => position
      | .finish => size
    let target := (base : Int) + distance
    if target < 0 then m.refuse .EINVAL
    else .answered (.ok target.toNat) (m.reopen number (.node id target.toNat mode))

/-! ### Opening -/

/-- Gives a process a descriptor for something that was opened. -/
def attach (p : Process) (number : Nat) (m : Machine) : Reaction (Except Errno Nat) :=
  let descriptor := p.freeSlot 0
  .answered (.ok descriptor) (m.modifyProcess p.id (·.setSlot descriptor { file := number }))

/-- What is opened at a node. A device that leads to a descriptor is opened as what is there:
a file from its start, a pipe at the same end. -/
def openNode (p : Process) (id : NodeId) (mode : OpenMode) (m : Machine) :
    Except Errno (OpenFile × Machine) :=
  match m.store.content? id with
  | none => .error .ENOENT
  | some (.link _) => .error .ELOOP
  | some (.directory _ _) =>
    if mode.writes then .error .EISDIR
    else if !m.store.allows id .read then .error .EACCES
    else .ok (.node id 0 mode, m)
  | some (.device (.descriptor number)) =>
    match m.fileOf? p number with
    | none => .error .ENOENT
    | some (_, .node id _ _) => .ok (.node id 0 mode, m)
    | some (_, file) => .ok (file, m)
  | some content =>
    if (mode.reads && !m.store.allows id .read) || (mode.writes && !m.store.allows id .write)
    then .error .EACCES
    else
      match content, mode.empties with
      | .file _, true =>
        .ok (.node id 0 mode, { m with store := m.store.setContent id (.file .empty) })
      | _, _ => .ok (.node id 0 mode, m)

/-- Opens a file for a process, which gives some permission bits to no file. -/
def openPath (p : Process) (path : Octets) (mode : OpenMode) (permissions : Nat)
    (m : Machine) : Except Errno (Nat × Machine) :=
  let found : Except Errno (NodeId × Store × Bool) :=
    if mode.creates then m.store.create p.here path (permissions &&& (0o7777 ^^^ p.mask))
    else (m.store.locate p.here path).map fun id => (id, m.store, false)
  match found with
  | .error errno => .error errno
  | .ok (id, store, true) => .ok ({ m with store }.remember (.node id 0 mode))
  | .ok (id, _, false) =>
    if mode.creates && mode.fresh then .error .EEXIST
    else match m.openNode p id mode with
      | .error errno => .error errno
      | .ok (file, m) => .ok (m.remember file)

/-! ### Questions about files -/

/-- What the system tells about a node. -/
def nodeStatus (id : NodeId) (m : Machine) : FileStatus :=
  let mode := ((m.store.get? id).map (·.mode)).getD 0
  match m.store.content? id with
  | some (.directory _ _) => { kind := .directory, node := some id, mode, size := 4096 }
  | some (.file data) => { kind := .regular, node := some id, mode, size := data.size }
  | some (.program _) => { kind := .regular, node := some id, mode, size := 1 }
  | some (.link target) => { kind := .link, node := some id, mode, size := target.length }
  | some (.device _) | none => { kind := .device, node := some id, mode, size := 0 }

/-- What the system tells about something that was opened. -/
def fileStatus (file : OpenFile) (m : Machine) : FileStatus :=
  match file with
  | .node id _ _ => m.nodeStatus id
  | .pipe _ _ | .stream _ => { kind := .pipe, node := none, mode := 0o600, size := 0 }

/-- The path from the root to a directory; `depth` bounds its length. -/
def pathTo (s : Store) : Nat → NodeId → List Octets → Octets
  | 0, _, names => '/' :: Octets.join ['/'] names
  | depth + 1, id, names =>
    match s.content? id with
    | some (.directory parent _) =>
      if id == Store.root then '/' :: Octets.join ['/'] names
      else
        let name := (((s.entries parent).find? (·.2 == id)).map (·.1)).getD []
        pathTo s depth parent (name :: names)
    | _ => []

/-! ### Calls -/

/-- The reaction to a call that changes names in the store. -/
def changeStore (change : Except Errno Store) (m : Machine) : Reaction (Except Errno Unit) :=
  match change with
  | .error errno => m.refuse errno
  | .ok store => .answered (.ok ()) { m with store }

/-- Lets a process become another program. -/
def become (p : Process) (path : Octets) (i : Invocation) (m : Machine) : Reaction Errno :=
  match m.store.image p.here m.isBusy path i.arguments with
  | .error errno => .answered errno m
  | .ok image =>
    match m.installed image.program with
    | none => .answered .ENOEXEC m
    | some program =>
      .diverted <| m.modifyProcess p.id fun p =>
        { p with
          code := program { i with arguments := image.arguments }
          slots := p.slots.filter (!·.2.isPrivate)
          caught := [] }

/-- The reaction to a process that waits for its children. -/
def awaitChild (p : Process) (child : Option ProcessId) (patient : Bool) (m : Machine) :
    Reaction (Except Errno (Option (ProcessId × WaitStatus))) :=
  let children := m.processes.filter fun c =>
    c.parent == p.id && child.all (· == c.id)
  match children.find? (!·.isAlive) with
  | some c => .answered (.ok (c.ending.map (c.id, ·))) (m.dropProcess c.id)
  | none =>
    if children.isEmpty then m.refuse .ECHILD
    else if patient then .blocked m
    else .answered (.ok none) m

/-- The reaction to a process that wants to sleep. -/
def lull (p : Process) (nanoseconds : Nat) (m : Machine) : Reaction (Except Errno Unit) :=
  match p.wake with
  | none => .blocked (m.modifyProcess p.id ({ · with wake := some (m.clock + nanoseconds) }))
  | some time =>
    if time ≤ m.clock then
      .answered (.ok ()) (m.modifyProcess p.id ({ · with wake := none }))
    else .blocked m

/-- The reaction to a process that says what is to be done with a signal. -/
def dispose (p : Process) (number : Nat) (disposition : Disposition) (m : Machine) : Machine :=
  let without (numbers : List Nat) : List Nat := numbers.filter (· != number)
  m.modifyProcess p.id fun p =>
    match disposition with
    | .default => { p with ignored := without p.ignored, caught := without p.caught }
    | .ignore => { p with ignored := number :: without p.ignored, caught := without p.caught }
    | .catch => { p with ignored := without p.ignored, caught := number :: without p.caught }

/-- The reaction to a call of a process. -/
def react (p : Process) (m : Machine) : (c : Call) → Reaction c.Answer
  | .read descriptor count =>
    match m.fileOf? p descriptor with
    | none => m.refuse .EBADF
    | some (number, file) => m.readFile number file count
  | .write descriptor data =>
    match m.fileOf? p descriptor with
    | none => m.refuse .EBADF
    | some (number, file) => m.writeFile p number file data
  | .seek descriptor distance origin =>
    match m.fileOf? p descriptor with
    | none => m.refuse .EBADF
    | some (number, file) => m.seekFile number file distance origin
  | .openFile path mode permissions =>
    match m.openPath p path mode permissions with
    | .error errno => m.refuse errno
    | .ok (number, m) => m.attach p number
  | .close descriptor =>
    if (p.slot? descriptor).isNone then m.refuse .EBADF
    else .answered (.ok ()) (m.modifyProcess p.id (·.dropSlot descriptor))
  | .duplicate descriptor least =>
    match p.slot? descriptor with
    | none => m.refuse .EBADF
    | some slot =>
      let copy := p.freeSlot least
      .answered (.ok copy)
        (m.modifyProcess p.id (·.setSlot copy { slot with isPrivate := true }))
  | .redirect descriptor target =>
    match p.slot? descriptor with
    | none => m.refuse .EBADF
    | some slot =>
      if descriptor = target then .answered (.ok ()) m
      else .answered (.ok ())
        (m.modifyProcess p.id (·.setSlot target { slot with isPrivate := false }))
  | .pipe =>
    let (pipe, m) := m.addPipe
    let (input, m) := m.remember (.pipe pipe .read)
    let (output, m) := m.remember (.pipe pipe .write)
    let first := p.freeSlot 0
    let p := p.setSlot first { file := input }
    let second := p.freeSlot 0
    .answered (.ok (first, second))
      (m.modifyProcess p.id fun _ => p.setSlot second { file := output })
  | .status path last =>
    match m.store.locate p.here path last with
    | .error errno => m.refuse errno
    | .ok id =>
      match m.store.content? id with
      | some (.device (.descriptor number)) =>
        match m.fileOf? p number with
        | none => m.refuse .ENOENT
        | some (_, file) => .answered (.ok (m.fileStatus file)) m
      | _ => .answered (.ok (m.nodeStatus id)) m
  | .statusOpen descriptor =>
    match m.fileOf? p descriptor with
    | none => m.refuse .EBADF
    | some (_, file) => .answered (.ok (m.fileStatus file)) m
  | .mayAccess path permission =>
    match m.store.locate p.here path with
    | .error errno => m.refuse errno
    | .ok id =>
      if m.store.allows id permission then .answered (.ok ()) m else m.refuse .EACCES
  | .list path =>
    match m.store.locate p.here path with
    | .error errno => m.refuse errno
    | .ok id =>
      if !m.store.isDirectory id then m.refuse .ENOTDIR
      else if !m.store.allows id .read then m.refuse .EACCES
      else .answered (.ok ((m.store.entries id).map (·.1))) m
  | .makeDirectory path permissions =>
    m.changeStore (m.store.makeDirectory p.here path (permissions &&& (0o7777 ^^^ p.mask)))
  | .removeDirectory path => m.changeStore (m.store.removeDirectory p.here path)
  | .remove path => m.changeStore (m.store.remove p.here path)
  | .rename source target => m.changeStore (m.store.rename p.here source target)
  | .makeLink target path => m.changeStore (m.store.makeLink p.here target path)
  | .addName source path => m.changeStore (m.store.addName p.here source path)
  | .readLink path =>
    match m.store.locate p.here path false with
    | .error errno => m.refuse errno
    | .ok id =>
      match m.store.content? id with
      | some (.link target) => .answered (.ok target) m
      | _ => m.refuse .EINVAL
  | .changeMode path mode =>
    match m.store.locate p.here path with
    | .error errno => m.refuse errno
    | .ok id => m.changeStore (.ok (m.store.modify id ({ · with mode })))
  | .enter path =>
    match m.store.locate p.here path with
    | .error errno => m.refuse errno
    | .ok id =>
      if !m.store.isDirectory id then m.refuse .ENOTDIR
      else if !m.store.allows id .enter then m.refuse .EACCES
      else .answered (.ok ()) (m.modifyProcess p.id ({ · with here := id }))
  | .whereabouts => .answered (.ok (pathTo m.store m.store.nodes.size p.here [])) m
  | .mask bits => .answered p.mask (m.modifyProcess p.id ({ · with mask := bits }))
  | .execute path arguments environment => m.become p path { arguments, environment }
  | .wait child patient => m.awaitChild p child patient
  | .sleep nanoseconds => m.lull p nanoseconds
  | .signal target number =>
    if (m.process? target).isNone && target != shell then m.refuse .ESRCH
    else
      let m := m.signal target number
      if (m.process? p.id).any (·.isAlive) then .answered (.ok ()) m else .diverted m
  | .dispose number disposition => .answered () (m.dispose p number disposition)
  | .isIgnored number => .answered (p.ignored.contains number) m
  | .noted => .answered p.noted (m.modifyProcess p.id ({ · with noted := [] }))
  | .identity => .answered p.id m
  | .parent => .answered p.parent m

/-! ### Steps -/

/-- The answer of a call that a signal interrupts, if it does. -/
def interruption? : (c : Call) → Option c.Answer
  | .read _ _ => some (.error .EINTR)
  | .wait _ _ => some (.error .EINTR)
  | .sleep _ => some (.error .EINTR)
  | _ => none

/-- The time that a step takes, in nanoseconds. -/
def stepTime : Nat := 1000

/-- Lets a process go on with some code. -/
def proceed (id : ProcessId) (code : Code) (m : Machine) : Machine :=
  { m.modifyProcess id ({ · with code }) with clock := m.clock + stepTime }

/-- One step of a process. The flag tells whether it has got any further. -/
def step (p : Process) (m : Machine) : Bool × Machine :=
  match p.code with
  | .exit code => (true, m.finish p.id (.exited code))
  | .fork child next =>
    let id := m.nextProcess
    let m := { m with
      nextProcess := id + 1
      processes := m.processes ++
        [{ p with id, parent := p.id, code := child, noted := [], wake := none }] }
    (true, m.proceed p.id (next id))
  | .call c next =>
    match m.react p c with
    | .answered answer m => (true, m.proceed p.id (next answer))
    | .diverted m => (true, m)
    | .blocked m =>
      match interruption? c with
      | some answer =>
        if p.noted.isEmpty then (false, m)
        else (true, (m.modifyProcess p.id ({ · with wake := none })).proceed p.id (next answer))
      | none => (false, m)

end Machine

end LineShell
