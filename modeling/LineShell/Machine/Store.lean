import LineShell.Path

/-!
# The store of files

Files, directories, links, devices and programs are nodes, which are known by their
numbers.  A directory holds names of nodes; one node may have several names, and an open
file stays what it is when its name is gone.  A path is followed name by name, from the
root or from the directory one is in.

## Main definitions

* `Content`, `Node`, `Store` — what a node is, and all nodes.
* `Store.find` — follows a path.
* `Store.locate` — the node at the end of a path.
* `Store.create` — finds or creates the file to be written at a path.
* `Store.makeDirectory`, `Store.removeDirectory`, `Store.remove`, `Store.rename`,
  `Store.makeLink`, `Store.addName` — the operations on names.
* `Store.listing`, `Store.changes` — what lies below a directory, and what has changed there.
-/

namespace LineShell

/-! ### Nodes -/

/-- The number of a node. -/
abbrev NodeId := Nat

/-- The devices of a machine. -/
inductive Device where
  /-- It swallows what is written and is always at its end. -/
  | null
  /-- It delivers NUL bytes for ever. -/
  | zero
  /-- It delivers NUL bytes and has no room for anything. -/
  | full
  /-- It leads to a descriptor of the process that opens it. -/
  | descriptor (number : Nat)
deriving DecidableEq, Repr

/-- What a node is. -/
inductive Content where
  /-- A directory in another one, the root in itself. -/
  | directory (parent : NodeId) (entries : List (Octets × NodeId))
  /-- A file. -/
  | file (data : ByteArray)
  /-- A symbolic link. -/
  | link (target : Octets)
  /-- A program that comes with the machine, by its name. -/
  | program (name : Octets)
  /-- A device. -/
  | device (device : Device)

/-- A node with its permission bits. -/
structure Node where
  /-- What it is. -/
  content : Content
  /-- The permission bits. Those of the owner count, since all belongs to one user. -/
  mode : Nat

/-- What one may do with a node, as the bit that allows it. -/
inductive Permission where
  | read
  | write
  /-- To run a program, or to pass through a directory. -/
  | enter
deriving DecidableEq, Repr

/-- The bit of a permission among the owner's. -/
def Permission.bit : Permission → Nat
  | .read => 0o400
  | .write => 0o200
  | .enter => 0o100

/-- Whether a node allows something. -/
def Node.allows (n : Node) (p : Permission) : Bool := n.mode &&& p.bit ≠ 0

/-- All nodes, by their numbers. The root has the number 0. -/
structure Store where
  /-- The nodes. -/
  nodes : Array Node

namespace Store

/-- The root of all paths. -/
def root : NodeId := 0

/-- A node. -/
def get? (s : Store) (id : NodeId) : Option Node := s.nodes[id]?

/-- What a node is. -/
def content? (s : Store) (id : NodeId) : Option Content := (s.get? id).map (·.content)

/-- Whether a node allows something. -/
def allows (s : Store) (id : NodeId) (p : Permission) : Bool := (s.get? id).any (·.allows p)

/-- The entries of a directory. -/
def entries (s : Store) (id : NodeId) : List (Octets × NodeId) :=
  match s.content? id with
  | some (.directory _ entries) => entries
  | _ => []

/-- Whether a node is a directory. -/
def isDirectory (s : Store) (id : NodeId) : Bool :=
  match s.content? id with
  | some (.directory _ _) => true
  | _ => false

/-- The node of a name in a directory. -/
def lookup (s : Store) (directory : NodeId) (name : Octets) : Option NodeId :=
  ((s.entries directory).find? (·.1 == name)).map (·.2)

/-- Adds a node that has no name yet. -/
def add (node : Node) (s : Store) : NodeId × Store := (s.nodes.size, ⟨s.nodes.push node⟩)

/-- Changes a node. -/
def modify (id : NodeId) (f : Node → Node) (s : Store) : Store := ⟨s.nodes.modify id f⟩

/-- Changes what a node is. -/
def setContent (id : NodeId) (content : Content) (s : Store) : Store :=
  s.modify id fun node => { node with content }

/-- Changes the entries of a directory. -/
def modifyEntries (id : NodeId) (f : List (Octets × NodeId) → List (Octets × NodeId))
    (s : Store) : Store :=
  match s.content? id with
  | some (.directory parent entries) => s.setContent id (.directory parent (f entries))
  | _ => s

/-- Gives a node a name in a directory. -/
def enter (directory : NodeId) (name : Octets) (id : NodeId) (s : Store) : Store :=
  s.modifyEntries directory (· ++ [(name, id)])

/-- Takes a name out of a directory. -/
def strike (directory : NodeId) (name : Octets) (s : Store) : Store :=
  s.modifyEntries directory (·.filter (·.1 != name))

/-! ### Following paths -/

/-- The number of links that are followed on one path. -/
def mostLinks : Nat := 40

/-- Where a path leads: a name in a directory, and the node of that name if there is one.
A path that ends with `.` or `..`, or the root, has no name. -/
structure Place where
  /-- The directory in which the last name was looked up. -/
  directory : NodeId
  /-- The last name. -/
  name : Octets := []
  /-- The node that was found. -/
  node : Option NodeId
deriving DecidableEq, Repr

/-- The place of a directory itself. -/
def Place.ofDirectory (id : NodeId) : Place := { directory := id, node := some id }

/-- How far one gets without following a link. -/
inductive Leg where
  /-- To the end. -/
  | arrived (place : Place)
  /-- To a link in a directory, with the names after it. -/
  | link (directory : NodeId) (target : Octets) (rest : List Octets)
  /-- No further. -/
  | stuck (errno : Errno)
deriving DecidableEq, Repr

/-- Follows names from a place up to the first link. The flag tells whether a link at the
very end counts. -/
def leg (s : Store) (last : Bool) (place : Place) : List Octets → Leg
  | [] => .arrived place
  | name :: rest =>
    match place.node with
    | none => .stuck .ENOENT
    | some here =>
      match s.content? here with
      | some (.directory parent _) =>
        if !s.allows here .enter then .stuck .EACCES
        else if name = ['.'] then s.leg last (.ofDirectory here) rest
        else if name = ['.', '.'] then s.leg last (.ofDirectory parent) rest
        else if name.length > Path.longestName then .stuck .ENAMETOOLONG
        else match s.lookup here name with
          | none =>
            if rest.isEmpty then .arrived { directory := here, name, node := none }
            else .stuck .ENOENT
          | some id =>
            match s.content? id with
            | some (.link target) =>
              if rest.isEmpty && !last then
                .arrived { directory := here, name, node := some id }
              else .link here target rest
            | _ => s.leg last { directory := here, name, node := some id } rest
      | _ => .stuck .ENOTDIR

/-- Where names lead from a directory, following no more links than `links`. The flag
`slash` tells whether they must lead to a directory; a link at the very end may demand
that too. -/
def follow (s : Store) (last : Bool) (links : Nat) (here : NodeId) (slash : Bool)
    (path : List Octets) : Except Errno (Place × Bool) :=
  match s.leg (last || slash) (.ofDirectory here) path with
  | .arrived place => .ok (place, slash)
  | .stuck errno => .error errno
  | .link directory target rest =>
    match links with
    | 0 => .error .ELOOP
    | links + 1 =>
      s.follow last links (if Path.isAbsolute target then root else directory)
        (slash || (rest.isEmpty && Path.endsWithSlash target)) (Path.names target ++ rest)

/-- Where a path starts for someone in a directory. -/
def origin (here : NodeId) (path : Octets) : NodeId :=
  if Path.isAbsolute path then root else here

/-- Where a path leads for someone in a directory; `last` tells whether a link at its end
is followed. The flag with the place tells whether that must be a directory. -/
def find (s : Store) (here : NodeId) (last : Bool) (path : Octets) :
    Except Errno (Place × Bool) :=
  match Path.refusal? path with
  | some errno => .error errno
  | none =>
    s.follow last mostLinks (origin here path) (Path.endsWithSlash path) (Path.names path)

/-- The node at the end of a path. -/
def locate (s : Store) (here : NodeId) (path : Octets) (last : Bool := true) :
    Except Errno NodeId :=
  match s.find here last path with
  | .error errno => .error errno
  | .ok ({ node := none, .. }, _) => .error .ENOENT
  | .ok ({ node := some id, .. }, slash) =>
    if slash && !s.isDirectory id then .error .ENOTDIR else .ok id

/-! ### Creating files -/

/-- Puts a new node in a vacant place. -/
def occupy (place : Place) (node : Node) (s : Store) : Except Errno (NodeId × Store) :=
  if !s.allows place.directory .write then .error .EACCES
  else
    let (id, s) := s.add node
    .ok (id, s.enter place.directory place.name id)

/-- The node of the file to be written at a path, which is created with the given
permission bits if there is none; the flag tells whether it was. A path with a slash at
its end names no file, whether or not there is a directory. -/
def create (s : Store) (here : NodeId) (path : Octets) (mode : Nat) :
    Except Errno (NodeId × Store × Bool) :=
  if Path.endsWithSlash path then
    match s.follow true mostLinks (origin here path) true (Path.names path).dropLast with
    | .error errno => .error errno
    | .ok ({ node := none, .. }, _) => .error .ENOENT
    | .ok ({ node := some id, .. }, _) =>
      .error (if s.isDirectory id then .EISDIR else .ENOTDIR)
  else
    match s.find here true path with
    | .error errno => .error errno
    | .ok (_, true) => .error .EISDIR
    | .ok (place, false) =>
      match place.node with
      | some id => .ok (id, s, false)
      | none =>
        match s.occupy place { content := .file .empty, mode } with
        | .error errno => .error errno
        | .ok (id, s) => .ok (id, s, true)

/-- The bytes of a file after some were written at a position. A gap before them is filled
with NUL bytes. -/
def overwrite (position : Nat) (bytes data : ByteArray) : ByteArray :=
  if position = data.size then data ++ bytes
  else
    let gap := ByteArray.mk (Array.replicate (position - data.size) 0)
    data.extract 0 position ++ gap ++ bytes ++
      data.extract (position + bytes.size) data.size

/-! ### Names -/

/-- A vacant place for a name at the end of a path. -/
def vacancy (s : Store) (here : NodeId) (path : Octets) : Except Errno Place :=
  match s.find here false path with
  | .error errno => .error errno
  | .ok (place, _) => if place.node.isSome then .error .EEXIST else .ok place

/-- Makes a directory. -/
def makeDirectory (here : NodeId) (path : Octets) (mode : Nat) (s : Store) :
    Except Errno Store :=
  match s.vacancy here path with
  | .error errno => .error errno
  | .ok place =>
    (s.occupy place { content := .directory place.directory [], mode }).map (·.2)

/-- Makes a symbolic link. -/
def makeLink (here : NodeId) (target path : Octets) (s : Store) : Except Errno Store :=
  match Path.refusal? target, s.vacancy here path with
  | some errno, _ | none, .error errno => .error errno
  | none, .ok place =>
    if Path.endsWithSlash path then .error .ENOENT
    else (s.occupy place { content := .link target, mode := 0o777 }).map (·.2)

/-- Gives a file one more name. -/
def addName (here : NodeId) (source path : Octets) (s : Store) : Except Errno Store :=
  match s.locate here source false with
  | .error errno => .error errno
  | .ok id =>
    match s.vacancy here path with
    | .error errno => .error errno
    | .ok place =>
      if s.isDirectory id then .error .EPERM
      else if !s.allows place.directory .write then .error .EACCES
      else .ok (s.enter place.directory place.name id)

/-- The taken place at the end of a path, with its node. -/
def occupied (s : Store) (here : NodeId) (path : Octets) :
    Except Errno (Place × NodeId × Bool) :=
  match s.find here false path with
  | .error errno => .error errno
  | .ok (place, slash) =>
    match place.node with
    | none => .error .ENOENT
    | some id => if slash && !s.isDirectory id then .error .ENOTDIR else .ok (place, id, slash)

/-- Why a directory is not taken away that a path leads to without naming it. -/
def namelessFault (path : Octets) : Errno :=
  match (Path.names path).getLast? with
  | none => .EBUSY
  | some ['.', '.'] => .ENOTEMPTY
  | some _ => .EINVAL

/-- Takes away an empty directory. -/
def removeDirectory (here : NodeId) (path : Octets) (s : Store) : Except Errno Store :=
  match s.occupied here path with
  | .error errno => .error errno
  | .ok (place, id, _) =>
    if !s.isDirectory id then .error .ENOTDIR
    else if place.name.isEmpty then .error (namelessFault path)
    else if !(s.entries id).isEmpty then .error .ENOTEMPTY
    else if !s.allows place.directory .write then .error .EACCES
    else .ok (s.strike place.directory place.name)

/-- Takes away the name of something that is no directory. -/
def remove (here : NodeId) (path : Octets) (s : Store) : Except Errno Store :=
  match s.occupied here path with
  | .error errno => .error errno
  | .ok (place, id, _) =>
    if s.isDirectory id then .error .EISDIR
    else if !s.allows place.directory .write then .error .EACCES
    else .ok (s.strike place.directory place.name)

/-- Whether a directory lies in another one, or is that one. No path up to the root is
longer than the number of nodes. -/
def liesIn (s : Store) (outer : NodeId) : Nat → NodeId → Bool
  | 0, _ => false
  | depth + 1, id =>
    id == outer || (id != root &&
      match s.content? id with
      | some (.directory parent _) => s.liesIn outer depth parent
      | _ => false)

/-- Gives a node another name in place of its own. What had that name is lost, unless it
is a directory with something in it, or the two are not of the same kind. -/
def rename (here : NodeId) (source target : Octets) (s : Store) : Except Errno Store := do
  let (old, id, _) ← s.occupied here source
  let (new, slash) ← s.find here false target
  let moves := s.isDirectory id
  if old.name.isEmpty || new.name.isEmpty then throw .EBUSY
  if slash && !moves then throw .ENOTDIR
  if moves && s.liesIn id s.nodes.size new.directory then throw .EINVAL
  if !s.allows old.directory .write || !s.allows new.directory .write then throw .EACCES
  if new.node = some id then return s
  match new.node with
  | none => pure ()
  | some other =>
    if s.isDirectory other then
      if !moves then throw .EISDIR
      if !(s.entries other).isEmpty then throw .ENOTEMPTY
    else if moves then throw .ENOTDIR
  let s := ((s.strike old.directory old.name).strike new.directory new.name).enter
    new.directory new.name id
  match s.content? id with
  | some (.directory _ entries) => return s.setContent id (.directory new.directory entries)
  | _ => return s

/-! ### What lies below a directory -/

/-- What can be seen of a node. -/
inductive View where
  | directory
  | file (data : ByteArray)
  | link (target : Octets)
deriving DecidableEq

/-- The view of a node. -/
def View.ofContent : Content → View
  | .directory _ _ => .directory
  | .file data => .file data
  | .link target => .link target
  | .program _ | .device _ => .file .empty

/-- What lies below a directory, by paths from there; `depth` bounds the depth. -/
def listing (s : Store) : Nat → Octets → NodeId → List (Octets × View)
  | 0, _, _ => []
  | depth + 1, path, id =>
    (s.entries id).flatMap fun (name, child) =>
      let path := if path.isEmpty then name else path ++ '/' :: name
      match s.content? child with
      | none => []
      | some content => (path, View.ofContent content) :: s.listing depth path child

/-- How a path with something at it differs from before. -/
inductive Change where
  /-- It is a file with new contents. -/
  | content (data : ByteArray)
  /-- It is a new directory. -/
  | directory
  /-- It is a new link. -/
  | link
  /-- Nothing is there any more. -/
  | gone
deriving DecidableEq

/-- The change that makes something appear. -/
def Change.ofView : View → Change
  | .directory => .directory
  | .file data => .content data
  | .link _ => .link

/-- The path of something in a list of changes, where directories have a slash. -/
def Change.path (path : Octets) : View → Octets
  | .directory => path ++ ['/']
  | _ => path

/-- The differences below a directory between two stores, by paths from there. -/
def changes (base : NodeId) (before after : Store) : List (Octets × Change) :=
  let old := before.listing before.nodes.size [] base
  let new := after.listing after.nodes.size [] base
  (new.filterMap fun (path, view) =>
    if old.contains (path, view) then none
    else some (Change.path path view, Change.ofView view)) ++
  (old.filterMap fun (path, view) =>
    if new.any (fun (other, view') => Change.path other view' = Change.path path view) then none
    else some (Change.path path view, .gone))

/-! ### Building a store -/

/-- Puts a node at a path below a directory, in place of what is there. -/
def put (base : NodeId) (path : Octets) (node : Node) (s : Store) : Store :=
  let last := match node.content with
    | .file _ => true
    | _ => false
  match s.find base last path with
  | .error _ => s
  | .ok ({ node := some id, .. }, _) =>
    if s.isDirectory id then s else s.modify id fun _ => node
  | .ok (place, _) =>
    let node := match node.content with
      | .directory _ entries => { node with content := .directory place.directory entries }
      | _ => node
    let (id, s) := s.add node
    s.enter place.directory place.name id

/-- A directory without entries. -/
def emptyDirectory : Node := { content := .directory root [], mode := 0o755 }

/-- The store of a machine with some programs and no files of its own. -/
def standard (programs : List Octets) : Store :=
  let s : Store := ⟨#[emptyDirectory]⟩
  let s := ["usr", "usr/bin", "usr/lib", "dev", "dev/fd", "etc", "tmp", "work"].foldl
    (fun s path => s.put root (path : String) emptyDirectory) s
  let s := s.put root "bin" { content := .link "usr/bin", mode := 0o777 }
  let devices : List (String × Device) :=
    [("null", .null), ("zero", .zero), ("full", .full), ("stdin", .descriptor 0),
      ("stdout", .descriptor 1), ("stderr", .descriptor 2), ("fd/0", .descriptor 0),
      ("fd/1", .descriptor 1), ("fd/2", .descriptor 2)]
  let s := devices.foldl
    (fun s (name, device) => s.put root ("dev/" ++ name : String)
      { content := .device device, mode := 0o666 }) s
  programs.foldl
    (fun s name => s.put root ("usr/bin/" ++ name) { content := .program name, mode := 0o755 })
    s

end Store

end LineShell
