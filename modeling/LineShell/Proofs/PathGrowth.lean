import LineShell.Machine.Store
import Mathlib.Tactic.SplitIfs

/-!
# Paths in a store that grows

When a file is created, one name comes to one directory.  A path that led somewhere before
still leads there, and a path that was stopped for any other reason than that something was
missing is stopped in the same way.  Only a path that ended at the vacant place leads to the
new file.

## Main definitions

* `Store.Shape`, `Store.shape` — what a path sees of a node.
* `Store.Extends` — a store has all that another one has.

## Main results

* `Store.Extends.locate` — a path leads to the same node in a larger store.
* `Store.extends_occupy`, `Store.locate_occupy` — the store with a new file, and the path
  to it.
-/

namespace LineShell.Store

/-! ### What a path sees of a node -/

/-- What a path sees of a node apart from the names in it. -/
inductive Shape where
  /-- A directory in another one. -/
  | directory (parent : NodeId)
  /-- A link. -/
  | link (target : Octets)
  /-- A device. -/
  | device (device : Device)
  /-- Anything else, or nothing. -/
  | plain

/-- What a path sees of a node. -/
def shape (s : Store) (id : NodeId) : Shape :=
  match s.content? id with
  | some (.directory parent _) => .directory parent
  | some (.link target) => .link target
  | some (.device device) => .device device
  | some (.file _) | some (.program _) | none => .plain

/-- A store has all the nodes and names of another one. -/
structure Extends (s s' : Store) : Prop where
  /-- The nodes look the same. -/
  shape : ∀ id, s'.shape id = s.shape id
  /-- None is gone. -/
  present : ∀ id, (s.content? id).isSome → (s'.content? id).isSome
  /-- The directories let pass whom they did. -/
  allows : ∀ id parent, s.shape id = .directory parent →
    s'.allows id .enter = s.allows id .enter
  /-- No name has changed. -/
  lookup : ∀ {here name id}, s.lookup here name = some id → s'.lookup here name = some id

theorem extends_refl (s : Store) : s.Extends s :=
  ⟨fun _ => rfl, fun _ h => h, fun _ _ _ => rfl, fun h => h⟩

theorem Extends.trans {s s₁ s₂ : Store} (h₁ : s.Extends s₁) (h₂ : s₁.Extends s₂) :
    s.Extends s₂ where
  shape id := (h₂.shape id).trans (h₁.shape id)
  present id hid := h₂.present id (h₁.present id hid)
  allows id parent hid :=
    (h₂.allows id parent ((h₁.shape id).trans hid)).trans (h₁.allows id parent hid)
  lookup hid := h₂.lookup (h₁.lookup hid)

theorem isDirectory_iff {s : Store} {id : NodeId} :
    s.isDirectory id = true ↔ ∃ parent, s.shape id = .directory parent := by
  unfold isDirectory shape
  split <;> split <;> simp_all

theorem Extends.isDirectory {s s' : Store} (h : s.Extends s') (id : NodeId) :
    s'.isDirectory id = s.isDirectory id := by
  rw [Bool.eq_iff_iff, isDirectory_iff, isDirectory_iff, h.shape]

/-! ### One name of a path -/

/-- Where one name leads from a node. -/
inductive Turn where
  /-- No further. -/
  | refused (errno : Errno)
  /-- To a directory that has no name there. -/
  | moved (directory : NodeId)
  /-- To a place where nothing is. -/
  | vacant
  /-- To a node of that name. -/
  | entered (id : NodeId)
  /-- To a link of that name. -/
  | link (id : NodeId) (target : Octets)

/-- Where one name leads from a node. -/
def turn (s : Store) (here : NodeId) (name : Octets) : Turn :=
  match s.shape here with
  | .directory parent =>
    if !s.allows here .enter then .refused .EACCES
    else if name = ['.'] then .moved here
    else if name = ['.', '.'] then .moved parent
    else if name.length > Path.longestName then .refused .ENAMETOOLONG
    else match s.lookup here name with
      | none => .vacant
      | some id =>
        match s.shape id with
        | .link target => .link id target
        | .directory _ | .device _ | .plain => .entered id
  | .link _ | .device _ | .plain => .refused .ENOTDIR

variable {s s' : Store} {last : Bool}

/-- A path is followed turn by turn. -/
theorem leg_cons {place : Place} {here : NodeId} (hnode : place.node = some here)
    (name : Octets) (rest : List Octets) : s.leg last place (name :: rest) =
      match s.turn here name with
      | .refused errno => .stuck errno
      | .moved directory => s.leg last (.ofDirectory directory) rest
      | .vacant =>
        if rest.isEmpty then .arrived { directory := here, name, node := none }
        else .stuck .ENOENT
      | .entered id => s.leg last { directory := here, name, node := some id } rest
      | .link id target =>
        if rest.isEmpty && !last then .arrived { directory := here, name, node := some id }
        else .link here target rest := by
  simp only [leg, hnode, turn, shape]
  rcases s.content? here with - | (- | - | - | - | -) <;> simp only
  -- of a directory that can be passed the entry counts
  split_ifs <;> try rfl
  all_goals
    rcases s.lookup here name with - | id
    · rfl
    · simp only
      rcases s.content? id with - | (- | - | - | - | -) <;> rfl

/-- Where nothing was, a directory has no node of that name. -/
theorem lookup_of_turn_vacant {here : NodeId} {name : Octets} (h : s.turn here name = .vacant) :
    (∃ parent, s.shape here = .directory parent) ∧ s.lookup here name = none := by
  unfold turn at h
  cases hshape : s.shape here with
  | link target => simp [hshape] at h
  | device device => simp [hshape] at h
  | plain => simp [hshape] at h
  | directory parent =>
    refine ⟨⟨parent, rfl⟩, ?_⟩
    simp only [hshape] at h
    split_ifs at h
    cases hlookup : s.lookup here name with
    | none => rfl
    | some id =>
      simp only [hlookup] at h
      split at h <;> cases h

/-- A name that led somewhere leads there still. -/
theorem Extends.turn (h : s.Extends s') {here : NodeId} {name : Octets}
    (hturn : s.turn here name ≠ .vacant) : s'.turn here name = s.turn here name := by
  unfold Store.turn at hturn ⊢
  rw [h.shape]
  cases hshape : s.shape here with
  | link target => rfl
  | device device => rfl
  | plain => rfl
  | directory parent =>
    simp only [hshape] at hturn ⊢
    rw [h.allows here parent hshape]
    split_ifs at hturn ⊢ <;> try rfl
    cases hlookup : s.lookup here name with
    | none => simp [hlookup] at hturn
    | some id => simp only [h.lookup hlookup, h.shape]

/-- A name that led to a vacant place leads to the node that has come there. -/
theorem Extends.turn_vacant (h : s.Extends s') {here id : NodeId} {name : Octets}
    (hturn : s.turn here name = .vacant) (hlookup : s'.lookup here name = some id)
    (hshape : s'.shape id = .plain) : s'.turn here name = .entered id := by
  obtain ⟨⟨parent, hhere⟩, hnone⟩ := lookup_of_turn_vacant hturn
  unfold Store.turn at hturn ⊢
  rw [h.shape, hhere]
  simp only [hhere] at hturn
  simp only [h.allows here parent hhere]
  split_ifs at hturn ⊢
  simp only [hlookup, hshape]

/-! ### Following a path -/

/-- Whether something was found, or something else than its absence is in the way. -/
def Leg.isDefinite : Leg → Bool
  | .arrived place => place.node.isSome
  | .stuck errno => errno ≠ .ENOENT
  | .link _ _ _ => true

/-- A path up to the first link is the same in a larger store. -/
theorem Extends.leg (h : s.Extends s') {place : Place} {names : List Octets}
    (hdefinite : (s.leg last place names).isDefinite = true) :
    s'.leg last place names = s.leg last place names := by
  induction names generalizing place with
  | nil => rfl
  | cons name rest ih =>
    cases hnode : place.node with
    | none => simp [Store.leg, hnode, Leg.isDefinite] at hdefinite
    | some here =>
      rw [leg_cons hnode] at hdefinite ⊢
      rw [leg_cons hnode]
      cases hturn : s.turn here name with
      | vacant =>
        rw [hturn] at hdefinite
        cases rest <;> simp [Leg.isDefinite] at hdefinite
      | refused errno => rw [h.turn (by simp [hturn]), hturn]
      | link id target => rw [h.turn (by simp [hturn]), hturn]
      | moved directory =>
        rw [hturn] at hdefinite
        rw [h.turn (by simp [hturn]), hturn]
        exact ih hdefinite
      | entered id =>
        rw [hturn] at hdefinite
        rw [h.turn (by simp [hturn]), hturn]
        exact ih hdefinite

/-- A path to a vacant place leads to the node that has come there. -/
theorem Extends.leg_vacant (h : s.Extends s') {place found : Place} {names : List Octets}
    (id : NodeId) (hstart : place.node.isSome) (hleg : s.leg last place names = .arrived found)
    (hnone : found.node = none) :
    s.turn found.directory found.name = .vacant ∧
      (s'.lookup found.directory found.name = some id → s'.shape id = .plain →
        s'.leg last place names = .arrived { found with node := some id }) := by
  induction names generalizing place with
  | nil =>
    rw [Store.leg, Leg.arrived.injEq] at hleg
    simp [hleg, hnone] at hstart
  | cons name rest ih =>
    obtain ⟨here, hnode⟩ := Option.isSome_iff_exists.mp hstart
    rw [leg_cons hnode] at hleg
    rw [leg_cons hnode]
    cases hturn : s.turn here name with
    | refused errno => simp [hturn] at hleg
    | vacant =>
      rw [hturn] at hleg
      cases rest with
      | cons next rest => simp at hleg
      | nil =>
        simp only [List.isEmpty_nil, if_true, Leg.arrived.injEq] at hleg
        subst hleg
        refine ⟨hturn, fun hlookup hshape => ?_⟩
        rw [h.turn_vacant hturn hlookup hshape]
        rfl
    | link other target =>
      rw [hturn] at hleg
      simp only at hleg
      split_ifs at hleg
      cases hleg
      simp at hnone
    | moved directory =>
      rw [hturn] at hleg
      rw [h.turn (by simp [hturn]), hturn]
      exact ih rfl hleg
    | entered other =>
      rw [hturn] at hleg
      rw [h.turn (by simp [hturn]), hturn]
      exact ih rfl hleg

/-- Whether a node was found, or something else than its absence is in the way. -/
def isFound : Except Errno (Place × Bool) → Bool
  | .ok (place, _) => place.node.isSome
  | .error errno => errno ≠ .ENOENT

section Follow

variable {links : Nat} {here : NodeId} {slash : Bool} {path : List Octets}

/-- What is found by way of links is found in a larger store. -/
theorem Extends.follow (h : s.Extends s')
    (hfound : isFound (s.follow last links here slash path) = true) :
    s'.follow last links here slash path = s.follow last links here slash path := by
  -- the cases are those of the first leg, and of the links that may still be followed
  fun_induction s.follow last links here slash path with
  | case1 links here slash path place hleg =>
    rw [Store.follow, h.leg (by simpa [hleg, Leg.isDefinite, isFound] using hfound), hleg]
  | case2 links here slash path errno hleg =>
    rw [Store.follow, h.leg (by simpa [hleg, Leg.isDefinite, isFound] using hfound), hleg]
  | case3 here slash path directory target rest hleg =>
    rw [Store.follow, h.leg (by simp [hleg, Leg.isDefinite]), hleg]
  | case4 here slash path directory target rest hleg links ih =>
    rw [Store.follow, h.leg (by simp [hleg, Leg.isDefinite]), hleg]
    exact ih hfound

/-- A vacant place at the end of some links is reached in a larger store, with what has come
there. -/
theorem Extends.follow_vacant (h : s.Extends s') {found : Place} {flag : Bool} (id : NodeId)
    (hfollow : s.follow last links here slash path = .ok (found, flag))
    (hnone : found.node = none) :
    s.turn found.directory found.name = .vacant ∧
      (s'.lookup found.directory found.name = some id → s'.shape id = .plain →
        s'.follow last links here slash path = .ok ({ found with node := some id }, flag)) := by
  fun_induction s.follow last links here slash path with
  | case1 links here slash path place hleg =>
    cases hfollow
    obtain ⟨hturn, hnew⟩ := h.leg_vacant id rfl hleg hnone
    exact ⟨hturn, fun hlookup hshape => by rw [Store.follow, hnew hlookup hshape]⟩
  | case2 links here slash path errno hleg => cases hfollow
  | case3 here slash path directory target rest hleg => cases hfollow
  | case4 here slash path directory target rest hleg links ih =>
    rw [Store.follow, h.leg (by simp [hleg, Leg.isDefinite]), hleg]
    exact ih hfollow

end Follow

/-- A path is stopped at the same place in a larger store, unless something was missing. -/
theorem Extends.locate (h : s.Extends s') {here : NodeId} {path : Octets}
    (hfound : s.locate here path ≠ .error .ENOENT) :
    s'.locate here path = s.locate here path := by
  have hfind : s'.find here true path = s.find here true path := by
    unfold Store.find
    cases hrefusal : Path.refusal? path with
    | some errno => rfl
    | none =>
      refine h.follow ?_
      unfold Store.locate Store.find at hfound
      simp only [hrefusal] at hfound
      rcases hfollow : s.follow true mostLinks (origin here path) (Path.endsWithSlash path)
        (Path.names path) with errno | ⟨⟨directory, name, - | id⟩, slash⟩
      · simpa [hfollow, isFound] using hfound
      · simp [hfollow] at hfound
      · rfl
  unfold Store.locate
  rw [hfind]
  rcases s.find here true path with errno | ⟨⟨directory, name, - | id⟩, slash⟩
  · rfl
  · rfl
  · simp only [h.isDirectory]

/-- A path to a vacant place leads to the node that has come there. -/
theorem Extends.find_vacant (h : s.Extends s') {here : NodeId} {path : Octets} {found : Place}
    {flag : Bool} (id : NodeId) (hfind : s.find here last path = .ok (found, flag))
    (hnone : found.node = none) :
    s.turn found.directory found.name = .vacant ∧
      (s'.lookup found.directory found.name = some id → s'.shape id = .plain →
        s'.find here last path = .ok ({ found with node := some id }, flag)) := by
  unfold Store.find at hfind ⊢
  cases hrefusal : Path.refusal? path with
  | some errno => simp [hrefusal] at hfind
  | none =>
    simp only [hrefusal] at hfind ⊢
    exact h.follow_vacant id hfind hnone

/-! ### Stores with more in them -/

section Content

variable (s) (id other : NodeId)

theorem content?_add (node : Node) : (s.add node).2.content? other =
    if other = s.nodes.size then some node.content else s.content? other := by
  simp only [add, content?, get?, Array.getElem?_push]
  split <;> rfl

theorem allows_add (node : Node) (p : Permission) (h : other ≠ s.nodes.size) :
    (s.add node).2.allows other p = s.allows other p := by
  simp [add, allows, get?, Array.getElem?_push, h]

theorem content?_setContent (content : Content) : (s.setContent id content).content? other =
    if id = other then (s.content? other).map fun _ => content else s.content? other := by
  simp only [setContent, modify, content?, get?, Array.getElem?_modify]
  split
  · cases s.nodes[other]? <;> rfl
  · rfl

theorem allows_setContent (content : Content) (p : Permission) :
    (s.setContent id content).allows other p = s.allows other p := by
  simp only [setContent, modify, allows, get?, Array.getElem?_modify]
  split
  · cases s.nodes[other]? <;> rfl
  · rfl

end Content

/-- A new file that has no name yet. -/
theorem extends_add (s : Store) {node : Node} {data : ByteArray}
    (hnode : node.content = .file data) : s.Extends (s.add node).2 := by
  have hbeyond : s.content? s.nodes.size = none := by simp [content?, get?]
  have hcontent : ∀ id, id ≠ s.nodes.size → (s.add node).2.content? id = s.content? id :=
    fun id hid => by rw [content?_add, if_neg hid]
  refine ⟨?_, ?_, ?_, ?_⟩
  · intro id
    by_cases hid : id = s.nodes.size
    · simp [shape, content?_add, hid, hnode, hbeyond]
    · simp [shape, hcontent id hid]
  · intro id hpresent
    rw [content?_add]
    split
    · rfl
    · exact hpresent
  · intro id parent hshape
    refine allows_add s id node .enter ?_
    rintro rfl
    simp [shape, hbeyond] at hshape
  · intro here name id hlookup
    by_cases hhere : here = s.nodes.size
    · simp [lookup, entries, hhere, hbeyond] at hlookup
    · simpa [lookup, entries, hcontent here hhere] using hlookup

/-- Another file in place of a file. -/
theorem extends_setContent {id : NodeId} {data : ByteArray}
    (hfile : s.content? id = some (.file data)) (data' : ByteArray) :
    s.Extends (s.setContent id (.file data')) := by
  refine ⟨?_, ?_, ?_, ?_⟩
  · intro other
    by_cases hother : id = other
    · subst hother
      simp [shape, content?_setContent, hfile]
    · simp [shape, content?_setContent, hother]
  · intro other hpresent
    rw [content?_setContent]
    split
    · simpa using hpresent
    · exact hpresent
  · intro other parent _
    exact allows_setContent s id other _ .enter
  · intro here name other hlookup
    by_cases hhere : id = here
    · subst hhere
      simp [lookup, entries, hfile] at hlookup
    · simpa [lookup, entries, content?_setContent, hhere] using hlookup

/-- One more name in a directory. -/
theorem extends_enter (s : Store) (directory : NodeId) (name : Octets) (id : NodeId) :
    s.Extends (s.enter directory name id) := by
  unfold enter modifyEntries
  split
  · rename_i parent names hdirectory
    refine ⟨?_, ?_, ?_, ?_⟩
    · intro other
      by_cases hother : directory = other
      · subst hother
        simp [shape, content?_setContent, hdirectory]
      · simp [shape, content?_setContent, hother]
    · intro other hpresent
      rw [content?_setContent]
      split
      · simpa using hpresent
      · exact hpresent
    · intro other _ _
      exact allows_setContent s directory other _ .enter
    · intro here other found hlookup
      by_cases hhere : directory = here
      · subst hhere
        simp only [lookup, entries, hdirectory] at hlookup
        obtain ⟨entry, hentry, rfl⟩ := Option.map_eq_some_iff.mp hlookup
        simp [lookup, entries, content?_setContent, hdirectory, List.find?_append, hentry]
      · simpa [lookup, entries, content?_setContent, hhere] using hlookup
  · exact extends_refl s

/-- The new name leads to its node. -/
theorem lookup_enter {directory parent : NodeId} {name : Octets}
    (hdirectory : s.shape directory = .directory parent)
    (hvacant : s.lookup directory name = none) (id : NodeId) :
    (s.enter directory name id).lookup directory name = some id := by
  obtain ⟨names, hcontent⟩ : ∃ names, s.content? directory = some (.directory parent names) := by
    unfold shape at hdirectory
    split at hdirectory <;> cases hdirectory
    exact ⟨_, by assumption⟩
  have hnone : names.find? (·.1 == name) = none := by
    simpa [lookup, entries, hcontent] using hvacant
  simp [enter, modifyEntries, hcontent, lookup, entries, content?_setContent, List.find?_append,
    hnone]

/-- A new name changes no other node than its directory. -/
theorem content?_enter_of_ne {directory other : NodeId} (h : directory ≠ other) (name : Octets)
    (id : NodeId) : (s.enter directory name id).content? other = s.content? other := by
  unfold enter modifyEntries
  split
  · rw [content?_setContent, if_neg h]
  · rfl

/-- The new node of a vacant place comes after all others. -/
theorem occupy_ok {place : Place} {node : Node} {id : NodeId}
    (h : s.occupy place node = .ok (id, s')) : id = s.nodes.size ∧
      s' = (s.add node).2.enter place.directory place.name s.nodes.size := by
  unfold occupy at h
  split at h <;> cases h
  exact ⟨rfl, rfl⟩

/-- A new file in a vacant place. -/
theorem extends_occupy {place : Place} {node : Node} {data : ByteArray} {id : NodeId}
    (hnode : node.content = .file data) (h : s.occupy place node = .ok (id, s')) :
    s.Extends s' := by
  obtain ⟨-, rfl⟩ := occupy_ok h
  exact (extends_add s hnode).trans (extends_enter _ place.directory place.name _)

/-- The path to a vacant place leads to the new file there. -/
theorem locate_occupy {here id : NodeId} {path : Octets} {place : Place} {node : Node}
    {data : ByteArray} (hnode : node.content = .file data)
    (hfind : s.find here true path = .ok (place, false)) (hvacant : place.node = none)
    (h : s.occupy place node = .ok (id, s')) :
    s'.locate here path = .ok id ∧ s'.content? id = some (.file data) := by
  obtain ⟨hturn, hfind'⟩ := (extends_occupy hnode h).find_vacant id hfind hvacant
  obtain ⟨⟨parent, hshape⟩, hnone⟩ := lookup_of_turn_vacant hturn
  -- the new node is none of the old ones, so it is not the directory
  have hne : place.directory ≠ s.nodes.size := by
    intro heq
    simp [heq, shape, content?, get?] at hshape
  obtain ⟨rfl, rfl⟩ := occupy_ok h
  have hcontent : ((s.add node).2.enter place.directory place.name s.nodes.size).content?
      s.nodes.size = some (.file data) := by
    rw [content?_enter_of_ne hne, content?_add, if_pos rfl, hnode]
  have hdirectory : (s.add node).2.shape place.directory = .directory parent :=
    ((extends_add s hnode).shape _).trans hshape
  have hnone' : (s.add node).2.lookup place.directory place.name = none := by
    simpa [lookup, entries, content?_add, hne] using hnone
  refine ⟨?_, hcontent⟩
  rw [locate, hfind' (lookup_enter hdirectory hnone' _) (by simp [shape, hcontent])]
  rfl

end LineShell.Store
