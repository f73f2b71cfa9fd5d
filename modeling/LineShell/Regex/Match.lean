import LineShell.Text.ByteClass

/-!
# Regular expressions

A regular expression describes strings of bytes; some of its parts may be groups, to whose
strings it refers later.  It matches at a place of a line, and the ends of all its matches
there are computed together.

## Main definitions

* `Regex` — regular expressions.
* `Regex.Cursor` — a place in a line, with the strings of the groups before it.
* `Regex.ends` — where the matches that begin at a place end.
* `Regex.matchAt?`, `Regex.find?` — the longest match at a place, and the first longest match.
-/

namespace LineShell

/-- Conditions on a place between two bytes. -/
inductive Edge where
  | lineStart
  | lineEnd
  | wordStart
  | wordEnd
  | wordEdge
  | noWordEdge
deriving DecidableEq, Repr

/-- Regular expressions. -/
inductive Regex where
  /-- The empty string. -/
  | empty
  /-- One byte of a set. -/
  | one (set : ByteSet)
  /-- The empty string at some places. -/
  | edge (edge : Edge)
  /-- One after the other. -/
  | both (first second : Regex)
  /-- One of two. -/
  | either (first second : Regex)
  /-- Repeated, at least and at most so often. -/
  | many (regex : Regex) (least : Nat) (most : Option Nat)
  /-- A group with a number. -/
  | group (number : Nat) (regex : Regex)
  /-- The string of a group once more. -/
  | again (number : Nat) (folds : Bool)
deriving DecidableEq, Repr

namespace Regex

/-! ### Places -/

/-- A place in a line. -/
structure Cursor where
  /-- The byte before it. -/
  previous : Option Char := none
  /-- What follows it. -/
  rest : Octets
  /-- The number of bytes before it. -/
  position : Nat := 0
  /-- The strings of the groups, the last ones first. -/
  groups : List (Nat × Octets) := []
deriving DecidableEq, Repr

/-- Whether a byte belongs to words. -/
def isWordByte (c : Char) : Bool := c.isAlphanum || c = '_'

namespace Cursor

/-- The place after the next byte. -/
def advance (c : Cursor) : Cursor :=
  match c.rest with
  | [] => c
  | b :: rest => { c with previous := some b, rest, position := c.position + 1 }

/-- The place after some more bytes. -/
def skip (count : Nat) (c : Cursor) : Cursor :=
  let taken := c.rest.take count
  { c with
    previous := taken.getLast?.or c.previous
    rest := c.rest.drop count
    position := c.position + taken.length }

/-- The string of a group. -/
def group? (number : Nat) (c : Cursor) : Option Octets :=
  (c.groups.find? (·.1 == number)).map (·.2)

/-- Whether two places are the same for what follows. -/
def agrees (c d : Cursor) : Bool := c.position == d.position && c.groups == d.groups

end Cursor

end Regex

/-- Whether a condition holds at a place. -/
def Edge.holds (e : Edge) (c : Regex.Cursor) : Bool :=
  let before := c.previous.any Regex.isWordByte
  let after := c.rest.head?.any Regex.isWordByte
  match e with
  | .lineStart => c.previous.isNone
  | .lineEnd => c.rest.isEmpty
  | .wordStart => !before && after
  | .wordEnd => before && !after
  | .wordEdge => before != after
  | .noWordEdge => before == after

namespace Regex

/-! ### Ends of matches -/

/-- The places without repetitions, which are not among others either. -/
def fresh (seen : List Cursor) : List Cursor → List Cursor
  | [] => []
  | c :: rest =>
    if seen.any (c.agrees ·) then fresh seen rest else c :: fresh (c :: seen) rest

/-- The places after exactly so many steps. -/
def times (step : Cursor → List Cursor) : Nat → List Cursor → List Cursor
  | 0, places => places
  | count + 1, places => times step count (fresh [] (places.flatMap step))

/-- The places after any number of further steps, up to a bound; those with most steps come
first. -/
def reach (step : Cursor → List Cursor) (seen : List Cursor) : Nat → List Cursor → List Cursor
  | 0, _ => seen
  | count + 1, places =>
    let next := fresh seen (places.flatMap step)
    if next.isEmpty then seen else reach step (next ++ seen) count next

/-- Where the matches that begin at a place end. -/
def ends : Regex → Cursor → List Cursor
  | .empty, c => [c]
  | .one set, c => if c.rest.head?.any set.contains then [c.advance] else []
  | .edge e, c => if e.holds c then [c] else []
  | .both r s, c => fresh [] ((ends r c).flatMap (ends s))
  | .either r s, c => fresh [] (ends r c ++ ends s c)
  | .many r least most, c =>
    let places := times (ends r) least [c]
    let bound := match most with
      | some most => most - least
      | none => c.rest.length + 1
    reach (ends r) places (min bound (c.rest.length + 1)) places
  | .group n r, c => (ends r c).map fun e =>
      { e with groups := (n, c.rest.take (e.position - c.position)) ::
          e.groups.filter (·.1 != n) }
  | .again n folds, c =>
    match c.group? n with
    | none => []
    | some text =>
      let next := c.rest.take text.length
      if next = text || (folds && next.map Char.toLower = text.map Char.toLower)
      then [c.skip text.length] else []

/-! ### Matches -/

/-- The last place of a list, and of several such places the first. -/
def longest? (places : List Cursor) : Option Cursor :=
  places.foldl (fun best c =>
    match best with
    | none => some c
    | some b => if b.position < c.position then some c else best) none

/-- The end of the longest match at a place that fulfils a condition. -/
def matchAt? (r : Regex) (good : Cursor → Bool) (c : Cursor) : Option Cursor :=
  longest? ((ends r c).filter good)

/-- The first place with a match that fulfils a condition, and the end of the longest such
match there. The place is looked for from the given one on, over so many bytes. -/
def findFrom? (r : Regex) (good : Cursor → Cursor → Bool) :
    Nat → Cursor → Option (Cursor × Cursor)
  | 0, c => (matchAt? r (good c) c).map (c, ·)
  | count + 1, c =>
    match matchAt? r (good c) c with
    | some e => some (c, e)
    | none => findFrom? r good count c.advance

/-- The first match from a place on. -/
def find? (r : Regex) (good : Cursor → Cursor → Bool) (c : Cursor) :
    Option (Cursor × Cursor) :=
  findFrom? r good c.rest.length c

/-- A regular expression for a string. -/
def ofOctets (folds : Bool) : Octets → Regex
  | [] => .empty
  | c :: rest => .both (.one { ByteSet.single c with folds }) (ofOctets folds rest)

end Regex

end LineShell
