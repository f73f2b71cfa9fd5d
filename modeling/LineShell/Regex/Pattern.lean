import LineShell.Regex.Match

/-!
# Written regular expressions

There are two ways to write a regular expression.  In the basic one, groups, alternatives
and some repetitions are written with a backslash; in the extended one they are written
without, and the backslash makes ordinary bytes of them.

## Main definitions

* `Regex.Style` — the way of writing.
* `Regex.Piece` — a piece of a written expression.
* `Regex.piecesOf` — the pieces of a written expression.
* `Regex.read` — the expression that was written.
-/

namespace LineShell.Regex

/-! ### Pieces -/

/-- The way in which an expression is written. -/
structure Style where
  /-- Whether it is the extended way. -/
  extended : Bool := false
  /-- Whether small and capital letters count as the same. -/
  folds : Bool := false
  /-- Whether ranges may be empty. -/
  loose : Bool := false
  /-- Whether a point stands for the end of a line too. -/
  crosses : Bool := false
deriving DecidableEq, Repr

/-- A piece of a written expression. -/
inductive Piece where
  | one (set : ByteSet)
  | edge (edge : Edge)
  | repeated (least : Nat) (most : Option Nat)
  | again (number : Nat)
  | opening
  | closing
  | bar
deriving DecidableEq, Repr

/-- Why something is no regular expression. -/
inductive Fault where
  | trailingBackslash
  | openBracket
  | openGroup
  | closedGroup
  | openBrace
  | badBrace
  | bigBrace
  | badRange
  | badClass
  | bareClass
  | badReference
  | badCollation
  | emptyBracket
deriving DecidableEq, Repr

/-- A sentence about what is wrong. -/
def Fault.text : Fault → Octets
  | .trailingBackslash => "Trailing backslash"
  | .openBracket => "Unmatched [, [^, [:, [., or [="
  | .openGroup => "Unmatched ( or \\("
  | .closedGroup => "Unmatched ) or \\)"
  | .openBrace => "Unmatched \\\x7b"
  | .badBrace => "Invalid content of \\\x7b\\\x7d"
  | .bigBrace => "Regular expression too big"
  | .badRange => "Invalid range end"
  | .badClass => "Invalid character class name"
  | .bareClass => "character class syntax is [[:space:]], not [:space:]"
  | .badReference => "Invalid back reference"
  | .badCollation => "Invalid collation character"
  | .emptyBracket => "Invalid regular expression"

/-! ### Brackets -/

/-- What is enclosed by a mark and a bracket, as in `[:name:]`, and what follows it. -/
def enclosed? (mark : Char) (held : Octets) : Octets → Option (Octets × Octets)
  | [] => none
  | c :: rest =>
    if c = mark && rest.head? = some ']' then some (held.reverse, rest.tail)
    else enclosed? mark (c :: held) rest

/-- The next single byte in brackets, and what follows it. -/
def bracketByte : Octets → Except Fault (Char × Octets)
  | '[' :: mark :: rest =>
    if mark = '.' || mark = '=' then
      match enclosed? mark [] rest with
      | some ([c], rest) => .ok (c, rest)
      | some _ => .error .badCollation
      | none => .error .openBracket
    else .ok ('[', mark :: rest)
  | c :: rest => .ok (c, rest)
  | [] => .error .openBracket

/-- Reads what stands in brackets, and what follows them; `first` tells whether a closing
bracket is an ordinary byte. There are at most `count` things in them. -/
def bracketItems (loose first : Bool) (found : List ByteRange) :
    Nat → Octets → Except Fault (List ByteRange × Octets)
  | 0, _ => .error .openBracket
  | count + 1, text =>
    match text with
    | [] => .error .openBracket
    | ']' :: rest =>
      if first then bracketFrom found count (']', rest) else .ok (found, rest)
    | '[' :: ':' :: rest =>
      match enclosed? ':' [] rest with
      | none => .error .openBracket
      | some (name, rest) =>
        if (Octets.classTest? name).isSome then
          bracketItems loose false (found ++ [.class name]) count rest
        else .error .badClass
    | text =>
      match bracketByte text with
      | .error fault => .error fault
      | .ok next => bracketFrom found count next
where
  /-- Goes on after a single byte, which may begin a range. -/
  bracketFrom (found : List ByteRange) (count : Nat) (next : Char × Octets) :
      Except Fault (List ByteRange × Octets) :=
    match next with
    | (c, '-' :: ']' :: rest) => .ok (found ++ [.between c c, .between '-' '-'], rest)
    | (c, '-' :: rest) =>
      match bracketByte rest with
      | .error fault => .error fault
      | .ok (last, rest) =>
        if last < c && !loose then .error .badRange
        else bracketItems loose false (found ++ [.between c last]) count rest
    | (c, rest) => bracketItems loose false (found ++ [.between c c]) count rest

/-- The set in brackets after the opening one, and what follows it. -/
def bracket (style : Style) (text : Octets) : Except Fault (ByteSet × Octets) := do
  let inverted := text.head? = some '^'
  let body := if inverted then text.tail else text
  if body.isEmpty then throw .emptyBracket
  let (ranges, rest) ← bracketItems style.loose true [] (body.length + 1) body
  if !style.loose && !inverted && body.head? = some ':' &&
      ranges.getLast? = some (.between ':' ':') && ranges.length > 2 then
    throw .bareClass
  return ({ ranges, inverted, folds := style.folds }, rest)

/-! ### Repetitions -/

/-- The most repetitions that may be asked for. -/
def mostRepeats : Nat := 32767

/-- The numbers in braces, without what closes them, and what follows them. -/
def braces? (text : Octets) : Option (Nat × Option Nat × Octets) :=
  let low := text.takeWhile Char.isDigit
  match text.drop low.length with
  | ',' :: rest =>
    let high := rest.takeWhile Char.isDigit
    some (Octets.digitsValue low,
      if high.isEmpty then none else some (Octets.digitsValue high), rest.drop high.length)
  | rest =>
    let number := Octets.digitsValue low
    if low.isEmpty then none else some (number, some number, rest)

/-- What is wrong with braces in a basic expression that hold something else than numbers: they
may not even be closed. -/
def braceFault : Octets → Fault
  | [] => .openBrace
  | ',' :: _ | '\\' :: '}' :: _ => .badBrace
  | _ :: rest => braceFault rest

/-- The repetition that braces ask for, after the opening one, and what follows it. Where
there is none in an extended expression, the brace is an ordinary byte. -/
def repetition (extended : Bool) (text : Octets) :
    Except Fault (Option (Nat × Option Nat × Octets)) :=
  match braces? text with
  | none => if extended then .ok none else .error (braceFault text)
  | some (least, most, rest) =>
    let after? := match rest with
      | '}' :: rest => if extended then some rest else none
      | '\\' :: '}' :: rest => if extended then none else some rest
      | _ => none
    match after? with
    | none => if extended then .ok none else .error (braceFault rest)
    | some rest =>
      if most.any (· < least) then .error .badBrace
      else if least > mostRepeats || most.any (· > mostRepeats) then .error .bigBrace
      else .ok (some (least, most, rest))

/-! ### Reading pieces -/

/-- Whether nothing stands before the next piece in its alternative. -/
def atStart : Option Piece → Bool
  | none | some .opening | some .bar => true
  | _ => false

/-- Whether an alternative ends before a text. -/
def atEnd (extended : Bool) (text : Octets) : Bool :=
  match text with
  | [] => true
  | '\\' :: ')' :: _ | '\\' :: '|' :: _ => !extended
  | _ => false

/-- The piece for an operator that is written with a backslash in one of the two ways, if it
is one. -/
def operator? (c : Char) : Option Piece :=
  match c with
  | '(' => some .opening
  | ')' => some .closing
  | '|' => some .bar
  | '+' => some (.repeated 1 none)
  | '?' => some (.repeated 0 (some 1))
  | _ => none

/-- The piece for a letter or sign after a backslash that is an operator in both ways. -/
def escape? (style : Style) (c : Char) : Option Piece :=
  let word : ByteSet := { ranges := [.class "alnum".toList, .between '_' '_'] }
  let space : ByteSet := { ranges := [.class "space".toList] }
  match c with
  | 'w' => some (.one word)
  | 'W' => some (.one word.invert)
  | 's' => some (.one space)
  | 'S' => some (.one space.invert)
  | 'b' => some (.edge .wordEdge)
  | 'B' => some (.edge .noWordEdge)
  | '<' => some (.edge .wordStart)
  | '>' => some (.edge .wordEnd)
  | '\x60' => some (.edge .lineStart)
  | '\'' => some (.edge .lineEnd)
  | c =>
    if '1' ≤ c && c ≤ '9' then some (.again (c.toNat - '0'.toNat))
    else if style.extended then none
    else operator? c

/-- The pieces of a text after the piece `last`. A piece consists of at least one byte, so there
are at most `count` ones. -/
def piecesFrom (style : Style) (last : Option Piece) : Nat → Octets → Except Fault (List Piece)
  | 0, _ => .ok []
  | count + 1, text =>
    let go (p : Piece) (rest : Octets) : Except Fault (List Piece) :=
      (piecesFrom style (some p) count rest).map (p :: ·)
    let byte (c : Char) (rest : Octets) : Except Fault (List Piece) :=
      go (.one { ByteSet.single c with folds := style.folds }) rest
    let braced (c : Char) (rest : Octets) : Except Fault (List Piece) :=
      match repetition style.extended rest with
      | .error fault => .error fault
      | .ok none => byte c rest
      | .ok (some (least, most, rest)) => go (.repeated least most) rest
    let barred := atStart last || last = some (.edge .lineStart)
    match text with
    | [] => .ok []
    | '\\' :: [] => .error .trailingBackslash
    | '\\' :: c :: rest =>
      if c = '{' && !style.extended then
        if barred then byte c rest else braced c rest
      else
        match escape? style c with
        | some (.repeated least most) =>
          if barred then byte c rest else go (.repeated least most) rest
        | some p => go p rest
        | none => byte c rest
    | '[' :: rest =>
      match bracket style rest with
      | .error fault => .error fault
      | .ok (set, rest) => go (.one set) rest
    | '.' :: rest => go (.one (if style.crosses then ByteSet.all else ByteSet.allBut '\n')) rest
    | '*' :: rest =>
      if barred && !style.extended then byte '*' rest else go (.repeated 0 none) rest
    | '^' :: rest =>
      if style.extended || atStart last then go (.edge .lineStart) rest else byte '^' rest
    | '$' :: rest =>
      if style.extended || atEnd style.extended rest then go (.edge .lineEnd) rest
      else byte '$' rest
    | c :: rest =>
      if !style.extended then byte c rest
      else if c = '{' then braced c rest
      else match operator? c with
        | some p => go p rest
        | none => byte c rest

/-- The pieces of a written expression. -/
def piecesOf (style : Style) (text : Octets) : Except Fault (List Piece) :=
  piecesFrom style none text.length text

/-- The repetitions that have nothing to repeat, among pieces of which the first one is `first`
in its alternative. -/
def idleRepetitions (first : Bool) : List Piece → List Piece
  | [] => []
  | .edge _ :: rest => idleRepetitions first rest
  | .opening :: rest | .bar :: rest => idleRepetitions true rest
  | .repeated least most :: rest =>
    (if first then [.repeated least most] else []) ++ idleRepetitions false rest
  | _ :: rest => idleRepetitions false rest

/-- How a repetition is written. -/
def repetitionSign : Piece → Octets
  | .repeated 0 none => "*"
  | .repeated 1 none => "+"
  | .repeated 0 (some 1) => "?"
  | _ => "\x7b...\x7d"

/-! ### Putting pieces together -/

/-- What was put together of a group that is not complete. -/
structure Partial where
  /-- Its number. -/
  number : Nat
  /-- The alternatives before the one that is not complete. -/
  before : Option Regex := none
  /-- What the alternative begins with. -/
  start : Option Regex := none
  /-- The last part of the alternative, to which a repetition applies. -/
  last : Option Regex := none

namespace Partial

/-- The alternative so far. -/
def alternative (p : Partial) : Regex :=
  match p.start, p.last with
  | none, none => .empty
  | none, some r | some r, none => r
  | some r, some s => .both r s

/-- The whole group so far. -/
def whole (p : Partial) : Regex :=
  match p.before with
  | none => p.alternative
  | some r => .either r p.alternative

/-- Adds a part. -/
def add (r : Regex) (p : Partial) : Partial :=
  { p with
    start := match p.last with
      | none => p.start
      | some _ => some p.alternative
    last := some r }

end Partial

/-- Puts pieces together; `outer` are the groups around the current one, and `count` is the
number of groups so far. -/
def assemble (folds : Bool) (outer : List Partial) (current : Partial) (count : Nat) :
    List Piece → Except Fault Regex
  | [] => if outer.isEmpty then .ok current.whole else .error .openGroup
  | .one set :: rest => assemble folds outer (current.add (.one set)) count rest
  | .edge e :: rest => assemble folds outer (current.add (.edge e)) count rest
  | .again n :: rest =>
    if n > count || (current :: outer).any (·.number = n) then .error .badReference
    else assemble folds outer (current.add (.again n folds)) count rest
  | .repeated least most :: rest =>
    let r := current.last.getD .empty
    assemble folds outer { current with last := some (.many r least most) } count rest
  | .bar :: rest =>
    assemble folds outer { number := current.number, before := some current.whole } count rest
  | .opening :: rest =>
    assemble folds (current :: outer) { number := count + 1 } (count + 1) rest
  | .closing :: rest =>
    match outer with
    | [] => .error .closedGroup
    | next :: outer =>
      assemble folds outer (next.add (.group current.number current.whole)) count rest

/-- The expression that is written in a text. -/
def read (style : Style) (text : Octets) : Except Fault Regex := do
  assemble style.folds [] { number := 0 } 0 (← piecesOf style text)

/-- The number of groups in an expression. -/
def groupCount : Regex → Nat
  | .both r s | .either r s => groupCount r + groupCount s
  | .many r _ _ => groupCount r
  | .group _ r => groupCount r + 1
  | _ => 0

end LineShell.Regex
