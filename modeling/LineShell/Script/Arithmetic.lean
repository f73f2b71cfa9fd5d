import LineShell.Text.Octets

/-!
# Arithmetic

Expressions of whole numbers of 64 bits, with variables that may be given new values.

## Main definitions

* `Arithmetic.Token`, `Arithmetic.tokensOf` — what expressions are made of.
* `Arithmetic.calculate` — the value of an operator.
* `Arithmetic.evaluate` — the value of an expression, and the variables that it changes.
-/

namespace LineShell.Script.Arithmetic

/-! ### Numbers -/

/-- The number of 64 bits that is left of a number. -/
def wrap (n : Int) : Int := n.bmod (2 ^ 64)

/-- The largest number. -/
def largest : Int := 2 ^ 63 - 1

/-- The number of a condition. -/
def truth (b : Bool) : Int := if b then 1 else 0

/-- The value of a digit. -/
def digitValue (c : Char) : Nat :=
  if c.isDigit then c.toNat - '0'.toNat else c.toLower.toNat - 'a'.toNat + 10

/-- Whether a byte is a hexadecimal digit. -/
def isHexDigit (c : Char) : Bool :=
  c.isDigit || ('a' ≤ c && c ≤ 'f') || ('A' ≤ c && c ≤ 'F')

/-- The value of digits of a base. -/
def valueOf (base : Nat) (digits : Octets) : Nat :=
  digits.foldl (fun n c => n * base + digitValue c) 0

/-- The number at the beginning of a string of digits, in base 16 after `0x` and in base 8 after
another zero, and what follows it. -/
def scanNumber (text : Octets) : Nat × Octets :=
  let scan (base : Nat) (test : Char → Bool) (text : Octets) : Nat × Octets :=
    let digits := text.takeWhile test
    (valueOf base digits, text.drop digits.length)
  match text with
  | '0' :: x :: c :: rest =>
    if (x = 'x' || x = 'X') && isHexDigit c then scan 16 isHexDigit (c :: rest)
    else scan 8 (fun c => '0' ≤ c && c ≤ '7') text
  | '0' :: _ => scan 8 (fun c => '0' ≤ c && c ≤ '7') text
  | _ => scan 10 Char.isDigit text

/-- The number that a string is, with blanks around it; nothing is zero. -/
def number? (text : Octets) : Option Int :=
  let text := text.dropWhile Octets.isSpacing
  let isNegative := text.head? = some '-'
  let body := if isNegative || text.head? = some '+' then text.tail else text
  if text.isEmpty then some 0
  else if !body.head?.any Char.isDigit then none
  else
    let (n, rest) := scanNumber body
    let value : Int := if isNegative then -n else n
    if rest.all Octets.isSpacing && -largest - 1 ≤ value && value ≤ largest then some value
    else none

/-! ### Tokens -/

/-- Binary operators. -/
inductive Operator where
  | times
  | over
  | remainder
  | plus
  | minus
  | shiftLeft
  | shiftRight
  | less
  | atMost
  | greater
  | atLeast
  | equal
  | unequal
  | bitAnd
  | bitXor
  | bitOr
deriving DecidableEq, Repr

/-- How tightly an operator binds; 0 is tightest. -/
def Operator.looseness : Operator → Nat
  | .times | .over | .remainder => 0
  | .plus | .minus => 1
  | .shiftLeft | .shiftRight => 2
  | .less | .atMost | .greater | .atLeast => 3
  | .equal | .unequal => 4
  | .bitAnd => 5
  | .bitXor => 6
  | .bitOr => 7

/-- The tokens of expressions. -/
inductive Token where
  | number (n : Int)
  | name (name : Octets)
  | operator (operator : Operator)
  /-- Gives a variable a value, maybe with the help of an operator. -/
  | assign (operator : Option Operator)
  | and
  | or
  | not
  | complement
  | question
  | colon
  | opening
  | closing
  /-- A byte with which no token begins. -/
  | unknown
deriving DecidableEq, Repr

/-- The tokens that are signs, the longer ones first. -/
def signs : List (String × Token) :=
  [("<<=", .assign (some .shiftLeft)), (">>=", .assign (some .shiftRight)),
    ("<<", .operator .shiftLeft), (">>", .operator .shiftRight), ("<=", .operator .atMost),
    (">=", .operator .atLeast), ("==", .operator .equal), ("!=", .operator .unequal),
    ("&&", .and), ("||", .or), ("+=", .assign (some .plus)), ("-=", .assign (some .minus)),
    ("*=", .assign (some .times)), ("/=", .assign (some .over)),
    ("%=", .assign (some .remainder)), ("&=", .assign (some .bitAnd)),
    ("|=", .assign (some .bitOr)), ("^=", .assign (some .bitXor)), ("+", .operator .plus),
    ("-", .operator .minus), ("*", .operator .times), ("/", .operator .over),
    ("%", .operator .remainder), ("&", .operator .bitAnd), ("|", .operator .bitOr),
    ("^", .operator .bitXor), ("<", .operator .less), (">", .operator .greater),
    ("~", .complement), ("!", .not), ("?", .question), (":", .colon), ("(", .opening),
    (")", .closing), ("=", .assign none)]

/-- The tokens of a text, in so many steps. -/
def tokensFrom : Nat → Octets → List Token
  | 0, _ => []
  | _, [] => []
  | steps + 1, c :: rest =>
    if c = ' ' || c = '\t' || c = '\n' then tokensFrom steps rest
    else if c.isDigit then
      let (n, rest) := scanNumber (c :: rest)
      .number (min n largest) :: tokensFrom steps rest
    else if c.isAlpha || c = '_' then
      let name := (c :: rest).takeWhile fun c => c.isAlphanum || c = '_'
      .name name :: tokensFrom steps ((c :: rest).drop name.length)
    else match signs.find? fun (sign, _) => sign.toList.isPrefixOf (c :: rest) with
      | some (sign, token) => token :: tokensFrom steps ((c :: rest).drop sign.length)
      | none => [.unknown]

/-- The tokens of a text. -/
def tokensOf (text : Octets) : List Token := tokensFrom text.length text

/-! ### Values -/

/-- Why an expression has no value. -/
inductive Fault where
  /-- An operand is missing. -/
  | noPrimary
  /-- A bracket is not closed. -/
  | noClosing
  /-- A question mark has no colon. -/
  | noColon
  /-- Something follows the expression. -/
  | noEnd
  | divisionByZero
  /-- The value of a variable is no number. -/
  | notNumber (value : Octets)
deriving DecidableEq, Repr

/-- Bits that are combined. -/
def combine (f : BitVec 64 → BitVec 64 → BitVec 64) (a b : Int) : Int :=
  (f (BitVec.ofInt 64 a) (BitVec.ofInt 64 b)).toInt

/-- The value of an operator. -/
def calculate (operator : Operator) (a b : Int) : Except Fault Int :=
  match operator with
  | .times => .ok (wrap (a * b))
  | .over => if b = 0 then .error .divisionByZero else .ok (wrap (a.tdiv b))
  | .remainder => if b = 0 then .error .divisionByZero else .ok (wrap (a.tmod b))
  | .plus => .ok (wrap (a + b))
  | .minus => .ok (wrap (a - b))
  | .shiftLeft => .ok (wrap (a * 2 ^ (b % 64).toNat))
  | .shiftRight => .ok (a / 2 ^ (b % 64).toNat)
  | .less => .ok (truth (a < b))
  | .atMost => .ok (truth (a ≤ b))
  | .greater => .ok (truth (a > b))
  | .atLeast => .ok (truth (a ≥ b))
  | .equal => .ok (truth (a = b))
  | .unequal => .ok (truth (a ≠ b))
  | .bitAnd => .ok (combine (· &&& ·) a b)
  | .bitXor => .ok (combine (· ^^^ ·) a b)
  | .bitOr => .ok (combine (· ||| ·) a b)

/-- What is left of an expression, and the variables that it changed, the last ones first. -/
structure State where
  tokens : List Token
  changes : List (Octets × Int) := []

/-- A computation of a value. -/
abbrev Evaluation := StateT State (Except Fault)

/-- The next token, which is taken. -/
def next : Evaluation (Option Token) := do
  let s ← get
  set { s with tokens := s.tokens.tail }
  pure s.tokens.head?

/-- The next token. -/
def peek : Evaluation (Option Token) := do
  pure (← get).tokens.head?

/-- The value of a variable. -/
def valueOfName (lookUp : Octets → Octets) (name : Octets) : Evaluation Int := do
  match (← get).changes.find? (·.1 = name) with
  | some (_, n) => pure n
  | none =>
    let text := lookUp name
    match number? text with
    | some n => pure n
    | none => throw (.notNumber text)

mutual

/-- The value of an operand. Unless `live` holds, it does not count. -/
def primary (lookUp : Octets → Octets) (live : Bool) : Nat → Evaluation Int
  | 0 => throw .noPrimary
  | steps + 1 => do
    match ← next with
    | some .opening =>
      let value ← assignment lookUp live steps
      if (← next) = some .closing then pure value else throw .noClosing
    | some (.number n) => pure n
    | some (.name name) => if live then valueOfName lookUp name else pure 0
    | some (.operator .plus) => primary lookUp live steps
    | some (.operator .minus) => do pure (wrap (-(← primary lookUp live steps)))
    | some .not => do pure (truth ((← primary lookUp live steps) = 0))
    | some .complement => do pure (-(← primary lookUp live steps) - 1)
    | _ => throw .noPrimary

/-- Goes on after a value with operators that bind at least as tightly as `most` says. -/
def operators (lookUp : Octets → Octets) (live : Bool) (most : Nat) (value : Int) :
    Nat → Evaluation Int
  | 0 => pure value
  | steps + 1 => do
    match ← peek with
    | some (.operator operator) =>
      if operator.looseness > most then pure value
      else
        let _ ← next
        let first ← primary lookUp live steps
        let second ←
          if operator.looseness = 0 then pure first
          else operators lookUp live (operator.looseness - 1) first steps
        let value ← if live then calculate operator value second else pure second
        operators lookUp live most value steps
    | _ => pure value

/-- The value of an expression without conditions. -/
def binary (lookUp : Octets → Octets) (live : Bool) : Nat → Evaluation Int
  | 0 => throw .noPrimary
  | steps + 1 => do
    let first ← primary lookUp live steps
    operators lookUp live 7 first steps

/-- The value of a row of expressions all of which must hold. -/
def conjunction (lookUp : Octets → Octets) (live : Bool) : Nat → Evaluation Int
  | 0 => throw .noPrimary
  | steps + 1 => do
    let first ← binary lookUp live steps
    if (← peek) = some .and then
      let _ ← next
      let second ← conjunction lookUp (live && first ≠ 0) steps
      pure (truth (first ≠ 0 && second ≠ 0))
    else pure first

/-- The value of a row of expressions one of which must hold. -/
def disjunction (lookUp : Octets → Octets) (live : Bool) : Nat → Evaluation Int
  | 0 => throw .noPrimary
  | steps + 1 => do
    let first ← conjunction lookUp live steps
    if (← peek) = some .or then
      let _ ← next
      let second ← disjunction lookUp (live && first = 0) steps
      pure (truth (first ≠ 0 || second ≠ 0))
    else pure first

/-- The value of an expression that may depend on a condition. -/
def choice (lookUp : Octets → Octets) (live : Bool) : Nat → Evaluation Int
  | 0 => throw .noPrimary
  | steps + 1 => do
    let first ← disjunction lookUp live steps
    if (← peek) = some .question then
      let _ ← next
      let yes ← assignment lookUp (live && first ≠ 0) steps
      if (← next) ≠ some .colon then throw .noColon
      let no ← choice lookUp (live && first = 0) steps
      pure (if first ≠ 0 then yes else no)
    else pure first

/-- The value of an expression that may give a variable a value. -/
def assignment (lookUp : Octets → Octets) (live : Bool) : Nat → Evaluation Int
  | 0 => throw .noPrimary
  | steps + 1 => do
    match (← get).tokens with
    | .name name :: .assign operator :: rest =>
      modify ({ · with tokens := rest })
      let value ← assignment lookUp live steps
      if !live then pure value
      else
        let value ← match operator with
          | none => pure value
          | some operator => calculate operator (← valueOfName lookUp name) value
        modify fun s => { s with changes := (name, value) :: s.changes }
        pure value
    | _ => choice lookUp live steps

end

/-- The value of an expression, and the variables that it changes, in order. -/
def evaluate (lookUp : Octets → Octets) (text : Octets) :
    Except Fault (Int × List (Octets × Int)) :=
  let tokens := tokensOf text
  match (assignment lookUp true (16 * (tokens.length + 2))).run { tokens } with
  | .error fault => .error fault
  | .ok (value, s) =>
    if s.tokens.isEmpty then .ok (value, s.changes.reverse) else .error .noEnd

/-- A sentence about what is wrong with an expression. -/
def Fault.message (text : Octets) (f : Fault) : Octets :=
  let about (what : Octets) : Octets :=
    "arithmetic expression: " ++ what ++ ": \"" ++ text ++ "\""
  match f with
  | .noPrimary => about "expecting primary"
  | .noClosing => about "expecting ')'"
  | .noColon => about "expecting ':'"
  | .noEnd => about "expecting EOF"
  | .divisionByZero => about "division by zero"
  | .notNumber value => "Illegal number: " ++ value

end LineShell.Script.Arithmetic
