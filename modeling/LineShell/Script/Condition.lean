import LineShell.Script.Arithmetic
import LineShell.Script.State

/-!
# Conditions

A condition asks about strings, numbers and files, and may combine other conditions.  It is
given as a row of arguments, and what an argument means depends on its neighbours.

## Main definitions

* `Condition.Operator` — operators with one or two operands, and connectives.
* `Condition.evaluate` — whether a condition holds.
-/

namespace LineShell.Script.Condition

open Shell

/-! ### Operators -/

/-- What is asked about one string or file. -/
inductive Unary where
  | isEmpty
  | isNotEmpty
  | isTerminal
  | isReadable
  | isWritable
  | isExecutable
  | exists
  | isRegular
  | isDirectory
  | isLink
  | hasContent
  | isPipe
  /-- Bits of its mode are asked for. -/
  | hasBits (bits : Nat)
  /-- It belongs to the user. -/
  | isOwned
  /-- It is a device that is read or written byte by byte. -/
  | isDevice
  /-- It is of another kind than the ones that there are here. -/
  | isOther
deriving DecidableEq, Repr

/-- What is asked about two strings, numbers or files. -/
inductive Binary where
  | same
  | different
  | before
  | after
  /-- Two numbers are compared. -/
  | number (test : Ordering → Bool)
  | newer
  | older
  | sameFile

/-- An operator. -/
inductive Operator where
  | unary (u : Unary)
  | binary (b : Binary)
  | not
  | and
  | or
  | opening
  | closing

/-- The operators. -/
def operators : List (String × Operator) :=
  [("-r", .unary .isReadable), ("-w", .unary .isWritable), ("-x", .unary .isExecutable),
    ("-e", .unary .exists), ("-f", .unary .isRegular), ("-d", .unary .isDirectory),
    ("-c", .unary .isDevice), ("-b", .unary .isOther), ("-p", .unary .isPipe),
    ("-u", .unary (.hasBits 0o4000)), ("-g", .unary (.hasBits 0o2000)),
    ("-k", .unary (.hasBits 0o1000)), ("-s", .unary .hasContent), ("-t", .unary .isTerminal),
    ("-z", .unary .isEmpty), ("-n", .unary .isNotEmpty), ("-h", .unary .isLink),
    ("-L", .unary .isLink), ("-O", .unary .isOwned), ("-G", .unary .isOwned),
    ("-S", .unary .isOther), ("=", .binary .same), ("!=", .binary .different),
    ("<", .binary .before), (">", .binary .after), ("-eq", .binary (.number (· = .eq))),
    ("-ne", .binary (.number (· ≠ .eq))), ("-ge", .binary (.number (· ≠ .lt))),
    ("-gt", .binary (.number (· = .gt))), ("-le", .binary (.number (· ≠ .gt))),
    ("-lt", .binary (.number (· = .lt))), ("-nt", .binary .newer), ("-ot", .binary .older),
    ("-ef", .binary .sameFile), ("!", .not), ("-a", .and), ("-o", .or), ("(", .opening),
    (")", .closing)]

/-- The operator that an argument is. -/
def operatorOf? (argument : Octets) : Option Operator :=
  (operators.find? (·.1.toList = argument)).map (·.2)

/-- Whether an argument is an operator with two operands. -/
def isBinary (argument : Octets) : Bool :=
  match operatorOf? argument with
  | some (.binary _) => true
  | _ => false

/-- The operator that the first of some arguments is. One with a single operand is none if it
stands at the end, or before one with two operands; an opening bracket is none at the end. -/
def leading? (arguments : List Octets) : Option Operator :=
  match arguments with
  | [] => none
  | argument :: rest =>
    match operatorOf? argument, rest with
    | some (.unary _), [] => none
    | some (.unary u), next :: _ :: _ => if isBinary next then none else some (.unary u)
    | some .opening, [] => none
    | operator, _ => operator

/-! ### Questions -/

/-- Asks about a file. -/
def askFile (path : Octets) (last : Bool) (test : FileStatus → Bool) : Shell Bool := do
  match ← call (.status path last) with
  | .ok status => pure (test status)
  | .error _ => pure false

/-- Asks whether something may be done with a file. -/
def askAccess (path : Octets) (permission : Permission) : Shell Bool := do
  match ← call (.mayAccess path permission) with
  | .ok () => pure true
  | .error _ => pure false

/-- The number that a string is. -/
def numberOf (text : Octets) : Shell Int := do
  let body := text.dropWhile Octets.isSpacing
  let isNegative := body.head? = some '-'
  let digits := (if isNegative || body.head? = some '+' then body.tail else body).takeWhile
    Char.isDigit
  let rest := (if isNegative || body.head? = some '+' then body.tail else body).drop digits.length
  let value : Int := if isNegative then -(Octets.digitsValue digits) else Octets.digitsValue digits
  if digits.isEmpty || !rest.all Octets.isSpacing || value > Arithmetic.largest ||
      value < -Arithmetic.largest - 1 then
    fail ("Illegal number: " ++ text)
  else pure value

/-- The answer to a question about one string or file. -/
def askUnary (u : Unary) (operand : Octets) : Shell Bool := do
  match u with
  | .isEmpty => pure operand.isEmpty
  | .isNotEmpty => pure !operand.isEmpty
  | .isTerminal =>
    let _ ← numberOf operand
    pure false
  | .isReadable => askAccess operand .read
  | .isWritable => askAccess operand .write
  | .isExecutable => askAccess operand .enter
  | .exists => askFile operand true fun _ => true
  | .isRegular => askFile operand true (·.kind == .regular)
  | .isDirectory => askFile operand true (·.kind == .directory)
  | .isLink => askFile operand false (·.kind == .link)
  | .hasContent => askFile operand true (·.size > 0)
  | .isPipe => askFile operand true (·.kind == .pipe)
  | .hasBits bits => askFile operand true fun status => status.mode &&& bits != 0
  | .isOwned => askFile operand true fun _ => true
  | .isDevice => askFile operand true (·.kind == .device)
  | .isOther => pure false

/-- The answer to a question about two strings, numbers or files. -/
def askBinary (b : Binary) (first second : Octets) : Shell Bool := do
  match b with
  | .same => pure (first = second)
  | .different => pure (first ≠ second)
  | .before => pure (first < second)
  | .after => pure (second < first)
  | .number test =>
    let m ← numberOf first
    let n ← numberOf second
    pure (test (compare m n))
  | .newer | .older => pure false
  | .sameFile =>
    match ← call (.status first true), ← call (.status second true) with
    | .ok s, .ok t => pure (s.node.isSome && s.node = t.node)
    | _, _ => pure false

/-! ### Conditions -/

/-- Fails because of an operator. -/
def misplaced {α : Type} (operator text : Octets) : Shell α :=
  fail (if operator.isEmpty then text else operator ++ ": " ++ text)

mutual

/-- The answer to a question at the beginning of some arguments, of which the first one is taken for
an operator or not. The result holds the last of its arguments and those after it. -/
def primary (operator : Option Operator) (arguments : List Octets) :
    Nat → Shell (Bool × List Octets)
  | 0 => pure (false, arguments)
  | steps + 1 => do
    match arguments, operator with
    | [], _ => pure (false, [])
    | _ :: rest, some .opening =>
      match leading? rest with
      | some .closing => pure (false, rest)
      | next =>
        let (answer, rest) ← disjunction next rest steps
        match leading? rest.tail with
        | some .closing => pure (answer, rest.tail)
        | _ => fail "closing paren expected"
    | argument :: rest, some (.unary u) =>
      match rest with
      | [] => misplaced argument "argument expected"
      | operand :: after => pure (← askUnary u operand, operand :: after)
    | argument :: rest, _ =>
      match leading? rest, rest with
      | some (.binary b), sign :: after =>
        match after with
        | [] => misplaced sign "argument expected"
        | operand :: others => pure (← askBinary b argument operand, operand :: others)
      | _, _ => pure (!argument.isEmpty, argument :: rest)

/-- The answer to a question that may be negated. -/
def negation (operator : Option Operator) (arguments : List Octets) :
    Nat → Shell (Bool × List Octets)
  | 0 => pure (false, arguments)
  | steps + 1 => do
    match operator with
    | some .not =>
      match arguments.tail with
      | [] => pure (true, arguments)
      | rest =>
        let (answer, rest) ← negation (leading? rest) rest steps
        pure (!answer, rest)
    | _ => primary operator arguments steps

/-- The answer to questions all of which must hold. -/
def conjunction (operator : Option Operator) (arguments : List Octets) :
    Nat → Shell (Bool × List Octets)
  | 0 => pure (false, arguments)
  | steps + 1 => do
    let (answer, rest) ← negation operator arguments steps
    match leading? rest.tail with
    | some .and =>
      let after := rest.tail.tail
      let (others, rest) ← conjunction (leading? after) after steps
      pure (answer && others, rest)
    | _ => pure (answer, rest)

/-- The answer to questions one of which must hold. -/
def disjunction (operator : Option Operator) (arguments : List Octets) :
    Nat → Shell (Bool × List Octets)
  | 0 => pure (false, arguments)
  | steps + 1 => do
    let (answer, rest) ← conjunction operator arguments steps
    match leading? rest.tail with
    | some .or =>
      let after := rest.tail.tail
      let (others, rest) ← disjunction (leading? after) after steps
      pure (answer || others, rest)
    | _ => pure (answer, rest)

end

/-- Whether the condition in some arguments holds. Three of them with an operator in the middle
are a question about two strings, whatever they are. -/
def evaluate (negated : Bool) : List Octets → Shell Bool
  | [] => pure false
  | arguments@(first :: rest) => do
    let steps := 16 * (arguments.length + 2)
    let run (operator : Option Operator) (arguments : List Octets) : Shell Bool := do
      let (answer, left) ← disjunction operator arguments steps
      match left with
      | argument :: _ :: _ => misplaced argument "unexpected operator"
      | _ => pure (answer != negated)
    let count := arguments.length
    if count = 3 && ((rest.head?).any isBinary) then run none arguments
    else if (count = 3 || count = 4) && first = ['('] && arguments.getLast? = some [')'] then
      let inside := rest.dropLast
      run (leading? inside) inside
    else if (count = 3 || count = 4) && first = ['!'] then
      (evaluate (!negated) rest)
    else run (leading? arguments) arguments

end LineShell.Script.Condition
