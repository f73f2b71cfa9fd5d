import LineShell.Regex.Pattern
import LineShell.Tool.Basic

/-!
# expr

Computes the value of an expression whose parts are arguments.

## Main definitions

* `Tool.Expr.Value` — the values.
* `Tool.Expr.apply` — the value of an operator.
* `Tool.Expr.evaluate` — the value of an expression.
* `Tool.expr` — the tool.
-/

namespace LineShell.Tool

namespace Expr

/-! ### Values -/

/-- A value. -/
inductive Value where
  | number (n : Int)
  | string (text : Octets)
deriving DecidableEq, Repr

namespace Value

/-- The value as a string. -/
def text : Value → Octets
  | .number n => Octets.ofInt n
  | .string text => text

/-- The value as a number, if it is one. -/
def int? : Value → Option Int
  | .number n => some n
  | .string ('-' :: digits) => (Octets.toNat? digits).map fun n => -(n : Int)
  | .string digits => (Octets.toNat? digits).map fun n => (n : Int)

/-- Whether the value counts as false: nothing, or a zero. -/
def isNull (v : Value) : Bool := v.text.isEmpty || v.int? = some 0

end Value

/-- The value of a condition. -/
def truth (b : Bool) : Value := .number (if b then 1 else 0)

/-! ### Operators -/

/-- How tightly an operator binds, from 0 for the loosest ones on. -/
def bindingOf? (operator : Octets) : Option Nat :=
  match String.ofList operator with
  | "|" => some 0
  | "&" => some 1
  | "<" | "<=" | "=" | "==" | "!=" | ">=" | ">" => some 2
  | "+" | "-" => some 3
  | "*" | "/" | "%" => some 4
  | ":" => some 5
  | _ => none

/-- The result of matching a string from its start on: the string of the first group, or
else the length of the match. -/
def matching (text pattern : Octets) : Except Octets Value :=
  match Regex.read { loose := true, crosses := true } pattern with
  | .error fault => .error fault.text
  | .ok r =>
    let found := r.matchAt? (fun _ => true) { rest := text }
    if r.groupCount > 0 then
      .ok (.string ((found.bind (·.group? 1)).getD []))
    else .ok (.number ((found.map (·.position)).getD 0 : Nat))

/-- The order of two values: of numbers if both are ones, else of strings. -/
def order (a b : Value) : Ordering :=
  match a.int?, b.int? with
  | some m, some n => compare m n
  | _, _ => if a.text = b.text then .eq else if a.text < b.text then .lt else .gt

/-- The value of an operator for numbers. -/
def calculate (operator : Octets) (m n : Int) : Except Octets Value :=
  match String.ofList operator with
  | "+" => .ok (.number (m + n))
  | "-" => .ok (.number (m - n))
  | "*" => .ok (.number (m * n))
  | "/" => if n = 0 then .error "division by zero" else .ok (.number (m.tdiv n))
  | _ => if n = 0 then .error "division by zero" else .ok (.number (m.tmod n))

/-- The value of an operator. -/
def apply (operator : Octets) (a b : Value) : Except Octets Value :=
  match String.ofList operator with
  | "|" => .ok (if !a.isNull then a else if !b.isNull then b else .number 0)
  | "&" => .ok (if a.isNull || b.isNull then .number 0 else a)
  | "<" => .ok (truth (order a b = .lt))
  | "<=" => .ok (truth (order a b ≠ .gt))
  | "=" | "==" => .ok (truth (order a b = .eq))
  | "!=" => .ok (truth (order a b ≠ .eq))
  | ">=" => .ok (truth (order a b ≠ .lt))
  | ">" => .ok (truth (order a b = .gt))
  | ":" => matching a.text b.text
  | _ =>
    match a.int?, b.int? with
    | some m, some n => calculate operator m n
    | _, _ => .error "non-integer argument"

/-- Whether the second operand of an operator counts when the first one is known. -/
def needsSecond (operator : Octets) (a : Value) : Bool :=
  if operator = ['|'] then a.isNull else if operator = ['&'] then !a.isNull else true

/-- A part of a string: from a place, counted from 1, over a length. -/
def part (text : Octets) (place length : Option Int) : Octets :=
  match place, length with
  | some place, some length =>
    if place ≤ 0 || length ≤ 0 then [] else (text.drop (place.toNat - 1)).take length.toNat
  | _, _ => []

/-- The first place, counted from 1, of one of some bytes in a string; 0 if there is none. -/
def placeOf (text bytes : Octets) : Nat :=
  let before := text.takeWhile (!bytes.contains ·)
  if before.length = text.length then 0 else before.length + 1

/-! ### Expressions -/

/-- What went wrong with the form of an expression. -/
def formFault (text : Octets) : Octets := "syntax error: " ++ text

/-- What is missing at the end of the arguments. -/
def missing (all : List Octets) : Octets :=
  formFault ("missing argument after " ++ Octets.quoted (all.getLast?.getD []))

mutual

/-- The value of an operand, and the arguments after it. Unless `live` holds the value does not
count. Expressions are entered at most `depth` deep. -/
def operand (all : List Octets) (live : Bool) :
    Nat → List Octets → Except Octets (Value × List Octets)
  | 0, _ | _ + 1, [] => .error (missing all)
  | depth + 1, argument :: rest =>
    match String.ofList argument with
    | "(" => do
      let (value, rest) ← level all live depth 0 rest
      match rest with
      | [] => .error (formFault ("expecting ')' after " ++ Octets.quoted (all.getLast?.getD [])))
      | next :: rest =>
        if next = [')'] then .ok (value, rest)
        else .error (formFault ("expecting ')' instead of " ++ Octets.quoted next))
    | ")" => .error (formFault "unexpected ')'")
    | "+" =>
      match rest with
      | [] => .error (missing all)
      | text :: rest => .ok (.string text, rest)
    | "length" => do
      let (value, rest) ← operand all live depth rest
      .ok (.number (value.text.length : Nat), rest)
    | "match" => do
      let (value, rest) ← operand all live depth rest
      let (pattern, rest) ← operand all live depth rest
      if live then .ok (← matching value.text pattern.text, rest) else .ok (value, rest)
    | "index" => do
      let (value, rest) ← operand all live depth rest
      let (bytes, rest) ← operand all live depth rest
      .ok (.number (placeOf value.text bytes.text : Nat), rest)
    | "substr" => do
      let (value, rest) ← operand all live depth rest
      let (place, rest) ← operand all live depth rest
      let (length, rest) ← operand all live depth rest
      .ok (.string (part value.text place.int? length.int?), rest)
    | _ => .ok (.string argument, rest)

/-- The value of an expression whose operators bind at least so tightly, and the arguments
after it. -/
def level (all : List Octets) (live : Bool) :
    Nat → Nat → List Octets → Except Octets (Value × List Octets)
  | 0, _, _ => .error (missing all)
  | depth + 1, binding, arguments => do
    let (value, rest) ←
      if binding < 5 then level all live depth (binding + 1) arguments
      else operand all live depth arguments
    operators all live depth binding value rest

/-- Goes on with operators of one binding after a value. -/
def operators (all : List Octets) (live : Bool) :
    Nat → Nat → Value → List Octets → Except Octets (Value × List Octets)
  | 0, _, value, rest => .ok (value, rest)
  | _ + 1, _, value, [] => .ok (value, [])
  | depth + 1, binding, value, operator :: rest =>
    if bindingOf? operator ≠ some binding then .ok (value, operator :: rest)
    else do
      let counts := live && needsSecond operator value
      let (second, rest) ←
        if binding < 5 then level all counts depth (binding + 1) rest
        else operand all counts depth rest
      let value ←
        if !live then .ok value
        else if !counts then apply operator value (.number 0)
        else apply operator value second
      operators all live depth binding value rest

end

/-- The value of an expression. -/
def evaluate (arguments : List Octets) : Except Octets Value := do
  let (value, rest) ← level arguments true (16 * (arguments.length + 2)) 0 arguments
  match rest with
  | [] => .ok value
  | next :: _ => .error (formFault ("unexpected argument " ++ Octets.quoted next))

end Expr

/-- Computes the value of an expression. -/
def expr (i : Invocation) : Program Nat := do
  let arguments := if i.operands.head? = some ['-', '-'] then i.operands.tail else i.operands
  if arguments.isEmpty then misuse i "missing operand" 2
  else if i.operands = [Octets.ofText "--help"] || i.operands = [Octets.ofText "--version"] then
    pure 0
  else match Expr.evaluate arguments with
    | .error text => fail i text 2
    | .ok value =>
      print i (value.text ++ "\n") 3
      pure (if value.isNull then 1 else 0)

end LineShell.Tool
