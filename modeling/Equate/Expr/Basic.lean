import Equate.Number.Plain

/-!
# Arithmetic expressions

The expressions behind a parameter: numbers, names, the four operations and the
opposite. Evaluation looks every name up, refuses to divide by a zero of either sign,
and refuses at every node a value that is not finite, so a value is always the outcome
of finite steps.
-/
namespace Equate

/-- The reasons why an expression has no value. Columns count bytes from one. -/
inductive EvalError where
  | unexpectedChar (c : Char) (column : Nat)
  | invalidNumber (literal : Text)
  | unexpectedToken (found : Text) (column : Nat)
  | unexpectedEnd
  | empty
  | unknownSymbol (name : Text)
  | divisionByZero
  | nonFinite
  deriving DecidableEq, Repr

namespace EvalError

/-- The reason in words. -/
def message : EvalError → Text
  | unexpectedChar c column =>
    "unexpected character '" ++ [c] ++ "' at column " ++ Text.decimal column
  | invalidNumber literal => "invalid number '" ++ literal ++ "'"
  | unexpectedToken found column =>
    "unexpected '" ++ found ++ "' at column " ++ Text.decimal column
  | unexpectedEnd => "expression ended unexpectedly"
  | empty => "empty expression"
  | unknownSymbol name => "unknown symbol '" ++ name ++ "'"
  | divisionByZero => "division by zero"
  | nonFinite => "result is not a finite number"

/-- The kind of the reason. -/
def kind : EvalError → Text
  | unexpectedChar .. => "UnexpectedChar"
  | invalidNumber .. => "InvalidNumber"
  | unexpectedToken .. => "UnexpectedToken"
  | unexpectedEnd => "UnexpectedEnd"
  | empty => "Empty"
  | unknownSymbol .. => "UnknownSymbol"
  | divisionByZero => "DivisionByZero"
  | nonFinite => "NonFinite"

end EvalError

/-- An expression. -/
inductive Expr where
  | num (value : Float)
  | var (name : Text)
  | neg (operand : Expr)
  | add (left right : Expr)
  | sub (left right : Expr)
  | mul (left right : Expr)
  | div (left right : Expr)
  deriving DecidableEq, Repr

namespace Expr

/-- A finite value, or the refusal of another one. -/
def finite (x : Float) : Except EvalError Float :=
  if x.isFinite then .ok x else .error .nonFinite

/-- The value in a scope; the operands of an operation are evaluated from the left. -/
def eval (scope : Text → Option Float) : Expr → Except EvalError Float
  | num value => finite value
  | var name =>
    match scope name with
    | none => .error (.unknownSymbol name)
    | some value => finite value
  | neg operand => do finite (-(← eval scope operand))
  | add left right => do
    let x ← eval scope left
    let y ← eval scope right
    finite (x + y)
  | sub left right => do
    let x ← eval scope left
    let y ← eval scope right
    finite (x - y)
  | mul left right => do
    let x ← eval scope left
    let y ← eval scope right
    finite (x * y)
  | div left right => do
    let x ← eval scope left
    let y ← eval scope right
    if y == 0 then .error .divisionByZero else finite (x / y)

/-- The expression with every operation in front of its operands, in parentheses. -/
def prefixForm : Expr → Text
  | num value => Number.plain value
  | var name => name
  | neg operand => "(neg " ++ prefixForm operand ++ ")"
  | add left right => "(+ " ++ prefixForm left ++ " " ++ prefixForm right ++ ")"
  | sub left right => "(- " ++ prefixForm left ++ " " ++ prefixForm right ++ ")"
  | mul left right => "(* " ++ prefixForm left ++ " " ++ prefixForm right ++ ")"
  | div left right => "(/ " ++ prefixForm left ++ " " ++ prefixForm right ++ ")"

end Expr
end Equate
