import Equate.Expr.Token

/-!
# From tokens to expressions

    expr    := term (('+' | '-') term)*
    term    := unary (('*' | '/') unary)*
    unary   := ('+' | '-') unary | primary
    primary := number | name | '(' expr ')'

Operations of one rank group to the left, a plus sign in front of an operand and
parentheses leave no trace. Each reader hands on the tokens that are left together with
the proof that they are fewer.
-/
namespace Equate.Expr

/-- A token with its byte offset. -/
abbrev Placed := Nat × Token

/-- What a reader of at least one token gives. -/
abbrev Parsed (ts : List Placed) :=
  Except EvalError (Expr × { rest : List Placed // rest.length < ts.length })

/-- What a reader of any number of tokens gives. -/
abbrev Continued (ts : List Placed) :=
  Except EvalError (Expr × { rest : List Placed // rest.length ≤ ts.length })

/-- The complaint about a token that does not fit. -/
def unexpected (t : Placed) : EvalError := .unexpectedToken t.2.describe (t.1 + 1)

mutual

/-- A sum of terms. -/
def expr (ts : List Placed) : Parsed ts :=
  match term ts with
  | .error e => .error e
  | .ok (left, ⟨rest, h⟩) =>
    match sums left rest with
    | .error e => .error e
    | .ok (whole, ⟨after, h'⟩) => .ok (whole, ⟨after, by omega⟩)
termination_by (ts.length, 3)

/-- The terms added to, or taken from, what is there. -/
def sums (left : Expr) : (ts : List Placed) → Continued ts
  | (_, .plus) :: rest =>
    match term rest with
    | .error e => .error e
    | .ok (right, ⟨after, h⟩) =>
      match sums (.add left right) after with
      | .error e => .error e
      | .ok (whole, ⟨last, h'⟩) => .ok (whole, ⟨last, by simp only [List.length_cons]; omega⟩)
  | (_, .minus) :: rest =>
    match term rest with
    | .error e => .error e
    | .ok (right, ⟨after, h⟩) =>
      match sums (.sub left right) after with
      | .error e => .error e
      | .ok (whole, ⟨last, h'⟩) => .ok (whole, ⟨last, by simp only [List.length_cons]; omega⟩)
  | ts => .ok (left, ⟨ts, Nat.le_refl _⟩)
termination_by ts => (ts.length, 0)
decreasing_by all_goals simp only [List.length_cons]; apply Prod.Lex.left; omega

/-- A product of operands. -/
def term (ts : List Placed) : Parsed ts :=
  match unary ts with
  | .error e => .error e
  | .ok (left, ⟨rest, h⟩) =>
    match products left rest with
    | .error e => .error e
    | .ok (whole, ⟨after, h'⟩) => .ok (whole, ⟨after, by omega⟩)
termination_by (ts.length, 2)

/-- The operands that what is there is multiplied or divided by. -/
def products (left : Expr) : (ts : List Placed) → Continued ts
  | (_, .times) :: rest =>
    match unary rest with
    | .error e => .error e
    | .ok (right, ⟨after, h⟩) =>
      match products (.mul left right) after with
      | .error e => .error e
      | .ok (whole, ⟨last, h'⟩) => .ok (whole, ⟨last, by simp only [List.length_cons]; omega⟩)
  | (_, .over) :: rest =>
    match unary rest with
    | .error e => .error e
    | .ok (right, ⟨after, h⟩) =>
      match products (.div left right) after with
      | .error e => .error e
      | .ok (whole, ⟨last, h'⟩) => .ok (whole, ⟨last, by simp only [List.length_cons]; omega⟩)
  | ts => .ok (left, ⟨ts, Nat.le_refl _⟩)
termination_by ts => (ts.length, 0)
decreasing_by all_goals simp only [List.length_cons]; apply Prod.Lex.left; omega

/-- An operand with the signs in front of it. -/
def unary : (ts : List Placed) → Parsed ts
  | (_, .minus) :: rest =>
    match unary rest with
    | .error e => .error e
    | .ok (operand, ⟨after, h⟩) => .ok (.neg operand, ⟨after, by simp only [List.length_cons]; omega⟩)
  | (_, .plus) :: rest =>
    match unary rest with
    | .error e => .error e
    | .ok (operand, ⟨after, h⟩) => .ok (operand, ⟨after, by simp only [List.length_cons]; omega⟩)
  | ts => primary ts
termination_by ts => (ts.length, 1)

/-- A number, a name, or an expression in parentheses. -/
def primary : (ts : List Placed) → Parsed ts
  | (_, .num value) :: rest => .ok (.num value, ⟨rest, by simp⟩)
  | (_, .name word) :: rest => .ok (.var word, ⟨rest, by simp⟩)
  | (_, .openParen) :: rest =>
    match expr rest with
    | .error e => .error e
    | .ok (_, ⟨[], _⟩) => .error .unexpectedEnd
    | .ok (inner, ⟨(column, token) :: after, h⟩) =>
      match token with
      | .closeParen => .ok (inner, ⟨after, by simp only [List.length_cons] at h ⊢; omega⟩)
      | other => .error (unexpected (column, other))
  | t :: _ => .error (unexpected t)
  | [] => .error .unexpectedEnd
termination_by ts => (ts.length, 0)

end

/-- The expression that a text denotes, all of it. -/
def parse (t : Text) : Except EvalError Expr := do
  match ← tokens 0 t with
  | [] => .error .empty
  | ts =>
    match ← expr ts with
    | (whole, ⟨[], _⟩) => .ok whole
    | (_, ⟨t :: _, _⟩) => .error (unexpected t)

/-- The value that a text denotes in a scope. -/
def evaluate (scope : Text → Option Float) (t : Text) : Except EvalError Float := do
  (← parse t).eval scope

end Equate.Expr
