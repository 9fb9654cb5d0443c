import Equate.Expr.Basic
import Equate.Name.Basic
import Equate.Number.Written

/-!
# Tokens of expressions

An expression text is cut from the left: blanks are passed over, a name is as long as
possible, and a number takes all digits and points that follow each other together with
a complete exponent, whether or not that is a literal. Every token carries the byte
offset at which it starts.
-/
namespace Equate.Expr

/-- The smallest parts of an expression. -/
inductive Token where
  | num (value : Float)
  | name (word : Text)
  | plus | minus | times | over | openParen | closeParen
  deriving DecidableEq, Repr

/-- A token as it is named in messages. -/
def Token.describe : Token → Text
  | .num value => Number.plain value
  | .name word => word
  | .plus => "+"
  | .minus => "-"
  | .times => "*"
  | .over => "/"
  | .openParen => "("
  | .closeParen => ")"

/-- A blank between tokens. -/
def isGap (c : Char) : Bool := c == ' ' || c == '\t' || c == '\r'

/-- A character of the run that a number starts with. -/
def isNumeric (c : Char) : Bool := c.isDigit || c == '.'

/-- The token that one character is. -/
def sign? : Char → Option Token
  | '+' => some .plus
  | '-' => some .minus
  | '*' => some .times
  | '/' => some .over
  | '(' => some .openParen
  | ')' => some .closeParen
  | _ => none

/-- The number at the front of a text, as written, and the rest. -/
def splitLiteral (t : Text) : Text × Text :=
  let run := t.takeWhile isNumeric
  let (exponent, rest) := Number.splitExponent Char.isDigit (t.dropWhile isNumeric)
  (run ++ exponent, rest)

/-- The number is cut off, nothing else changes. -/
theorem splitLiteral_append (t : Text) : (splitLiteral t).1 ++ (splitLiteral t).2 = t := by
  simp only [splitLiteral, List.append_assoc, Number.splitExponent_append,
    List.takeWhile_append_dropWhile]

theorem splitLiteral_shorter {c : Char} {rest : Text} (h : isNumeric c) :
    (splitLiteral (c :: rest)).2.length < (c :: rest).length := by
  have hcut := congrArg List.length (splitLiteral_append (c :: rest))
  have hfirst : (splitLiteral (c :: rest)).1 ≠ [] := by
    simp [splitLiteral, h]
  have := List.length_pos_iff.mpr hfirst
  simp only [List.length_append] at hcut
  omega

/-- The tokens of a text that starts at a byte offset. -/
def tokens (offset : Nat) : Text → Except EvalError (List (Nat × Token))
  | [] => .ok []
  | c :: rest =>
    if isGap c then tokens (offset + c.utf8Size) rest
    else if _hn : isNumeric c then
      let literal := (splitLiteral (c :: rest)).1
      match Number.readLiteral? literal with
      | none => .error (.invalidNumber literal)
      | some value => do
        let more ← tokens (offset + Text.byteCount literal) (splitLiteral (c :: rest)).2
        .ok ((offset, .num value) :: more)
    else if Name.isStart c then
      let word := c :: rest.takeWhile Name.isContinue
      do
        let more ← tokens (offset + Text.byteCount word) (rest.dropWhile Name.isContinue)
        .ok ((offset, .name word) :: more)
    else
      match sign? c with
      | none => .error (.unexpectedChar c (offset + 1))
      | some token => do
        let more ← tokens (offset + c.utf8Size) rest
        .ok ((offset, token) :: more)
termination_by t => t.length
decreasing_by
  · exact Nat.lt_succ_self _
  · exact splitLiteral_shorter _hn
  · exact Nat.lt_succ_of_le (Text.length_dropWhile_le _ _)
  · exact Nat.lt_succ_self _

end Equate.Expr
