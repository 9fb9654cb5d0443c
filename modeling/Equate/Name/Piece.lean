import Equate.Name.Basic
import Equate.Text.Blank

/-!
# Names within a text

A text is cut into its names and the single characters between them. A name is as long
as possible, so the letters of `x2` and `2x` are found differently: the second is a name
written against a number. The letter of an exponent, as in `1e5` or `2.5e-3`, has the
shape of a name but is none. Put together again the pieces give the text back, and
replacing names leaves every other piece as it stands.
-/
namespace Equate.Name

/-- A part of a text. A name is glued when a digit or a point stands directly in front
of it. -/
inductive Piece where
  | name (word : Text) (glued : Bool)
  | exponent (word : Text)
  | other (c : Char)
  deriving DecidableEq, Repr

/-- The characters of a piece. -/
def Piece.text : Piece → Text
  | .name word _ => word
  | .exponent word => word
  | .other c => [c]

/-- A sign with a digit behind it. -/
def opensSignedDigit : Text → Bool
  | sign :: digit :: _ => (sign == '+' || sign == '-') && digit.isDigit
  | _ => false

/-- Behind a number: the mark of an exponent with digits behind it, or the mark alone
when a signed digit follows. -/
def isExponentTail (word after : Text) : Bool :=
  match word with
  | mark :: digits =>
    (mark == 'e' || mark == 'E') &&
      if digits.isEmpty then opensSignedDigit after else digits.all Char.isDigit
  | [] => false

/-- A character that a number can end with. -/
def endsNumber (c : Char) : Bool := c.isDigit || c == '.'

/-- The pieces of a text; `afterNumber` says whether the character in front of it ends
a number. -/
def pieces (afterNumber : Bool) : Text → List Piece
  | [] => []
  | c :: rest =>
    if isStart c then
      let word := c :: rest.takeWhile isContinue
      let after := rest.dropWhile isContinue
      (if afterNumber && isExponentTail word after then .exponent word
        else .name word afterNumber) :: pieces false after
    else .other c :: pieces (endsNumber c) rest
termination_by t => t.length
decreasing_by
  · exact Nat.lt_succ_of_le (Text.length_dropWhile_le _ _)
  · exact Nat.lt_succ_self _

/-- The pieces of a whole text. -/
def piecesOf (t : Text) : List Piece := pieces false t

/-- Put together again, the pieces of a text are the text. -/
theorem flatMap_text_pieces (afterNumber : Bool) (t : Text) :
    (pieces afterNumber t).flatMap Piece.text = t := by
  fun_induction pieces afterNumber t with
  | case1 => rfl
  | case2 b c rest _ word after ih =>
    rw [List.flatMap_cons, ih]
    have hw : (if b && isExponentTail word after then Piece.exponent word
        else Piece.name word b).text = word := by
      split <;> rfl
    rw [hw, List.cons_append, List.takeWhile_append_dropWhile]
  | case3 b c rest _ ih => rw [List.flatMap_cons, ih]; rfl

/-- The first thing that is not blank is an opening parenthesis. -/
def opensCall : List Piece → Bool
  | .other c :: rest => if Text.isBlank c then opensCall rest else c == '('
  | _ => false

/-- The names that stand for variables or parameters, in the order of the text. The
constants do not, and neither do the functions where they are called. -/
def named : List Piece → List Text
  | [] => []
  | .name word _ :: rest =>
    if constants.contains word || (functions.contains word && opensCall rest) then named rest
    else word :: named rest
  | _ :: rest => named rest

/-- The variables and parameters that a text names, as often as it names them. -/
def identifiers (t : Text) : List Text := named (piecesOf t)

/-- The first name written directly against a number. -/
def gluedName? (t : Text) : Option Text :=
  (piecesOf t).findSome? fun
    | .name word true => some word
    | _ => none

/-- The text with each name replaced for which there is a replacement. -/
def substitute (replacement : Text → Option Text) (t : Text) : Text :=
  (piecesOf t).flatMap fun
    | .name word _ => (replacement word).getD word
    | piece => piece.text

/-- Without replacements nothing changes. -/
theorem substitute_none (t : Text) : substitute (fun _ => none) t = t := by
  have h : (fun p : Piece => match p with
      | .name word _ => ((none : Option Text)).getD word
      | piece => piece.text) = Piece.text := by
    funext p
    cases p <;> rfl
  unfold substitute piecesOf
  rw [h]
  exact flatMap_text_pieces false t

end Equate.Name
