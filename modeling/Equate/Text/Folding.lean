import Equate.Text.Blank

/-!
# Letters without regard to case

Patterns compare letters after folding their case. Two characters beyond ASCII fold to
ASCII letters, the long s and the Kelvin sign, and a folded comparison accepts them too.
-/
namespace Equate.Text

/-- The small letter that a character stands for in a comparison without case. -/
def foldCase (c : Char) : Char :=
  if c = '\u017f' then 's' else if c = '\u212a' then 'k' else c.toLower

/-- A letter from a to z once its case is folded. -/
def isFoldedLetter (c : Char) : Bool :=
  let f := foldCase c
  'a' ≤ f && f ≤ 'z'

/-- The rest behind a word at the front, compared without case. -/
def dropWord? : (word : Text) → Text → Option Text
  | [], t => some t
  | _ :: _, [] => none
  | w :: word, c :: t => if foldCase c = w then dropWord? word t else none

/-- The rest behind the blanks at the front, of which there must be one. -/
def dropBlanks? : Text → Option Text
  | [] => none
  | c :: t => if isBlank c then some (trimStart t) else none

end Equate.Text
