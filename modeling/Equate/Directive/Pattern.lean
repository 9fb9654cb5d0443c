import Equate.Number.Written
import Equate.Text.DecimalDigit
import Equate.Text.Folding
import Equate.Text.WordCharacter

/-!
# The patterns of directive lines

    guess <number> for <name>
    keep <name> on [<number>, <number>]

Words and names are compared without case, blanks may stand around the line and inside
the brackets, and the digits may be those of any script. What opens with one of the two
words is a directive, well-formed or not, and its target is looked for on its own.
-/
namespace Equate.Directive

/-- The two kinds of directives. -/
inductive Kind where
  | guess
  | keep
  deriving DecidableEq, Repr

/-- The kind of the directive that a line opens with. A word that equals `guess` only
after folding letters beyond ASCII counts as the other kind. -/
def kind? (line : Text) : Option Kind :=
  let t := Text.trimStart line
  match Text.dropWord? "guess" t with
  | some rest =>
    if Text.startsInWord rest then none
    else if (t.take 5).map Char.toLower = ("guess" : Text) then some .guess
    else some .keep
  | none =>
    match Text.dropWord? "keep" t with
    | some rest => if Text.startsInWord rest then none else some .keep
    | none => none

/-- A character that a name in a pattern can start with. -/
def isNameStart (c : Char) : Bool := Text.isFoldedLetter c || c == '_'

/-- A character that a name in a pattern can go on with. -/
def isNameContinue (c : Char) : Bool := isNameStart c || c.isDigit

/-- The name at the front of a text and the rest. -/
def splitName? : Text → Option (Text × Text)
  | [] => none
  | c :: rest =>
    if isNameStart c then some (c :: rest.takeWhile isNameContinue, rest.dropWhile isNameContinue)
    else none

/-- The number at the front of a text and the rest. -/
def splitNumber? (t : Text) : Option (Text × Text) := Number.splitNumber? Text.isDecimalDigit t

/-- The rest behind one character. -/
def dropChar? (c : Char) : Text → Option Text
  | [] => none
  | d :: rest => if d = c then some rest else none

/-- The number and the name of a guess. -/
def guessParts? (line : Text) : Option (Text × Text) := do
  let t ← Text.dropWord? "guess" (Text.trimStart line)
  let t ← Text.dropBlanks? t
  let (number, t) ← splitNumber? t
  let t ← Text.dropBlanks? t
  let t ← Text.dropWord? "for" t
  let t ← Text.dropBlanks? t
  let (name, t) ← splitName? t
  if Text.isBlankText t then some (number, name) else none

/-- The name and the two ends of a bound. -/
def keepParts? (line : Text) : Option (Text × Text × Text) := do
  let t ← Text.dropWord? "keep" (Text.trimStart line)
  let t ← Text.dropBlanks? t
  let (name, t) ← splitName? t
  let t ← Text.dropBlanks? t
  let t ← Text.dropWord? "on" t
  let t ← Text.dropBlanks? t
  let t ← dropChar? '[' t
  let (low, t) ← splitNumber? (Text.trimStart t)
  let t ← dropChar? ',' (Text.trimStart t)
  let (high, t) ← splitNumber? (Text.trimStart t)
  let t ← dropChar? ']' (Text.trimStart t)
  if Text.isBlankText t then some (name, low, high) else none

/-- The name behind the word `for`, blanks between them. -/
def nameAfterFor? (t : Text) : Option Text := do
  let t ← Text.dropWord? "for" t
  let t ← Text.dropBlanks? t
  let (name, _) ← splitName? t
  return name

/-- The name behind the last `for` of a line that starts a word; `inWord` says whether
the character in front belongs to a word. -/
def lastTarget? (inWord : Bool) : Text → Option Text
  | [] => none
  | c :: rest =>
    let here := if inWord then none else nameAfterFor? (c :: rest)
    if c = '\n' then here
    else
      match lastTarget? (Text.isWordCharacter c) rest with
      | some name => some name
      | none => here

/-- The name that a directive is about, as far as the line names one. -/
def target? (line : Text) : Option Text := do
  match ← kind? line with
  | .guess => do
    let t ← Text.dropWord? "guess" (Text.trimStart line)
    lastTarget? true t
  | .keep => do
    let t ← Text.dropWord? "keep" (Text.trimStart line)
    let t ← Text.dropBlanks? t
    let (name, _) ← splitName? t
    return name

end Equate.Directive
