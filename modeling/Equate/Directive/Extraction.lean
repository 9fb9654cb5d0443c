import Equate.Bound
import Equate.Directive.Pattern
import Equate.Fault
import Equate.Name.Basic
import Equate.Number.Plain
import Equate.Text.Basic

/-!
# Guesses and bounds of a text

Every line that opens with a directive must be well-formed. All guesses are read before
the bounds, so a fault in a guess is reported first wherever it stands. Of several
directives of one kind for one name the last counts.
-/
namespace Equate.Directive

/-- What can be wrong with a directive. -/
inductive Cause where
  | guessForm
  | keepForm
  | number (literal : Text)
  | inverted (low high : Float)
  deriving DecidableEq, Repr

/-- The cause in words. -/
def Cause.reason : Cause → Text
  | guessForm => "expected 'guess <number> for <variable>'"
  | keepForm => "expected 'keep <variable> on [<low>, <high>]'"
  | number literal => "invalid number '" ++ literal ++ "'"
  | inverted low high =>
    "lower bound " ++ Number.plain low ++ " exceeds upper bound " ++ Number.plain high

/-- The fault of a line. -/
def Cause.fault (cause : Cause) (n : Nat) (line : Text) : Fault :=
  .directive n (Text.trim line) cause.reason

/-- An initial value for a variable. -/
structure Guess where
  line : Nat
  name : Text
  value : Float
  deriving DecidableEq, Repr

/-- An interval for a variable. -/
structure Keep where
  line : Nat
  name : Text
  bound : Bound
  deriving DecidableEq, Repr

/-- The number of a literal in a line. -/
def readNumber (n : Nat) (line literal : Text) : Except Fault Float :=
  match Number.readSigned? literal with
  | none => .error (Cause.fault (.number literal) n line)
  | some value => .ok value

/-- The guess of a line. -/
def readGuess (n : Nat) (line : Text) : Except Fault Guess :=
  match guessParts? line with
  | none => .error (Cause.fault .guessForm n line)
  | some (number, name) => do return ⟨n, name, ← readNumber n line number⟩

/-- The bound of a line. -/
def readKeep (n : Nat) (line : Text) : Except Fault Keep :=
  match keepParts? line with
  | none => .error (Cause.fault .keepForm n line)
  | some (name, low, high) => do
    let low ← readNumber n line low
    let high ← readNumber n line high
    match Bound.ofEnds? low high with
    | none => .error (Cause.fault (.inverted low high) n line)
    | some bound => .ok ⟨n, name, bound⟩

/-- The numbered lines that open with a directive of a kind. -/
def linesOfKind (kind : Kind) (t : Text) : List (Text × Nat) :=
  (Text.numberedLines t).filter fun (line, _) => kind? line == some kind

/-- The guesses of a text. -/
def guesses (t : Text) : Except Fault (List Guess) :=
  (linesOfKind .guess t).mapM fun (line, n) => readGuess n line

/-- The bounds of a text. -/
def keeps (t : Text) : Except Fault (List Keep) :=
  (linesOfKind .keep t).mapM fun (line, n) => readKeep n line

/-- What the directives of a text say, and the text without them. -/
structure Extracted where
  remaining : Text
  guesses : NameMap Float
  bounds : NameMap Bound

/-- The directives taken out of a text. -/
def extract (t : Text) : Except Fault Extracted := do
  let gs ← guesses t
  let ks ← keeps t
  return {
    remaining := Text.blank (gs.map Guess.line ++ ks.map Keep.line) t
    guesses := .ofEntries (gs.map fun g => (g.name, g.value))
    bounds := .ofEntries (ks.map fun k => (k.name, k.bound)) }

end Equate.Directive
