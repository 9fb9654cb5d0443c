import Equate.Shell.Octets

/-!
# Patterns

A star stands for any text, a question mark for any character, and brackets for a choice
of characters. In front of the choice, an exclamation mark turns it round.
Quoted characters stand for themselves.
-/
namespace Equate.Shell

/-- A character of a word, and whether it was quoted. -/
structure Mark where
  char : Char
  quoted : Bool
  deriving DecidableEq, Repr

/-- A part of a pattern. -/
inductive Pattern.Item where
  | any
  | one
  | this (c : Char)
  | among (others : Bool) (choice : Char → Bool)

/-- A pattern is matched item by item. -/
abbrev Pattern := List Pattern.Item

namespace Pattern

/-- The text and all that is left of it when characters are taken from its front. -/
def suffixes : Octets → List Octets
  | [] => [[]]
  | c :: rest => (c :: rest) :: suffixes rest

/-- A pattern fits the whole of a text. -/
def fits : Pattern → Octets → Bool
  | [], t => t.isEmpty
  | .any :: rest, t => (suffixes t).any fun u => fits rest u
  | .one :: rest, _ :: t => fits rest t
  | .this d :: rest, c :: t => c == d && fits rest t
  | .among others choice :: rest, c :: t => choice c != others && fits rest t
  | _ :: _, [] => false

/-- The characters of a class. -/
def classOf (name : Octets) (c : Char) : Bool :=
  match String.ofList name with
  | "alpha" => c.isAlpha
  | "digit" => c.isDigit
  | "alnum" => c.isAlphanum
  | "upper" => c.isUpper
  | "lower" => c.isLower
  | "space" => isSpace c
  | "blank" => c == ' ' || c == '\t'
  | "punct" => '!' ≤ c && c ≤ '~' && !c.isAlphanum
  | "print" => ' ' ≤ c && c ≤ '~'
  | "graph" => '!' ≤ c && c ≤ '~'
  | "cntrl" => c < ' ' || c == '\x7f'
  | "xdigit" => c.isDigit || ('a' ≤ c && c ≤ 'f') || ('A' ≤ c && c ≤ 'F')
  | _ => false

/-- The name of a class and what stands behind it, at the text behind its opening. -/
def className? : List Mark → Option (Octets × List Mark)
  | ⟨':', _⟩ :: ⟨']', _⟩ :: rest => some ([], rest)
  | m :: rest => (className? rest).map fun (name, rest) => (m.char :: name, rest)
  | [] => none

/-- The choice in brackets, and how many characters it takes with the closing one. The
first character is part of the choice, whatever it is. -/
def choice? : Nat → Bool → List Mark → Option ((Char → Bool) × List Mark)
  | 0, _, _ => none
  | fuel + 1, first, marks =>
    match marks with
    | [] => none
    | ⟨'[', false⟩ :: ⟨':', _⟩ :: rest =>
      match className? rest with
      | some (name, rest) => do
        let (more, rest) ← choice? fuel false rest
        return (fun c => classOf name c || more c, rest)
      | none => do
        let (more, rest) ← choice? fuel false (⟨':', false⟩ :: rest)
        return (fun c => c == '[' || more c, rest)
    | m :: ⟨'-', false⟩ :: n :: rest =>
      if m.char = ']' ∧ !m.quoted ∧ !first then some (fun _ => false, ⟨'-', false⟩ :: n :: rest)
      else if n.char = ']' ∧ !n.quoted then do
        let (more, rest) ← choice? fuel false (⟨'-', false⟩ :: n :: rest)
        return (fun c => c == m.char || more c, rest)
      else do
        let (more, rest) ← choice? fuel false rest
        return (fun c => (m.char ≤ c && c ≤ n.char) || more c, rest)
    | m :: rest =>
      if m.char = ']' ∧ !m.quoted ∧ !first then some (fun _ => false, rest)
      else do
        let (more, rest) ← choice? fuel false rest
        return (fun c => c == m.char || more c, rest)

/-- The pattern that a word is. A backslash that is not quoted quotes what follows. -/
def ofMarks : Nat → List Mark → Pattern
  | 0, _ => []
  | _, [] => []
  | fuel + 1, m :: rest =>
    if m.quoted then .this m.char :: ofMarks fuel rest
    else
      match m.char, rest with
      | '*', rest => .any :: ofMarks fuel rest
      | '?', rest => .one :: ofMarks fuel rest
      | '\\', n :: rest => .this n.char :: ofMarks fuel rest
      | '[', rest =>
        let (others, inner) := match rest with
          | ⟨'!', false⟩ :: inner => (true, inner)
          | inner => (false, inner)
        match choice? (inner.length + 1) true inner with
        | some (choice, behind) => .among others choice :: ofMarks fuel behind
        | none => .this '[' :: ofMarks fuel rest
      | c, rest => .this c :: ofMarks fuel rest

/-- The pattern that a word is. -/
def of (marks : List Mark) : Pattern := ofMarks (marks.length + 1) marks

/-- The word holds a character with a meaning in patterns. -/
def isPattern (marks : List Mark) : Bool :=
  marks.any fun m => !m.quoted && (m.char == '*' || m.char == '?' || m.char == '[')

/-- The text in front of each of its suffixes, with the suffix. -/
def cuts : Octets → List (Octets × Octets)
  | [] => [([], [])]
  | c :: rest => ([], c :: rest) :: (cuts rest).map fun (a, b) => (c :: a, b)

/-- A text without the start that fits a pattern, the shortest or the longest one. -/
def cutStart (p : Pattern) (longest : Bool) (t : Octets) : Octets :=
  let all := if longest then (cuts t).reverse else cuts t
  match all.find? fun (a, _) => fits p a with
  | some (_, b) => b
  | none => t

/-- A text without the end that fits a pattern, the shortest or the longest one. -/
def cutEnd (p : Pattern) (longest : Bool) (t : Octets) : Octets :=
  let all := if longest then cuts t else (cuts t).reverse
  match all.find? fun (_, b) => fits p b with
  | some (a, _) => a
  | none => t

end Pattern
end Equate.Shell
