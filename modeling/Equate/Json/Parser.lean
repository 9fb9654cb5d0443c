import Equate.Json.Numeral
import Equate.Json.Quoted

/-!
# Reading documents

A text is cut into tokens first, and the tokens are read by recursion on the value
they form. Each step hands on what is left together with the proof that it is shorter,
so no bound on the depth is needed. Nothing but blanks may stand between tokens, and
nothing but blanks behind the document.
-/
namespace Equate.Json

/-- The smallest parts of a document. -/
inductive Token where
  | openBracket | closeBracket | openBrace | closeBrace | comma | colon
  | null
  | bool (value : Bool)
  | number (numeral : Numeral)
  | string (quoted : Text)
  deriving DecidableEq, Repr

/-- The blanks allowed between tokens. -/
def isSpace (c : Char) : Bool := c == ' ' || c == '\t' || c == '\n' || c == '\r'

/-- The token at the front of a text that does not start with a blank. -/
def token? : Text → Option (Token × Text)
  | '[' :: rest => some (.openBracket, rest)
  | ']' :: rest => some (.closeBracket, rest)
  | '\x7b' :: rest => some (.openBrace, rest)
  | '\x7d' :: rest => some (.closeBrace, rest)
  | ',' :: rest => some (.comma, rest)
  | ':' :: rest => some (.colon, rest)
  | 'n' :: 'u' :: 'l' :: 'l' :: rest => some (.null, rest)
  | 't' :: 'r' :: 'u' :: 'e' :: rest => some (.bool true, rest)
  | 'f' :: 'a' :: 'l' :: 's' :: 'e' :: rest => some (.bool false, rest)
  | '"' :: rest => (readQuoted? rest).map fun (quoted, rest) => (.string quoted, rest)
  | t => (Numeral.read? t).map fun (n, rest) => (.number n, rest)

/-- A token takes at least one character. -/
theorem token?_shorter {t rest : Text} {token : Token} (h : token? t = some (token, rest)) :
    rest.length < t.length := by
  unfold token? at h
  split at h
  all_goals simp only [Option.some.injEq, Prod.mk.injEq, Option.map_eq_some_iff,
    Prod.exists] at h
  case h_10 tail =>
    obtain ⟨quoted, r, hr, -, rfl⟩ := h
    exact Nat.lt_succ_of_lt (readQuoted?_shorter hr)
  case h_11 =>
    obtain ⟨n, r, hr, -, rfl⟩ := h
    exact Numeral.read?_shorter hr
  all_goals
    obtain ⟨-, rfl⟩ := h
    simp only [List.length_cons]
    omega

/-- All tokens of a text. -/
def tokens? : Text → Option (List Token)
  | [] => some []
  | c :: rest =>
    if isSpace c then tokens? rest
    else
      match _h : token? (c :: rest) with
      | none => none
      | some (token, after) =>
        (tokens? after).map (token :: ·)
termination_by t => t.length
decreasing_by
  · exact Nat.lt_succ_self _
  · exact token?_shorter _h

/-- Tokens left over, fewer than there were. -/
abbrev Fewer (ts : List Token) := { rest : List Token // rest.length < ts.length }

mutual

/-- The value at the front of the tokens. -/
def value? : (ts : List Token) → Option (Json × Fewer ts)
  | .null :: rest => some (.null, ⟨rest, by simp⟩)
  | .bool b :: rest => some (.bool b, ⟨rest, by simp⟩)
  | .number n :: rest => some (.number n, ⟨rest, by simp⟩)
  | .string s :: rest => some (.string s, ⟨rest, by simp⟩)
  | .openBracket :: .closeBracket :: rest => some (.array [], ⟨rest, by simp only [List.length_cons]; omega⟩)
  | .openBracket :: rest =>
    match items? rest with
    | none => none
    | some (items, ⟨after, h⟩) => some (.array items, ⟨after, by simp only [List.length_cons]; omega⟩)
  | .openBrace :: .closeBrace :: rest => some (.object [], ⟨rest, by simp only [List.length_cons]; omega⟩)
  | .openBrace :: rest =>
    match members? rest with
    | none => none
    | some (members, ⟨after, h⟩) => some (.object members, ⟨after, by simp only [List.length_cons]; omega⟩)
  | _ => none
termination_by ts => (ts.length, 0)

/-- Items up to the closing bracket. -/
def items? (ts : List Token) : Option (List Json × Fewer ts) :=
  match value? ts with
  | some (item, ⟨.closeBracket :: rest, h⟩) => some ([item], ⟨rest, by simp only [List.length_cons] at h; omega⟩)
  | some (item, ⟨.comma :: rest, h⟩) =>
    have : rest.length < ts.length := by simp only [List.length_cons] at h; omega
    match items? rest with
    | none => none
    | some (items, ⟨after, h'⟩) => some (item :: items, ⟨after, by omega⟩)
  | _ => none
termination_by (ts.length, 1)

/-- Members up to the closing brace. -/
def members? : (ts : List Token) → Option (List (Text × Json) × Fewer ts)
  | .string key :: .colon :: rest =>
    match value? rest with
    | some (value, ⟨.closeBrace :: after, h⟩) =>
      some ([(key, value)], ⟨after, by simp only [List.length_cons] at h ⊢; omega⟩)
    | some (value, ⟨.comma :: after, h⟩) =>
      have : after.length < rest.length + 2 := by simp only [List.length_cons] at h; omega
      match members? after with
      | none => none
      | some (members, ⟨last, h'⟩) =>
        some ((key, value) :: members, ⟨last, by simp only [List.length_cons]; omega⟩)
    | _ => none
  | _ => none
termination_by ts => (ts.length, 0)

end

/-- The document that a text holds. -/
def parse? (t : Text) : Option Json :=
  match tokens? t with
  | none => none
  | some ts =>
    match value? ts with
    | some (document, ⟨[], _⟩) => some document
    | _ => none

end Equate.Json
