import Equate.Number.Plain
import Equate.Text.Folding

/-!
# Conversion tags

A tag `[from->to]` asks for a conversion of what stands in front of it. Both symbols are
non-empty runs of unit characters. The dash is one of those, so the dash of the arrow is
the last one of the run in front of the `>`. A bracket that opens no tag is plain text.
-/
namespace Equate.Conversion

/-- A character of a unit symbol; letters are compared without case. -/
def isUnitChar (c : Char) : Bool :=
  Text.isFoldedLetter c || c.isDigit || c == '_' || c == '/' || c == '^' || c == '-'

/-- A part of a text. -/
inductive Segment where
  | plain (c : Char)
  | tag (source target : Text)
  deriving DecidableEq, Repr

/-- The characters of a segment. -/
def Segment.text : Segment → Text
  | .plain c => [c]
  | .tag source target => '[' :: source ++ "->" ++ target ++ "]"

/-- The two symbols of a tag and the rest of the text, read behind the opening bracket. -/
def tag? (t : Text) : Option (Text × Text × Text) :=
  let run := t.takeWhile isUnitChar
  match t.dropWhile isUnitChar with
  | '>' :: rest =>
    let target := rest.takeWhile isUnitChar
    match rest.dropWhile isUnitChar with
    | ']' :: after =>
      if run.getLast? = some '-' ∧ run.dropLast ≠ [] ∧ target ≠ [] then
        some (run.dropLast, target, after)
      else none
    | _ => none
  | _ => none

theorem tag?_shorter {t source target after : Text} (h : tag? t = some (source, target, after)) :
    after.length < t.length := by
  unfold tag? at h
  dsimp only at h
  split at h
  · rename_i rest hrest
    split at h
    · rename_i tail htail
      split at h
      · simp only [Option.some.injEq, Prod.mk.injEq] at h
        obtain ⟨-, -, rfl⟩ := h
        have h₁ := Text.length_dropWhile_le isUnitChar t
        have h₂ := Text.length_dropWhile_le isUnitChar rest
        rw [hrest, List.length_cons] at h₁
        rw [htail, List.length_cons] at h₂
        omega
      · simp at h
    · simp at h
  · simp at h

/-- The segments of a text. -/
def segments : Text → List Segment
  | [] => []
  | c :: rest =>
    if c = '[' then
      match h : tag? rest with
      | some (source, target, after) =>
        have := tag?_shorter h
        .tag source target :: segments after
      | none => .plain c :: segments rest
    else .plain c :: segments rest
termination_by t => t.length
decreasing_by all_goals simp only [List.length_cons]; omega

/-- A tag with its line and its byte range. -/
structure Tag where
  line : Nat
  start : Nat
  stop : Nat
  source : Text
  target : Text
  deriving DecidableEq, Repr

/-- The tags among segments that start at a line and a byte offset. -/
def locate (line offset : Nat) : List Segment → List Tag
  | [] => []
  | .plain c :: rest =>
    locate (if c = '\n' then line + 1 else line) (offset + c.utf8Size) rest
  | .tag source target :: rest =>
    let stop := offset + Text.byteCount (Segment.tag source target).text
    ⟨line, offset, stop, source, target⟩ :: locate line stop rest

/-- The tags of a text. -/
def tags (t : Text) : List Tag := locate 1 0 (segments t)

/-- A factor as it is written into the text. -/
def factorText (factor : Float) : Text := " * " ++ Number.plain factor

/-- The text of segments in which each tag has given way to its factor. -/
def resolveSegments {ε : Type} (factor : Text → Text → Except ε Float) :
    List Segment → Except ε Text
  | [] => .ok []
  | .plain c :: rest => do
    let more ← resolveSegments factor rest
    return c :: more
  | .tag source target :: rest => do
    let f ← factor source target
    let more ← resolveSegments factor rest
    return factorText f ++ more

/-- A text with its tags resolved. The first tag without a factor decides the failure. -/
def resolve {ε : Type} (factor : Text → Text → Except ε Float) (t : Text) : Except ε Text :=
  resolveSegments factor (segments t)

end Equate.Conversion
