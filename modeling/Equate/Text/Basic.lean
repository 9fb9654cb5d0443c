/-!
# Texts and their lines

A text is the list of its characters, so that every reader below is a recursion on
it. Positions count the bytes of the UTF-8 form, which is what the sum of the
characters' widths gives. Lines end at a line feed; one carriage return directly
in front of it belongs to the line end, any other carriage return to the line.
-/
namespace Equate

abbrev Text := List Char

/-- A quoted string stands for the list of its characters. -/
instance : Coe String Text := ⟨String.toList⟩

namespace Text

/-- The length in bytes of the UTF-8 form. -/
def byteCount : Text → Nat
  | [] => 0
  | c :: rest => c.utf8Size + byteCount rest

@[simp] theorem byteCount_nil : byteCount [] = 0 := rfl

@[simp] theorem byteCount_cons (c : Char) (t : Text) :
    byteCount (c :: t) = c.utf8Size + byteCount t := rfl

@[simp] theorem byteCount_append (s t : Text) :
    byteCount (s ++ t) = byteCount s + byteCount t := by
  induction s with
  | nil => simp
  | cons c s ih => simp [ih, Nat.add_assoc]

theorem length_dropWhile_le (p : Char → Bool) (t : Text) :
    (t.dropWhile p).length ≤ t.length :=
  (List.dropWhile_sublist p).length_le

/-- Cutting off a run that is not empty leaves less. -/
theorem length_dropWhile_lt {p : Char → Bool} {t : Text} (h : t.takeWhile p ≠ []) :
    (t.dropWhile p).length < t.length := by
  have hlen := congrArg List.length (List.takeWhile_append_dropWhile (p := p) (l := t))
  have hpos := List.length_pos_iff.mpr h
  simp only [List.length_append] at hlen
  omega

/-- The lines of a text. A line feed at the very end starts no further line. -/
def lines : Text → List Text
  | [] => []
  | '\n' :: rest => [] :: lines rest
  | '\r' :: '\n' :: rest => [] :: lines rest
  | c :: rest =>
    match lines rest with
    | [] => [[c]]
    | line :: more => (c :: line) :: more

/-- The lines with their numbers, counted from one. -/
def numberedLines (t : Text) : List (Text × Nat) := (lines t).zipIdx 1

/-- Lines put together again with a line feed between each two. -/
def unlines (ls : List Text) : Text := List.intercalate ['\n'] ls

/-- The part in front of the first `c` and the part behind it. -/
def splitAt? (c : Char) : Text → Option (Text × Text)
  | [] => none
  | d :: rest =>
    if d = c then some ([], rest)
    else (splitAt? c rest).map fun (before, after) => (d :: before, after)

/-- The parts between the occurrences of `c`; there is always one. -/
def splitOn (c : Char) : Text → List Text
  | [] => [[]]
  | d :: rest =>
    if d = c then [] :: splitOn c rest
    else
      match splitOn c rest with
      | [] => [[d]]
      | part :: more => (d :: part) :: more

/-- A natural number in decimal digits. -/
def decimal (n : Nat) : Text := Nat.toDigits 10 n

/-- The number that a list of decimal digits denotes. -/
def digitsValue (digits : Text) : Nat := Nat.ofDigitChars 10 digits 0

theorem digitsValue_decimal (n : Nat) : digitsValue (decimal n) = n := by
  simp [digitsValue, decimal]

/-- Parts with a separator between each two. -/
def joinWith (separator : Text) (parts : List Text) : Text := List.intercalate separator parts

/-!
## Lines taken out of a text

A line that has been read gives way to an empty one, so that every other line keeps its
number.
-/

/-- The text with the lines of the given numbers empty. Without any, it stays as it is;
otherwise its lines are put together anew. -/
def blank (numbers : List Nat) (t : Text) : Text :=
  if numbers = [] then t
  else unlines ((numberedLines t).map fun (line, n) => if numbers.contains n then [] else line)

@[simp] theorem blank_nil (t : Text) : blank [] t = t := rfl

end Text
end Equate
