import Equate.Json.Quoted
import Equate.Text.Basic

/-!
# Texts in quotes

Each character is written so that it is read as itself, whatever stands behind it. A text
in quotes is therefore found up to its closing quote, and its escapes are undone.
-/
namespace Equate.Json

theorem hexValue?_hexDigit : ∀ n < 16, hexValue? (hexDigit n) = some n := by decide

theorem unit?_hexDigit {n : Nat} (h : n < 256) :
    unit? '0' '0' (hexDigit (n / 16)) (hexDigit (n % 16)) = some n := by
  have hhigh := hexValue?_hexDigit (n / 16) (by omega)
  have hlow := hexValue?_hexDigit (n % 16) (by omega)
  have hzero : hexValue? '0' = some 0 := by decide
  rw [unit?, hzero, hhigh, hlow]
  simp only [Option.bind_eq_bind, Option.bind_some, Option.pure_def, Option.some.injEq]
  omega

/-- The forms that a character can have inside quotes. -/
theorem quoteChar_cases (c : Char) :
    (∃ e, quoteChar c = ['\\', e] ∧ e ≠ 'u' ∧ escaped? e = some c) ∨
    (quoteChar c = ['\\', 'u', '0', '0', hexDigit (c.toNat / 16), hexDigit (c.toNat % 16)] ∧
      c.toNat < 0x20) ∨
    (quoteChar c = [c] ∧ c ≠ '\\' ∧ c ≠ '"' ∧ 0x20 ≤ c.toNat) := by
  unfold quoteChar
  split
  · exact .inl ⟨'"', rfl, by decide, rfl⟩
  · exact .inl ⟨'\\', rfl, by decide, rfl⟩
  · exact .inl ⟨'b', rfl, by decide, rfl⟩
  · exact .inl ⟨'f', rfl, by decide, rfl⟩
  · exact .inl ⟨'n', rfl, by decide, rfl⟩
  · exact .inl ⟨'r', rfl, by decide, rfl⟩
  · exact .inl ⟨'t', rfl, by decide, rfl⟩
  · next hquote hbackslash _ _ _ _ _ =>
    split
    · next hlow => exact .inr (.inl ⟨rfl, hlow⟩)
    · next hhigh => exact .inr (.inr ⟨rfl, hbackslash, hquote, Nat.not_lt.mp hhigh⟩)

theorem unquote?_quoteChar (c : Char) (rest : Text) :
    unquote? (quoteChar c ++ rest) = (unquote? rest).map (c :: ·) := by
  rcases quoteChar_cases c with ⟨e, hquote, he, hescaped⟩ | ⟨hquote, hlow⟩ | ⟨hquote, hne, -, -⟩
  · rw [hquote, List.cons_append, List.cons_append, List.nil_append,
      unquote?.eq_3 _ _ (fun _ _ _ _ _ h => absurd h he), hescaped]
    rfl
  · have hunit := unit?_hexDigit (Nat.lt_trans hlow (by decide))
    have htrailing : isTrailing c.toNat = false := by
      rw [isTrailing, Bool.and_eq_false_iff, decide_eq_false_iff_not]
      omega
    have hleading : isLeading c.toNat = false := by
      rw [isLeading, Bool.and_eq_false_iff, decide_eq_false_iff_not]
      omega
    rw [hquote]
    simp only [List.cons_append, List.nil_append]
    rw [unquote?.eq_2, hunit]
    simp [htrailing, hleading, Char.ofNat_toNat]
  · rw [hquote, List.cons_append, List.nil_append,
      unquote?.eq_4 _ _ (fun _ _ _ _ _ h => absurd h hne) (fun _ _ h => absurd h hne), if_neg hne]

theorem unquote?_quote (t : Text) : unquote? (quote t) = some t := by
  induction t with
  | nil => rfl
  | cons c t ih =>
    rw [quote, List.flatMap_cons, unquote?_quoteChar]
    rw [quote] at ih
    rw [ih, Option.map_some]

theorem readQuoted?_quoteChar (c : Char) (rest : Text) :
    readQuoted? (quoteChar c ++ rest) =
      (readQuoted? rest).map fun (inner, rest) => (quoteChar c ++ inner, rest) := by
  rcases quoteChar_cases c with ⟨e, hquote, he, hescaped⟩ | ⟨hquote, hlow⟩ | ⟨hquote, hne, hend, hhigh⟩
  · rw [hquote, List.cons_append, List.cons_append, List.nil_append,
      readQuoted?.eq_4 _ _ (fun _ _ _ _ _ h => absurd h he), hescaped, Option.isSome_some, if_pos rfl]
    rfl
  · have hunit := unit?_hexDigit (Nat.lt_trans hlow (by decide))
    rw [hquote]
    simp only [List.cons_append, List.nil_append]
    rw [readQuoted?.eq_3, hunit, Option.isSome_some, if_pos rfl]
  · have hplain : ¬ (c = '\\' ∨ c.toNat < 0x20) := not_or.mpr ⟨hne, Nat.not_lt.mpr hhigh⟩
    rw [hquote, List.cons_append, List.nil_append,
      readQuoted?.eq_5 _ _ hend (fun _ _ _ _ _ h => absurd h hne) (fun _ _ h => absurd h hne),
      if_neg hplain]
    rfl

/-- What stands between quotes, so that it ends where the closing quote stands. -/
def IsQuoted (inner : Text) : Prop :=
  ∀ rest, readQuoted? (inner ++ '"' :: rest) = some (inner, rest)

theorem isQuoted_quote (t : Text) : IsQuoted (quote t) := by
  intro rest
  induction t with
  | nil => rfl
  | cons c t ih =>
    rw [quote, List.flatMap_cons, List.append_assoc, readQuoted?_quoteChar]
    rw [quote] at ih
    rw [ih, Option.map_some]

end Equate.Json
