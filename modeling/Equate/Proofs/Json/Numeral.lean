import Equate.Json.Numeral
import Equate.Proofs.Number.RoundTrip

/-!
# Written numbers are found again

A number in a document is digits without a leading zero, digits behind a point and digits
of an exponent. Its text gives these parts back, provided that what stands behind could
not go on with it, and every number that is written has such parts.
-/
namespace Equate.Json
open Text

/-- A text that a number does not go on into. -/
def Ends (t : Text) : Prop :=
  ∀ c rest, t = c :: rest → c.isDigit = false ∧ c ≠ '.' ∧ c ≠ 'e' ∧ c ≠ 'E'

theorem ends_nil : Ends [] := nofun

namespace Numeral

/-- Digits in front of the point: a zero alone, or a run that another digit starts. -/
def IsWhole (whole : Text) : Prop :=
  whole = ['0'] ∨ ∃ c rest, whole = c :: rest ∧ c ≠ '0' ∧ ∀ d ∈ whole, d.isDigit = true

/-- The parts that the text of a number can have. -/
structure WellFormed (n : Numeral) : Prop where
  whole : IsWhole n.whole
  fraction : ∀ c ∈ n.fraction, c.isDigit = true
  exponent : ∀ e, n.exponent = some e → e.2 ≠ [] ∧ ∀ c ∈ e.2, c.isDigit = true

theorem IsWhole.exists_cons {whole : Text} (h : IsWhole whole) :
    ∃ c rest, whole = c :: rest ∧ c.isDigit = true := by
  rcases h with rfl | ⟨c, rest, rfl, -, hdigits⟩
  · exact ⟨'0', [], rfl, by decide⟩
  · exact ⟨c, rest, rfl, hdigits c List.mem_cons_self⟩

/-! ## Reading the parts -/

theorem readMinus_append (negative : Bool) {t : Text} (h : ∀ c rest, t = c :: rest → c ≠ '-') :
    readMinus ((if negative then ['-'] else []) ++ t) = (negative, t) := by
  cases negative with
  | true => rfl
  | false =>
    rw [if_neg Bool.false_ne_true, List.nil_append]
    unfold readMinus
    split
    · next rest => exact absurd rfl (h '-' rest rfl)
    · rfl

theorem readWhole?_append {whole t : Text} (hwhole : IsWhole whole)
    (ht : ∀ c rest, t = c :: rest → c.isDigit = false) :
    readWhole? (whole ++ t) = some (whole, t) := by
  rcases hwhole with rfl | ⟨c, rest, rfl, hzero, hdigits⟩
  · rfl
  · obtain ⟨htake, hdrop⟩ := cut_append hdigits ht
    unfold readWhole?
    split
    · next heq => exact absurd (List.cons.inj heq).1 hzero
    · rw [htake, hdrop]
      exact if_neg (List.cons_ne_nil c rest)

theorem readFraction?_append {fraction t : Text} (hfraction : ∀ c ∈ fraction, c.isDigit = true)
    (ht : ∀ c rest, t = c :: rest → c.isDigit = false ∧ c ≠ '.') :
    readFraction? ((if fraction = [] then [] else '.' :: fraction) ++ t) = some (fraction, t) := by
  obtain ⟨htake, hdrop⟩ := cut_append hfraction fun c rest h => (ht c rest h).1
  by_cases hnil : fraction = []
  · rw [if_pos hnil, List.nil_append, hnil]
    unfold readFraction?
    split
    · next rest => exact absurd rfl (ht '.' rest rfl).2
    · rfl
  · have hcut : readFraction? ('.' :: (fraction ++ t)) =
        if (fraction ++ t).takeWhile Char.isDigit = [] then none
        else some ((fraction ++ t).takeWhile Char.isDigit, (fraction ++ t).dropWhile Char.isDigit) :=
      rfl
    rw [if_neg hnil, List.cons_append, hcut, htake, hdrop, if_neg hnil]

theorem readExponent?_none {t : Text} (ht : Ends t) : readExponent? t = some (none, t) := by
  cases t with
  | nil => rfl
  | cons c rest =>
    obtain ⟨-, -, hsmall, hlarge⟩ := ht c rest rfl
    exact if_neg (not_or.mpr ⟨hsmall, hlarge⟩)

theorem readExponent?_some {negative : Bool} {digits t : Text} (hne : digits ≠ [])
    (hdigits : ∀ c ∈ digits, c.isDigit = true) (ht : Ends t) :
    readExponent? ('e' :: exponentSign negative :: digits ++ t) =
      some (some (negative, digits), t) := by
  obtain ⟨htake, hdrop⟩ := cut_append hdigits fun c rest h => (ht c rest h).1
  have hsign : Number.readSign (exponentSign negative :: digits ++ t) = (negative, digits ++ t) := by
    cases negative <;> rfl
  unfold readExponent?
  rw [List.cons_append]
  dsimp only
  rw [if_pos (.inl rfl), hsign]
  dsimp only
  rw [htake, hdrop, if_neg hne]

/-- The exponent as written. -/
def exponentText : Option (Bool × Text) → Text
  | none => []
  | some (negative, digits) => 'e' :: exponentSign negative :: digits

theorem text_eq (n : Numeral) :
    n.text = (if n.negative then ['-'] else []) ++
      (n.whole ++ ((if n.fraction = [] then [] else '.' :: n.fraction) ++ exponentText n.exponent)) := by
  rw [text, List.append_assoc, List.append_assoc]
  rfl

theorem readExponent?_append {exponent : Option (Bool × Text)} {t : Text}
    (h : ∀ e, exponent = some e → e.2 ≠ [] ∧ ∀ c ∈ e.2, c.isDigit = true) (ht : Ends t) :
    readExponent? (exponentText exponent ++ t) = some (exponent, t) := by
  cases exponent with
  | none => exact readExponent?_none ht
  | some e => exact readExponent?_some (h e rfl).1 (h e rfl).2 ht

theorem exponentText_append_starts (exponent : Option (Bool × Text)) {t : Text} (ht : Ends t) :
    ∀ c rest, exponentText exponent ++ t = c :: rest → c.isDigit = false ∧ c ≠ '.' := by
  intro c rest h
  cases exponent with
  | none => exact ⟨(ht c rest h).1, (ht c rest h).2.1⟩
  | some e =>
    rw [← (List.cons.inj h).1]
    decide

/-- The text of a number is read up to its end. -/
theorem read?_text {n : Numeral} (hn : n.WellFormed) {rest : Text} (hrest : Ends rest) :
    read? (n.text ++ rest) = some (n, rest) := by
  have hexponent := readExponent?_append hn.exponent hrest
  have hstart := exponentText_append_starts n.exponent hrest
  rw [text_eq, List.append_assoc, List.append_assoc, List.append_assoc]
  generalize exponentText n.exponent ++ rest = tail at *
  have hfraction := readFraction?_append hn.fraction hstart
  have hpoint : ∀ c t, (if n.fraction = [] then [] else '.' :: n.fraction) ++ tail = c :: t →
      c.isDigit = false := by
    intro c t h
    split at h
    · exact (hstart c t h).1
    · rw [← (List.cons.inj h).1]
      decide
  have hwhole := readWhole?_append hn.whole hpoint
  have hdigit : ∀ c t, n.whole ++ ((if n.fraction = [] then [] else '.' :: n.fraction) ++ tail) =
      c :: t → c ≠ '-' := by
    obtain ⟨d, digits, hdigits, hd⟩ := hn.whole.exists_cons
    rintro c t h rfl
    rw [hdigits] at h
    rw [(List.cons.inj h).1] at hd
    revert hd
    decide
  rw [read?, readMinus_append n.negative hdigit]
  simp only [Option.bind_eq_bind, Option.pure_def]
  rw [hwhole, Option.bind_some, hfraction, Option.bind_some, hexponent, Option.bind_some]

/-! ## Written numbers -/

theorem exists_cons_decimal {n : Nat} (h : n ≠ 0) : ∃ c rest, decimal n = c :: rest ∧ c ≠ '0' := by
  induction n using Nat.strongRecOn with
  | ind n ih =>
    rcases Nat.lt_or_ge n 10 with hlt | hge
    · have hdigit : ∀ m < 10, m ≠ 0 → Nat.digitChar m ≠ '0' := by decide
      exact ⟨Nat.digitChar n, [], Nat.toDigits_of_lt_base hlt, hdigit n hlt h⟩
    · obtain ⟨c, rest, hdecimal, hc⟩ := ih (n / 10) (by omega) (by omega)
      refine ⟨c, rest ++ [Nat.digitChar (n % 10)], ?_, hc⟩
      rw [decimal, Nat.toDigits_of_base_le (by decide) hge, ← decimal, hdecimal]
      rfl

theorem isWhole_append {n : Nat} (h : n ≠ 0) {t : Text} (ht : ∀ c ∈ t, c.isDigit = true) :
    IsWhole (decimal n ++ t) := by
  obtain ⟨c, rest, hdecimal, hc⟩ := exists_cons_decimal h
  refine .inr ⟨c, rest ++ t, by rw [hdecimal, List.cons_append], hc, fun d hd => ?_⟩
  rcases List.mem_append.mp hd with hd | hd
  · exact Number.isDigit_of_mem_decimal hd
  · exact ht d hd

theorem isWhole_take {n i : Nat} (h : n ≠ 0) (hi : i ≠ 0) : IsWhole ((decimal n).take i) := by
  obtain ⟨c, rest, hdecimal, hc⟩ := exists_cons_decimal h
  obtain ⟨i, rfl⟩ := Nat.exists_eq_succ_of_ne_zero hi
  refine .inr ⟨c, rest.take i, by rw [hdecimal, List.take_succ_cons], hc, fun d hd => ?_⟩
  exact Number.isDigit_of_mem_decimal (List.mem_of_mem_take hd)

theorem isWhole_decimal (n : Nat) : IsWhole (decimal n) := by
  rcases Nat.eq_zero_or_pos n with rfl | hpos
  · exact .inl rfl
  · have hwhole := isWhole_append (Nat.ne_of_gt hpos) (t := []) nofun
    rwa [List.append_nil] at hwhole

theorem wellFormed_ofNat (n : Nat) : (ofNat n).WellFormed :=
  ⟨isWhole_decimal n, nofun, nofun⟩

theorem isWhole_positionalParts {d : Decimal} (hd : d.digits ≠ 0) :
    IsWhole (Number.positionalParts d).1 := by
  unfold Number.positionalParts
  dsimp only
  split
  · exact isWhole_append hd fun c => Number.isDigit_of_mem_zeros
  · split
    · next hplaces => exact isWhole_take hd (by omega)
    · exact .inl rfl

theorem isDigit_of_mem_zero : ∀ c ∈ ("0" : Text), c.isDigit = true :=
  fun _ hc => List.all_eq_true.mp (by decide : ("0" : Text).all Char.isDigit = true) _ hc

theorem wellFormed_ofDecimal (negative : Bool) {d : Decimal} (hd : d.digits ≠ 0) :
    (ofDecimal negative d).WellFormed := by
  unfold ofDecimal
  dsimp only
  split
  · have hwhole := isWhole_positionalParts hd
    have hfraction : ∀ c ∈ (Number.positionalParts d).2, c.isDigit = true :=
      fun c hc => Number.isDigit_of_mem_positionalParts (.inr hc)
    generalize Number.positionalParts d = parts at *
    obtain ⟨whole, fraction⟩ := parts
    split
    · next heq =>
      obtain ⟨rfl, -⟩ := Prod.mk.inj heq
      exact ⟨hwhole, isDigit_of_mem_zero, nofun⟩
    · next heq =>
      obtain ⟨rfl, rfl⟩ := Prod.mk.inj heq
      exact ⟨hwhole, hfraction, nofun⟩
  · constructor
    case whole => exact isWhole_take hd Nat.one_ne_zero
    case fraction => exact fun c hc => Number.isDigit_of_mem_decimal (List.mem_of_mem_drop hc)
    case exponent =>
      intro e he
      obtain rfl := Option.some.inj he
      exact ⟨List.length_pos_iff.mp Nat.length_toDigits_pos, fun c => Number.isDigit_of_mem_decimal⟩

/-- The digits of the number of a decimal are not zero, if the number is not. -/
theorem digits_ne_zero {d : Decimal} (h : Number.magnitudeCode d.toFloat ≠ 0) : d.digits ≠ 0 := by
  intro hzero
  apply h
  rw [Decimal.toFloat, if_pos hzero]
  decide

theorem wellFormed_ofFinite {x : Float} (h : x.isFinite = true) : (ofFinite x).WellFormed := by
  unfold ofFinite
  dsimp only
  split
  · exact ⟨.inl rfl, isDigit_of_mem_zero, nofun⟩
  · next hcode =>
    have hcode' : Number.magnitudeCode (Number.absolute x) ≠ 0 := by
      rwa [Number.magnitudeCode_absolute h]
    have hshortest := Number.toFloat_shortest .toEven (Number.isFinite_absolute h)
      (Number.isNegative_absolute h) hcode'
    apply wellFormed_ofDecimal
    apply digits_ne_zero
    rwa [← hshortest] at hcode'

end Numeral
end Equate.Json
