import Equate.Number.Plain
import Equate.Proofs.Number.Literal

/-!
# Numbers in plain form read back

The digits of a finite number denote that number. A decimal found on one of the grids
reads back by the test that found it, and the exact expansion because it needs no rounding.
Written out in positions a decimal is read as the same number, though with its zeros in the
digits in place of the exponent.
-/
namespace Equate.Number

/-! ## Positions -/

theorem digitsValue_append (a b : Text) :
    Text.digitsValue (a ++ b) = 10 ^ b.length * Text.digitsValue a + Text.digitsValue b := by
  rw [Text.digitsValue, Nat.ofDigitChars_append, Nat.ofDigitChars_eq_ofDigitChars_zero]
  rfl

theorem digitsValue_zeros (n : Nat) : Text.digitsValue (zeros n) = 0 := by
  rw [Text.digitsValue, zeros, Nat.ofDigitChars_replicate_zero, Nat.mul_zero]

theorem digitsValue_zero : Text.digitsValue "0" = 0 := digitsValue_zeros 1

/-- What is read from the positions of a decimal. -/
def reread (d : Decimal) : Decimal :=
  if 0 ≤ d.exponent then ⟨d.digits * 10 ^ d.exponent.toNat, 0⟩ else d

/-- The two parts have the digits of the decimal, the second as many as it has places. -/
theorem positionalParts_value (d : Decimal) :
    Text.digitsValue ((positionalParts d).1 ++ (positionalParts d).2) = (reread d).digits ∧
      -((positionalParts d).2.length : Int) = (reread d).exponent := by
  have hdecimal := Text.digitsValue_decimal d.digits
  unfold positionalParts reread
  dsimp only
  split
  · next h =>
    rw [List.append_nil, digitsValue_append, digitsValue_zeros, hdecimal, zeros,
      List.length_replicate, Nat.mul_comm]
    exact ⟨rfl, rfl⟩
  · next h =>
    split
    · next hplaces =>
      rw [List.take_append_drop, hdecimal, List.length_drop]
      exact ⟨rfl, by omega⟩
    · next hplaces =>
      refine ⟨?_, ?_⟩
      · rw [digitsValue_append, digitsValue_append, digitsValue_zero, digitsValue_zeros, hdecimal,
          Nat.mul_zero, Nat.mul_zero, Nat.zero_add, Nat.zero_add]
      · simp only [zeros, List.length_append, List.length_replicate]
        omega

theorem positionalParts_ne_nil (d : Decimal) : (positionalParts d).1 ≠ [] := by
  have hpos : (Text.decimal d.digits).length ≠ 0 := Nat.ne_of_gt Nat.length_toDigits_pos
  unfold positionalParts
  dsimp only
  split
  · simpa using fun h => absurd h (List.length_pos_iff.mp (Nat.pos_of_ne_zero hpos))
  · split
    · next hplaces =>
      rw [← List.length_pos_iff, List.length_take]
      omega
    · exact List.cons_ne_nil _ _

/-- A decimal written out in positions behind a sign, as a literal. -/
def positionalLiteral (sign : Text) (d : Decimal) : Literal :=
  ⟨sign, (positionalParts d).1,
    if (positionalParts d).2 = [] then none else some (positionalParts d).2, none⟩

theorem text_positionalLiteral (sign : Text) (d : Decimal) :
    (positionalLiteral sign d).text = sign ++ positional d := by
  rw [positional_eq, Literal.text, positionalLiteral]
  split
  · simp [Literal.fractionText, Literal.exponentText]
  · simp [Literal.fractionText, Literal.exponentText]

theorem wellFormed_positionalLiteral {sign : Text} (hsign : sign ∈ signs) (d : Decimal) :
    (positionalLiteral sign d).WellFormed Char.isDigit where
  sign := hsign
  whole c hc := isDigit_of_mem_positionalParts (.inl hc)
  fraction digits hdigits c hc := by
    obtain ⟨-, ⟨⟩⟩ := Option.ite_none_left_eq_some.mp hdigits
    exact isDigit_of_mem_positionalParts (.inr hc)
  nonempty := .inl (positionalParts_ne_nil d)
  exponent := nofun

theorem decimal_positionalLiteral (sign : Text) (d : Decimal) :
    (positionalLiteral sign d).decimal = reread d := by
  obtain ⟨hvalue, hplaces⟩ := positionalParts_value d
  have hfraction : (positionalLiteral sign d).fraction.getD [] = (positionalParts d).2 := by
    rw [positionalLiteral]
    split
    · next hnil => exact hnil.symm
    · rfl
  rw [Literal.decimal, hfraction]
  show Decimal.mk _ (0 - _) = _
  rw [Int.zero_sub, hplaces, positionalLiteral, hvalue]

theorem read?_positional (d : Decimal) : Decimal.read? (positional d) = some (reread d) := by
  have h := Literal.read?_text (wellFormed_positionalLiteral List.mem_cons_self d)
  rw [decimal_positionalLiteral] at h
  rw [← h, ← List.nil_append (positional d), ← text_positionalLiteral]
  rfl

/-! ## The number of a decimal -/

/-- Zeros in the digits in place of the exponent change nothing. -/
theorem toFloat_reread (d : Decimal) : (reread d).toFloat = d.toFloat := by
  unfold reread
  split
  · next hexp =>
    apply Decimal.toFloat_congr
    dsimp only
    rw [show (-d.exponent).toNat = 0 by omega, show (-(0 : Int)).toNat = 0 from rfl]
    simp
  · rfl

/-- A decimal on a grid reads back to the value it was found for. -/
theorem toFloat_of_onGrid? {tie : Tie} {value : Float} {num den count : Nat} {d : Decimal}
    (h : onGrid? tie value num den count = some d) : d.toFloat = value := by
  grind [onGrid?]

/-- A code made into a number again. -/
theorem ofBits_magnitudeCode {x : Float} (hfinite : x.isFinite = true) (hsign : isNegative x = false) :
    Float.ofBits (magnitudeCode x).toUInt64 = x := by
  have hcode := (isFinite_iff x).mp hfinite
  apply eq_of_magnitudeCode_eq
  · rw [hsign, ← Bool.not_eq_true, isNegative_iff, Nat.not_le, toNat_toBits_ofBits hcode]
    exact Nat.lt_trans hcode (by decide)
  · exact magnitudeCode_ofBits hcode

theorem magnitude_bounds {code : Nat} (hpos : code ≠ 0) :
    0 < (magnitude code).1 ∧ -1074 ≤ (magnitude code).2 := by
  unfold magnitude
  have hp : Nat.pow 2 52 = 2 ^ 52 := rfl
  rw [hp]
  split
  · exact ⟨Nat.pos_of_ne_zero hpos, Int.le_refl _⟩
  · refine ⟨?_, ?_⟩ <;> dsimp only <;> omega

theorem nearest_of_isDyadic {x : Float} {num den : Nat} (hfinite : x.isFinite = true)
    (hsign : isNegative x = false)
    (h : IsDyadic num den (magnitude (magnitudeCode x)).1 (magnitude (magnitudeCode x)).2) :
    nearest num den = x := by
  rw [nearest, nearestCode_magnitude ((isFinite_iff x).mp hfinite) h,
    ofBits_magnitudeCode hfinite hsign]

/-- The exact expansion of a positive finite number denotes it. -/
theorem toFloat_exactDecimal {x : Float} (hfinite : x.isFinite = true) (hsign : isNegative x = false)
    (hcode : magnitudeCode x ≠ 0) :
    (exactDecimal (magnitude (magnitudeCode x)).1 (magnitude (magnitudeCode x)).2).toFloat = x := by
  obtain ⟨hm, hlow⟩ := magnitude_bounds hcode
  have hdyadic : ∀ num den, IsDyadic num den (magnitude (magnitudeCode x)).1
      (magnitude (magnitudeCode x)).2 → nearest num den = x :=
    fun _ _ => nearest_of_isDyadic hfinite hsign
  generalize (magnitude (magnitudeCode x)).1 = m at *
  generalize (magnitude (magnitudeCode x)).2 = q at *
  rw [Decimal.toFloat_eq]
  unfold exactDecimal
  split
  · next hq =>
    dsimp only
    refine hdyadic _ _ ⟨Nat.pow_pos (by decide), hm, ?_⟩
    rw [inUnits_of_nonneg hq]
    simp
  · next hq =>
    dsimp only
    refine hdyadic _ _ ⟨Nat.pow_pos (by decide), hm, ?_⟩
    rw [inUnits, if_neg hq, show q.toNat = 0 by omega]
    show m * 5 ^ (-q).toNat * 1 * 2 ^ (-q).toNat = m * 10 ^ (-q).toNat
    rw [Nat.mul_one, Nat.mul_assoc, ← Nat.mul_pow]

theorem toFloat_shortest {x : Float} (tie : Tie) (hfinite : x.isFinite = true)
    (hsign : isNegative x = false) (hcode : magnitudeCode x ≠ 0) : (shortest tie x).toFloat = x := by
  unfold shortest
  dsimp only
  cases hfound : (List.range' 1 17).findSome? _ with
  | none => exact toFloat_exactDecimal hfinite hsign hcode
  | some d =>
    obtain ⟨count, -, hgrid⟩ := List.exists_of_findSome?_eq_some hfound
    exact toFloat_of_onGrid? hgrid

/-! ## The plain form -/

/-- The size of a number, without its sign. -/
def absolute (x : Float) : Float := withSign (isNegative x) x

theorem isFinite_absolute {x : Float} (h : x.isFinite = true) : (absolute x).isFinite = true :=
  isFinite_withSign _ h

theorem isNegative_absolute {x : Float} (h : x.isFinite = true) : isNegative (absolute x) = false := by
  unfold absolute withSign
  split
  · next hsign => rw [isNegative_neg h, hsign]; rfl
  · next hsign => simpa using hsign

theorem magnitudeCode_absolute {x : Float} (h : x.isFinite = true) :
    magnitudeCode (absolute x) = magnitudeCode x := by
  unfold absolute withSign
  split
  · exact magnitudeCode_neg h
  · rfl

theorem withSign_absolute {x : Float} (h : x.isFinite = true) :
    withSign (isNegative x) (absolute x) = x := by
  unfold absolute withSign
  split
  · exact neg_neg_of_isFinite h
  · rfl

/-- The digits of the plain form, without the sign. -/
def digitsText (x : Float) : Text :=
  if magnitudeCode x = 0 then "0" else positional (shortest .up (absolute x))

theorem plain_eq {x : Float} (h : x.isFinite = true) :
    plain x = (if isNegative x then "-" else "" : Text) ++ digitsText x := by
  have hcode := (isFinite_iff x).mp h
  unfold plain digitsText
  dsimp only
  rw [if_neg (by omega), if_neg (by omega)]
  split <;> rfl

/-- The digits of a finite number read back to its size. -/
theorem readLiteral?_digitsText {x : Float} (h : x.isFinite = true) :
    readLiteral? (digitsText x) = some (absolute x) := by
  unfold digitsText readLiteral?
  split
  · next hzero =>
    have hread : Decimal.read? "0" = some ⟨0, 0⟩ := by decide
    have habsolute : absolute x = Float.ofBits 0 := by
      have hfinite := isFinite_absolute h
      have hcode : magnitudeCode (absolute x) = 0 := (magnitudeCode_absolute h).trans hzero
      have := ofBits_magnitudeCode hfinite (isNegative_absolute h)
      rw [hcode] at this
      exact this.symm
    rw [hread, habsolute]
    rfl
  · next hcode =>
    have hshortest := toFloat_shortest .up (isFinite_absolute h) (isNegative_absolute h)
      (by rwa [magnitudeCode_absolute h])
    rw [read?_positional, Option.map_some, toFloat_reread, hshortest]

/-- Digits, and more of them behind a point if there is one. -/
def IsPositional (t : Text) : Prop :=
  ∃ whole fraction : Text, whole ≠ [] ∧ (∀ c ∈ whole ++ fraction, c.isDigit = true) ∧
    (t = whole ∨ fraction ≠ [] ∧ t = whole ++ '.' :: fraction)

theorem isPositional_positional (d : Decimal) : IsPositional (positional d) := by
  refine ⟨(positionalParts d).1, (positionalParts d).2, positionalParts_ne_nil d, fun c hc => ?_, ?_⟩
  · exact isDigit_of_mem_positionalParts (List.mem_append.mp hc)
  · rw [positional_eq]
    split
    · exact .inl rfl
    · next hfraction => exact .inr ⟨hfraction, rfl⟩

theorem isPositional_digitsText (x : Float) : IsPositional (digitsText x) := by
  unfold digitsText
  split
  · exact ⟨['0'], [], List.cons_ne_nil _ _, List.forall_mem_singleton.mpr (by decide), .inl rfl⟩
  · exact isPositional_positional _

/-- The digits are a run of digits and points that starts with a digit. -/
theorem exists_cons_digitsText (x : Float) :
    ∃ c rest, digitsText x = c :: rest ∧ c.isDigit = true ∧
      ∀ d ∈ rest, d.isDigit = true ∨ d = '.' := by
  obtain ⟨whole, fraction, hne, hdigits, htext⟩ := isPositional_digitsText x
  obtain ⟨c, whole, rfl⟩ := List.exists_cons_of_ne_nil hne
  obtain ⟨hc, hrest⟩ := List.forall_mem_cons.mp hdigits
  rcases htext with htext | ⟨-, htext⟩
  · exact ⟨c, whole, htext, hc, fun d hd => .inl (hrest d (List.mem_append_left _ hd))⟩
  · refine ⟨c, whole ++ '.' :: fraction, htext, hc, fun d hd => ?_⟩
    rcases List.mem_append.mp hd with hd | hd
    · exact .inl (hrest d (List.mem_append_left _ hd))
    · rcases List.mem_cons.mp hd with rfl | hd
      · exact .inr rfl
      · exact .inl (hrest d (List.mem_append_right _ hd))

/-- The digits of the plain form behind a sign, as a literal. -/
def digitsLiteral (sign : Text) (x : Float) : Literal :=
  if magnitudeCode x = 0 then ⟨sign, "0", none, none⟩
  else positionalLiteral sign (shortest .up (absolute x))

theorem text_digitsLiteral (sign : Text) (x : Float) :
    (digitsLiteral sign x).text = sign ++ digitsText x := by
  unfold digitsLiteral digitsText
  split
  · simp [Literal.text, Literal.fractionText, Literal.exponentText]
  · exact text_positionalLiteral _ _

theorem wellFormed_digitsLiteral {sign : Text} (hsign : sign ∈ signs) (x : Float) :
    (digitsLiteral sign x).WellFormed Char.isDigit := by
  unfold digitsLiteral
  split
  · refine ⟨hsign, ?_, nofun, .inl (List.cons_ne_nil _ _), nofun⟩
    exact List.forall_mem_singleton.mpr (by decide)
  · exact wellFormed_positionalLiteral hsign _

/-- A finite number in plain form is a literal. -/
theorem exists_literal_plain {x : Float} (h : x.isFinite = true) :
    ∃ l : Literal, l.WellFormed Char.isDigit ∧ l.text = plain x := by
  have hsign : (if isNegative x then "-" else "" : Text) ∈ signs := by
    split <;> decide
  exact ⟨_, wellFormed_digitsLiteral hsign x, by rw [text_digitsLiteral, plain_eq h]⟩

/-- It reads back to the number. -/
theorem readSigned?_plain {x : Float} (h : x.isFinite = true) : readSigned? (plain x) = some x := by
  obtain ⟨c, rest, hdigits, hc, -⟩ := exists_cons_digitsText x
  have hsign : (if isNegative x then "-" else "" : Text) ∈ signs := by
    split <;> decide
  have hnot : ∀ d more, digitsText x = d :: more → d ≠ '+' ∧ d ≠ '-' := by
    intro d more heq
    obtain ⟨rfl, -⟩ := List.cons.inj (hdigits.symm.trans heq)
    exact not_sign_of_isDigit isDigit_marks hc
  have hdecide : decide ((if isNegative x then "-" else "" : Text) = ['-']) = isNegative x := by
    cases isNegative x <;> rfl
  rw [readSigned?, plain_eq h, readSign_append_of_signs hsign hnot, hdecide]
  dsimp only
  rw [readLiteral?_digitsText h, Option.map_some, withSign_absolute h]

end Equate.Number
