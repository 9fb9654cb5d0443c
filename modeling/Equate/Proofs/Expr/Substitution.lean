import Equate.Proofs.Name.Numeral
import Equate.Proofs.Number.RoundTrip
import Equate.Proofs.Parameter.Substitution

/-!
# Substitution keeps the meaning of arithmetic

A value is written as one operand in parentheses: its size, behind a minus sign where it
is negative. Names are replaced in the text and the new text is cut into tokens again, but
this comes to replacing each name among the tokens, and so each leaf of the tree. The new
tree has the value that the old one has in the scope.
-/
namespace Equate
open Success

/-! ## Names next to operands -/

namespace Name
open Equate.Expr

variable {r : Text → Option Text} {t : Text}

/-- Where a text parts it still does so afterwards. -/
theorem parts_substitute (ht : Parts t) : Parts (substitute r t) := by
  cases t with
  | nil => rw [substitute_nil]; exact parts_nil
  | cons c t =>
    rw [substitute_eq_flatMap, piecesOf, pieces_other (ht.isStart rfl)]
    exact parts_cons (ht.isContinue rfl) (ht c t rfl).2 _

/-- A number stays as it is. -/
theorem substitute_append_literal {l : Text} (hl : IsLiteral l) (ht : Parts t) :
    substitute r (l ++ t) = l ++ substitute r t := by
  obtain ⟨ps, hps, rfl, hnone⟩ := exists_piecesOf_literal hl ht
  have hkept : ∀ piece ∈ ps, replaced r piece = piece.text := by
    intro piece hmem
    cases piece with
    | name word glued => exact absurd hmem (hnone word glued)
    | _ => rfl
  rw [substitute_eq_flatMap, substitute_eq_flatMap, hps, List.flatMap_append, List.flatMap_def,
    List.map_congr_left hkept, ← List.flatMap_def]

end Name

/-! ## Names replaced by values -/

namespace Expr

/-- The tokens of a value as it is written. -/
def Token.ofValue (v : Float) : List Token :=
  .openParen :: ((if Number.isNegative v then [.minus] else []) ++
    [.num (Number.absolute v), .closeParen])

/-- The tree of a value as it is written. -/
def ofValue (v : Float) : Expr :=
  if Number.isNegative v then .neg (.num (Number.absolute v)) else .num (Number.absolute v)

/-- A token with a value in the place of its name. -/
def Token.withValues (value? : Text → Option Float) : Token → List Token
  | .name word => ((value? word).map ofValue).getD [.name word]
  | u => [u]

/-- An expression with values in the place of names. -/
def withValues (value? : Text → Option Float) : Expr → Expr
  | num v => num v
  | var name => ((value? name).map ofValue).getD (var name)
  | neg a => neg (a.withValues value?)
  | add a b => add (a.withValues value?) (b.withValues value?)
  | sub a b => sub (a.withValues value?) (b.withValues value?)
  | mul a b => mul (a.withValues value?) (b.withValues value?)
  | div a b => div (a.withValues value?) (b.withValues value?)

/-- A place of the grammar with values in the place of names. -/
def Place.withValues (value? : Text → Option Float) : Place → Place
  | .sums a => .sums (a.withValues value?)
  | .products a => .products (a.withValues value?)
  | p => p

theorem derives_expr_of_unary {us : List Token} {e : Expr} (h : Derives .unary us e) :
    Derives .expr us e := by
  have := Derives.expr (.term h .productsEnd) .sumsEnd
  rwa [List.append_nil, List.append_nil] at this

/-- A value is one operand, whatever stands around it. -/
theorem derives_ofValue (v : Float) : Derives .primary (Token.ofValue v) (ofValue v) := by
  unfold Token.ofValue ofValue
  split
  · exact .group (derives_expr_of_unary (.negative (.unary (.num _))))
  · exact .group (derives_expr_of_unary (.unary (.num _)))

section
variable (value? : Text → Option Float)

theorem flatMap_withValues_cons {u : Token} (hu : u.isOperand = false) (us : List Token) :
    (u :: us).flatMap (Token.withValues value?) = u :: us.flatMap (Token.withValues value?) := by
  cases u with
  | num => cases hu
  | name => cases hu
  | _ => rfl

/-- Values may take the place of names in everything that derives. -/
theorem Derives.withValues {p : Place} {us : List Token} {e : Expr} (h : Derives p us e) :
    Derives (p.withValues value?) (us.flatMap (Token.withValues value?)) (e.withValues value?) := by
  induction h with
  | expr _ _ ihus ihvs => rw [List.flatMap_append]; exact .expr ihus ihvs
  | sumsEnd => exact .sumsEnd
  | plus _ _ ihus ihvs =>
    rw [flatMap_withValues_cons value? rfl, List.flatMap_append]
    exact .plus ihus ihvs
  | minus _ _ ihus ihvs =>
    rw [flatMap_withValues_cons value? rfl, List.flatMap_append]
    exact .minus ihus ihvs
  | term _ _ ihus ihvs => rw [List.flatMap_append]; exact .term ihus ihvs
  | productsEnd => exact .productsEnd
  | times _ _ ihus ihvs =>
    rw [flatMap_withValues_cons value? rfl, List.flatMap_append]
    exact .times ihus ihvs
  | dividedBy _ _ ihus ihvs =>
    rw [flatMap_withValues_cons value? rfl, List.flatMap_append]
    exact .dividedBy ihus ihvs
  | negative _ ih => exact .negative ih
  | positive _ ih => exact .positive ih
  | unary _ ih => exact .unary ih
  | num v => exact .num v
  | name word =>
    rw [List.flatMap_singleton, Token.withValues, Expr.withValues]
    cases value? word with
    | none => exact .name word
    | some v => exact derives_ofValue v
  | group _ ih =>
    rw [flatMap_withValues_cons value? rfl, List.flatMap_append]
    exact .group ih

variable {value?}

theorem eval_ofValue {v : Float} (h : v.isFinite = true) (scope : Text → Option Float) :
    (ofValue v).eval scope = .ok v := by
  have hnum : (num (Number.absolute v)).eval scope = .ok (Number.absolute v) :=
    finite_eq_ok.mpr ⟨Number.isFinite_absolute h, rfl⟩
  have hsign := Number.withSign_absolute h
  unfold ofValue
  split
  · next hnegative =>
    rw [hnegative] at hsign
    rw [eval, hnum]
    exact finite_eq_ok.mpr ⟨by rw [show -Number.absolute v = v from hsign]; exact h, hsign⟩
  · next hnegative =>
    rw [Bool.not_eq_true] at hnegative
    rw [hnegative] at hsign
    rw [hnum, show Number.absolute v = v from hsign]

/-- With values in the place of names an expression means the same without a scope. -/
theorem eval_withValues (h : ∀ name v, value? name = some v → v.isFinite = true) (e : Expr) :
    (e.withValues value?).eval (fun _ => none) = e.eval value? := by
  induction e with
  | num v => rfl
  | var name =>
    rw [withValues, eval]
    cases hv : value? name with
    | none => rfl
    | some v =>
      have hfinite := h name v hv
      exact (eval_ofValue hfinite _).trans (finite_eq_ok.mpr ⟨hfinite, rfl⟩).symm
  | neg a ih => rw [withValues, eval, eval, ih]
  | add a b iha ihb => rw [withValues, eval, eval, iha, ihb]
  | sub a b iha ihb => rw [withValues, eval, eval, iha, ihb]
  | mul a b iha ihb => rw [withValues, eval, eval, iha, ihb]
  | div a b iha ihb => rw [withValues, eval, eval, iha, ihb]

end

/-! ## The text with values -/

theorem isNumeric_of_mem_digitsText {v : Float} : ∀ c ∈ Number.digitsText v, isNumeric c = true := by
  obtain ⟨c, rest, heq, hc, hrest⟩ := Number.exists_cons_digitsText v
  rw [heq]
  refine List.forall_mem_cons.mpr ⟨by rw [isNumeric, hc, Bool.true_or], fun d hd => ?_⟩
  rcases hrest d hd with hd | rfl
  · rw [isNumeric, hd, Bool.true_or]
  · rfl

theorem isLiteral_digitsText (v : Float) : IsLiteral (Number.digitsText v) := by
  obtain ⟨c, rest, heq, -⟩ := Number.exists_cons_digitsText v
  exact ⟨Number.digitsText v, [], (List.append_nil _).symm, by rw [heq]; exact List.cons_ne_nil _ _,
    isNumeric_of_mem_digitsText, .inl rfl⟩

theorem spells_valueText {v : Float} (hv : v.isFinite = true) {t : Text} {us : List Token}
    (h : Spells t us) : Spells (Scope.valueText v ++ t) (Token.ofValue v ++ us) := by
  have hclose : Spells (')' :: t) (.closeParen :: us) := .sign rfl h
  have hdigits := Spells.num (isLiteral_digitsText v) (Number.readLiteral?_digitsText hv)
    (parts_cons (by decide) (by decide) t) hclose
  have htext : Scope.valueText v ++ t = '(' :: (Number.plain v ++ ')' :: t) := by
    simp [Scope.valueText]
  rw [htext, Number.plain_eq hv, Token.ofValue]
  split
  · exact .sign rfl (.sign rfl hdigits)
  · exact .sign rfl hdigits

end Expr

namespace Scope
open Equate.Expr

variable {s : Scope} {t : Text}

/-- Where names are replaced in a text they are replaced among its tokens. -/
theorem Valid.spells_substitute (h : s.Valid) {us : List Token} (ht : Spells t us) :
    Spells (s.substitute t) (us.flatMap (Token.withValues s.value?)) := by
  unfold Scope.substitute
  induction ht with
  | nil => rw [Name.substitute_nil]; exact .nil
  | @gap c t us hc _ ih =>
    obtain ⟨hstart, hnumber, -⟩ := isStart_of_isGap hc
    rw [Name.substitute_cons hstart hnumber]
    exact .gap hc ih
  | @num l t us v hl hv hparts _ ih =>
    rw [Name.substitute_append_literal hl hparts]
    exact .num hl hv (Name.parts_substitute hparts) ih
  | @name w t us hw hparts _ ih =>
    rw [Name.substitute_append_word hw fun _ _ => hparts.isContinue, List.flatMap_cons,
      Token.withValues]
    cases hv : s.value? w with
    | none => exact .name hw (Name.parts_substitute hparts) ih
    | some v =>
      obtain ⟨p, hp, -, rfl⟩ := h.value?_eq_some.mp hv
      exact spells_valueText (h.finite p hp) ih
  | @sign c t us token hc _ ih =>
    obtain ⟨hstart, hnumber, htoken, -⟩ := isStart_of_sign? hc
    rw [Name.substitute_cons hstart hnumber, flatMap_withValues_cons s.value? htoken]
    exact .sign hc ih

/-- Every expression has the same value, or the same complaint, with the values of a scope
written into it as it has in the scope. -/
theorem evaluate_substitute (h : s.Reachable) {e : Expr} (hparse : Expr.parse t = .ok e) :
    Expr.evaluate empty.value? (s.substitute t) = Expr.evaluate s.value? t := by
  obtain ⟨us, hus, hderives⟩ := parse_eq_ok_iff_spells.mp hparse
  have hsubstitute : Expr.parse (s.substitute t) = .ok (e.withValues s.value?) :=
    parse_eq_ok_iff_spells.mpr ⟨_, h.valid.spells_substitute hus, hderives.withValues s.value?⟩
  have hfinite : ∀ name v, s.value? name = some v → v.isFinite = true := by
    intro name v hv
    obtain ⟨p, hp, -, rfl⟩ := h.valid.value?_eq_some.mp hv
    exact h.valid.finite p hp
  have hempty : empty.value? = fun _ => none := by
    funext name
    exact Reachable.empty.valid.value?_eq_none.mpr List.not_mem_nil
  rw [Expr.evaluate, Expr.evaluate, hsubstitute, hparse, ok_bind, ok_bind, hempty,
    eval_withValues hfinite]

/-- For instance a negative value behind a minus sign. -/
theorem evaluate_substitute_negative :
    ∃ s : Scope, s.Reachable ∧ s.value? "g" = some (-9.8) ∧ s.substitute "2-g" = "2-(-9.8)" ∧
      Expr.parse "2-g" = .ok (.sub (.num 2) (.var "g")) ∧
      Expr.evaluate empty.value? (s.substitute "2-g") = Expr.evaluate s.value? "2-g" := by
  have hnegative : Expr.parse "-9.8" = .ok (.neg (.num 9.8)) :=
    have h := Derives.expr (.term (.negative (.unary (.num 9.8))) .productsEnd) .sumsEnd
    parse_eq_ok.mpr ⟨[(0, .minus), (1, .num 9.8)], eq_ok_of_toOption (by decide +kernel), h⟩
  have hdifference : Expr.parse "2-g" = .ok (.sub (.num 2) (.var "g")) :=
    have h := Derives.expr (.term (.unary (.num 2)) .productsEnd)
      (.minus (.term (.unary (.name "g")) .productsEnd) .sumsEnd)
    parse_eq_ok.mpr ⟨[(0, .num 2), (1, .minus), (2, .name "g")],
      eq_ok_of_toOption (by decide +kernel), h⟩
  have hvalue : Expr.evaluate empty.value? "-9.8" = .ok (-9.8) := by
    rw [Expr.evaluate, hnegative, ok_bind]
    have hfinite : finite 9.8 = .ok 9.8 := finite_eq_ok.mpr ⟨by decide +kernel, rfl⟩
    rw [eval, eval, hfinite, ok_bind]
    exact finite_eq_ok.mpr ⟨by decide +kernel, rfl⟩
  have hdefine : empty.define ⟨1, "g: -9.8", "g", "-9.8"⟩ =
      .ok (empty.push ⟨"g", -9.8, "-9.8", 1⟩) :=
    define_eq_ok.mpr ⟨by decide, by decide +kernel, by simp [parameter?, empty], _, hvalue, rfl⟩
  exact ⟨_, .define .empty hdefine, by decide +kernel, by decide +kernel, hdifference,
    evaluate_substitute (.define .empty hdefine) hdifference⟩

end Scope
end Equate
