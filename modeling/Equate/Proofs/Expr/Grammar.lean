import Equate.Expr.Parser
import Equate.Proofs.Success

/-!
# The grammar of expressions

    expr    := term (('+' | '-') term)*
    term    := unary (('*' | '/') unary)*
    unary   := ('+' | '-') unary | primary
    primary := number | name | '(' expr ')'

A derivation says which tree a run of tokens has at a place of the grammar. The two places
behind a star carry the tree in front of them, so operations group to the left. Readers
take exactly the runs that derive, the longest one where several would do.
-/
namespace Equate.Expr
open Success

/-- The places of the grammar. -/
inductive Place where
  | expr
  | sums (left : Expr)
  | term
  | products (left : Expr)
  | unary
  | primary

/-- A run of tokens with its tree at a place of the grammar. -/
inductive Derives : Place → List Token → Expr → Prop
  | expr {us vs : List Token} {a e : Expr} :
      Derives .term us a → Derives (.sums a) vs e → Derives .expr (us ++ vs) e
  | sumsEnd {a : Expr} : Derives (.sums a) [] a
  | plus {us vs : List Token} {a b e : Expr} : Derives .term us b →
      Derives (.sums (.add a b)) vs e → Derives (.sums a) (.plus :: (us ++ vs)) e
  | minus {us vs : List Token} {a b e : Expr} : Derives .term us b →
      Derives (.sums (.sub a b)) vs e → Derives (.sums a) (.minus :: (us ++ vs)) e
  | term {us vs : List Token} {a e : Expr} :
      Derives .unary us a → Derives (.products a) vs e → Derives .term (us ++ vs) e
  | productsEnd {a : Expr} : Derives (.products a) [] a
  | times {us vs : List Token} {a b e : Expr} : Derives .unary us b →
      Derives (.products (.mul a b)) vs e → Derives (.products a) (.times :: (us ++ vs)) e
  | dividedBy {us vs : List Token} {a b e : Expr} : Derives .unary us b →
      Derives (.products (.div a b)) vs e → Derives (.products a) (.over :: (us ++ vs)) e
  | negative {us : List Token} {a : Expr} :
      Derives .unary us a → Derives .unary (.minus :: us) (.neg a)
  | positive {us : List Token} {a : Expr} : Derives .unary us a → Derives .unary (.plus :: us) a
  | unary {us : List Token} {a : Expr} : Derives .primary us a → Derives .unary us a
  | num (value : Float) : Derives .primary [.num value] (.num value)
  | name (word : Text) : Derives .primary [.name word] (.var word)
  | group {us : List Token} {a : Expr} :
      Derives .expr us a → Derives .primary (.openParen :: (us ++ [.closeParen])) a

/-! ## One step of each reader -/

/-- The reader of a place gives a tree and leaves the rest of the tokens. -/
def Gives : Place → List Placed → Expr → List Placed → Prop
  | .expr, ts, e, rest => ∃ h, Expr.expr ts = .ok (e, ⟨rest, h⟩)
  | .sums a, ts, e, rest => ∃ h, Expr.sums a ts = .ok (e, ⟨rest, h⟩)
  | .term, ts, e, rest => ∃ h, Expr.term ts = .ok (e, ⟨rest, h⟩)
  | .products a, ts, e, rest => ∃ h, Expr.products a ts = .ok (e, ⟨rest, h⟩)
  | .unary, ts, e, rest => ∃ h, Expr.unary ts = .ok (e, ⟨rest, h⟩)
  | .primary, ts, e, rest => ∃ h, Expr.primary ts = .ok (e, ⟨rest, h⟩)

/-- One reader after another, the second on what the first leaves. -/
theorem exists_chain {ts rest : List Placed} {e : Expr} {B : List Placed → Prop} (x : Parsed ts)
    (y : Expr → (mid : List Placed) → Continued mid)
    (hB : ∀ mid after : List Placed, mid.length < ts.length → after.length ≤ mid.length → B after) :
    (∃ h : B rest, (match x with
      | .error c => (.error c : Except EvalError (Expr × { rest // B rest }))
      | .ok (b, ⟨mid, hmid⟩) =>
        match y b mid with
        | .error c => .error c
        | .ok (whole, ⟨after, hafter⟩) => .ok (whole, ⟨after, hB mid after hmid hafter⟩)) =
          .ok (e, ⟨rest, h⟩)) ↔
      ∃ b mid, (∃ h, x = .ok (b, ⟨mid, h⟩)) ∧ ∃ h, y b mid = .ok (e, ⟨rest, h⟩) := by
  constructor
  · rintro ⟨hrest, h⟩
    split at h
    · cases h
    · next b mid hmid =>
      split at h
      · cases h
      · next whole after hafter hsecond =>
        cases h
        exact ⟨b, mid, ⟨hmid, rfl⟩, hafter, hsecond⟩
  · rintro ⟨b, mid, ⟨hmid, rfl⟩, hrest, hsecond⟩
    refine ⟨hB mid rest hmid hrest, ?_⟩
    dsimp only
    rw [hsecond]

section Steps
variable {ts rest : List Placed} {a e : Expr} {column : Nat}

theorem gives_expr : Gives .expr ts e rest ↔
    ∃ b mid, Gives .term ts b mid ∧ Gives (.sums b) mid e rest := by
  refine Iff.trans (exists_congr fun h => ?_) (exists_chain (B := fun r => r.length < ts.length)
    (Expr.term ts) Expr.sums fun _ _ _ _ => by omega)
  rewrite [Expr.expr]
  rfl

theorem gives_sums_plus : Gives (.sums a) ((column, .plus) :: ts) e rest ↔
    ∃ b mid, Gives .term ts b mid ∧ Gives (.sums (.add a b)) mid e rest := by
  refine Iff.trans (exists_congr fun h => ?_) (exists_chain (B := fun r => r.length ≤ ts.length + 1)
    (Expr.term ts) (fun b => Expr.sums (.add a b)) fun _ _ _ _ => by omega)
  rewrite [Expr.sums]
  rfl

theorem gives_sums_minus : Gives (.sums a) ((column, .minus) :: ts) e rest ↔
    ∃ b mid, Gives .term ts b mid ∧ Gives (.sums (.sub a b)) mid e rest := by
  refine Iff.trans (exists_congr fun h => ?_) (exists_chain (B := fun r => r.length ≤ ts.length + 1)
    (Expr.term ts) (fun b => Expr.sums (.sub a b)) fun _ _ _ _ => by omega)
  rewrite [Expr.sums]
  rfl

theorem gives_sums_end (hplus : ∀ column more, ts ≠ (column, .plus) :: more)
    (hminus : ∀ column more, ts ≠ (column, .minus) :: more) :
    Gives (.sums a) ts e rest ↔ e = a ∧ rest = ts := by
  have hstop : Expr.sums a ts = .ok (a, ⟨ts, Nat.le_refl _⟩) := by
    rw [Expr.sums]
    · exact hplus
    · exact hminus
  constructor
  · rintro ⟨hlen, heq⟩
    rw [hstop] at heq
    cases heq
    exact ⟨rfl, rfl⟩
  · rintro ⟨rfl, rfl⟩
    exact ⟨Nat.le_refl _, hstop⟩

theorem gives_term : Gives .term ts e rest ↔
    ∃ b mid, Gives .unary ts b mid ∧ Gives (.products b) mid e rest := by
  refine Iff.trans (exists_congr fun h => ?_) (exists_chain (B := fun r => r.length < ts.length)
    (Expr.unary ts) Expr.products fun _ _ _ _ => by omega)
  rewrite [Expr.term]
  rfl

theorem gives_products_times : Gives (.products a) ((column, .times) :: ts) e rest ↔
    ∃ b mid, Gives .unary ts b mid ∧ Gives (.products (.mul a b)) mid e rest := by
  refine Iff.trans (exists_congr fun h => ?_) (exists_chain (B := fun r => r.length ≤ ts.length + 1)
    (Expr.unary ts) (fun b => Expr.products (.mul a b)) fun _ _ _ _ => by omega)
  rewrite [Expr.products]
  rfl

theorem gives_products_over : Gives (.products a) ((column, .over) :: ts) e rest ↔
    ∃ b mid, Gives .unary ts b mid ∧ Gives (.products (.div a b)) mid e rest := by
  refine Iff.trans (exists_congr fun h => ?_) (exists_chain (B := fun r => r.length ≤ ts.length + 1)
    (Expr.unary ts) (fun b => Expr.products (.div a b)) fun _ _ _ _ => by omega)
  rewrite [Expr.products]
  rfl

theorem gives_products_end (htimes : ∀ column more, ts ≠ (column, .times) :: more)
    (hover : ∀ column more, ts ≠ (column, .over) :: more) :
    Gives (.products a) ts e rest ↔ e = a ∧ rest = ts := by
  have hstop : Expr.products a ts = .ok (a, ⟨ts, Nat.le_refl _⟩) := by
    rw [Expr.products]
    · exact htimes
    · exact hover
  constructor
  · rintro ⟨hlen, heq⟩
    rw [hstop] at heq
    cases heq
    exact ⟨rfl, rfl⟩
  · rintro ⟨rfl, rfl⟩
    exact ⟨Nat.le_refl _, hstop⟩

theorem gives_unary_minus : Gives .unary ((column, .minus) :: ts) e rest ↔
    ∃ b, Gives .unary ts b rest ∧ e = .neg b := by
  constructor
  · rintro ⟨hlen, h⟩
    rw [Expr.unary] at h
    split at h
    · cases h
    · next b after hafter hunary =>
      cases h
      exact ⟨b, ⟨hafter, hunary⟩, rfl⟩
  · rintro ⟨b, ⟨hrest, h⟩, rfl⟩
    exact ⟨by simp only [List.length_cons]; omega, by rw [Expr.unary, h]⟩

theorem gives_unary_plus : Gives .unary ((column, .plus) :: ts) e rest ↔ Gives .unary ts e rest := by
  constructor
  · rintro ⟨hlen, h⟩
    rw [Expr.unary] at h
    split at h
    · cases h
    · next b after hafter hunary =>
      cases h
      exact ⟨hafter, hunary⟩
  · rintro ⟨hrest, h⟩
    exact ⟨by simp only [List.length_cons]; omega, by rw [Expr.unary, h]⟩

theorem gives_unary_primary (hminus : ∀ column more, ts ≠ (column, .minus) :: more)
    (hplus : ∀ column more, ts ≠ (column, .plus) :: more) :
    Gives .unary ts e rest ↔ Gives .primary ts e rest := by
  have hprimary : Expr.unary ts = Expr.primary ts := by
    rw [Expr.unary]
    · exact hminus
    · exact hplus
  exact exists_congr fun _ => by rw [hprimary]

theorem gives_primary : Gives .primary ts e rest ↔
    (∃ column value, ts = (column, .num value) :: rest ∧ e = .num value) ∨
    (∃ column word, ts = (column, .name word) :: rest ∧ e = .var word) ∨
    (∃ column column' inner, ts = (column, .openParen) :: inner ∧
      Gives .expr inner e ((column', .closeParen) :: rest)) := by
  constructor
  · rintro ⟨hlen, h⟩
    unfold Expr.primary at h
    split at h
    · next column value after =>
      cases h
      exact .inl ⟨column, value, rfl, rfl⟩
    · next column word after =>
      cases h
      exact .inr (.inl ⟨column, word, rfl, rfl⟩)
    · next column inner =>
      split at h
      · cases h
      · cases h
      · next whole column' token after hafter hexpr =>
        split at h
        · cases h
          exact .inr (.inr ⟨column, column', inner, rfl, _, hexpr⟩)
        · cases h
    · cases h
    · cases h
  · rintro (⟨column, value, rfl, rfl⟩ | ⟨column, word, rfl, rfl⟩ |
      ⟨column, column', inner, rfl, hinner, h⟩)
    · exact ⟨by simp, by rw [Expr.primary]⟩
    · exact ⟨by simp, by rw [Expr.primary]⟩
    · refine ⟨by simp only [List.length_cons] at hinner ⊢; omega, ?_⟩
      rw [Expr.primary, h]

theorem Gives.length_le {p : Place} (h : Gives p ts e rest) : rest.length ≤ ts.length := by
  cases p with
  | sums => exact h.1
  | products => exact h.1
  | _ => exact Nat.le_of_lt h.1

end Steps

/-! ## What is read derives -/

/-- What the reader of a place takes from a list of tokens derives there. -/
def Sound (p : Place) (ts : List Placed) : Prop :=
  ∀ e rest, Gives p ts e rest → ∃ us, ts = us ++ rest ∧ Derives p (us.map Prod.snd) e

section Soundness
variable {ts : List Placed}

/-- What one reader and then another take derives in two runs, one behind the other. -/
theorem exists_runs {q : Place} {p : Expr → Place} {rest : List Placed} {e : Expr} (hq : Sound q ts)
    (hp : ∀ b mid, Gives q ts b mid → Sound (p b) mid)
    (h : ∃ b mid, Gives q ts b mid ∧ Gives (p b) mid e rest) :
    ∃ b us vs, ts = (us ++ vs) ++ rest ∧ Derives q (us.map Prod.snd) b ∧
      Derives (p b) (vs.map Prod.snd) e := by
  obtain ⟨b, mid, hfirst, hsecond⟩ := h
  obtain ⟨us, rfl, hus⟩ := hq b mid hfirst
  obtain ⟨vs, rfl, hvs⟩ := hp b mid hfirst e rest hsecond
  exact ⟨b, us, vs, (List.append_assoc ..).symm, hus, hvs⟩

variable (ih : ∀ p ts', ts'.length < ts.length → Sound p ts')
include ih

theorem sound_sums (a : Expr) : Sound (.sums a) ts := by
  intro e rest h
  by_cases hplus : ∃ column more, ts = (column, .plus) :: more
  · obtain ⟨column, more, rfl⟩ := hplus
    obtain ⟨b, us, vs, rfl, hus, hvs⟩ := exists_runs (ih _ more (Nat.lt_succ_self _))
      (fun b mid hb => ih _ mid (Nat.lt_succ_of_le hb.length_le)) (gives_sums_plus.mp h)
    refine ⟨(column, .plus) :: (us ++ vs), rfl, ?_⟩
    rw [List.map_cons, List.map_append]
    exact .plus hus hvs
  · by_cases hminus : ∃ column more, ts = (column, .minus) :: more
    · obtain ⟨column, more, rfl⟩ := hminus
      obtain ⟨b, us, vs, rfl, hus, hvs⟩ := exists_runs (ih _ more (Nat.lt_succ_self _))
        (fun b mid hb => ih _ mid (Nat.lt_succ_of_le hb.length_le)) (gives_sums_minus.mp h)
      refine ⟨(column, .minus) :: (us ++ vs), rfl, ?_⟩
      rw [List.map_cons, List.map_append]
      exact .minus hus hvs
    · obtain ⟨rfl, rfl⟩ := (gives_sums_end (fun column more heq => hplus ⟨column, more, heq⟩)
        fun column more heq => hminus ⟨column, more, heq⟩).mp h
      exact ⟨[], rfl, .sumsEnd⟩

theorem sound_products (a : Expr) : Sound (.products a) ts := by
  intro e rest h
  by_cases htimes : ∃ column more, ts = (column, .times) :: more
  · obtain ⟨column, more, rfl⟩ := htimes
    obtain ⟨b, us, vs, rfl, hus, hvs⟩ := exists_runs (ih _ more (Nat.lt_succ_self _))
      (fun b mid hb => ih _ mid (Nat.lt_succ_of_le hb.length_le)) (gives_products_times.mp h)
    refine ⟨(column, .times) :: (us ++ vs), rfl, ?_⟩
    rw [List.map_cons, List.map_append]
    exact .times hus hvs
  · by_cases hover : ∃ column more, ts = (column, .over) :: more
    · obtain ⟨column, more, rfl⟩ := hover
      obtain ⟨b, us, vs, rfl, hus, hvs⟩ := exists_runs (ih _ more (Nat.lt_succ_self _))
        (fun b mid hb => ih _ mid (Nat.lt_succ_of_le hb.length_le)) (gives_products_over.mp h)
      refine ⟨(column, .over) :: (us ++ vs), rfl, ?_⟩
      rw [List.map_cons, List.map_append]
      exact .dividedBy hus hvs
    · obtain ⟨rfl, rfl⟩ := (gives_products_end (fun column more heq => htimes ⟨column, more, heq⟩)
        fun column more heq => hover ⟨column, more, heq⟩).mp h
      exact ⟨[], rfl, .productsEnd⟩

theorem sound_primary : Sound .primary ts := by
  intro e rest h
  rcases gives_primary.mp h with ⟨column, value, rfl, rfl⟩ | ⟨column, word, rfl, rfl⟩ |
    ⟨column, column', inner, rfl, hinner⟩
  · exact ⟨[(column, .num value)], rfl, .num value⟩
  · exact ⟨[(column, .name word)], rfl, .name word⟩
  · obtain ⟨us, hus, hexpr⟩ := ih .expr inner (Nat.lt_succ_self _) e _ hinner
    refine ⟨(column, .openParen) :: (us ++ [(column', .closeParen)]), by simp [hus], ?_⟩
    rw [List.map_cons, List.map_append]
    exact .group hexpr

theorem sound_unary : Sound .unary ts := by
  intro e rest h
  by_cases hminus : ∃ column more, ts = (column, .minus) :: more
  · obtain ⟨column, more, rfl⟩ := hminus
    obtain ⟨b, hunary, rfl⟩ := gives_unary_minus.mp h
    obtain ⟨us, rfl, hus⟩ := ih .unary more (Nat.lt_succ_self _) b rest hunary
    exact ⟨(column, .minus) :: us, rfl, .negative hus⟩
  · by_cases hplus : ∃ column more, ts = (column, .plus) :: more
    · obtain ⟨column, more, rfl⟩ := hplus
      obtain ⟨us, rfl, hus⟩ := ih .unary more (Nat.lt_succ_self _) e rest (gives_unary_plus.mp h)
      exact ⟨(column, .plus) :: us, rfl, .positive hus⟩
    · have hprimary := (gives_unary_primary (fun column more heq => hminus ⟨column, more, heq⟩)
        fun column more heq => hplus ⟨column, more, heq⟩).mp h
      obtain ⟨us, hts, hus⟩ := sound_primary ih e rest hprimary
      exact ⟨us, hts, .unary hus⟩

theorem sound_term : Sound .term ts := by
  intro e rest h
  obtain ⟨b, us, vs, hts, hus, hvs⟩ := exists_runs (sound_unary ih)
    (fun b mid hb => ih (.products b) mid hb.1) (gives_term.mp h)
  refine ⟨us ++ vs, hts, ?_⟩
  rw [List.map_append]
  exact .term hus hvs

theorem sound_expr : Sound .expr ts := by
  intro e rest h
  obtain ⟨b, us, vs, hts, hus, hvs⟩ := exists_runs (sound_term ih)
    (fun b mid hb => ih (.sums b) mid hb.1) (gives_expr.mp h)
  refine ⟨us ++ vs, hts, ?_⟩
  rw [List.map_append]
  exact .expr hus hvs

end Soundness

/-- Whatever a reader takes derives at its place. -/
theorem derives_of_gives {p : Place} {ts rest : List Placed} {e : Expr} (h : Gives p ts e rest) :
    ∃ us, ts = us ++ rest ∧ Derives p (us.map Prod.snd) e := by
  have hall : ∀ n p (ts : List Placed), ts.length < n → Sound p ts := by
    intro n
    induction n with
    | zero => exact fun p ts hlen => absurd hlen (Nat.not_lt_zero _)
    | succ n ih =>
      intro p ts hlen
      have hshorter : ∀ p ts', ts'.length < ts.length → Sound p ts' := fun p ts' hlen' =>
        ih p ts' (Nat.lt_of_lt_of_le hlen' (Nat.le_of_lt_succ hlen))
      cases p with
      | expr => exact sound_expr hshorter
      | sums a => exact sound_sums hshorter a
      | term => exact sound_term hshorter
      | products a => exact sound_products hshorter a
      | unary => exact sound_unary hshorter
      | primary => exact sound_primary hshorter
  exact hall _ p ts (Nat.lt_succ_self _) e rest h

/-! ## What derives is read -/

/-- No token that a place of the grammar could go on with stands in front. -/
def Stops : Place → List Placed → Prop
  | .expr, rest => ∀ t more, rest = t :: more → t.2 ∉ [.plus, .minus, .times, .over]
  | .sums _, rest => ∀ t more, rest = t :: more → t.2 ∉ [.plus, .minus, .times, .over]
  | .term, rest => ∀ t more, rest = t :: more → t.2 ∉ [.times, .over]
  | .products _, rest => ∀ t more, rest = t :: more → t.2 ∉ [.times, .over]
  | .unary, _ => True
  | .primary, _ => True

theorem derives_sums_starts {a e : Expr} {us : List Token} (h : Derives (.sums a) us e) :
    us = [] ∨ ∃ more, us = .plus :: more ∨ us = .minus :: more := by
  cases h with
  | sumsEnd => exact .inl rfl
  | plus => exact .inr ⟨_, .inl rfl⟩
  | minus => exact .inr ⟨_, .inr rfl⟩

theorem derives_products_starts {a e : Expr} {us : List Token} (h : Derives (.products a) us e) :
    us = [] ∨ ∃ more, us = .times :: more ∨ us = .over :: more := by
  cases h with
  | productsEnd => exact .inl rfl
  | times => exact .inr ⟨_, .inl rfl⟩
  | dividedBy => exact .inr ⟨_, .inr rfl⟩

theorem derives_primary_starts {e : Expr} {us : List Token} (h : Derives .primary us e) :
    ∃ t more, us = t :: more ∧ t ≠ .plus ∧ t ≠ .minus := by
  cases h with
  | num => exact ⟨_, _, rfl, nofun, nofun⟩
  | name => exact ⟨_, _, rfl, nofun, nofun⟩
  | group => exact ⟨_, _, rfl, nofun, nofun⟩

/-- A term ends where the sums behind it, or what stops them, begin. -/
theorem stops_term_append {a e : Expr} {ts rest : List Placed}
    (h : Derives (.sums a) (ts.map Prod.snd) e) (hrest : Stops .expr rest) :
    Stops .term (ts ++ rest) := by
  intro t more heq
  cases ts with
  | nil =>
    have := hrest t more heq
    simp_all
  | cons s ts =>
    obtain rfl : s = t := (List.cons.inj heq).1
    rcases derives_sums_starts h with h | ⟨_, h | h⟩
    · cases h
    · simp [(List.cons.inj h).1]
    · simp [(List.cons.inj h).1]

/-- The reader of a place takes what derives there, if nothing that it could go on with
follows. -/
theorem gives_of_derives {p : Place} {us : List Token} {e : Expr} (h : Derives p us e)
    {ts rest : List Placed} (hts : ts.map Prod.snd = us) (hrest : Stops p rest) :
    Gives p (ts ++ rest) e rest := by
  induction h generalizing ts rest with
  | expr hterm hsums ihterm ihsums =>
    obtain ⟨first, more, rfl, rfl, rfl⟩ := List.map_eq_append_iff.mp hts
    rw [List.append_assoc]
    exact gives_expr.mpr ⟨_, more ++ rest, ihterm rfl (stops_term_append hsums hrest),
      ihsums rfl hrest⟩
  | sumsEnd =>
    obtain rfl := List.map_eq_nil_iff.mp hts
    refine (gives_sums_end (fun column more heq => ?_) fun column more heq => ?_).mpr ⟨rfl, rfl⟩
    · exact absurd (hrest _ more heq) (by simp)
    · exact absurd (hrest _ more heq) (by simp)
  | plus hterm hsums ihterm ihsums =>
    obtain ⟨⟨column, token⟩, others, rfl, rfl, hothers⟩ := List.map_eq_cons_iff.mp hts
    obtain ⟨first, more, rfl, rfl, rfl⟩ := List.map_eq_append_iff.mp hothers
    rw [List.cons_append, List.append_assoc]
    exact gives_sums_plus.mpr ⟨_, more ++ rest, ihterm rfl (stops_term_append hsums hrest),
      ihsums rfl hrest⟩
  | minus hterm hsums ihterm ihsums =>
    obtain ⟨⟨column, token⟩, others, rfl, rfl, hothers⟩ := List.map_eq_cons_iff.mp hts
    obtain ⟨first, more, rfl, rfl, rfl⟩ := List.map_eq_append_iff.mp hothers
    rw [List.cons_append, List.append_assoc]
    exact gives_sums_minus.mpr ⟨_, more ++ rest, ihterm rfl (stops_term_append hsums hrest),
      ihsums rfl hrest⟩
  | term hunary hproducts ihunary ihproducts =>
    obtain ⟨first, more, rfl, rfl, rfl⟩ := List.map_eq_append_iff.mp hts
    rw [List.append_assoc]
    exact gives_term.mpr ⟨_, more ++ rest, ihunary rfl trivial, ihproducts rfl hrest⟩
  | productsEnd =>
    obtain rfl := List.map_eq_nil_iff.mp hts
    refine (gives_products_end (fun column more heq => ?_) fun column more heq => ?_).mpr ⟨rfl, rfl⟩
    · exact absurd (hrest _ more heq) (by simp)
    · exact absurd (hrest _ more heq) (by simp)
  | times hunary hproducts ihunary ihproducts =>
    obtain ⟨⟨column, token⟩, others, rfl, rfl, hothers⟩ := List.map_eq_cons_iff.mp hts
    obtain ⟨first, more, rfl, rfl, rfl⟩ := List.map_eq_append_iff.mp hothers
    rw [List.cons_append, List.append_assoc]
    exact gives_products_times.mpr ⟨_, more ++ rest, ihunary rfl trivial, ihproducts rfl hrest⟩
  | dividedBy hunary hproducts ihunary ihproducts =>
    obtain ⟨⟨column, token⟩, others, rfl, rfl, hothers⟩ := List.map_eq_cons_iff.mp hts
    obtain ⟨first, more, rfl, rfl, rfl⟩ := List.map_eq_append_iff.mp hothers
    rw [List.cons_append, List.append_assoc]
    exact gives_products_over.mpr ⟨_, more ++ rest, ihunary rfl trivial, ihproducts rfl hrest⟩
  | negative hunary ih =>
    obtain ⟨⟨column, token⟩, others, rfl, rfl, hothers⟩ := List.map_eq_cons_iff.mp hts
    exact gives_unary_minus.mpr ⟨_, ih hothers trivial, rfl⟩
  | positive hunary ih =>
    obtain ⟨⟨column, token⟩, others, rfl, rfl, hothers⟩ := List.map_eq_cons_iff.mp hts
    exact gives_unary_plus.mpr (ih hothers trivial)
  | unary hprimary ih =>
    obtain ⟨t, more, hstart, hplus, hminus⟩ := derives_primary_starts hprimary
    obtain ⟨⟨column, token⟩, others, rfl, rfl, -⟩ := List.map_eq_cons_iff.mp (hts.trans hstart)
    refine (gives_unary_primary (fun column' more' heq => ?_) fun column' more' heq => ?_).mpr
      (ih hts trivial)
    · exact hminus (congrArg Prod.snd (List.cons.inj heq).1)
    · exact hplus (congrArg Prod.snd (List.cons.inj heq).1)
  | num value =>
    obtain ⟨⟨column, token⟩, others, rfl, rfl, hothers⟩ := List.map_eq_cons_iff.mp hts
    obtain rfl := List.map_eq_nil_iff.mp hothers
    exact gives_primary.mpr (.inl ⟨column, value, rfl, rfl⟩)
  | name word =>
    obtain ⟨⟨column, token⟩, others, rfl, rfl, hothers⟩ := List.map_eq_cons_iff.mp hts
    obtain rfl := List.map_eq_nil_iff.mp hothers
    exact gives_primary.mpr (.inr (.inl ⟨column, word, rfl, rfl⟩))
  | group hexpr ih =>
    obtain ⟨⟨column, token⟩, others, rfl, rfl, hothers⟩ := List.map_eq_cons_iff.mp hts
    obtain ⟨inner, closing, rfl, rfl, hclosing⟩ := List.map_eq_append_iff.mp hothers
    obtain ⟨⟨column', token'⟩, none, rfl, rfl, hnone⟩ := List.map_eq_cons_iff.mp hclosing
    obtain rfl := List.map_eq_nil_iff.mp hnone
    refine gives_primary.mpr (.inr (.inr ⟨column, column', _, rfl, ?_⟩))
    show Gives .expr ((inner ++ [(column', .closeParen)]) ++ rest) _ _
    rw [List.append_assoc]
    refine ih rfl fun t more heq => ?_
    rw [← (List.cons.inj heq).1]
    simp

/-- A text denotes an expression if its tokens derive it. -/
theorem parse_eq_ok {t : Text} {e : Expr} :
    parse t = .ok e ↔ ∃ ts, tokens 0 t = .ok ts ∧ Derives .expr (ts.map Prod.snd) e := by
  rw [parse, bind_eq_ok]
  refine exists_congr fun ts => and_congr_right fun _ => ?_
  have hgives : Gives .expr ts e [] ↔ Derives .expr (ts.map Prod.snd) e := by
    constructor
    · intro h
      obtain ⟨us, rfl, hus⟩ := derives_of_gives h
      rwa [List.append_nil]
    · intro h
      have hend : Stops .expr [] := fun t more heq => nomatch heq
      have := gives_of_derives h rfl hend
      rwa [List.append_nil] at this
  rw [← hgives]
  cases ts with
  | nil =>
    refine iff_of_false nofun fun h => ?_
    exact absurd h.1 (Nat.not_lt_zero _)
  | cons t ts =>
    dsimp only
    rw [bind_eq_ok]
    constructor
    · rintro ⟨⟨whole, rest, hrest⟩, hexpr, h⟩
      cases rest with
      | nil =>
        cases h
        exact ⟨hrest, hexpr⟩
      | cons t' rest => cases h
    · rintro ⟨hrest, hexpr⟩
      exact ⟨_, hexpr, rfl⟩

end Equate.Expr
