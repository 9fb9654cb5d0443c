import Equate.Proofs.Expr.Grammar

/-!
# Expressions as phrases

The grammar of expressions once more, as it is written down:

    expr    := term (('+' | '-') term)*
    term    := unary (('*' | '/') unary)*
    unary   := ('+' | '-') unary | primary
    primary := number | name | '(' expr ')'

A phrase is a run of tokens that a rule allows, with its tree. A star stands for any number
of operands, each behind its sign, and they are joined to what is in front of them from the
left. `Derives` reads the same language with the tree so far carried along, and since it
says what the readers take, a text denotes an expression exactly if its tokens are a phrase.
-/
namespace Equate.Expr
open Success

/-- The rules of the grammar. -/
inductive Rule where
  | expr
  | term
  | unary
  | primary

/-- The signs between operands. -/
inductive Sign where
  | plus
  | minus
  | times
  | over

/-- A sign among tokens. -/
def Sign.token : Sign → Token
  | .plus => .plus
  | .minus => .minus
  | .times => .times
  | .over => .over

/-- The tree of two operands with a sign between them. -/
def Sign.join : Sign → Expr → Expr → Expr
  | .plus => .add
  | .minus => .sub
  | .times => .mul
  | .over => .div

/-- An operand behind another one: its sign, its own tokens and its tree. -/
structure Operand where
  sign : Sign
  tokens : List Token
  tree : Expr

/-- The tokens of an operand with the sign in front. -/
def Operand.span (x : Operand) : List Token := x.sign.token :: x.tokens

/-- The tree of an operand joined to what is in front of it. -/
def Operand.joinTo (left : Expr) (x : Operand) : Expr := x.sign.join left x.tree

/-- The tokens that a rule allows, and their tree. -/
inductive Phrase : Rule → List Token → Expr → Prop
  | expr {first : List Token} {a : Expr} (more : List Operand) : Phrase .term first a →
      (∀ x ∈ more, x.sign = .plus ∨ x.sign = .minus) →
      (∀ x ∈ more, Phrase .term x.tokens x.tree) →
      Phrase .expr (first ++ more.flatMap Operand.span) (more.foldl Operand.joinTo a)
  | term {first : List Token} {a : Expr} (more : List Operand) : Phrase .unary first a →
      (∀ x ∈ more, x.sign = .times ∨ x.sign = .over) →
      (∀ x ∈ more, Phrase .unary x.tokens x.tree) →
      Phrase .term (first ++ more.flatMap Operand.span) (more.foldl Operand.joinTo a)
  | positive {us : List Token} {a : Expr} : Phrase .unary us a → Phrase .unary (.plus :: us) a
  | negative {us : List Token} {a : Expr} :
      Phrase .unary us a → Phrase .unary (.minus :: us) (.neg a)
  | primary {us : List Token} {a : Expr} : Phrase .primary us a → Phrase .unary us a
  | num (value : Float) : Phrase .primary [.num value] (.num value)
  | name (word : Text) : Phrase .primary [.name word] (.var word)
  | group {us : List Token} {a : Expr} :
      Phrase .expr us a → Phrase .primary (.openParen :: (us ++ [.closeParen])) a

/-! ## Phrases derive -/

/-- The place where what a rule allows is read. -/
def Rule.place : Rule → Place
  | expr => .expr
  | term => .term
  | unary => .unary
  | primary => .primary

/-- The place of a star is left once all of its operands have been joined. -/
theorem derives_star {place : Place} {star : Expr → Place} {more : List Operand}
    (hend : ∀ a, Derives (star a) [] a)
    (hstep : ∀ x ∈ more, ∀ {a e us}, Derives place x.tokens x.tree →
      Derives (star (x.joinTo a)) us e → Derives (star a) (x.span ++ us) e)
    (h : ∀ x ∈ more, Derives place x.tokens x.tree) (a : Expr) :
    Derives (star a) (more.flatMap Operand.span) (more.foldl Operand.joinTo a) := by
  induction more generalizing a with
  | nil => exact hend a
  | cons x more ih =>
    obtain ⟨hx, h⟩ := List.forall_mem_cons.mp h
    obtain ⟨hstepx, hstep⟩ := List.forall_mem_cons.mp hstep
    exact hstepx hx (ih hstep h (x.joinTo a))

theorem derives_sums {more : List Operand} (hsign : ∀ x ∈ more, x.sign = .plus ∨ x.sign = .minus)
    (h : ∀ x ∈ more, Derives .term x.tokens x.tree) (a : Expr) :
    Derives (.sums a) (more.flatMap Operand.span) (more.foldl Operand.joinTo a) := by
  refine derives_star (fun _ => .sumsEnd) (fun x hx _ _ _ hfirst hrest => ?_) h a
  obtain ⟨sign, us, b⟩ := x
  rcases hsign _ hx with rfl | rfl
  · exact .plus hfirst hrest
  · exact .minus hfirst hrest

theorem derives_products {more : List Operand}
    (hsign : ∀ x ∈ more, x.sign = .times ∨ x.sign = .over)
    (h : ∀ x ∈ more, Derives .unary x.tokens x.tree) (a : Expr) :
    Derives (.products a) (more.flatMap Operand.span) (more.foldl Operand.joinTo a) := by
  refine derives_star (fun _ => .productsEnd) (fun x hx _ _ _ hfirst hrest => ?_) h a
  obtain ⟨sign, us, b⟩ := x
  rcases hsign _ hx with rfl | rfl
  · exact .times hfirst hrest
  · exact .dividedBy hfirst hrest

theorem derives_of_phrase {r : Rule} {us : List Token} {e : Expr} (h : Phrase r us e) :
    Derives r.place us e := by
  induction h with
  | expr more _ hsign _ ihfirst ihmore => exact .expr ihfirst (derives_sums hsign ihmore _)
  | term more _ hsign _ ihfirst ihmore => exact .term ihfirst (derives_products hsign ihmore _)
  | positive _ ih => exact .positive ih
  | negative _ ih => exact .negative ih
  | primary _ ih => exact .unary ih
  | num value => exact .num value
  | name word => exact .name word
  | group _ ih => exact .group ih

/-! ## What derives is a phrase -/

/-- What stands at a place as phrases: at a star, operands that are joined to the tree so far. -/
def Place.Holds : Place → List Token → Expr → Prop
  | .expr, us, e => Phrase .expr us e
  | .sums a, us, e => ∃ more : List Operand, (∀ x ∈ more, x.sign = .plus ∨ x.sign = .minus) ∧
      (∀ x ∈ more, Phrase .term x.tokens x.tree) ∧ us = more.flatMap Operand.span ∧
      e = more.foldl Operand.joinTo a
  | .term, us, e => Phrase .term us e
  | .products a, us, e => ∃ more : List Operand, (∀ x ∈ more, x.sign = .times ∨ x.sign = .over) ∧
      (∀ x ∈ more, Phrase .unary x.tokens x.tree) ∧ us = more.flatMap Operand.span ∧
      e = more.foldl Operand.joinTo a
  | .unary, us, e => Phrase .unary us e
  | .primary, us, e => Phrase .primary us e

theorem holds_sums_cons {a e : Expr} {us : List Token} {x : Operand}
    (hsign : x.sign = .plus ∨ x.sign = .minus) (hx : Phrase .term x.tokens x.tree)
    (h : Place.Holds (.sums (x.joinTo a)) us e) : Place.Holds (.sums a) (x.span ++ us) e := by
  obtain ⟨more, hsigns, hmore, rfl, rfl⟩ := h
  exact ⟨x :: more, List.forall_mem_cons.mpr ⟨hsign, hsigns⟩, List.forall_mem_cons.mpr ⟨hx, hmore⟩,
    rfl, rfl⟩

theorem holds_products_cons {a e : Expr} {us : List Token} {x : Operand}
    (hsign : x.sign = .times ∨ x.sign = .over) (hx : Phrase .unary x.tokens x.tree)
    (h : Place.Holds (.products (x.joinTo a)) us e) :
    Place.Holds (.products a) (x.span ++ us) e := by
  obtain ⟨more, hsigns, hmore, rfl, rfl⟩ := h
  exact ⟨x :: more, List.forall_mem_cons.mpr ⟨hsign, hsigns⟩, List.forall_mem_cons.mpr ⟨hx, hmore⟩,
    rfl, rfl⟩

theorem holds_of_derives {p : Place} {us : List Token} {e : Expr} (h : Derives p us e) :
    p.Holds us e := by
  induction h with
  | expr _ _ ihfirst ihmore =>
    obtain ⟨more, hsign, hmore, rfl, rfl⟩ := ihmore
    exact .expr more ihfirst hsign hmore
  | sumsEnd => exact ⟨[], nofun, nofun, rfl, rfl⟩
  | plus _ _ ihx ihmore => exact holds_sums_cons (x := ⟨.plus, _, _⟩) (.inl rfl) ihx ihmore
  | minus _ _ ihx ihmore => exact holds_sums_cons (x := ⟨.minus, _, _⟩) (.inr rfl) ihx ihmore
  | term _ _ ihfirst ihmore =>
    obtain ⟨more, hsign, hmore, rfl, rfl⟩ := ihmore
    exact .term more ihfirst hsign hmore
  | productsEnd => exact ⟨[], nofun, nofun, rfl, rfl⟩
  | times _ _ ihx ihmore => exact holds_products_cons (x := ⟨.times, _, _⟩) (.inl rfl) ihx ihmore
  | dividedBy _ _ ihx ihmore => exact holds_products_cons (x := ⟨.over, _, _⟩) (.inr rfl) ihx ihmore
  | negative _ ih => exact .negative ih
  | positive _ ih => exact .positive ih
  | unary _ ih => exact .primary ih
  | num value => exact .num value
  | name word => exact .name word
  | group _ ih => exact .group ih

theorem phrase_iff_derives {us : List Token} {e : Expr} : Phrase .expr us e ↔ Derives .expr us e :=
  ⟨derives_of_phrase, holds_of_derives⟩

/-! ## Texts -/

/-- Tokens have one tree at most. -/
theorem derives_unique {us : List Token} {e e' : Expr} (h : Derives .expr us e)
    (h' : Derives .expr us e') : e = e' := by
  have hplaced : (us.map fun u => ((0, u) : Placed)).map Prod.snd = us := by
    rw [List.map_map]
    exact List.map_id us
  have hend : Stops .expr [] := fun _ _ heq => nomatch heq
  obtain ⟨_, hgives⟩ := gives_of_derives h hplaced hend
  obtain ⟨_, hgives'⟩ := gives_of_derives h' hplaced hend
  exact congrArg Prod.fst (Except.ok.inj (hgives.symm.trans hgives'))

/-- The first token behind an expression is the one that is complained about. -/
theorem parse_of_trailing {t : Text} {us vs : List Placed} {v : Placed} {e : Expr}
    (ht : tokens 0 t = .ok (us ++ v :: vs)) (h : Derives .expr (us.map Prod.snd) e)
    (hv : v.2 ∉ [.plus, .minus, .times, .over]) : parse t = .error (unexpected v) := by
  have hstop : Stops .expr (v :: vs) := by
    intro w more heq
    rwa [← (List.cons.inj heq).1]
  obtain ⟨hlen, hgives⟩ := gives_of_derives h rfl hstop
  rw [parse, ht, ok_bind]
  split
  · next hnil => exact absurd hnil (List.append_ne_nil_of_right_ne_nil us (List.cons_ne_nil v vs))
  · rw [hgives]
    rfl

/-- A text denotes an expression exactly if its tokens are a phrase with that tree, of which
they have one at most. Every other text is refused: one without tokens as empty, one with
further tokens behind an expression at the first of them. -/
theorem parse_eq_ok_iff_phrase (t : Text) :
    (∀ e, parse t = .ok e ↔ ∃ ts, tokens 0 t = .ok ts ∧ Phrase .expr (ts.map Prod.snd) e) ∧
    (∀ us e e', Phrase .expr us e → Phrase .expr us e' → e = e') ∧
    ((¬ ∃ ts e, tokens 0 t = .ok ts ∧ Phrase .expr (ts.map Prod.snd) e) →
      ∃ complaint, parse t = .error complaint) ∧
    (tokens 0 t = .ok [] → parse t = .error .empty) ∧
    ∀ us v vs e, tokens 0 t = .ok (us ++ v :: vs) → Phrase .expr (us.map Prod.snd) e →
      v.2 ∉ [.plus, .minus, .times, .over] → parse t = .error (unexpected v) := by
  have hparse : ∀ e, parse t = .ok e ↔
      ∃ ts, tokens 0 t = .ok ts ∧ Phrase .expr (ts.map Prod.snd) e := by
    intro e
    simp only [phrase_iff_derives]
    exact parse_eq_ok
  refine ⟨hparse, fun us e e' h h' => ?_, fun hnone => ?_, fun hempty => ?_,
    fun us v vs e ht h hv => ?_⟩
  · exact derives_unique (phrase_iff_derives.mp h) (phrase_iff_derives.mp h')
  · cases heq : parse t with
    | error complaint => exact ⟨complaint, rfl⟩
    | ok e =>
      obtain ⟨ts, hts, hphrase⟩ := (hparse e).mp heq
      exact absurd ⟨ts, e, hts, hphrase⟩ hnone
  · rw [parse, hempty, ok_bind]
  · exact parse_of_trailing ht (phrase_iff_derives.mp h) hv

end Equate.Expr
