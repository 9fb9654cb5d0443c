import Equate.Proofs.Expr.Grammar

/-!
# The names that an expression uses

A value depends on what the names in the expression stand for and on nothing else in the
scope. Evaluation looks at all of them, so there is a value only where each has one, and a
scope that says more gives the same value.
-/
namespace Equate.Expr
open Success

/-- The names of an expression, from left to right. -/
def names : Expr → List Text
  | num _ => []
  | var name => [name]
  | neg a => a.names
  | add a b | sub a b | mul a b | div a b => a.names ++ b.names

/-- The names of the expression that a text denotes. -/
def used (t : Text) : List Text := ((parse t).toOption.map names).getD []

/-- The word of a token that is a name. -/
def Token.word? : Token → Option Text
  | .name word => some word
  | _ => none

/-- The names among the tokens of a text. -/
def words (t : Text) : List Text := ((tokens 0 t).toOption.getD []).filterMap fun x => x.2.word?

/-- The names in the tree that a place of the grammar carries along. -/
def Place.names : Place → List Text
  | .sums a | .products a => a.names
  | _ => []

/-- An expression has the names among its tokens, in their order. -/
theorem Derives.names_eq {p : Place} {us : List Token} {e : Expr} (h : Derives p us e) :
    e.names = p.names ++ us.filterMap Token.word? := by
  induction h with
  | sumsEnd | productsEnd => exact (List.append_nil _).symm
  | num value => rfl
  | name word => rfl
  | unary _ ih | positive _ ih | negative _ ih => exact ih
  | group _ ih =>
    rw [ih]
    simp [Place.names, Token.word?, List.filterMap_cons]
  | expr _ _ ih ih' | term _ _ ih ih' =>
    rw [ih', List.filterMap_append]
    exact congrArg (· ++ _) ih
  | plus _ _ ih ih' | minus _ _ ih ih' | times _ _ ih ih' | dividedBy _ _ ih ih' =>
    rw [ih']
    simp [Place.names, names, ih, Token.word?, List.filterMap_cons]

theorem words_of_parse {t : Text} {e : Expr} (h : parse t = .ok e) : words t = e.names := by
  obtain ⟨ts, hts, hderives⟩ := parse_eq_ok.mp h
  rw [hderives.names_eq, words, hts, List.filterMap_map]
  rfl

variable {scope scope' : Text → Option Float}

/-- Only the names of an expression are looked up. -/
theorem eval_congr {e : Expr} (h : ∀ name ∈ e.names, scope name = scope' name) :
    e.eval scope = e.eval scope' := by
  induction e with
  | num v => rfl
  | var name => rw [eval, eval, h name List.mem_cons_self]
  | neg a ih => rw [eval, eval, ih h]
  | add a b iha ihb | sub a b iha ihb | mul a b iha ihb | div a b iha ihb =>
    obtain ⟨ha, hb⟩ := List.forall_mem_append.mp h
    rw [eval, eval, iha ha, ihb hb]

theorem exists_value_of_eval {e : Expr} {v : Float} (h : e.eval scope = .ok v) :
    ∀ name ∈ e.names, ∃ x, scope name = some x := by
  induction e generalizing v with
  | num _ => exact fun name hname => absurd hname List.not_mem_nil
  | var word =>
    intro name hname
    obtain rfl := List.mem_singleton.mp hname
    rw [eval] at h
    cases hword : scope name with
    | none => rw [hword] at h; cases h
    | some x => exact ⟨x, rfl⟩
  | neg a ih =>
    obtain ⟨x, hx, -⟩ := bind_eq_ok.mp h
    exact ih hx
  | add a b iha ihb | sub a b iha ihb | mul a b iha ihb | div a b iha ihb =>
    obtain ⟨x, hx, h⟩ := bind_eq_ok.mp h
    obtain ⟨y, hy, -⟩ := bind_eq_ok.mp h
    exact List.forall_mem_append.mpr ⟨iha hx, ihb hy⟩

section
variable {t : Text}

theorem used_of_parse {e : Expr} (h : parse t = .ok e) : used t = e.names := by
  rw [used, h]
  rfl

/-- A name that an expression uses stands among the tokens of its text. -/
theorem mem_words_of_mem_used {name : Text} (h : name ∈ used t) : name ∈ words t := by
  unfold used at h
  cases hparse : parse t with
  | error complaint =>
    rw [hparse] at h
    exact absurd h List.not_mem_nil
  | ok e =>
    rw [hparse] at h
    rw [words_of_parse hparse]
    exact h

theorem evaluate_congr (h : ∀ name ∈ used t, scope name = scope' name) :
    evaluate scope t = evaluate scope' t := by
  unfold evaluate
  cases hparse : parse t with
  | error complaint => rfl
  | ok e => exact eval_congr (used_of_parse hparse ▸ h)

theorem exists_value_of_evaluate {v : Float} (h : evaluate scope t = .ok v) :
    ∀ name ∈ used t, ∃ x, scope name = some x := by
  obtain ⟨e, hparse, heval⟩ := bind_eq_ok.mp h
  rw [used_of_parse hparse]
  exact exists_value_of_eval heval

/-- What has a value keeps it in a scope that says more. -/
theorem evaluate_of_extends {v : Float} (h : evaluate scope t = .ok v)
    (hextends : ∀ name x, scope name = some x → scope' name = some x) :
    evaluate scope' t = .ok v := by
  rw [← h]
  refine evaluate_congr fun name hname => ?_
  obtain ⟨x, hx⟩ := exists_value_of_evaluate h name hname
  rw [hx, hextends name x hx]

end
end Equate.Expr
