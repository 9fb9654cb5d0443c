/-!
# Steps that may fail

A run of several steps succeeds exactly if each of them does, with the results handed on.
The lemmas here take such a run apart; they are about any kind of failure. A run that fails
does so with the failure of one of its steps.
-/
namespace Equate.Success
variable {ε α β : Type}

@[simp] theorem pure_eq (a : α) : (pure a : Except ε α) = .ok a := rfl

@[simp] theorem ok_bind (a : α) (f : α → Except ε β) : (Except.ok a >>= f) = f a := rfl

@[simp] theorem error_bind (e : ε) (f : α → Except ε β) : (Except.error e >>= f) = .error e := rfl

@[simp] theorem map_ok (a : α) (f : α → β) : Except.map f (.ok a : Except ε α) = .ok (f a) := rfl

@[simp] theorem map_error (e : ε) (f : α → β) :
    Except.map f (.error e : Except ε α) = .error e := rfl

theorem eq_ok_of_toOption {x : Except ε α} {a : α} (h : x.toOption = some a) : x = .ok a := by
  cases x with
  | error e => cases h
  | ok b => exact congrArg Except.ok (Option.some.inj h)

theorem bind_eq_ok {x : Except ε α} {f : α → Except ε β} {b : β} :
    (x >>= f) = .ok b ↔ ∃ a, x = .ok a ∧ f a = .ok b := by
  constructor
  · intro h
    cases x with
    | error e => cases h
    | ok a => exact ⟨a, rfl, h⟩
  · rintro ⟨a, rfl, h⟩
    exact h

theorem map_eq_ok {x : Except ε α} {f : α → β} {b : β} :
    Except.map f x = .ok b ↔ ∃ a, x = .ok a ∧ f a = b := by
  constructor
  · intro h
    cases x with
    | error e => cases h
    | ok a => exact ⟨a, rfl, Except.ok.inj h⟩
  · rintro ⟨a, rfl, rfl⟩
    rfl

/-- A check of all members succeeds if it succeeds for each. -/
theorem forM_eq_ok {xs : List α} {f : α → Except ε PUnit} :
    xs.forM f = .ok () ↔ ∀ x ∈ xs, f x = .ok () := by
  induction xs with
  | nil => exact ⟨fun _ _ h => absurd h List.not_mem_nil, fun _ => rfl⟩
  | cons x xs ih =>
    rw [List.forM, bind_eq_ok, List.forall_mem_cons, ← ih]
    exact ⟨fun ⟨⟨⟩, h, h'⟩ => ⟨h, h'⟩, fun ⟨h, h'⟩ => ⟨(), h, h'⟩⟩

theorem mapM_nil_eq_ok {f : α → Except ε β} {ys : List β} :
    ([] : List α).mapM f = .ok ys ↔ ys = [] := by
  rw [List.mapM_nil, pure_eq, Except.ok.injEq, eq_comm]

theorem mapM_cons_eq_ok {x : α} {xs : List α} {f : α → Except ε β} {ys : List β} :
    (x :: xs).mapM f = .ok ys ↔
      ∃ y ys', f x = .ok y ∧ xs.mapM f = .ok ys' ∧ ys = y :: ys' := by
  rw [List.mapM_cons, bind_eq_ok]
  constructor
  · rintro ⟨y, hy, h⟩
    obtain ⟨ys', hys, h⟩ := bind_eq_ok.mp h
    exact ⟨y, ys', hy, hys, (Except.ok.inj h).symm⟩
  · rintro ⟨y, ys', hy, hys, rfl⟩
    exact ⟨y, hy, bind_eq_ok.mpr ⟨ys', hys, rfl⟩⟩

/-- Reading all members succeeds if reading each of them does. -/
theorem exists_mapM_eq_ok {xs : List α} {f : α → Except ε β} :
    (∃ ys, xs.mapM f = .ok ys) ↔ ∀ x ∈ xs, ∃ y, f x = .ok y := by
  induction xs with
  | nil => exact ⟨fun _ _ h => absurd h List.not_mem_nil, fun _ => ⟨[], rfl⟩⟩
  | cons x xs ih =>
    rw [List.forall_mem_cons, ← ih]
    constructor
    · rintro ⟨ys, h⟩
      obtain ⟨y, ys', hy, hys, -⟩ := mapM_cons_eq_ok.mp h
      exact ⟨⟨y, hy⟩, ys', hys⟩
    · rintro ⟨⟨y, hy⟩, ys, hys⟩
      exact ⟨y :: ys, mapM_cons_eq_ok.mpr ⟨y, ys, hy, hys, rfl⟩⟩

/-- Reading all members where each of them has one result at most. -/
theorem mapM_eq_ok_iff {xs : List α} {ys : List β} {f : α → Except ε β} {g : α → β} {P : α → Prop}
    (h : ∀ x ∈ xs, ∀ y, f x = .ok y ↔ P x ∧ y = g x) :
    xs.mapM f = .ok ys ↔ (∀ x ∈ xs, P x) ∧ ys = xs.map g := by
  induction xs generalizing ys with
  | nil => rw [mapM_nil_eq_ok, List.map_nil, and_iff_right (fun _ hx => absurd hx List.not_mem_nil)]
  | cons x xs ih =>
    obtain ⟨hx, hxs⟩ := List.forall_mem_cons.mp h
    rw [mapM_cons_eq_ok, List.forall_mem_cons, List.map_cons]
    constructor
    · rintro ⟨y, ys', hy, hys, rfl⟩
      obtain ⟨hP, rfl⟩ := (hx y).mp hy
      obtain ⟨hall, rfl⟩ := (ih hxs).mp hys
      exact ⟨⟨hP, hall⟩, rfl⟩
    · rintro ⟨⟨hP, hall⟩, rfl⟩
      exact ⟨g x, xs.map g, (hx _).mpr ⟨hP, rfl⟩, (ih hxs).mpr ⟨hall, rfl⟩, rfl⟩

/-- Reading that gives each member back gives them all back. -/
theorem mapM_eq_ok_self {xs : List α} {f : α → Except ε α} (h : ∀ x ∈ xs, f x = .ok x) :
    xs.mapM f = .ok xs := by
  have hone : ∀ x ∈ xs, ∀ y, f x = .ok y ↔ True ∧ y = id x := by
    intro x hx y
    rw [h x hx, true_and, Except.ok.injEq, eq_comm]
    rfl
  rw [mapM_eq_ok_iff hone, List.map_id]
  exact ⟨fun _ _ => trivial, rfl⟩

/-- Every result is that of a member. -/
theorem exists_of_mem_mapM {xs : List α} {ys : List β} {f : α → Except ε β} {y : β}
    (hm : xs.mapM f = .ok ys) (hy : y ∈ ys) : ∃ x ∈ xs, f x = .ok y := by
  induction xs generalizing ys with
  | nil =>
    rw [mapM_nil_eq_ok.mp hm] at hy
    exact absurd hy List.not_mem_nil
  | cons x xs ih =>
    obtain ⟨z, zs, hz, hzs, rfl⟩ := mapM_cons_eq_ok.mp hm
    rcases List.mem_cons.mp hy with rfl | hy
    · exact ⟨x, List.mem_cons_self, hz⟩
    · obtain ⟨w, hw, hwy⟩ := ih hzs hy
      exact ⟨w, List.mem_cons_of_mem x hw, hwy⟩

/-- Every member has a result among them. -/
theorem exists_mem_mapM {xs : List α} {ys : List β} {f : α → Except ε β} {x : α}
    (hm : xs.mapM f = .ok ys) (hx : x ∈ xs) : ∃ y ∈ ys, f x = .ok y := by
  induction xs generalizing ys with
  | nil => exact absurd hx List.not_mem_nil
  | cons x' xs ih =>
    obtain ⟨z, zs, hz, hzs, rfl⟩ := mapM_cons_eq_ok.mp hm
    rcases List.mem_cons.mp hx with rfl | hx
    · exact ⟨z, List.mem_cons_self, hz⟩
    · obtain ⟨y, hy, hxy⟩ := ih hzs hx
      exact ⟨y, List.mem_cons_of_mem z hy, hxy⟩

/-- The results of a reading stand where their members do. -/
theorem getElem?_of_mapM_eq_ok {xs : List α} {ys : List β} {f : α → Except ε β} {i : Nat} {y : β}
    (hm : xs.mapM f = .ok ys) (hy : ys[i]? = some y) : ∃ x, xs[i]? = some x ∧ f x = .ok y := by
  induction xs generalizing ys i with
  | nil =>
    rw [mapM_nil_eq_ok.mp hm] at hy
    cases hy
  | cons x xs ih =>
    obtain ⟨z, zs, hz, hzs, rfl⟩ := mapM_cons_eq_ok.mp hm
    cases i with
    | zero =>
      cases hy
      exact ⟨x, rfl, hz⟩
    | succ i => exact ih hzs hy

/-- What each result has kept of a part of its member. -/
theorem map_eq_filterMap_of_mapM {γ : Type} {xs : List α} {ys : List β} {f : α → Except ε β}
    (g : β → γ) (part? : α → Option γ) (hf : ∀ x y, f x = .ok y → part? x = some (g y))
    (hm : xs.mapM f = .ok ys) : ys.map g = xs.filterMap part? := by
  induction xs generalizing ys with
  | nil => rw [mapM_nil_eq_ok.mp hm]; rfl
  | cons x xs ih =>
    obtain ⟨y, ys', hy, hys, rfl⟩ := mapM_cons_eq_ok.mp hm
    rw [List.map_cons, List.filterMap_cons_some (hf x y hy), ih hys]

/-- What each result has kept of its member, all of them have. -/
theorem map_of_mapM_eq_ok {γ : Type} {xs : List α} {ys : List β} {f : α → Except ε β}
    {g : β → γ} {h : α → γ} (hf : ∀ x y, f x = .ok y → g y = h x) (hm : xs.mapM f = .ok ys) :
    ys.map g = xs.map h := by
  have hall := map_eq_filterMap_of_mapM g (some ∘ h) (fun x y hxy => congrArg some (hf x y hxy).symm) hm
  rw [hall, List.filterMap_eq_map]

/-- One reading of all members contains the reading of some of them, if that is a part of
each result where it applies and no part of it elsewhere. -/
theorem mapM_filter_of_mapM {σ : Type} {xs : List α} {ys : List σ} {g : α → Except ε σ}
    {part? : σ → Option β} {p : α → Bool} {f : α → Except ε β}
    (hpos : ∀ x y, g x = .ok y → p x → ∃ z, f x = .ok z ∧ part? y = some z)
    (hneg : ∀ x y, g x = .ok y → p x = false → part? y = none) (hm : xs.mapM g = .ok ys) :
    (xs.filter p).mapM f = .ok (ys.filterMap part?) := by
  induction xs generalizing ys with
  | nil => rw [mapM_nil_eq_ok.mp hm]; rfl
  | cons x xs ih =>
    obtain ⟨y, ys', hy, hys, rfl⟩ := mapM_cons_eq_ok.mp hm
    cases hp : p x with
    | true =>
      obtain ⟨z, hz, hpart⟩ := hpos x y hy hp
      rw [List.filter_cons_of_pos hp, List.filterMap_cons_some hpart]
      exact mapM_cons_eq_ok.mpr ⟨z, _, hz, ih hys, rfl⟩
    | false =>
      rw [List.filter_cons_of_neg (by simp [hp]), List.filterMap_cons_none (hneg x y hy hp)]
      exact ih hys

/-- All members have results, and these are the list. -/
theorem mapM_eq_some_iff {xs : List α} {ys : List β} {f : α → Option β} :
    xs.mapM f = some ys ↔ xs.map f = ys.map some := by
  induction xs generalizing ys with
  | nil => cases ys <;> simp
  | cons x xs ih =>
    cases ys with
    | nil => cases hx : f x <;> cases hxs : xs.mapM f <;> simp [List.mapM_cons, hx, hxs]
    | cons y ys =>
      simp only [List.mapM_cons, Option.bind_eq_bind, Option.bind_eq_some_iff, Option.pure_def,
        Option.some.injEq, List.cons.injEq, List.map_cons, ← ih]
      constructor
      · rintro ⟨_, hy, _, hys, rfl, rfl⟩
        exact ⟨hy, hys⟩
      · rintro ⟨hy, hys⟩
        exact ⟨y, hy, ys, hys, rfl, rfl⟩

theorem map_of_mapM_eq_some {γ : Type} {xs : List α} {ys : List β} {f : α → Option β} {g : β → γ}
    {h : α → γ} (hf : ∀ x y, f x = some y → g y = h x) (hm : xs.mapM f = some ys) :
    ys.map g = xs.map h := by
  rw [mapM_eq_some_iff] at hm
  induction xs generalizing ys with
  | nil => rw [List.map_eq_nil_iff.mp hm.symm]; rfl
  | cons x xs ih =>
    obtain ⟨y, ys, rfl, hy, hys⟩ := List.map_eq_cons_iff.mp hm.symm
    rw [List.map_cons, List.map_cons, hf x y hy.symm, ih hys.symm]

theorem exists_mapM_eq_some {xs : List α} {f : α → Option β} (h : ∀ x ∈ xs, ∃ y, f x = some y) :
    ∃ ys, xs.mapM f = some ys := by
  induction xs with
  | nil => exact ⟨[], rfl⟩
  | cons x xs ih =>
    obtain ⟨⟨y, hy⟩, hxs⟩ := List.forall_mem_cons.mp h
    obtain ⟨ys, hys⟩ := ih hxs
    refine ⟨y :: ys, mapM_eq_some_iff.mpr ?_⟩
    rw [List.map_cons, List.map_cons, hy, mapM_eq_some_iff.mp hys]

/-! ## Failures -/

/-- The failure of a run that has failed. -/
def failure? : Except ε α → Option ε
  | .error e => some e
  | .ok _ => none

theorem eq_error_of_failure? {x : Except ε α} {e : ε} (h : failure? x = some e) : x = .error e := by
  cases x with
  | error e' => exact congrArg Except.error (Option.some.inj h)
  | ok a => cases h

theorem bind_eq_error {x : Except ε α} {f : α → Except ε β} {e : ε} :
    (x >>= f) = .error e ↔ x = .error e ∨ ∃ a, x = .ok a ∧ f a = .error e := by
  constructor
  · intro h
    cases x with
    | error e' => exact .inl (congrArg Except.error (Except.error.inj h))
    | ok a => exact .inr ⟨a, rfl, h⟩
  · rintro (rfl | ⟨a, rfl, h⟩)
    · rfl
    · exact h

theorem mapError_eq_error {ε' : Type} {x : Except ε α} {f : ε → ε'} {e : ε'} :
    x.mapError f = .error e ↔ ∃ e', x = .error e' ∧ f e' = e := by
  cases x with
  | error e' =>
    constructor
    · intro h
      exact ⟨e', rfl, Except.error.inj h⟩
    · rintro ⟨_, h, rfl⟩
      rw [Except.error.inj h]
      rfl
  | ok a =>
    refine iff_of_false (fun h => by cases h) ?_
    rintro ⟨_, h, -⟩
    cases h

/-- A check of all members that fails does so at one of them. -/
theorem exists_of_forM_eq_error {xs : List α} {f : α → Except ε Unit} {e : ε}
    (h : xs.forM f = .error e) : ∃ x ∈ xs, f x = .error e := by
  induction xs with
  | nil => cases h
  | cons x xs ih =>
    rw [List.forM, bind_eq_error] at h
    rcases h with h | ⟨-, -, h⟩
    · exact ⟨x, List.mem_cons_self, h⟩
    · obtain ⟨y, hy, hfault⟩ := ih h
      exact ⟨y, List.mem_cons_of_mem x hy, hfault⟩

/-- A reading of all members that fails does so at one of them. -/
theorem exists_of_mapM_eq_error {xs : List α} {f : α → Except ε β} {e : ε}
    (h : xs.mapM f = .error e) : ∃ x ∈ xs, f x = .error e := by
  induction xs with
  | nil => cases h
  | cons x xs ih =>
    rw [List.mapM_cons, bind_eq_error] at h
    rcases h with h | ⟨y, -, h⟩
    · exact ⟨x, List.mem_cons_self, h⟩
    · rcases bind_eq_error.mp h with h | ⟨ys, -, h⟩
      · obtain ⟨z, hz, hfault⟩ := ih h
        exact ⟨z, List.mem_cons_of_mem x hz, hfault⟩
      · cases h

/-- A run over all members that fails does so at one of them, in some state. -/
theorem exists_of_foldlM_eq_error {σ : Type} {xs : List α} {f : σ → α → Except ε σ} {s : σ} {e : ε}
    (h : xs.foldlM f s = .error e) : ∃ s', ∃ x ∈ xs, f s' x = .error e := by
  induction xs generalizing s with
  | nil => cases h
  | cons x xs ih =>
    rcases bind_eq_error.mp h with h | ⟨next, -, h⟩
    · exact ⟨s, x, List.mem_cons_self, h⟩
    · obtain ⟨s', y, hy, hfault⟩ := ih h
      exact ⟨s', y, List.mem_cons_of_mem x hy, hfault⟩

end Equate.Success
