import Mathlib.Data.List.Forall2

/-! # Results that may be faults

A computation in steps succeeds only if all its steps do, and fails with the fault of one of them. -/

namespace TypedTree

section Forall₂

variable {α β : Type} {R : α → β → Prop} {as : List α} {bs : List β}

theorem exists_of_mem_left {a : α} (h : List.Forall₂ R as bs) (ha : a ∈ as) : ∃ b ∈ bs, R a b := by
  induction h with
  | nil => simp at ha
  | cons hab _ ih =>
    rcases List.mem_cons.mp ha with rfl | ha
    · exact ⟨_, List.mem_cons_self, hab⟩
    · obtain ⟨b, hb, hR⟩ := ih ha
      exact ⟨b, List.mem_cons_of_mem _ hb, hR⟩

theorem exists_of_mem_right {b : β} (h : List.Forall₂ R as bs) (hb : b ∈ bs) : ∃ a ∈ as, R a b :=
  exists_of_mem_left (R := flip R) h.flip hb

end Forall₂

variable {ε α β : Type} {e : ε}

theorem ok_bind (a : α) (f : α → Except ε β) : Except.ok a >>= f = f a := rfl

theorem error_bind (e : ε) (f : α → Except ε β) : Except.error e >>= f = .error e := rfl

theorem bind_eq_ok {x : Except ε α} {f : α → Except ε β} {b : β} (h : x >>= f = .ok b) :
    ∃ a, x = .ok a ∧ f a = .ok b := by
  cases x with
  | error e => cases h
  | ok a => exact ⟨a, rfl, h⟩

theorem bind_eq_error {x : Except ε α} {f : α → Except ε β} (h : x >>= f = .error e) :
    x = .error e ∨ ∃ a, x = .ok a ∧ f a = .error e := by
  cases x with
  | error d =>
    cases h
    exact .inl rfl
  | ok a => exact .inr ⟨a, rfl, h⟩

theorem mapM_cons_eq_ok {f : α → Except ε β} {x : α} {xs : List α} {ys : List β}
    (h : (x :: xs).mapM f = .ok ys) :
    ∃ y rest, f x = .ok y ∧ xs.mapM f = .ok rest ∧ ys = y :: rest := by
  rw [List.mapM_cons] at h
  obtain ⟨y, hy, h⟩ := bind_eq_ok h
  obtain ⟨rest, hrest, h⟩ := bind_eq_ok h
  cases h
  exact ⟨y, rest, hy, hrest, rfl⟩

theorem mapM_eq_ok_iff {f : α → Except ε β} {xs : List α} {ys : List β} :
    xs.mapM f = .ok ys ↔ List.Forall₂ (fun x y => f x = .ok y) xs ys := by
  constructor
  · intro h
    induction xs generalizing ys with
    | nil =>
      cases h
      exact .nil
    | cons x xs ih =>
      obtain ⟨y, rest, hy, hrest, rfl⟩ := mapM_cons_eq_ok h
      exact .cons hy (ih hrest)
  · intro h
    induction h with
    | nil => rfl
    | cons hy _ ih =>
      rw [List.mapM_cons, hy, ih]
      rfl

theorem mapM_mem {f : α → Except ε β} {xs : List α} {ys : List β} {y : β}
    (h : xs.mapM f = .ok ys) (hy : y ∈ ys) : ∃ x ∈ xs, f x = .ok y := by
  obtain ⟨x, hx, hy⟩ := exists_of_mem_right (mapM_eq_ok_iff.mp h) hy
  exact ⟨x, hx, hy⟩

/-- The fault is that of the first step that fails. -/
theorem mapM_eq_error_iff {f : α → Except ε β} {xs : List α} :
    xs.mapM f = .error e ↔ ∃ before x after, xs = before ++ x :: after ∧
      (∀ y ∈ before, ∃ b, f y = .ok b) ∧ f x = .error e := by
  constructor
  · intro h
    induction xs with
    | nil => cases h
    | cons x xs ih =>
      rw [List.mapM_cons] at h
      rcases bind_eq_error h with hx | ⟨y, hy, h⟩
      · exact ⟨[], x, xs, rfl, List.forall_mem_nil _, hx⟩
      · rcases bind_eq_error h with hxs | ⟨ys, -, h⟩
        · obtain ⟨before, z, after, rfl, hbefore, hz⟩ := ih hxs
          exact ⟨x :: before, z, after, rfl, List.forall_mem_cons.mpr ⟨⟨y, hy⟩, hbefore⟩, hz⟩
        · cases h
  · rintro ⟨before, x, after, rfl, hbefore, hx⟩
    induction before with
    | nil =>
      rw [List.nil_append, List.mapM_cons, hx]
      rfl
    | cons y before ih =>
      obtain ⟨⟨b, hy⟩, hrest⟩ := List.forall_mem_cons.mp hbefore
      rw [List.cons_append, List.mapM_cons, hy, ok_bind, ih hrest, error_bind]

theorem mapM_eq_error {f : α → Except ε β} {xs : List α} (h : xs.mapM f = .error e) :
    ∃ x ∈ xs, f x = .error e := by
  obtain ⟨before, x, after, rfl, -, hx⟩ := mapM_eq_error_iff.mp h
  exact ⟨x, by simp, hx⟩

/-- The fault of the first element that has one. -/
inductive First (R : α → ε → Prop) : List α → ε → Prop
  | here {a : α} {as : List α} {e : ε} (fault : R a e) : First R (a :: as) e
  | later {a : α} {as : List α} {e : ε} (clean : ∀ d, ¬ R a d) (rest : First R as e) :
      First R (a :: as) e

section Steps

variable {σ : Type} {step : σ → α → Except ε σ} {R : α → ε → Prop} {next : σ → α → σ}

/-- Where the fault of a step does not depend on the steps before, that of the first step which has
one is the fault of them all. -/
theorem foldlM_eq_error (hstep : ∀ s a e, step s a = .error e ↔ R a e) {as : List α} {s : σ} :
    as.foldlM step s = .error e ↔ First R as e := by
  induction as generalizing s with
  | nil => exact ⟨fun h => (by cases h), fun h => (by cases h)⟩
  | cons a as ih =>
    rw [List.foldlM_cons]
    constructor
    · intro h
      rcases bind_eq_error h with ha | ⟨s', ha, hrest⟩
      · exact .here ((hstep s a e).mp ha)
      · refine .later (fun d hd => ?_) (ih.mp hrest)
        cases ha.symm.trans ((hstep s a d).mpr hd)
    · intro h
      cases h with
      | here fault =>
        rw [(hstep s a e).mpr fault]
        rfl
      | later clean rest =>
        cases ha : step s a with
        | error d => exact absurd ((hstep s a d).mp ha) (clean d)
        | ok s' => exact ih.mpr rest

theorem foldlM_eq_ok (hstep : ∀ s a s', step s a = .ok s' → s' = next s a) {as : List α} {s s' : σ}
    (h : as.foldlM step s = .ok s') : s' = as.foldl next s := by
  induction as generalizing s with
  | nil =>
    cases h
    rfl
  | cons a as ih =>
    rw [List.foldlM_cons] at h
    obtain ⟨t, ht, h⟩ := bind_eq_ok h
    rw [List.foldl_cons, ← hstep s a t ht]
    exact ih h

end Steps

theorem map_eq_error {x : Except ε α} {f : α → β} : x.map f = .error e ↔ x = .error e := by
  cases x <;> simp [Except.map]

theorem mapError_ok {ε' : Type} (k : ε → ε') (a : α) : (Except.ok a).mapError k = .ok a := rfl

theorem mapError_eq_ok {ε' : Type} {k : ε → ε'} {x : Except ε α} {a : α} :
    x.mapError k = .ok a ↔ x = .ok a := by
  cases x with
  | error c => exact ⟨fun h => (by cases h), fun h => (by cases h)⟩
  | ok b => exact ⟨fun h => (by cases h; rfl), fun h => (by cases h; rfl)⟩

theorem mapError_eq_error {ε' : Type} {k : ε → ε'} {x : Except ε α} {d : ε'}
    (h : x.mapError k = .error d) : ∃ c, x = .error c ∧ k c = d := by
  cases x with
  | error c =>
    cases h
    exact ⟨c, rfl, rfl⟩
  | ok a => cases h

end TypedTree
