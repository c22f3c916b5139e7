import Mathlib.Data.List.Forall2

/-! # Steps that may fail

Of several steps the first that fails decides the error. So it is for a step that is applied to the
items of a list in order: without an item at which it fails, the results stand for the items one by
one. It is the same for changes of a state, one for each item, if they fail by their items alone. -/

namespace SqlSchema.Traversal

variable {ε α β γ : Type}

/-! ## One step and the next -/

section Steps

variable {x : Except ε α} {e : ε}

theorem bind_eq_ok_iff {next : α → Except ε β} {b : β} :
    x >>= next = .ok b ↔ ∃ a, x = .ok a ∧ next a = .ok b := by
  cases x <;> simp [bind, Except.bind]

theorem bind_eq_error_iff {next : α → Except ε β} :
    x >>= next = .error e ↔ x = .error e ∨ ∃ a, x = .ok a ∧ next a = .error e := by
  cases x <;> simp [bind, Except.bind]

theorem map_eq_ok_iff {f : α → β} {b : β} : x.map f = .ok b ↔ ∃ a, x = .ok a ∧ f a = b := by
  cases x <;> simp [Except.map]

theorem map_eq_error_iff {f : α → β} : x.map f = .error e ↔ x = .error e := by
  cases x <;> simp [Except.map]

theorem exists_eq_ok_iff : (∃ a, x = .ok a) ↔ ∀ e, x ≠ .error e := by
  cases x <;> simp

end Steps

/-! ## A step for each item -/

variable {step : α → Except ε β}

theorem mapM_cons_of_ok {x : α} {y : β} (h : step x = .ok y) (xs : List α) :
    (x :: xs).mapM step = (xs.mapM step).map (y :: ·) := by
  rw [List.mapM_cons, h]
  cases xs.mapM step <;> rfl

theorem mapM_cons_of_error {x : α} {e : ε} (h : step x = .error e) (xs : List α) :
    (x :: xs).mapM step = .error e := by
  rw [List.mapM_cons, h]
  rfl

theorem mapM_eq_ok_iff {xs : List α} {ys : List β} :
    xs.mapM step = .ok ys ↔ List.Forall₂ (fun x y => step x = .ok y) xs ys := by
  induction xs generalizing ys with
  | nil =>
      rw [List.mapM_nil, List.forall₂_nil_left_iff]
      constructor
      · intro h
        exact (Except.ok.inj h).symm
      · rintro rfl
        rfl
  | cons x xs ih =>
      cases hx : step x with
      | error e => simp [mapM_cons_of_error hx, List.forall₂_cons_left_iff, hx]
      | ok y =>
          rw [mapM_cons_of_ok hx, List.forall₂_cons_left_iff]
          cases hxs : xs.mapM step with
          | error e => simp [← ih, hxs, Except.map]
          | ok rest => simp [← ih, hxs, hx, Except.map, eq_comm]

theorem eq_map_of_mapM_eq_ok {f : α → β} (hstep : ∀ x y, step x = .ok y → y = f x) {xs : List α}
    {ys : List β} (h : xs.mapM step = .ok ys) : ys = xs.map f := by
  have heach : List.Forall₂ Eq (xs.map f) ys :=
    List.forall₂_map_left_iff.mpr ((mapM_eq_ok_iff.mp h).imp fun x y hxy => (hstep x y hxy).symm)
  exact (List.forall₂_eq_eq_eq ▸ heach).symm

theorem forall_mem_of_mapM_eq_ok {P : β → Prop} (hstep : ∀ x y, step x = .ok y → P y) {xs : List α}
    {ys : List β} (h : xs.mapM step = .ok ys) : ∀ y ∈ ys, P y := by
  rw [mapM_eq_ok_iff] at h
  induction h with
  | nil => simp
  | cons hxy _ ih => exact List.forall_mem_cons.mpr ⟨hstep _ _ hxy, ih⟩

/-- A list is gone through to its end just when the step fails at none of its items. -/
theorem exists_mapM_eq_ok_iff {xs : List α} :
    (∃ ys, xs.mapM step = .ok ys) ↔ ∀ x ∈ xs, ∃ y, step x = .ok y := by
  induction xs with
  | nil => simp [pure, Except.pure]
  | cons x xs ih =>
      rw [List.forall_mem_cons, ← ih]
      cases hx : step x with
      | error e => simp [mapM_cons_of_error hx]
      | ok y =>
          rw [mapM_cons_of_ok hx]
          cases xs.mapM step <;> simp [Except.map]

/-- The first item at which the step fails decides the error. -/
theorem mapM_eq_error_iff {xs : List α} {e : ε} :
    xs.mapM step = .error e ↔ ∃ before x after, xs = before ++ x :: after ∧
      (∀ other ∈ before, ∃ y, step other = .ok y) ∧ step x = .error e := by
  constructor
  · intro h
    induction xs with
    | nil => cases h
    | cons x xs ih =>
        cases hx : step x with
        | error cause =>
            obtain rfl : cause = e := by simpa [mapM_cons_of_error hx] using h
            exact ⟨[], x, xs, rfl, by simp, hx⟩
        | ok y =>
            have hxs : xs.mapM step = .error e := by
              rw [mapM_cons_of_ok hx] at h
              cases hrest : xs.mapM step with
              | error cause => simpa [hrest, Except.map] using h
              | ok ys => simp [hrest, Except.map] at h
            obtain ⟨before, failing, after, rfl, hbefore, hfailing⟩ := ih hxs
            refine ⟨x :: before, failing, after, rfl, ?_, hfailing⟩
            exact List.forall_mem_cons.mpr ⟨⟨y, hx⟩, hbefore⟩
  · rintro ⟨before, x, after, rfl, hbefore, hx⟩
    induction before with
    | nil => exact mapM_cons_of_error hx after
    | cons first before ih =>
        obtain ⟨⟨y, hy⟩, hbefore⟩ := List.forall_mem_cons.mp hbefore
        rw [List.cons_append, mapM_cons_of_ok hy, ih hbefore]
        rfl

/-! ## A state that the items change -/

section Folds

variable {update : γ → α → Except ε γ} {Fault : α → ε → Prop}
  (hupdate : ∀ s x e, update s x = .error e ↔ Fault x e)

include hupdate

theorem exists_update_eq_ok_iff (s : γ) (x : α) : (∃ t, update s x = .ok t) ↔ ∀ e, ¬Fault x e := by
  rw [exists_eq_ok_iff]
  exact forall_congr' fun e => not_congr (hupdate s x e)

/-- Changes that fail by their items alone reach the end of a list just when none of its items is at
fault. -/
theorem exists_foldlM_eq_ok_iff {xs : List α} {s : γ} :
    (∃ t, xs.foldlM update s = .ok t) ↔ ∀ x ∈ xs, ∀ e, ¬Fault x e := by
  induction xs generalizing s with
  | nil => simp [pure, Except.pure]
  | cons x xs ih =>
      rw [List.foldlM_cons, List.forall_mem_cons, ← exists_update_eq_ok_iff hupdate s]
      constructor
      · rintro ⟨t, h⟩
        obtain ⟨s', hx, hxs⟩ := bind_eq_ok_iff.mp h
        exact ⟨⟨s', hx⟩, ih.mp ⟨t, hxs⟩⟩
      · rintro ⟨⟨s', hx⟩, hxs⟩
        obtain ⟨t, ht⟩ := (ih (s := s')).mpr hxs
        exact ⟨t, bind_eq_ok_iff.mpr ⟨s', hx, ht⟩⟩

/-- The first item at fault decides the error of such changes. -/
theorem foldlM_eq_error_iff {xs : List α} {s : γ} {e : ε} :
    xs.foldlM update s = .error e ↔ ∃ before x after, xs = before ++ x :: after ∧
      (∀ other ∈ before, ∀ e, ¬Fault other e) ∧ Fault x e := by
  constructor
  · intro h
    induction xs generalizing s with
    | nil => cases h
    | cons x xs ih =>
        rw [List.foldlM_cons] at h
        rcases bind_eq_error_iff.mp h with hx | ⟨t, hx, hxs⟩
        · exact ⟨[], x, xs, rfl, by simp, (hupdate s x e).mp hx⟩
        · obtain ⟨before, failing, after, rfl, hbefore, hfailing⟩ := ih hxs
          refine ⟨x :: before, failing, after, rfl, ?_, hfailing⟩
          exact List.forall_mem_cons.mpr
            ⟨(exists_update_eq_ok_iff hupdate s x).mp ⟨t, hx⟩, hbefore⟩
  · rintro ⟨before, x, after, rfl, hbefore, hx⟩
    obtain ⟨t, ht⟩ := (exists_foldlM_eq_ok_iff hupdate (s := s)).mpr hbefore
    rw [List.foldlM_append]
    refine bind_eq_error_iff.mpr (.inr ⟨t, ht, ?_⟩)
    rw [List.foldlM_cons]
    exact bind_eq_error_iff.mpr (.inl ((hupdate t x e).mpr hx))

end Folds

end SqlSchema.Traversal
