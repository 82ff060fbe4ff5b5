import Mathlib.Data.List.Basic

/-!
Computations that may fail, taken apart: what a step and a row of steps must have given if the whole
has a result, and where a failure comes from.
-/

namespace RouteContract.Except

variable {ε α β : Type}

theorem bind_eq_ok {x : Except ε α} {f : α → Except ε β} {b : β} (h : x >>= f = .ok b) :
    ∃ a, x = .ok a ∧ f a = .ok b := by
  cases x with
  | error e => cases h
  | ok a => exact ⟨a, rfl, h⟩

theorem bind_eq_error {x : Except ε α} {f : α → Except ε β} {e : ε} (h : x >>= f = .error e) :
    x = .error e ∨ ∃ a, x = .ok a ∧ f a = .error e := by
  cases x with
  | error _ =>
    cases h
    exact Or.inl rfl
  | ok a => exact Or.inr ⟨a, rfl, h⟩

theorem map_eq_ok {x : Except ε α} {f : α → β} {b : β} (h : f <$> x = .ok b) :
    ∃ a, x = .ok a ∧ f a = b := by
  cases x with
  | error e => cases h
  | ok a => exact ⟨a, rfl, Except.ok.inj h⟩

/-- A row of steps gives the results of its steps, and nothing else. -/
theorem mem_of_mapM_eq_ok {f : α → Except ε β} {xs : List α} {ys : List β}
    (h : xs.mapM f = .ok ys) :
    (∀ x ∈ xs, ∃ y ∈ ys, f x = .ok y) ∧ ∀ y ∈ ys, ∃ x ∈ xs, f x = .ok y := by
  induction xs generalizing ys with
  | nil =>
    cases h
    simp
  | cons x xs ih =>
    rw [List.mapM_cons] at h
    obtain ⟨y, hy, h⟩ := bind_eq_ok h
    obtain ⟨rest, hrest, h⟩ := bind_eq_ok h
    cases h
    obtain ⟨hleft, hright⟩ := ih hrest
    simp only [List.exists_mem_cons_iff, List.forall_mem_cons]
    exact ⟨⟨Or.inl hy, fun a ha => Or.inr (hleft a ha)⟩,
      ⟨Or.inl hy, fun b hb => Or.inr (hright b hb)⟩⟩

/-- A failing row of steps has a failing step. -/
theorem exists_of_mapM_eq_error {f : α → Except ε β} {xs : List α} {e : ε}
    (h : xs.mapM f = .error e) : ∃ x ∈ xs, f x = .error e := by
  induction xs with
  | nil => cases h
  | cons x xs ih =>
    rw [List.mapM_cons] at h
    rcases bind_eq_error h with hx | ⟨y, -, h⟩
    · exact ⟨x, List.mem_cons_self, hx⟩
    · rcases bind_eq_error h with hrest | ⟨rest, -, h⟩
      · obtain ⟨other, hother, hfails⟩ := ih hrest
        exact ⟨other, List.mem_cons_of_mem _ hother, hfails⟩
      · cases h

/-- A step that answers nothing can be left out. -/
theorem flatten_mapM_of_nil (f : α → Except ε (List β)) {a : α} (ha : f a = .ok [])
    (before after : List α) :
    List.flatten <$> (before ++ a :: after).mapM f = List.flatten <$> (before ++ after).mapM f := by
  induction before with
  | nil =>
    rw [List.nil_append, List.nil_append, List.mapM_cons, ha]
    cases after.mapM f <;> rfl
  | cons b before ih =>
    rw [List.cons_append, List.cons_append, List.mapM_cons, List.mapM_cons]
    cases f b with
    | error reason => rfl
    | ok bs =>
      cases hwith : (before ++ a :: after).mapM f <;>
        cases hwithout : (before ++ after).mapM f <;> rw [hwith, hwithout] at ih
      · exact ih
      · cases ih
      · cases ih
      · exact congrArg (Except.map (bs ++ ·)) ih

end RouteContract.Except
