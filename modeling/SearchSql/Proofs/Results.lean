import Mathlib.Data.List.Forall2

/-!
# Results in a row

A computation in several parts succeeds if all of them do. Otherwise it has the error of the first
part that fails.
-/

namespace SearchSql

variable {α β ε : Type}

/-- What is computed in two parts is there only if both parts succeed. -/
theorem exists_of_bind_eq_ok {first : Except ε α} {second : α → Except ε β} {b : β}
    (h : first >>= second = .ok b) : ∃ a, first = .ok a ∧ second a = .ok b := by
  cases first with
  | error e => cases h
  | ok a => exact ⟨a, rfl, h⟩

variable {f : α → Except ε β} {e : ε}

/-- What is computed element by element succeeds if each element does. -/
theorem mapM_eq_ok_iff_forall₂ {xs : List α} {bs : List β} :
    xs.mapM f = .ok bs ↔ List.Forall₂ (fun x b => f x = .ok b) xs bs := by
  induction xs generalizing bs with
  | nil => cases bs <;> simp [pure, Except.pure]
  | cons x xs ih =>
    rw [List.mapM_cons]
    cases hx : f x with
    | error e => cases bs <;> simp [bind, Except.bind, hx]
    | ok first =>
      cases hrest : xs.mapM f with
      | error e => cases bs <;> simp [bind, Except.bind, ← ih, hrest]
      | ok rest => cases bs <;> simp [bind, Except.bind, pure, Except.pure, ← ih, hrest, hx]

/-- Behind elements that succeed, an element that fails ends the computation with its error. -/
theorem mapM_eq_error_of_first {before : List α} {x : α} {after : List α}
    (hbefore : ∀ each ∈ before, ∃ b, f each = .ok b) (hx : f x = .error e) :
    (before ++ x :: after).mapM f = .error e := by
  induction before with
  | nil =>
    rw [List.nil_append, List.mapM_cons, hx]
    rfl
  | cons each before ih =>
    rw [List.forall_mem_cons] at hbefore
    obtain ⟨⟨b, hb⟩, hrest⟩ := hbefore
    rw [List.cons_append, List.mapM_cons, hb, ih hrest]
    rfl

/-- A computation that fails has a first element that fails, with the same error. -/
theorem exists_first_of_mapM_eq_error {xs : List α} (h : xs.mapM f = .error e) :
    ∃ before x after, xs = before ++ x :: after ∧ (∀ each ∈ before, ∃ b, f each = .ok b) ∧
      f x = .error e := by
  induction xs with
  | nil => cases h
  | cons x xs ih =>
    cases hx : f x with
    | error fault =>
      rw [List.mapM_cons, hx] at h
      obtain rfl := Except.error.inj h
      exact ⟨[], x, xs, rfl, fun _ hmem => absurd hmem List.not_mem_nil, hx⟩
    | ok b =>
      have hrest : xs.mapM f = .error e := by
        rw [List.mapM_cons, hx] at h
        cases hxs : xs.mapM f with
        | ok bs =>
          rw [hxs] at h
          cases h
        | error fault =>
          rw [hxs] at h
          exact congrArg _ (Except.error.inj h)
      obtain ⟨before, y, after, rfl, hbefore, hy⟩ := ih hrest
      exact ⟨x :: before, y, after, rfl, List.forall_mem_cons.mpr ⟨⟨b, hx⟩, hbefore⟩, hy⟩

/-- What is computed element by element fails with the error of the first element that fails. -/
theorem mapM_eq_error_iff {xs : List α} :
    xs.mapM f = .error e ↔
      ∃ before x after, xs = before ++ x :: after ∧ (∀ each ∈ before, ∃ b, f each = .ok b) ∧
        f x = .error e := by
  refine ⟨exists_first_of_mapM_eq_error, ?_⟩
  rintro ⟨before, x, after, rfl, hbefore, hx⟩
  exact mapM_eq_error_of_first hbefore hx

end SearchSql
