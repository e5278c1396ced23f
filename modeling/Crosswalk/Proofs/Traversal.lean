import Mathlib.Data.List.Forall2

/-!
# Taking a list in order

A computation that can fail, taken over a list in order, fails with the error of the first element
that fails (`FirstError`), and succeeds if no element fails.  Where one computation fails only
mildly on elements that another lets pass, its first error comes no later
(`FirstError.no_later`).
-/

set_option autoImplicit false

namespace Crosswalk

variable {α β γ ε : Type}

theorem ok_bind (a : α) (next : α → Except ε β) : Except.ok a >>= next = next a :=
  rfl

theorem bind_eq_ok (first : Except ε α) (next : α → Except ε β) (b : β)
    (success : first >>= next = .ok b) : ∃ a, first = .ok a ∧ next a = .ok b := by
  cases first with
  | error e => cases success
  | ok a => exact ⟨a, rfl, success⟩

theorem bind_eq_error (first : Except ε α) (next : α → Except ε β) (e : ε)
    (failure : first >>= next = .error e) :
    first = .error e ∨ ∃ a, first = .ok a ∧ next a = .error e := by
  cases first with
  | error d =>
      cases failure
      exact Or.inl rfl
  | ok a => exact Or.inr ⟨a, rfl, failure⟩

theorem exists_error_iff (result : Except ε α) :
    (∃ e, result = .error e) ↔ ∀ a, result ≠ .ok a := by
  cases result <;> simp

theorem mapError_eq_ok_iff {δ : Type} (result : Except ε α) (f : ε → δ) (a : α) :
    result.mapError f = .ok a ↔ result = .ok a := by
  cases result <;> simp [Except.mapError]

/-- The element at a place fails with an error, and every earlier one passes. -/
def FirstError (f : α → Except ε β) (xs : List α) (place : Nat) (e : ε) : Prop :=
  (∃ x, xs[place]? = some x ∧ f x = .error e) ∧
    ∀ earlier, earlier < place → ∀ x, xs[earlier]? = some x → ∃ b, f x = .ok b

theorem firstError_cons_zero (f : α → Except ε β) (x : α) (rest : List α) (e : ε) :
    FirstError f (x :: rest) 0 e ↔ f x = .error e := by
  simp [FirstError]

theorem firstError_cons_succ (f : α → Except ε β) (x : α) (rest : List α) (place : Nat) (e : ε) :
    FirstError f (x :: rest) (place + 1) e ↔ (∃ b, f x = .ok b) ∧ FirstError f rest place e := by
  constructor
  · rintro ⟨here, before⟩
    refine ⟨before 0 (by omega) x rfl, here, ?_⟩
    intro earlier less y found
    exact before (earlier + 1) (by omega) y found
  · rintro ⟨passes, here, before⟩
    refine ⟨here, ?_⟩
    intro earlier less y found
    cases earlier with
    | zero =>
        cases Option.some.inj found
        exact passes
    | succ earlier => exact before earlier (by omega) y found

theorem firstError_cons (f : α → Except ε β) (x : α) (rest : List α) (e : ε) :
    (∃ place, FirstError f (x :: rest) place e) ↔
      f x = .error e ∨ ((∃ b, f x = .ok b) ∧ ∃ place, FirstError f rest place e) := by
  constructor
  · rintro ⟨place, first⟩
    cases place with
    | zero => exact Or.inl ((firstError_cons_zero f x rest e).mp first)
    | succ place =>
        obtain ⟨passes, tail⟩ := (firstError_cons_succ f x rest place e).mp first
        exact Or.inr ⟨passes, place, tail⟩
  · rintro (fails | ⟨passes, place, tail⟩)
    · exact ⟨0, (firstError_cons_zero f x rest e).mpr fails⟩
    · exact ⟨place + 1, (firstError_cons_succ f x rest place e).mpr ⟨passes, tail⟩⟩

theorem not_firstError_nil (f : α → Except ε β) (place : Nat) (e : ε) :
    ¬ FirstError f [] place e := by
  rintro ⟨⟨x, found, _⟩, _⟩
  simp at found

/-! ## Checking every element -/

theorem forM_eq_error_iff (f : α → Except ε PUnit) (xs : List α) (e : ε) :
    xs.forM f = .error e ↔ ∃ place, FirstError f xs place e := by
  induction xs with
  | nil =>
      constructor
      · intro failed
        cases failed
      · rintro ⟨place, first⟩
        exact absurd first (not_firstError_nil f place e)
  | cons x rest ih =>
      rw [firstError_cons, ← ih]
      cases head : f x with
      | error d => simp [List.forM, head, bind, Except.bind]
      | ok b => simp [List.forM, head, bind, Except.bind]

theorem forM_eq_ok_iff (f : α → Except ε PUnit) (xs : List α) :
    xs.forM f = .ok ⟨⟩ ↔ ∀ x ∈ xs, f x = .ok ⟨⟩ := by
  induction xs with
  | nil => simp [List.forM, pure, Except.pure]
  | cons x rest ih =>
      rw [List.forall_mem_cons, ← ih]
      cases head : f x with
      | error d => simp [List.forM, head, bind, Except.bind]
      | ok b => simp [List.forM, head, bind, Except.bind]

/-! ## Two lists in step -/

theorem forall₂_mem_left {related : α → β → Prop} {xs : List α} {ys : List β}
    (step : List.Forall₂ related xs ys) (x : α) (member : x ∈ xs) : ∃ y ∈ ys, related x y := by
  induction step with
  | nil => cases member
  | @cons first second _ _ head _ ih =>
      rcases List.mem_cons.mp member with rfl | later
      · exact ⟨second, List.mem_cons_self .., head⟩
      · obtain ⟨y, found, relates⟩ := ih later
        exact ⟨y, List.mem_cons_of_mem _ found, relates⟩

theorem forall₂_mem_right {related : α → β → Prop} {xs : List α} {ys : List β}
    (step : List.Forall₂ related xs ys) (y : β) (member : y ∈ ys) : ∃ x ∈ xs, related x y := by
  obtain ⟨x, found, relates⟩ := forall₂_mem_left step.flip y member
  exact ⟨x, found, relates⟩

/-- A search that finds something for every element finds one thing for each, in order. -/
theorem forall₂_filterMap (f : α → Option β) (xs : List α)
    (found : ∀ x ∈ xs, ∃ y, f x = some y) :
    List.Forall₂ (fun x y => f x = some y) xs (xs.filterMap f) := by
  induction xs with
  | nil => exact .nil
  | cons x rest ih =>
      obtain ⟨⟨y, here⟩, tail⟩ := List.forall_mem_cons.mp found
      rw [List.filterMap_cons_some here]
      exact .cons here (ih tail)

/-! ## Collecting the results -/

/-- Computations that agree on every element collect the same, errors included. -/
theorem mapM_congr (f g : α → Except ε β) (xs : List α) (same : ∀ x ∈ xs, f x = g x) :
    xs.mapM f = xs.mapM g := by
  induction xs with
  | nil => rfl
  | cons x rest ih =>
      have head := same x (List.mem_cons_self ..)
      have tail := ih fun y member => same y (List.mem_cons_of_mem _ member)
      rw [List.mapM_cons, List.mapM_cons, head, tail]

theorem mapM_eq_error_iff (f : α → Except ε β) (xs : List α) (e : ε) :
    xs.mapM f = .error e ↔ ∃ place, FirstError f xs place e := by
  induction xs with
  | nil =>
      constructor
      · intro failed
        cases failed
      · rintro ⟨place, first⟩
        exact absurd first (not_firstError_nil f place e)
  | cons x rest ih =>
      rw [firstError_cons, ← ih, List.mapM_cons]
      cases head : f x with
      | error d => simp [bind, Except.bind]
      | ok b =>
          cases tail : rest.mapM f with
          | error d => simp [bind, Except.bind]
          | ok bs => simp [bind, Except.bind, pure, Except.pure]

theorem mapM_ok_of_forall (f : α → Except ε β) (xs : List α)
    (passes : ∀ x ∈ xs, ∃ b, f x = .ok b) : ∃ bs, xs.mapM f = .ok bs := by
  induction xs with
  | nil => exact ⟨[], rfl⟩
  | cons x rest ih =>
      obtain ⟨b, head⟩ := passes x (List.mem_cons_self ..)
      obtain ⟨bs, tail⟩ := ih fun y member => passes y (List.mem_cons_of_mem _ member)
      exact ⟨b :: bs, by simp [List.mapM_cons, head, tail, bind, Except.bind, pure, Except.pure]⟩

/-- A collection succeeds with the results of the elements, one after another. -/
theorem mapM_eq_ok_iff (f : α → Except ε β) (xs : List α) (ys : List β) :
    xs.mapM f = .ok ys ↔ List.Forall₂ (fun x y => f x = .ok y) xs ys := by
  induction xs generalizing ys with
  | nil => cases ys <;> simp [pure, Except.pure]
  | cons x rest ih =>
      rw [List.mapM_cons, List.forall₂_cons_left_iff]
      cases head : f x with
      | error d => simp [bind, Except.bind]
      | ok b =>
          cases tail : rest.mapM f with
          | error d => simp [bind, Except.bind, ← ih, tail]
          | ok bs =>
              simp only [bind, Except.bind, pure, Except.pure, Except.ok.injEq, ← ih, tail]
              constructor
              · rintro rfl
                exact ⟨b, bs, rfl, rfl, rfl⟩
              · rintro ⟨_, _, rfl, rfl, rfl⟩
                rfl

/-- Let `g` do what `f` does, but for mild errors of its own.  Then the first error of `g` is the
one of `f`, or a mild one that comes no later. -/
theorem FirstError.no_later {f : α → Except ε β} {g : α → Except ε γ} {mild : ε → Prop}
    (passing : ∀ x b, f x = .ok b → (∃ c, g x = .ok c) ∨ ∃ d, g x = .error d ∧ mild d)
    (failing : ∀ x e, f x = .error e → g x = .error e ∨ ∃ d, g x = .error d ∧ mild d)
    (xs : List α) (place : Nat) (e : ε) (first : FirstError f xs place e) :
    ∃ place' d, FirstError g xs place' d ∧
      (place' = place ∧ d = e ∨ place' ≤ place ∧ mild d) := by
  induction xs generalizing place with
  | nil => exact absurd first (not_firstError_nil f place e)
  | cons x rest ih =>
      cases place with
      | zero =>
          have fails := (firstError_cons_zero f x rest e).mp first
          rcases failing x e fails with same | ⟨d, own, light⟩
          · exact ⟨0, e, (firstError_cons_zero g x rest e).mpr same, Or.inl ⟨rfl, rfl⟩⟩
          · exact ⟨0, d, (firstError_cons_zero g x rest d).mpr own, Or.inr ⟨Nat.le_refl 0, light⟩⟩
      | succ place =>
          obtain ⟨⟨b, passes⟩, tail⟩ := (firstError_cons_succ f x rest place e).mp first
          rcases passing x b passes with through | ⟨d, own, light⟩
          · obtain ⟨place', d, found, agree⟩ := ih place tail
            have moved := (firstError_cons_succ g x rest place' d).mpr ⟨through, found⟩
            rcases agree with same | ⟨sooner, light⟩
            · exact ⟨place' + 1, d, moved, Or.inl ⟨by omega, same.2⟩⟩
            · exact ⟨place' + 1, d, moved, Or.inr ⟨by omega, light⟩⟩
          · exact ⟨0, d, (firstError_cons_zero g x rest d).mpr own, Or.inr ⟨by omega, light⟩⟩

end Crosswalk
