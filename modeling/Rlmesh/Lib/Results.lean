import Mathlib
/-!
# Computations that return a result or an error

What a successful `Except` computation says about its parts: a sequence of two
went through both, and a list handled element by element succeeded on each.
-/

namespace Rlmesh.Lib

variable {ε α β : Type}

variable {x : Except ε α} {f : α → Except ε β} {xs : List α} {ys : List β} {R : α → β → Prop}

theorem bind_ok {b : β} : (x >>= f) = .ok b ↔ ∃ a, x = .ok a ∧ f a = .ok b := by
  cases x with
  | error e => simp [bind, Except.bind]
  | ok a => simp [bind, Except.bind]

theorem mapError_ok {ε' : Type} {f : ε → ε'} {a : α} : x.mapError f = .ok a ↔ x = .ok a := by
  cases x <;> simp [Except.mapError]

theorem exists_ok_of_toOption {f : α → β} {b : β} (h : x.toOption.map f = some b) : ∃ a, x = .ok a ∧ f a = b := by
  cases x with
  | error e => cases h
  | ok a => exact ⟨a, rfl, Option.some.inj h⟩

theorem mapM_ok : xs.mapM f = .ok ys ↔ List.Forall₂ (fun x y => f x = .ok y) xs ys := by
  induction xs generalizing ys with
  | nil => simp [pure, Except.pure, eq_comm]
  | cons x rest ih =>
    rw [List.mapM_cons, bind_ok]
    constructor
    · rintro ⟨y, hy, h⟩
      obtain ⟨ys', hys, h⟩ := bind_ok.1 h
      cases h
      exact .cons hy (ih.1 hys)
    · intro h
      cases h with
      | cons hy hys => exact ⟨_, hy, bind_ok.2 ⟨_, ih.2 hys, rfl⟩⟩

/-- A list handled element by element, when each one succeeds with a known property. -/
theorem mapM_exists {Q : α → β → Prop} (h : ∀ x ∈ xs, ∃ y, f x = .ok y ∧ Q x y) :
    ∃ ys, xs.mapM f = .ok ys ∧ List.Forall₂ Q xs ys := by
  induction xs with
  | nil => exact ⟨[], rfl, .nil⟩
  | cons x rest ih =>
    obtain ⟨y, hy, hq⟩ := h x List.mem_cons_self
    obtain ⟨ys, hys, hqs⟩ := ih (fun other hother => h other (List.mem_cons_of_mem _ hother))
    exact ⟨y :: ys, mapM_ok.2 (.cons hy (mapM_ok.1 hys)), .cons hq hqs⟩

theorem mapM_total (h : ∀ x ∈ xs, ∃ y, f x = .ok y) : ∃ ys, xs.mapM f = .ok ys := by
  obtain ⟨ys, hys, -⟩ := mapM_exists (fun x hx => (h x hx).imp fun y hy => (⟨hy, trivial⟩ : f x = .ok y ∧ True))
  exact ⟨ys, hys⟩

theorem forall₂_mem_right (h : List.Forall₂ R xs ys) {y : β} (hy : y ∈ ys) : ∃ x ∈ xs, R x y := by
  induction h with
  | nil => cases hy
  | cons hxy _ ih =>
    rcases List.mem_cons.1 hy with rfl | hy
    · exact ⟨_, List.mem_cons_self, hxy⟩
    · obtain ⟨x, hx, hr⟩ := ih hy
      exact ⟨x, List.mem_cons_of_mem _ hx, hr⟩

theorem forall₂_getElem? (h : List.Forall₂ R xs ys) {p : Nat} {x : α} (hx : xs[p]? = some x) :
    ∃ y, ys[p]? = some y ∧ R x y := by
  induction h generalizing p with
  | nil => cases hx
  | cons hxy _ ih =>
    cases p with
    | zero => cases hx; exact ⟨_, rfl, hxy⟩
    | succ p => exact ih hx

theorem forall₂_imp_mem {S : α → β → Prop} (hrs : ∀ x ∈ xs, ∀ y ∈ ys, R x y → S x y) (h : List.Forall₂ R xs ys) :
    List.Forall₂ S xs ys := by
  induction h with
  | nil => exact .nil
  | cons hxy _ ih =>
    refine .cons (hrs _ List.mem_cons_self _ List.mem_cons_self hxy) (ih (fun x hx y hy => ?_))
    exact hrs x (List.mem_cons_of_mem _ hx) y (List.mem_cons_of_mem _ hy)

theorem forall₂_chain {γ : Type} {S : β → γ → Prop} {T : α → γ → Prop} (hrst : ∀ x y z, R x y → S y z → T x z)
    {zs : List γ} (h : List.Forall₂ R xs ys) (h' : List.Forall₂ S ys zs) : List.Forall₂ T xs zs := by
  induction h generalizing zs with
  | nil => cases h'; exact .nil
  | cons hxy _ ih =>
    cases h' with
    | cons hyz hrest => exact .cons (hrst _ _ _ hxy hyz) (ih hrest)

end Rlmesh.Lib
