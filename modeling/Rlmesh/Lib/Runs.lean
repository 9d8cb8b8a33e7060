import Mathlib
/-!
# Runs of a system

A `System` answers events one at a time: `step s e` is the state after `e`, or
`none` when `e` cannot happen in `s`. `Reach C` are the states of the runs all
of whose steps satisfy `C`, a condition on the event and the state it meets
(`fun _ _ => True` for every run). Safety theorems are invariants of `Reach`;
a property that only holds while some condition is met along the run is an
invariant of the runs that meet it.
-/

namespace Rlmesh.Lib

structure System (σ ε : Type) where
  init : σ
  step : σ → ε → Option σ

namespace System

variable {σ ε : Type} {sys : System σ ε} {C D : σ → ε → Prop} {s s' : σ}

/-- The states reached by runs whose steps all satisfy `C`. -/
inductive Reach (sys : System σ ε) (C : σ → ε → Prop) : σ → Prop
  | init : Reach sys C sys.init
  | step {s s' e} : Reach sys C s → C s e → sys.step s e = some s' → Reach sys C s'

/-- An invariant kept by every step that satisfies `C` holds along every such run. -/
theorem Reach.inv (I : σ → Prop) (h0 : I sys.init)
    (hs : ∀ s e s', I s → C s e → sys.step s e = some s' → I s') (h : sys.Reach C s) : I s := by
  induction h with
  | init => exact h0
  | step _ hc he ih => exact hs _ _ _ ih hc he

/-- An invariant proved with the help of facts already known of the run. -/
theorem Reach.inv_of (K I : σ → Prop) (hk : ∀ {s}, sys.Reach C s → K s) (h0 : I sys.init)
    (hs : ∀ s e s', K s → K s' → I s → C s e → sys.step s e = some s' → I s') (h : sys.Reach C s) : I s := by
  induction h with
  | init => exact h0
  | step hr hc he ih => exact hs _ _ _ (hk hr) (hk (.step hr hc he)) ih hc he

/-- A run under a stronger condition is a run under a weaker one. -/
theorem Reach.mono (hcd : ∀ s e, C s e → D s e) (h : sys.Reach C s) : sys.Reach D s := by
  induction h with
  | init => exact .init
  | step _ hc he ih => exact ih.step (hcd _ _ hc) he

/-- The state after a list of events. -/
def runFrom (sys : System σ ε) (s : σ) : List ε → Option σ
  | [] => some s
  | e :: es => (sys.step s e).bind (fun s' => sys.runFrom s' es)

/-- Every step of the run satisfies `C`. -/
def Along (sys : System σ ε) (C : σ → ε → Prop) (s : σ) : List ε → Prop
  | [] => True
  | e :: es => C s e ∧ match sys.step s e with
    | some s' => sys.Along C s' es
    | none => True

instance Along.decidable [∀ s e, Decidable (C s e)] (s : σ) : ∀ es, Decidable (sys.Along C s es)
  | [] => .isTrue trivial
  | e :: es =>
    have : Decidable (match sys.step s e with | some s' => sys.Along C s' es | none => True) :=
      match sys.step s e with
      | some s' => Along.decidable s' es
      | none => .isTrue trivial
    inferInstanceAs (Decidable (_ ∧ _))

theorem Reach.runFrom (h : sys.Reach C s) :
    ∀ es, sys.Along C s es → sys.runFrom s es = some s' → sys.Reach C s' := by
  intro es
  induction es generalizing s with
  | nil =>
    intro _ hr
    simp only [System.runFrom, Option.some.injEq] at hr
    exact hr ▸ h
  | cons e es ih =>
    intro ha hr
    simp only [System.runFrom, Option.bind_eq_some_iff] at hr
    obtain ⟨t, ht, hr⟩ := hr
    simp only [Along, ht] at ha
    exact ih (h.step ha.1 ht) ha.2 hr

/-- A run that ends in a state satisfying `p` reaches one. -/
theorem exists_reach_of_runFrom (sys : System σ ε) (C : σ → ε → Prop) (p : σ → Bool) (es : List ε)
    (ha : sys.Along C sys.init es) (hp : (sys.runFrom sys.init es).any p = true) : ∃ s, sys.Reach C s ∧ p s = true := by
  cases hr : sys.runFrom sys.init es with
  | none => rw [hr] at hp; cases hp
  | some s =>
    rw [hr] at hp
    exact ⟨s, Reach.init.runFrom es ha hr, hp⟩

end System

end Rlmesh.Lib
