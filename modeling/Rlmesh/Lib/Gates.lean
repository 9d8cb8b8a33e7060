import Mathlib
/-!
# Work admitted in order behind gates

Jobs are numbered in the order they arrive, and a job starts once every job it
waits on has ended. Two facts are general: if every earlier job that must come
first has ended or is reached through a gate, jobs that must follow one another
do so; and since a job only waits on earlier ones, the earliest unfinished job
waits on nothing.
-/

namespace Rlmesh.Lib

/-- How jobs stand to one another: which have `started` and `ended`, which must
come after which (`follows j i`), and which gates a job holds (`waits j m`). -/
structure Gates (started ended : Nat → Prop) (follows waits : Nat → Nat → Prop) : Prop where
  started_of_ended : ∀ i, ended i → started i
  ended_of_started : ∀ j m, started j → waits j m → ended m
  /-- A job that must come first has ended, or is a job `j` waits on, or comes before one. -/
  covered : ∀ i j, i < j → follows j i → ended i ∨ ∃ m < j, waits j m ∧ (m = i ∨ i < m ∧ follows m i)

/-- Jobs that must follow one another do: a started one finds the earlier one ended. -/
theorem Gates.serial {started ended : Nat → Prop} {follows waits : Nat → Nat → Prop}
    (h : Gates started ended follows waits) {i j : Nat} (hj : started j) (hij : i < j) (hf : follows j i) :
    ended i := by
  induction j using Nat.strong_induction_on with
  | _ j ih =>
    rcases h.covered i j hij hf with hi | ⟨m, hm, hwait, rfl | ⟨him, hmi⟩⟩
    · exact hi
    · exact h.ended_of_started j m hj hwait
    · have hended := h.ended_of_started j m hj hwait
      exact ih m hm (h.started_of_ended m hended) him hmi

theorem exists_ready {finished : Nat → Prop} {waits : Nat → Nat → Prop} (hlt : ∀ j m, waits j m → m < j) {n : Nat}
    (h : ∃ i < n, ¬ finished i) : ∃ i < n, ¬ finished i ∧ ∀ m, waits i m → finished m := by
  classical
  obtain ⟨hn, hfirst⟩ := Nat.find_spec h
  refine ⟨Nat.find h, hn, hfirst, fun m hm => ?_⟩
  have hbefore := hlt _ m hm
  by_contra hunfinished
  exact Nat.find_min h hbefore ⟨Nat.lt_trans hbefore hn, hunfinished⟩

end Rlmesh.Lib
