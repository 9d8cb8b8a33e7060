import Mathlib
/-!
# Lives of ids

A log marks ids as used and as ended. In an orderly log nothing is marked under
an id once that id has ended: it is not used again and not ended a second time.
-/

namespace Rlmesh.Lib

variable {ι : Type}

inductive Mark (ι : Type) where
  | used (id : ι)
  | ended (id : ι)
  deriving DecidableEq

def Mark.id : Mark ι → ι
  | .used id | .ended id => id

/-- No mark carries an id that ended before it. -/
def Orderly (log : List (Mark ι)) : Prop :=
  log.Pairwise fun earlier later => ∀ id, earlier = .ended id → later.id ≠ id

/-- Every id that was used has ended. -/
def Complete (log : List (Mark ι)) : Prop :=
  ∀ id, .used id ∈ log → .ended id ∈ log

instance [DecidableEq ι] (log : List (Mark ι)) : Decidable (Complete log) :=
  decidable_of_iff (∀ mark ∈ log, .ended mark.id ∈ log) <| by
    constructor
    · exact fun h id hid => h _ hid
    · intro h mark hmark
      cases mark with
      | used id => exact h id hmark
      | ended id => exact hmark

theorem orderly_nil : Orderly ([] : List (Mark ι)) := .nil

theorem Orderly.snoc {log : List (Mark ι)} (h : Orderly log) {mark : Mark ι} (hmark : .ended mark.id ∉ log) :
    Orderly (log ++ [mark]) := by
  refine List.pairwise_append.2 ⟨h, List.pairwise_singleton _ _, ?_⟩
  rintro earlier hearlier later hlater id rfl rfl
  obtain rfl : later = mark := by simpa using hlater
  exact hmark hearlier

theorem Orderly.endAll {log : List (Mark ι)} (h : Orderly log) {ids : List ι} (hids : ids.Nodup)
    (hlog : ∀ id ∈ ids, .ended id ∉ log) : Orderly (log ++ ids.map .ended) := by
  refine List.pairwise_append.2 ⟨h, ?_, ?_⟩
  · refine List.pairwise_map.2 (hids.imp ?_)
    rintro a b hab id ⟨⟩ heq
    exact hab heq.symm
  · rintro earlier hearlier later hlater id rfl rfl
    obtain ⟨other, hother, rfl⟩ := List.mem_map.1 hlater
    exact hlog other hother hearlier

end Rlmesh.Lib
