import Mathlib
/-!
# Sliding windows

The last `span` entries of a history that is preceded by padding. Pushing an
entry onto a full window drops its oldest one; an entry is found by how far it
lies back.
-/

namespace Rlmesh.Lib

variable {α : Type} {span : Nat} {pad : α} {history : List α}

/-- The newest `span` entries, oldest first, of a history padded in front. -/
def windowOf (span : Nat) (pad : α) (history : List α) : List α :=
  (List.replicate (span - 1) pad ++ history).rtake span

/-- The window a push finds, made room in if it is full. -/
def pushed (span : Nat) (window : List α) (entry : α) : List α :=
  (if window.length = span then window.drop 1 else window) ++ [entry]

theorem windowOf_nil (span : Nat) (pad : α) : windowOf span pad [] = List.replicate (span - 1) pad := by
  rw [windowOf, List.append_nil, List.rtake_eq_reverse_take_reverse, List.reverse_replicate, List.take_replicate,
    List.reverse_replicate, min_eq_right (Nat.sub_le span 1)]

theorem length_windowOf (hspan : 0 < span) (h : history ≠ []) : (windowOf span pad history).length = span := by
  have hpos : 0 < history.length := List.length_pos_of_ne_nil h
  rw [windowOf, List.rtake, List.length_drop, List.length_append, List.length_replicate]
  omega

theorem pushed_windowOf (hspan : 0 < span) (pad : α) (history : List α) (entry : α) :
    pushed span (windowOf span pad history) entry = windowOf span pad (history ++ [entry]) := by
  obtain ⟨reach, rfl⟩ : ∃ reach, span = reach + 1 := ⟨span - 1, by omega⟩
  have hconcat : windowOf (reach + 1) pad (history ++ [entry]) =
      (List.replicate (reach + 1 - 1) pad ++ history).rtake reach ++ [entry] := by
    rw [windowOf, ← List.append_assoc, List.rtake_concat_succ]
  rw [hconcat, pushed]
  congr 1
  by_cases h : history = []
  · rw [h, windowOf_nil, List.length_replicate, if_neg (by omega), List.append_nil]
    simp [List.rtake]
  · rw [if_pos (length_windowOf hspan h), windowOf, List.rtake, List.rtake, List.drop_drop]
    have hpos : 0 < history.length := List.length_pos_of_ne_nil h
    congr 1
    simp only [List.length_append, List.length_replicate]
    omega

theorem windowOf_getElem? (h : history ≠ []) {back : Nat} (hback : back < span) :
    (windowOf span pad history)[span - 1 - back]? =
      if back < history.length then history[history.length - 1 - back]? else some pad := by
  have hpos : 0 < history.length := List.length_pos_of_ne_nil h
  rw [windowOf, List.rtake, List.getElem?_drop, List.length_append, List.length_replicate]
  split
  · rw [List.getElem?_append_right (by rw [List.length_replicate]; omega), List.length_replicate]
    congr 1
    omega
  · rw [List.getElem?_append_left (by rw [List.length_replicate]; omega), List.getElem?_replicate, if_pos (by omega)]

end Rlmesh.Lib
