import Mathlib
/-!
# Lists in blocks

`blocks size l` cuts a list into blocks of `size`, the last of which may be
shorter. A loop over the blocks that keeps count of the elements before a block
counts right: only the last block can be short (`blocks_induction`).
-/
namespace Rlmesh.Lib

variable {α : Type}

def blocks (size : Nat) : List α → List (List α)
  | [] => []
  | a :: rest => (a :: rest.take (size - 1)) :: blocks size (rest.drop (size - 1))
termination_by l => l.length
decreasing_by
  simp only [List.length_drop, List.length_cons]
  omega

/-- A block is full unless it is the last. -/
theorem blocks_induction {size : Nat} (hsize : 0 < size) {motive : List α → List (List α) → Prop} (nil : motive [] [])
    (cons : ∀ block rest, rest = [] ∨ block.length = size → motive rest (blocks size rest) →
      motive (block ++ rest) (block :: blocks size rest)) (l : List α) : motive l (blocks size l) := by
  induction l using blocks.induct size with
  | case1 =>
    rw [blocks]
    exact nil
  | case2 a rest ih =>
    rw [blocks]
    have hsplit : a :: rest = (a :: rest.take (size - 1)) ++ rest.drop (size - 1) := by
      rw [List.cons_append, List.take_append_drop]
    have hfull : rest.drop (size - 1) = [] ∨ (a :: rest.take (size - 1)).length = size := by
      rw [List.drop_eq_nil_iff, List.length_cons, List.length_take]
      omega
    have hcons := cons _ _ hfull ih
    rwa [← hsplit] at hcons

end Rlmesh.Lib
