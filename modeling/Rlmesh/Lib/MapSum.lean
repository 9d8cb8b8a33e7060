import Mathlib
/-!
# Sums over a map

The total of a quantity over the values of a finite map, and what setting or
dropping one entry does to it.
-/

namespace Rlmesh.Lib

variable {κ β : Type} [DecidableEq κ]

/-- The sum of `f` over a map's values. -/
def mapSum (f : β → Nat) (map : AList (fun _ : κ => β)) : Nat := (map.entries.map (fun entry => f entry.2)).sum

variable {f g : β → Nat} {map : AList (fun _ : κ => β)} {key : κ} {old : β}

private theorem sum_kerase {entries : List (Sigma (fun _ : κ => β))} (h : entries.dlookup key = some old) :
    ((entries.kerase key).map (fun entry => f entry.2)).sum + f old = (entries.map (fun entry => f entry.2)).sum := by
  induction entries with
  | nil => cases h
  | cons entry rest ih =>
    obtain ⟨first, value⟩ := entry
    by_cases hkey : key = first
    · subst hkey
      rw [List.dlookup_cons_eq] at h
      cases h
      have hrest : (⟨key, old⟩ :: rest : List (Sigma (fun _ : κ => β))).kerase key = rest := List.kerase_cons_eq rfl
      rw [hrest, List.map_cons, List.sum_cons, Nat.add_comm]
    · rw [List.dlookup_cons_ne _ _ hkey] at h
      rw [List.kerase_cons_ne hkey, List.map_cons, List.map_cons, List.sum_cons, List.sum_cons, Nat.add_assoc, ih h]

theorem mapSum_erase (h : map.lookup key = some old) : mapSum f (map.erase key) + f old = mapSum f map :=
  sum_kerase h

theorem mapSum_erase_none (h : map.lookup key = none) : mapSum f (map.erase key) = mapSum f map := by
  have hsame : (map.erase key).entries = map.entries := List.kerase_of_notMem_keys (AList.lookup_eq_none.1 h)
  unfold mapSum
  rw [hsame]

theorem mapSum_erase_le (map : AList (fun _ : κ => β)) (key : κ) : mapSum f (map.erase key) ≤ mapSum f map := by
  cases h : map.lookup key with
  | none => rw [mapSum_erase_none h]
  | some old =>
    rw [← mapSum_erase h]
    exact Nat.le_add_right _ _

theorem mapSum_insert (value : β) : mapSum f (map.insert key value) = f value + mapSum f (map.erase key) := by
  unfold mapSum
  rw [AList.entries_insert, List.map_cons, List.sum_cons]
  rfl

theorem mapSum_set (h : map.lookup key = some old) (value : β) :
    mapSum f (map.insert key value) + f old = mapSum f map + f value := by
  rw [mapSum_insert, ← mapSum_erase h]
  omega

theorem le_mapSum (h : map.lookup key = some old) : f old ≤ mapSum f map := by
  rw [← mapSum_erase h]
  omega

theorem mapSum_congr (h : ∀ key value, map.lookup key = some value → f value = g value) :
    mapSum f map = mapSum g map := by
  unfold mapSum
  refine congrArg List.sum (List.map_congr_left (fun entry hentry => ?_))
  exact h entry.1 entry.2 (List.mem_dlookup map.nodupKeys hentry)

end Rlmesh.Lib
