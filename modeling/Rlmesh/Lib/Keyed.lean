import Mathlib
/-!
# Keyed tables

A table is a function from keys to optional rows; `keys.filterMap f` lists its
rows. These lemmas say how the rows change, up to order, when one key does, what
a loop over distinct keys does to each of them, and relate the rows of an
association list to those of its lookup function.
-/

open scoped List

namespace Rlmesh.Lib

variable {κ α : Type} [DecidableEq κ]

theorem filterMap_clear_perm (f : κ → Option α) {keys : List κ} (hn : keys.Nodup) {k : κ} {a : α}
    (hk : k ∈ keys) (hf : f k = some a) :
    (keys.filterMap f).Perm (a :: keys.filterMap (Function.update f k none)) := by
  induction keys with
  | nil => cases hk
  | cons x xs ih =>
    rw [List.nodup_cons] at hn
    by_cases hx : x = k
    · subst hx
      have hsame : xs.filterMap (Function.update f x none) = xs.filterMap f := by
        refine List.filterMap_congr (fun y hy => Function.update_of_ne ?_ _ _)
        rintro rfl
        exact hn.1 hy
      simp [hf, hsame]
    · have hk' : k ∈ xs := by simpa [Ne.symm hx] using hk
      cases hfx : f x with
      | none => simpa [hfx, Function.update_of_ne hx] using ih hn.2 hk'
      | some b =>
        simp only [List.filterMap_cons, hfx, Function.update_of_ne hx]
        exact ((ih hn.2 hk').cons b).trans (.swap a b _)

theorem filterMap_set_perm (f : κ → Option α) {keys : List κ} (hn : keys.Nodup) {k : κ} (a : α)
    (hk : k ∈ keys) :
    ((f k).toList ++ keys.filterMap (Function.update f k (some a))).Perm (a :: keys.filterMap f) := by
  have hset := filterMap_clear_perm (Function.update f k (some a)) hn hk (Function.update_self k (some a) f)
  rw [Function.update_idem] at hset
  cases hf : f k with
  | none =>
    have hclear : Function.update f k none = f := by rw [← hf, Function.update_eq_self]
    simpa [hclear] using hset
  | some b =>
    have hold := filterMap_clear_perm f hn hk hf
    calc [b] ++ keys.filterMap (Function.update f k (some a))
        _ ~ b :: a :: keys.filterMap (Function.update f k none) := hset.cons b
        _ ~ a :: b :: keys.filterMap (Function.update f k none) := .swap a b _
        _ ~ a :: keys.filterMap f := hold.symm.cons a

/-! ## Loops over distinct keys -/

/-- The body of a loop over keyed entries: in states that satisfy `inv` it
changes what is seen of the entry's key, and of no other. -/
structure KeyedLoop (σ κ ι β : Type) [DecidableEq κ] where
  body : σ → κ × ι → σ
  view : σ → κ → β
  change : κ → ι → β → β
  inv : σ → Prop
  keeps : ∀ s entry, inv s → inv (body s entry)
  changes : ∀ s entry, inv s → ∀ k,
    view (body s entry) k = if k = entry.1 then change entry.1 entry.2 (view s k) else view s k

namespace KeyedLoop

variable {σ ι β : Type} (loop : KeyedLoop σ κ ι β) {entries : List (κ × ι)} {s : σ}

theorem foldl_inv (entries : List (κ × ι)) (h : loop.inv s) : loop.inv (entries.foldl loop.body s) := by
  induction entries generalizing s with
  | nil => exact h
  | cons entry rest ih => exact ih (loop.keeps s entry h)

theorem view_of_notMem (h : loop.inv s) {k : κ} (hk : k ∉ entries.map Prod.fst) :
    loop.view (entries.foldl loop.body s) k = loop.view s k := by
  induction entries generalizing s with
  | nil => rfl
  | cons entry rest ih =>
    rw [List.map_cons, List.mem_cons, not_or] at hk
    rw [List.foldl_cons, ih (loop.keeps s entry h) hk.2, loop.changes s entry h, if_neg hk.1]

theorem view_of_mem (h : loop.inv s) (hn : (entries.map Prod.fst).Nodup) {entry : κ × ι} (he : entry ∈ entries) :
    loop.view (entries.foldl loop.body s) entry.1 = loop.change entry.1 entry.2 (loop.view s entry.1) := by
  induction entries generalizing s with
  | nil => cases he
  | cons first rest ih =>
    rw [List.map_cons, List.nodup_cons] at hn
    rw [List.foldl_cons]
    rcases List.mem_cons.1 he with rfl | he
    · rw [loop.view_of_notMem (loop.keeps s entry h) hn.1, loop.changes s entry h, if_pos rfl]
    · have hne : entry.1 ≠ first.1 := by
        intro heq
        exact hn.1 (heq ▸ List.mem_map_of_mem he)
      rw [ih (loop.keeps s first h) hn.2 he, loop.changes s first h, if_neg hne]

end KeyedLoop

theorem entries_perm_lookup {β : Type} (s : AList (fun _ : κ => β)) {keys : List κ} (hn : keys.Nodup)
    (hk : ∀ k ∈ s, k ∈ keys) :
    s.entries.Perm (keys.filterMap (fun k => (s.lookup k).map (Sigma.mk k))) := by
  refine (List.perm_ext_iff_of_nodup (List.NodupKeys.nodup s.nodupKeys) ?_).2 (fun row => ?_)
  · refine hn.filterMap (fun k k' row h h' => ?_)
    simp only [Option.mem_def, Option.map_eq_some_iff] at h h'
    obtain ⟨b, _, rfl⟩ := h
    obtain ⟨b', _, he⟩ := h'
    cases he
    rfl
  · obtain ⟨k, b⟩ := row
    simp only [List.mem_filterMap, Option.map_eq_some_iff]
    constructor
    · intro h
      have hl : s.lookup k = some b := AList.mem_lookup_iff.2 h
      exact ⟨k, hk k (AList.lookup_isSome.1 (by rw [hl]; rfl)), b, hl, rfl⟩
    · rintro ⟨k', _, b', hl, he⟩
      cases he
      exact AList.mem_lookup_iff.1 hl

theorem map_filterMap_sublist {α β κ : Type} {f : α → Option β} {k : α → κ} {key : β → κ}
    (h : ∀ a b, f a = some b → key b = k a) (l : List α) : ((l.filterMap f).map key).Sublist (l.map k) := by
  induction l with
  | nil => exact List.Sublist.slnil
  | cons a rest ih =>
    cases hf : f a with
    | none =>
      rw [List.filterMap_cons_none hf]
      exact ih.cons _
    | some b =>
      rw [List.filterMap_cons_some hf, List.map_cons, List.map_cons, h a b hf]
      exact ih.cons_cons _

/-! ## Looking a key up -/

section Lookup

variable {κ α : Type} [BEq κ] [LawfulBEq κ]

theorem mem_of_lookup {l : List (κ × α)} {k : κ} {a : α} (h : l.lookup k = some a) : (k, a) ∈ l := by
  obtain ⟨before, after, rfl, -⟩ := List.lookup_eq_some_iff.1 h
  simp

/-- Filtering keeps the entry a key is looked up to, if that entry passes. -/
theorem lookup_filter_of_pos {p : κ × α → Bool} {l : List (κ × α)} {k : κ} {a : α} (h : l.lookup k = some a)
    (hp : p (k, a) = true) : (l.filter p).lookup k = some a := by
  obtain ⟨before, after, rfl, hbefore⟩ := List.lookup_eq_some_iff.1 h
  refine List.lookup_eq_some_iff.2 ⟨before.filter p, after.filter p, by simp [hp], fun entry hentry => ?_⟩
  exact hbefore entry (List.mem_filter.1 hentry).1

theorem lookup_filter_ne {l : List (κ × α)} {k k' : κ} (h : k ≠ k') :
    (l.filter (·.1 != k')).lookup k = l.lookup k := by
  induction l with
  | nil => rfl
  | cons entry rest ih =>
    obtain ⟨key, a⟩ := entry
    by_cases hkey : key = k'
    · subst hkey
      simp [List.lookup_cons, beq_false_of_ne h, ih]
    · simp [hkey, List.lookup_cons, ih]

theorem filter_key_of_nodup {l : List (κ × α)} (hn : (l.map Prod.fst).Nodup) {k : κ} {a : α} (h : (k, a) ∈ l) :
    l.filter (fun entry => entry.1 == k) = [(k, a)] := by
  induction l with
  | nil => cases h
  | cons entry rest ih =>
    obtain ⟨hnew, hrest⟩ := List.nodup_cons.1 hn
    rcases List.mem_cons.1 h with rfl | hmem
    · have hnone : rest.filter (fun entry => entry.1 == k) = [] := by
        rw [List.filter_eq_nil_iff]
        rintro ⟨k', b⟩ hb hk
        obtain rfl : k' = k := by simpa using hk
        exact hnew (List.mem_map.2 ⟨_, hb, rfl⟩)
      simp [hnone]
    · have hne : entry.1 ≠ k := by
        rintro rfl
        exact hnew (List.mem_map.2 ⟨_, hmem, rfl⟩)
      simp [hne, ih hrest hmem]

end Lookup

/-! ## Lists that grow at the end -/

theorem snoc_cases {l : List α} {new a : α} {i : Nat} (h : (l ++ [new])[i]? = some a) :
    l[i]? = some a ∨ i = l.length ∧ a = new := by
  rw [List.getElem?_append] at h
  split at h
  · exact .inl h
  · rename_i hge
    obtain ⟨hi, rfl⟩ := List.getElem?_eq_some_iff.1 h
    simp only [List.length_singleton, Nat.lt_one_iff] at hi
    exact .inr ⟨by omega, by simp [hi]⟩

theorem getElem?_snoc {l : List α} {a : α} {i : Nat} (h : l[i]? = some a) (new : α) : (l ++ [new])[i]? = some a := by
  obtain ⟨hi, -⟩ := List.getElem?_eq_some_iff.1 h
  rw [List.getElem?_append_left hi, h]

end Rlmesh.Lib
