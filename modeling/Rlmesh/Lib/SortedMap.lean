import Mathlib
/-!
# Ordered maps

A map kept as the list of its entries in ascending key order, so that two maps
with the same entries are the same list.
-/

namespace Rlmesh.Lib

variable {κ β : Type} [LinearOrder κ]

theorem lookup_cons_eq (k : κ) (entry : κ × β) (rest : List (κ × β)) :
    (entry :: rest).lookup k = if k = entry.1 then some entry.2 else rest.lookup k := by
  obtain ⟨key, value⟩ := entry
  by_cases hk : k = key
  · simp [hk]
  · have hbeq : (k == key) = false := beq_eq_false_iff_ne.2 hk
    rw [List.lookup_cons, hbeq, if_neg hk]

variable {entries : List (κ × β)} {entry : κ × β}

theorem lookup_eq_none_of_ne {k : κ} (h : ∀ entry ∈ entries, k ≠ entry.1) : entries.lookup k = none := by
  induction entries with
  | nil => rfl
  | cons entry rest ih =>
    rw [lookup_cons_eq, if_neg (h entry List.mem_cons_self),
      ih (fun other hother => h other (List.mem_cons_of_mem _ hother))]

/-- The keys come in strictly ascending order. -/
def Ascending (entries : List (κ × β)) : Prop := entries.Pairwise (fun a b => a.1 < b.1)

instance (entries : List (κ × β)) : Decidable (Ascending entries) :=
  inferInstanceAs (Decidable (entries.Pairwise _))

/-- Set a key's entry. -/
def insertKey (key : κ) (value : β) : List (κ × β) → List (κ × β)
  | [] => [(key, value)]
  | entry :: rest =>
    if key < entry.1 then (key, value) :: entry :: rest
    else if key = entry.1 then (key, value) :: rest
    else entry :: insertKey key value rest

theorem lookup_insertKey (key : κ) (value : β) (entries : List (κ × β)) (k : κ) :
    (insertKey key value entries).lookup k = if k = key then some value else entries.lookup k := by
  induction entries with
  | nil => rw [insertKey, lookup_cons_eq]
  | cons entry rest ih =>
    unfold insertKey
    split
    · rw [lookup_cons_eq]
    · split
      · rename_i heq
        rw [lookup_cons_eq, lookup_cons_eq, ← heq]
        by_cases hk : k = key <;> simp [hk]
      · rename_i hne
        rw [lookup_cons_eq, lookup_cons_eq, ih]
        by_cases hk : k = key
        · subst hk
          rw [if_neg hne, if_pos rfl, if_pos rfl]
        · rw [if_neg hk, if_neg hk]

theorem mem_insertKey {key : κ} {value : β} (h : entry ∈ insertKey key value entries) :
    entry = (key, value) ∨ entry ∈ entries := by
  induction entries with
  | nil => exact .inl (List.mem_singleton.1 h)
  | cons first rest ih =>
    unfold insertKey at h
    split at h
    · exact List.mem_cons.1 h
    · split at h
      · exact (List.mem_cons.1 h).imp_right (List.mem_cons_of_mem _)
      · rcases List.mem_cons.1 h with h | h
        · exact .inr (h ▸ List.mem_cons_self)
        · exact (ih h).imp_right (List.mem_cons_of_mem _)

theorem Ascending.insertKey (h : Ascending entries) (key : κ) (value : β) :
    Ascending (insertKey key value entries) := by
  induction entries with
  | nil => exact List.pairwise_singleton _ _
  | cons entry rest ih =>
    obtain ⟨hentry, hrest⟩ := List.pairwise_cons.1 h
    unfold Lib.insertKey
    split
    · rename_i hlt
      refine List.pairwise_cons.2 ⟨?_, h⟩
      intro other hother
      rcases List.mem_cons.1 hother with rfl | hother
      · exact hlt
      · exact hlt.trans (hentry other hother)
    · rename_i hle
      split
      · rename_i heq
        exact List.pairwise_cons.2 ⟨fun other hother => heq ▸ hentry other hother, hrest⟩
      · rename_i hne
        refine List.pairwise_cons.2 ⟨?_, ih hrest⟩
        intro other hother
        rcases mem_insertKey hother with rfl | hother
        · exact lt_of_le_of_ne (not_lt.1 hle) (Ne.symm hne)
        · exact hentry other hother

theorem Ascending.ext {entries' : List (κ × β)} (h : Ascending entries) (h' : Ascending entries')
    (hl : ∀ k, entries.lookup k = entries'.lookup k) : entries = entries' := by
  induction entries generalizing entries' with
  | nil =>
    cases entries' with
    | nil => rfl
    | cons entry rest =>
      have hhead := hl entry.1
      rw [lookup_cons_eq, if_pos rfl] at hhead
      cases hhead
  | cons entry rest ih =>
    cases entries' with
    | nil =>
      have hhead := hl entry.1
      rw [lookup_cons_eq, if_pos rfl] at hhead
      cases hhead
    | cons entry' rest' =>
      obtain ⟨hentry, hrest⟩ := List.pairwise_cons.1 h
      obtain ⟨hentry', hrest'⟩ := List.pairwise_cons.1 h'
      obtain ⟨key, value⟩ := entry
      obtain ⟨key', value'⟩ := entry'
      -- The smaller of the two first keys would be missing from the other map.
      have hkey : key = key' := by
        rcases lt_trichotomy key key' with hlt | heq | hlt
        · have hnone : rest'.lookup key = none := lookup_eq_none_of_ne fun e he => (hlt.trans (hentry' e he)).ne
          have hhead := hl key
          rw [lookup_cons_eq, lookup_cons_eq, if_pos rfl, if_neg hlt.ne, hnone] at hhead
          cases hhead
        · exact heq
        · have hnone : rest.lookup key' = none := lookup_eq_none_of_ne fun e he => (hlt.trans (hentry e he)).ne
          have hhead := hl key'
          rw [lookup_cons_eq, lookup_cons_eq, if_pos rfl, if_neg hlt.ne, hnone] at hhead
          cases hhead
      subst hkey
      have hvalue : some value = some value' := by
        have hhead := hl key
        rwa [lookup_cons_eq, lookup_cons_eq, if_pos rfl, if_pos rfl] at hhead
      cases hvalue
      have htail : rest = rest' := by
        refine ih hrest hrest' (fun k => ?_)
        by_cases hk : k = key
        · subst hk
          rw [lookup_eq_none_of_ne fun e he => (hentry e he).ne, lookup_eq_none_of_ne fun e he => (hentry' e he).ne]
        · have htail := hl k
          rwa [lookup_cons_eq, lookup_cons_eq, if_neg hk, if_neg hk] at htail
      rw [htail]

theorem isSome_lookup_iff {k : κ} : (entries.lookup k).isSome = true ↔ k ∈ entries.map Prod.fst := by
  induction entries with
  | nil => simp
  | cons entry rest ih =>
    rw [lookup_cons_eq]
    split
    · rename_i h
      simp [h]
    · rename_i h
      rw [ih]
      simp [h]

theorem Ascending.keys_eq {γ : Type} {entries' : List (κ × γ)} (h : Ascending entries) (h' : Ascending entries')
    (hk : ∀ k, (entries.lookup k).isSome = true ↔ (entries'.lookup k).isSome = true) :
    entries.map Prod.fst = entries'.map Prod.fst :=
  List.Pairwise.eq_of_mem_iff (r := (· < ·)) (List.pairwise_map.2 h) (List.pairwise_map.2 h')
    (fun k => isSome_lookup_iff.symm.trans ((hk k).trans isSome_lookup_iff))

/-- Filling a map key by key. -/
def insertAll (fields : List (κ × β)) (entries : List (κ × β)) : List (κ × β) :=
  fields.foldl (fun entries field => insertKey field.1 field.2 entries) entries

theorem Ascending.insertAll (h : Ascending entries) (fields : List (κ × β)) :
    Ascending (insertAll fields entries) := by
  induction fields generalizing entries with
  | nil => exact h
  | cons field rest ih => exact ih (h.insertKey field.1 field.2)

theorem mem_insertAll {fields : List (κ × β)} (h : entry ∈ insertAll fields entries) :
    entry ∈ fields ∨ entry ∈ entries := by
  induction fields generalizing entries with
  | nil => exact .inr h
  | cons field rest ih =>
    rcases ih h with h | h
    · exact .inl (List.mem_cons_of_mem _ h)
    · rcases mem_insertKey h with rfl | h
      · exact .inl List.mem_cons_self
      · exact .inr h

theorem lookup_insertAll {fields : List (κ × β)} (hn : (fields.map Prod.fst).Nodup) (entries : List (κ × β))
    (k : κ) : (insertAll fields entries).lookup k = (fields.lookup k).or (entries.lookup k) := by
  induction fields generalizing entries with
  | nil => simp [insertAll]
  | cons field rest ih =>
    obtain ⟨key, value⟩ := field
    rw [List.map_cons, List.nodup_cons] at hn
    have hfill : insertAll ((key, value) :: rest) entries = insertAll rest (insertKey key value entries) := rfl
    rw [hfill, ih hn.2, lookup_insertKey, lookup_cons_eq]
    by_cases hk : k = key
    · have hnone : rest.lookup k = none := by
        refine lookup_eq_none_of_ne (fun other hother heq => hn.1 ?_)
        exact List.mem_map.2 ⟨other, hother, (hk ▸ heq).symm⟩
      rw [hnone, if_pos hk, if_pos hk]
      rfl
    · rw [if_neg hk, if_neg hk]

theorem Ascending.lookup_of_mem (h : Ascending entries) (hmem : entry ∈ entries) :
    entries.lookup entry.1 = some entry.2 := by
  induction entries with
  | nil => cases hmem
  | cons first rest ih =>
    obtain ⟨hfirst, hrest⟩ := List.pairwise_cons.1 h
    rw [lookup_cons_eq]
    rcases List.mem_cons.1 hmem with rfl | hmem
    · exact if_pos rfl
    · rw [if_neg (hfirst entry hmem).ne', ih hrest hmem]

/-! ## Grouping -/

section Grouping

variable {α : Type} (key : α → κ)

/-- The items of a list by key, those of one key in their order. -/
def groupByKey (items : List α) : List (κ × List α) :=
  items.foldl (fun groups item => insertKey (key item) ((groups.lookup (key item)).getD [] ++ [item]) groups) []

variable {key}

theorem groupByKey_append (items : List α) (item : α) : groupByKey key (items ++ [item]) =
    insertKey (key item) (((groupByKey key items).lookup (key item)).getD [] ++ [item]) (groupByKey key items) := by
  rw [groupByKey, List.foldl_append]
  rfl

theorem ascending_groupByKey (items : List α) : Ascending (groupByKey key items) :=
  List.foldlRecOn items _ List.Pairwise.nil (fun _ h item _ => h.insertKey (key item) _)

theorem lookup_groupByKey (items : List α) (k : κ) : (groupByKey key items).lookup k =
    if items.filter (fun item => key item = k) = [] then none else some (items.filter (fun item => key item = k)) := by
  induction items using List.reverseRecOn with
  | nil => rfl
  | append_singleton items item ih =>
    rw [groupByKey_append, lookup_insertKey, List.filter_append]
    by_cases hk : k = key item
    · subst hk
      rw [if_pos rfl, ih]
      split
      · rename_i hempty
        simp [hempty]
      · simp
    · have hno : [item].filter (fun item => key item = k) = [] := by simp [Ne.symm hk]
      rw [if_neg hk, hno, List.append_nil, ih]

theorem mem_groupByKey {items : List α} {group : κ × List α} (h : group ∈ groupByKey key items) :
    group.2 = items.filter (fun item => key item = group.1) := by
  have hlookup := (ascending_groupByKey items).lookup_of_mem h
  rw [lookup_groupByKey] at hlookup
  split at hlookup
  · cases hlookup
  · exact (Option.some.inj hlookup).symm

end Grouping

end Rlmesh.Lib
