import Rlmesh.Lib.Keyed
/-!
# Waiting under a key

A `Desk` keeps, for each key someone waits under, the sending end of the oneshot
channel they wait on. The sender is dropped, or taken out and used once: the
senders at the desk and the senders taken out are all of different channels, and
none of those channels holds anything yet (`Sound`). Whatever is done at a desk,
a channel that holds something keeps it, and one that holds nothing still has its
sender (`Follows`).
-/

set_option linter.unusedSectionVars false

namespace Rlmesh.Lib

/-- What a oneshot channel holds for its receiver; `closed` once the sender was dropped unused. -/
inductive Oneshot (ρ : Type) where
  | empty
  | sent (value : ρ)
  | closed
  deriving DecidableEq

structure Desk (κ ρ : Type) where
  /-- The channel whose sender waits under each key. -/
  entries : List (κ × Nat)
  /-- The channels whose senders were taken out and not used yet. -/
  held : List Nat
  channels : Nat → Oneshot ρ

namespace Desk

variable {κ ρ : Type}

def new : Desk κ ρ where
  entries := []
  held := []
  channels _ := .empty

/-- The channels that still have a sender. -/
def senders (d : Desk κ ρ) : List Nat := d.entries.map Prod.snd ++ d.held

/-- All senders are taken out. -/
def drain (d : Desk κ ρ) : Desk κ ρ := { d with entries := [], held := d.entries.map Prod.snd ++ d.held }

/-- A sender that was taken out is used. -/
def use (d : Desk κ ρ) (c : Nat) (outcome : Oneshot ρ) : Desk κ ρ :=
  { d with held := d.held.erase c, channels := Function.update d.channels c outcome }

variable [DecidableEq κ]

/-- The sender under a key is taken out. -/
def take (d : Desk κ ρ) (key : κ) : Desk κ ρ :=
  { d with entries := d.entries.filter (·.1 != key), held := (d.entries.lookup key).toList ++ d.held }

/-- The sender under a key is dropped. -/
def remove (d : Desk κ ρ) (key : κ) : Desk κ ρ :=
  match d.entries.lookup key with
  | some c => (d.take key).use c .closed
  | none => d

/-- A sender waits under a key, in place of the one that did. -/
def insert (d : Desk κ ρ) (key : κ) (c : Nat) : Desk κ ρ :=
  let d := d.remove key
  { d with entries := (key, c) :: d.entries }

/-! ## What every operation keeps -/

structure Sound (d : Desk κ ρ) : Prop where
  keys : (d.entries.map Prod.fst).Nodup
  senders : d.senders.Nodup
  empty : ∀ c ∈ d.senders, d.channels c = .empty

/-- Senders may have been used or dropped since `d`, and only then did their channels change. -/
structure Follows (d d' : Desk κ ρ) : Prop where
  entries : d'.entries ⊆ d.entries
  senders : d'.senders ⊆ d.senders
  other : ∀ c ∉ d.senders, d'.channels c = d.channels c
  kept : ∀ c ∈ d.senders, d'.channels c = .empty → c ∈ d'.senders

section

variable {d d' d'' : Desk κ ρ}

theorem Follows.refl (d : Desk κ ρ) : d.Follows d := ⟨fun _ h => h, fun _ h => h, fun _ _ => rfl, fun _ h _ => h⟩

theorem Follows.trans (h : d.Follows d') (h' : d'.Follows d'') : d.Follows d'' where
  entries _ hentry := h.entries (h'.entries hentry)
  senders _ hc := h.senders (h'.senders hc)
  other c hc := by rw [h'.other c (fun hmem => hc (h.senders hmem)), h.other c hc]
  kept c hc hempty := by
    by_cases hmem : c ∈ d'.senders
    · exact h'.kept c hmem hempty
    · rw [h'.other c hmem] at hempty
      exact absurd (h.kept c hc hempty) hmem

theorem Follows.stays (hsound : d.Sound) (h : d.Follows d') {c : Nat} (hc : d.channels c ≠ .empty) :
    d'.channels c = d.channels c :=
  h.other c (fun hmem => hc (hsound.empty c hmem))

theorem sound_new : (new : Desk κ ρ).Sound := ⟨List.nodup_nil, List.nodup_nil, fun _ h => nomatch h⟩

theorem Sound.of_perm (h : d.Sound) (hkeys : (d'.entries.map Prod.fst).Nodup) (hperm : d'.senders.Perm d.senders)
    (hchannels : d'.channels = d.channels) : d'.Sound where
  keys := hkeys
  senders := hperm.nodup_iff.2 h.senders
  empty c hc := by
    rw [hchannels]
    exact h.empty c (hperm.mem_iff.1 hc)

theorem follows_of_perm (hentries : d'.entries ⊆ d.entries) (hperm : d'.senders.Perm d.senders)
    (hchannels : d'.channels = d.channels) : d.Follows d' where
  entries := hentries
  senders _ hc := hperm.mem_iff.1 hc
  other c _ := by rw [hchannels]
  kept _ hc _ := hperm.mem_iff.2 hc

theorem Sound.drain (h : d.Sound) : d.drain.Sound := h.of_perm List.nodup_nil (.refl _) rfl

theorem follows_drain (d : Desk κ ρ) : d.Follows d.drain := follows_of_perm (List.nil_subset _) (.refl _) rfl

theorem senders_take (h : d.Sound) (key : κ) : (d.take key).senders.Perm d.senders := by
  unfold senders take
  cases hlookup : d.entries.lookup key with
  | none =>
    have hall : d.entries.filter (·.1 != key) = d.entries := by
      rw [List.filter_eq_self]
      intro entry hentry
      have hne : (key != entry.1) = true := by simpa using List.lookup_eq_none_iff.1 hlookup entry hentry
      rwa [bne_comm]
    rw [hall]
    exact .refl _
  | some c =>
    have hentry := filter_key_of_nodup h.keys (mem_of_lookup hlookup)
    have hsplit := List.filter_append_perm (fun entry : κ × Nat => entry.1 == key) d.entries
    rw [hentry] at hsplit
    have hmap := (hsplit.map Prod.snd).append_right d.held
    refine List.Perm.trans ?_ hmap
    simp only [List.map_append, List.map_cons, List.map_nil, Option.toList_some, List.append_assoc]
    exact List.perm_append_comm_assoc _ [c] d.held

theorem Sound.take (h : d.Sound) (key : κ) : (d.take key).Sound :=
  h.of_perm (h.keys.sublist (List.filter_sublist.map _)) (senders_take h key) rfl

theorem follows_take (h : d.Sound) (key : κ) : d.Follows (d.take key) :=
  follows_of_perm List.filter_sublist.subset (senders_take h key) rfl

theorem mem_senders_use (h : d.Sound) {c : Nat} (hc : c ∈ d.held) (outcome : Oneshot ρ) {other : Nat} :
    other ∈ (d.use c outcome).senders ↔ other ∈ d.senders ∧ other ≠ c := by
  obtain ⟨-, hheld, hdisjoint⟩ := List.nodup_append.1 h.senders
  unfold senders use
  simp only [List.mem_append, hheld.mem_erase_iff]
  constructor
  · rintro (hentry | ⟨hne, hother⟩)
    · exact ⟨.inl hentry, hdisjoint _ hentry _ hc⟩
    · exact ⟨.inr hother, hne⟩
  · rintro ⟨hentry | hother, hne⟩
    · exact .inl hentry
    · exact .inr ⟨hne, hother⟩

theorem channels_use (d : Desk κ ρ) (c : Nat) (outcome : Oneshot ρ) (other : Nat) :
    (d.use c outcome).channels other = if other = c then outcome else d.channels other :=
  Function.update_apply d.channels c outcome other

theorem Sound.use (h : d.Sound) {c : Nat} (hc : c ∈ d.held) (outcome : Oneshot ρ) : (d.use c outcome).Sound where
  keys := h.keys
  senders := h.senders.sublist ((List.erase_sublist).append_left _)
  empty other hother := by
    obtain ⟨hmem, hne⟩ := (mem_senders_use h hc outcome).1 hother
    rw [channels_use, if_neg hne]
    exact h.empty other hmem

theorem follows_use (h : d.Sound) {c : Nat} (hc : c ∈ d.held) {outcome : Oneshot ρ} (houtcome : outcome ≠ .empty) :
    d.Follows (d.use c outcome) where
  entries _ hentry := hentry
  senders _ hother := ((mem_senders_use h hc outcome).1 hother).1
  other other hother := by
    rw [channels_use, if_neg]
    rintro rfl
    exact hother (List.mem_append_right _ hc)
  kept other hother hempty := by
    refine (mem_senders_use h hc outcome).2 ⟨hother, ?_⟩
    rintro rfl
    rw [channels_use, if_pos rfl] at hempty
    exact houtcome hempty

theorem mem_held_take {key : κ} {c : Nat} (hlookup : d.entries.lookup key = some c) : c ∈ (d.take key).held := by
  simp [Desk.take, hlookup]

theorem Sound.remove (h : d.Sound) (key : κ) : (d.remove key).Sound := by
  unfold Desk.remove
  split
  · rename_i c hlookup
    exact (h.take key).use (mem_held_take hlookup) .closed
  · exact h

theorem follows_remove (h : d.Sound) (key : κ) : d.Follows (d.remove key) := by
  unfold Desk.remove
  split
  · rename_i c hlookup
    exact (follows_take h key).trans (follows_use (h.take key) (mem_held_take hlookup) (nomatch ·))
  · exact .refl d

theorem channels_remove (d : Desk κ ρ) (key : κ) (c : Nat) :
    (d.remove key).channels c = d.channels c ∨ (d.remove key).channels c = .closed := by
  unfold Desk.remove
  split
  · rw [channels_use]
    split
    · exact .inr rfl
    · exact .inl rfl
  · exact .inl rfl

theorem held_remove (d : Desk κ ρ) (key : κ) : (d.remove key).held = d.held := by
  unfold Desk.remove
  split
  · rename_i c hlookup
    simp [Desk.use, Desk.take, hlookup]
  · rfl

theorem remove_key (d : Desk κ ρ) (key : κ) : key ∉ (d.remove key).entries.map Prod.fst := by
  unfold Desk.remove
  split
  · simp [Desk.use, Desk.take]
  · rename_i hlookup
    rw [List.mem_map]
    rintro ⟨entry, hentry, rfl⟩
    simpa using List.lookup_eq_none_iff.1 hlookup entry hentry

theorem Sound.insert (h : d.Sound) (key : κ) {c : Nat} (hc : c ∉ d.senders) (hempty : d.channels c = .empty) :
    (d.insert key c).Sound := by
  have hfollows := follows_remove h key
  have hremoved := h.remove key
  refine ⟨List.nodup_cons.2 ⟨remove_key d key, hremoved.keys⟩,
    List.nodup_cons.2 ⟨fun hmem => hc (hfollows.senders hmem), hremoved.senders⟩, ?_⟩
  intro other hother
  rcases List.mem_cons.1 hother with rfl | hmem
  · exact (hfollows.other other hc).trans hempty
  · exact hremoved.empty other hmem

/-! ## Telling everyone the same -/

/-- All senders that are out are used. -/
def useAll (d : Desk κ ρ) (outcome : Oneshot ρ) : Desk κ ρ := d.held.foldl (fun d c => d.use c outcome) d

theorem foldl_use (h : d.Sound) {outcome : Oneshot ρ} (houtcome : outcome ≠ .empty) {cs : List Nat} (hcs : d.held = cs) :
    let told := cs.foldl (fun d c => d.use c outcome) d
    told.Sound ∧ d.Follows told ∧ told.held = [] ∧
      ∀ c, told.channels c = if c ∈ cs then outcome else d.channels c := by
  induction cs generalizing d with
  | nil => exact ⟨h, .refl d, hcs, fun c => by simp⟩
  | cons first rest ih =>
    have hfirst : first ∈ d.held := by simp [hcs]
    obtain ⟨hsound, hfollows, hheld, hchannels⟩ := ih (h.use hfirst outcome) (by simp [Desk.use, hcs])
    refine ⟨hsound, (follows_use h hfirst houtcome).trans hfollows, hheld, fun c => ?_⟩
    rw [List.foldl_cons, hchannels c, channels_use]
    by_cases hc : c = first <;> simp [hc]

theorem useAll_spec (h : d.Sound) (outcome : Oneshot ρ) (houtcome : outcome ≠ .empty) :
    (d.useAll outcome).Sound ∧ d.Follows (d.useAll outcome) ∧ (d.useAll outcome).held = [] ∧
      ∀ c, (d.useAll outcome).channels c = if c ∈ d.held then outcome else d.channels c :=
  foldl_use h houtcome rfl

end

end Desk

end Rlmesh.Lib
