import Rlmesh.Lib.Keyed
import Rlmesh.Runtime.Route
/-!
# What the route's operations do to its slots

A slot is read through the episode it holds. Only starting episodes and
following a roll put another id into a slot; every other operation at most marks
the episode that is there.
-/
open Rlmesh.Lib

set_option linter.unusedSectionVars false

namespace Rlmesh.Runtime

variable {Id R : Type} [DecidableEq Id] [Inhabited Id] [Zero R] [Add R]

namespace RouteState

variable (route : RouteState Id R) (spec : RuntimeSessionSpec R)

/-! ## Marking the episode that is there -/

theorem slotId_of_episode {route route' : RouteState Id R} {lane : Nat}
    (h : (route'.slots lane).episode = (route.slots lane).episode) : route'.slotId lane = route.slotId lane := by
  unfold slotId
  rw [h]

theorem updateEpisode_episode (lane : Nat) (f : EpisodeState Id → EpisodeState Id) (l : Nat) :
    ((route.updateEpisode lane f).slots l).episode =
      if l = lane then (route.slots l).episode.map f else (route.slots l).episode := by
  unfold updateEpisode
  by_cases hl : l = lane
  · subst hl
    simp
  · simp [hl]

theorem updateEpisodes_episode (lanes : List Nat) {f : EpisodeState Id → EpisodeState Id} (hf : ∀ e, f (f e) = f e)
    (l : Nat) :
    ((lanes.foldl (fun route lane => route.updateEpisode lane f) route).slots l).episode =
      if l ∈ lanes then (route.slots l).episode.map f else (route.slots l).episode := by
  induction lanes generalizing route with
  | nil => simp
  | cons lane rest ih =>
    rw [List.foldl_cons, ih, updateEpisode_episode]
    by_cases hl : l = lane
    · subst hl
      cases (route.slots l).episode <;> simp [hf]
    · simp [hl]

theorem slotId_updateEpisode (lane : Nat) (f : EpisodeState Id → EpisodeState Id)
    (hf : ∀ e, (f e).episodeId = e.episodeId) (l : Nat) :
    (route.updateEpisode lane f).slotId l = route.slotId l := by
  unfold slotId
  rw [updateEpisode_episode]
  split
  · cases (route.slots l).episode with
    | none => rfl
    | some e => simp [hf]
  · rfl

theorem slotId_updateEpisodes (lanes : List Nat) (f : EpisodeState Id → EpisodeState Id)
    (hf : ∀ e, (f e).episodeId = e.episodeId) (l : Nat) :
    (lanes.foldl (fun route lane => route.updateEpisode lane f) route).slotId l = route.slotId l := by
  induction lanes generalizing route with
  | nil => rfl
  | cons lane rest ih => rw [List.foldl_cons, ih, slotId_updateEpisode _ _ f hf]

@[simp] theorem slotId_markPredicted (lanes : List Nat) (l : Nat) :
    (route.markPredicted lanes).slotId l = route.slotId l :=
  slotId_updateEpisodes route lanes (fun episode => { episode with predicted := true }) (fun _ => rfl) l

theorem endEpisodeAt_cases (envIndex : Nat) :
    (route.endEpisodeAt spec envIndex = (none, route) ∧
      ∀ episode, envIndex < spec.width → (route.slots envIndex).episode = some episode → episode.ended = true) ∨
    (∃ episode, envIndex < spec.width ∧ (route.slots envIndex).episode = some episode ∧ episode.ended = false ∧
      route.endEpisodeAt spec envIndex =
        (some episode.episodeId, route.updateEpisode envIndex (fun episode => { episode with ended := true }))) := by
  unfold endEpisodeAt slotPosition
  by_cases hlt : envIndex < spec.width
  · simp only [hlt, if_true]
    cases he : (route.slots envIndex).episode with
    | none => exact .inl ⟨rfl, fun _ _ h => nomatch h⟩
    | some episode =>
      cases hended : episode.ended with
      | true => simp [hended]
      | false => exact .inr ⟨episode, trivial, rfl, hended, by simp [hended]⟩
  · simp [hlt]

@[simp] theorem slotId_endEpisodeAt (envIndex l : Nat) :
    (route.endEpisodeAt spec envIndex).2.slotId l = route.slotId l := by
  rcases route.endEpisodeAt_cases spec envIndex with ⟨h, -⟩ | ⟨episode, -, -, -, h⟩
  · rw [h]
  · rw [h]
    exact route.slotId_updateEpisode envIndex (fun episode => { episode with ended := true }) (fun _ => rfl) l

theorem endEpisodesAt_inv (P : List Id → RouteState Id R → Prop) (envIndices : List Nat) (h : P [] route)
    (hs : ∀ ids (route : RouteState Id R) envIndex, envIndex ∈ envIndices → P ids route →
      P (ids ++ (route.endEpisodeAt spec envIndex).1.toList) (route.endEpisodeAt spec envIndex).2) :
    P (route.endEpisodesAt spec envIndices).1 (route.endEpisodesAt spec envIndices).2 := by
  refine List.foldlRecOn (motive := fun acc : List Id × RouteState Id R => P acc.1 acc.2) envIndices _ h ?_
  intro acc hp envIndex hi
  exact hs acc.1 acc.2 envIndex hi hp

@[simp] theorem slotId_endEpisodesAt (envIndices : List Nat) (l : Nat) :
    (route.endEpisodesAt spec envIndices).2.slotId l = route.slotId l := by
  refine route.endEpisodesAt_inv spec (fun _ after => after.slotId l = route.slotId l) envIndices rfl ?_
  intro ids after envIndex _ h
  rw [slotId_endEpisodeAt, h]

@[simp] theorem slotId_endLiveEpisodes (l : Nat) : (route.endLiveEpisodes spec).2.slotId l = route.slotId l :=
  slotId_updateEpisodes route _ (fun episode => { episode with ended := true }) (fun _ => rfl) l

/-! ## Steps -/

@[simp] theorem recordStepAt_episode (lanes : List Nat) (rewards : List R) (l : Nat) :
    ((route.recordStepAt lanes rewards).slots l).episode = (route.slots l).episode := by
  refine List.foldlRecOn (motive := fun slots : Nat → SlotState Id R => (slots l).episode = (route.slots l).episode)
    lanes.zipIdx _ rfl ?_
  intro slots h entry _
  by_cases hl : l = entry.1
  · subst hl
    simpa [steppedSlot] using h
  · rwa [Function.update_of_ne hl]

@[simp] theorem slotId_recordStepAt (lanes : List Nat) (rewards : List R) (l : Nat) :
    (route.recordStepAt lanes rewards).slotId l = route.slotId l :=
  slotId_of_episode (route.recordStepAt_episode lanes rewards l)

/-! ## Claims -/

theorem claimSlots_snd (count : Nat) (bounded : Bool) :
    ∃ nextSlot, (route.claimSlots spec count bounded).2 = { route with nextSlot } := by
  unfold claimSlots
  dsimp only
  split
  · exact ⟨route.nextSlot, rfl⟩
  · exact ⟨_, rfl⟩

/-! ## New ids -/

theorem syncedSlot_id (records : Id → Option EpisodeRecord) (id : Id) (recordId : RecordId) (resetSteps auto : Bool)
    (now : Int) (slot : SlotState Id R) :
    ((syncedSlot records id recordId resetSteps auto now slot).episode.map (·.episodeId)).getD default = id := by
  have main : ∀ episode : Option (EpisodeState Id), episode = (syncedSlot records id recordId resetSteps auto now
      slot).episode → (episode.map (·.episodeId)).getD default = id := by
    rintro episode rfl
    unfold syncedSlot
    dsimp only
    by_cases hid : id = default <;> split <;> simp [hid]
  exact main _ rfl

/-- `sync_slots` as a loop over the group's lanes. -/
def syncLoop (records : Id → Option EpisodeRecord) (ids : List Id) (recordIds : List RecordId) (resetSteps auto : Bool)
    (now : Int) : KeyedLoop (RouteState Id R) Nat Nat (SlotState Id R) where
  body := syncSlot ids recordIds resetSteps auto now
  view route := route.slots
  change _ position :=
    syncedSlot records (ids[position]?.getD default) (recordIds[position]?.getD .empty) resetSteps auto now
  inv route := route.records = records
  keeps route entry h := by
    unfold syncSlot
    dsimp only
    split <;> exact h
  changes route entry h l := by
    subst h
    unfold syncSlot
    dsimp only
    by_cases hl : l = entry.1
    · subst hl
      simp
    · simp [hl]

variable {l position : Nat} {lanes : List Nat} {ids : List Id} {id : Id}

theorem syncSlots_slots_of_notMem (lanes : List Nat) (ids : List Id) (recordIds : List RecordId)
    (resetSteps auto : Bool) (now : Int) (hl : l ∉ lanes) :
    (route.syncSlots lanes ids recordIds resetSteps auto now).slots l = route.slots l := by
  refine (syncLoop route.records ids recordIds resetSteps auto now).view_of_notMem (s := route) rfl ?_
  rwa [List.zipIdx_map_fst]

theorem syncSlots_slots_of_mem (hn : lanes.Nodup) (ids : List Id) (recordIds : List RecordId) (resetSteps auto : Bool)
    (now : Int) (hl : lanes[position]? = some l) :
    (route.syncSlots lanes ids recordIds resetSteps auto now).slots l =
      syncedSlot route.records (ids[position]?.getD default) (recordIds[position]?.getD .empty) resetSteps auto now
        (route.slots l) := by
  refine (syncLoop route.records ids recordIds resetSteps auto now).view_of_mem (s := route) rfl ?_
    (List.mem_zipIdx_iff_getElem?.mpr hl : (l, position) ∈ lanes.zipIdx)
  rwa [List.zipIdx_map_fst]

theorem episodeIdsAt_syncSlots (hn : lanes.Nodup) (hlen : ids.length = lanes.length) (recordIds : List RecordId)
    (resetSteps auto : Bool) (now : Int) :
    (route.syncSlots lanes ids recordIds resetSteps auto now).episodeIdsAt lanes = ids := by
  refine List.ext_getElem? (fun position => ?_)
  rw [episodeIdsAt, List.getElem?_map]
  cases hl : lanes[position]? with
  | none =>
    rw [List.getElem?_eq_none_iff] at hl
    rw [Option.map_none, eq_comm, List.getElem?_eq_none_iff]
    omega
  | some lane =>
    have hlt : position < ids.length := by
      have := (List.getElem?_eq_some_iff.mp hl).1
      omega
    rw [Option.map_some, slotId, route.syncSlots_slots_of_mem hn ids recordIds resetSteps auto now hl, syncedSlot_id,
      List.getElem?_eq_getElem hlt, Option.getD_some]

@[simp] theorem ensureForSlots_slots (ids : List Id) (auto : Bool) (indices : List (Option Int)) :
    (route.ensureForSlots ids auto indices).1.slots = route.slots := by
  refine List.foldlRecOn (motive := fun acc : RouteState Id R × List RecordId × List (StartedEpisode Id) =>
    acc.1.slots = route.slots) ids.zipIdx _ rfl ?_
  intro acc h entry _
  unfold ensureRecord
  dsimp only
  split
  · exact h
  · split <;> exact h

theorem episodeIdsAt_startEpisodesAt (now : Int) (hn : lanes.Nodup) (hlen : ids.length = lanes.length) (auto : Bool)
    (slots : List Nat) : (route.startEpisodesAt now lanes ids auto slots).2.episodeIdsAt lanes = ids :=
  episodeIdsAt_syncSlots _ hn hlen _ _ _ _

theorem slots_startEpisodesAt_of_notMem (now : Int) (lanes : List Nat) (ids : List Id) (auto : Bool)
    (slots : List Nat) (hl : l ∉ lanes) :
    (route.startEpisodesAt now lanes ids auto slots).2.slots l = route.slots l :=
  (syncSlots_slots_of_notMem _ _ _ _ _ _ _ hl).trans (congrFun (ensureForSlots_slots _ _ _ _) l)

theorem episodeIdsAt_observeEpisodeIdsAt (now : Int) (hn : lanes.Nodup) (hlen : ids.length = lanes.length)
    (slots : List (Option Nat)) : (route.observeEpisodeIdsAt now lanes ids slots).2.episodeIdsAt lanes = ids :=
  episodeIdsAt_syncSlots _ hn hlen _ _ _ _

theorem slots_observeEpisodeIdsAt_of_notMem (now : Int) (lanes : List Nat) (ids : List Id) (slots : List (Option Nat))
    (hl : l ∉ lanes) : (route.observeEpisodeIdsAt now lanes ids slots).2.slots l = route.slots l :=
  (syncSlots_slots_of_notMem _ _ _ _ _ _ _ hl).trans (congrFun (ensureForSlots_slots _ _ _ _) l)

theorem episodeIdsAt_congr {route route' : RouteState Id R}
    (h : ∀ lane ∈ lanes, route'.slotId lane = route.slotId lane) :
    route'.episodeIdsAt lanes = route.episodeIdsAt lanes :=
  List.map_congr_left h

/-! ## Marks -/

theorem endEpisodesAt_episode (envIndices : List Nat) (l : Nat) :
    ((route.endEpisodesAt spec envIndices).2.slots l).episode =
      if l ∈ envIndices ∧ l < spec.width then (route.slots l).episode.map (fun episode => { episode with ended := true })
      else (route.slots l).episode := by
  have hone : ∀ (route : RouteState Id R) (envIndex : Nat), ((route.endEpisodeAt spec envIndex).2.slots l).episode =
      if l = envIndex ∧ l < spec.width then (route.slots l).episode.map (fun episode => { episode with ended := true })
      else (route.slots l).episode := by
    intro route envIndex
    rcases route.endEpisodeAt_cases spec envIndex with ⟨h, hended⟩ | ⟨episode, hlt, he, -, h⟩
    · rw [h]
      split
      · rename_i hl
        obtain ⟨rfl, hlt⟩ := hl
        cases he : (route.slots l).episode with
        | none => rfl
        | some episode => rw [Option.map_some, ← hended episode hlt he]
      · rfl
    · rw [h, updateEpisode_episode]
      by_cases hl : l = envIndex
      · rw [if_pos hl, if_pos ⟨hl, hl ▸ hlt⟩]
      · rw [if_neg hl, if_neg (fun h => hl h.1)]
  unfold endEpisodesAt
  suffices h : ∀ (acc : List Id × RouteState Id R), ((envIndices.foldl (fun acc envIndex =>
      ((acc.1 ++ (acc.2.endEpisodeAt spec envIndex).1.toList), (acc.2.endEpisodeAt spec envIndex).2)) acc).2.slots
        l).episode =
      if l ∈ envIndices ∧ l < spec.width then
        (acc.2.slots l).episode.map (fun episode => { episode with ended := true }) else (acc.2.slots l).episode from
    h ([], route)
  induction envIndices with
  | nil => simp
  | cons envIndex rest ih =>
    intro acc
    rw [List.foldl_cons, ih, hone]
    by_cases hl : l = envIndex
    · subst hl
      by_cases hlt : l < spec.width
      · cases (acc.2.slots l).episode <;> simp [hlt]
      · simp [hlt]
    · simp [hl]

/-- What a lane brought to an id holds: a fresh episode, or the one it goes on with, under its marks. -/
def Brought (route : RouteState Id R) (l : Nat) (id : Id) (after : Option (EpisodeState Id)) : Prop :=
  ∃ episode, after = some episode ∧ episode.episodeId = id ∧
    ((route.slotId l ≠ id ∧ episode.predicted = false ∧ episode.ended = false) ∨
     (∃ previous, (route.slots l).episode = some previous ∧ previous.episodeId = id ∧
      episode.predicted = previous.predicted ∧ episode.ended = previous.ended))

theorem syncSlots_episode {before : RouteState Id R} (hslots : route.slots = before.slots) (hn : lanes.Nodup)
    (recordIds : List RecordId) (resetSteps auto : Bool) (now : Int) (hl : lanes[position]? = some l)
    (hid : ids[position]? = some id) (hne : id ≠ default) :
    before.Brought l id ((route.syncSlots lanes ids recordIds resetSteps auto now).slots l).episode := by
  have hslot : ((route.syncSlots lanes ids recordIds resetSteps auto now).slots l).episode = some {
      episodeId := id
      episodeRecordId := recordIds[position]?.getD .empty
      episodeIndex := ((route.records id).map (·.index)).getD 0
      startedFromAutoReset := auto
      predicted := ((route.slots l).episode.filter (fun previous => previous.episodeId = id)).any (·.predicted)
      ended := ((route.slots l).episode.filter (fun previous => previous.episodeId = id)).any (·.ended) } := by
    rw [route.syncSlots_slots_of_mem hn ids recordIds resetSteps auto now hl]
    unfold syncedSlot
    simp only [hid, Option.getD_some, hne, if_false]
    split <;> rfl
  rw [hslots] at hslot
  refine ⟨_, hslot, rfl, ?_⟩
  cases hp : (before.slots l).episode with
  | none =>
    refine .inl ⟨?_, rfl, rfl⟩
    rw [slotId, hp]
    exact fun h => hne h.symm
  | some previous =>
    by_cases hsame : previous.episodeId = id
    · exact .inr ⟨previous, rfl, hsame, by simp [hsame], by simp [hsame]⟩
    · refine .inl ⟨?_, by simp [hsame], by simp [hsame]⟩
      rw [slotId, hp]
      exact hsame

theorem startEpisodesAt_episode (now : Int) (hn : lanes.Nodup) (auto : Bool) (slots : List Nat)
    (hl : lanes[position]? = some l) (hid : ids[position]? = some id) (hne : id ≠ default) :
    route.Brought l id ((route.startEpisodesAt now lanes ids auto slots).2.slots l).episode :=
  syncSlots_episode _ (route.ensureForSlots_slots ids auto _) hn _ true auto now hl hid hne

theorem observeEpisodeIdsAt_episode (now : Int) (hn : lanes.Nodup) (slots : List (Option Nat))
    (hl : lanes[position]? = some l) (hid : ids[position]? = some id) (hne : id ≠ default) :
    route.Brought l id ((route.observeEpisodeIdsAt now lanes ids slots).2.slots l).episode :=
  syncSlots_episode _ (route.ensureForSlots_slots ids true _) hn _ false true now hl hid hne

end RouteState

end Rlmesh.Runtime
