import Rlmesh.Runtime.Run
import Rlmesh.Runtime.Slots
import Rlmesh.Runtime.Sound
/-!
# What the driver's transitions do to a station

A driver's stations are what it holds of each group. Each function of the driver
changes the station of the group it serves as said here, and of the others at
most that ids were drawn.
-/
open Rlmesh.Wire

set_option linter.unusedSectionVars false

namespace Rlmesh.Runtime

variable {Id R : Type} [DecidableEq Id] [Inhabited Id] [Zero R] [Add R] [BEq R]

/-! ## The stations of a driver -/

/-- One group's requests among those of a predict call. -/
def requestsOf (gid : Nat) (requests : List (Nat × PredictRequest Id)) : List (PredictRequest Id) :=
  (requests.filter (fun request => decide (request.1 = gid))).map Prod.snd

/-- The requests one group has put in flight so far. -/
def Driver.sent (gid : Nat) (d : Driver Id R) : List (PredictRequest Id) :=
  d.wire.filterMap (fun message => match message with
    | .predict g request => if g = gid then some request else none
    | .resetAdapter _ => none)

/-- What the driver holds of one group. -/
def DriverConfig.station (cfg : DriverConfig Id R) (gid : Nat) (alive : Bool) (d : Driver Id R) : Station Id R :=
  { group := d.groups gid
    ids := d.route.episodeIdsAt (cfg.spec.lanes gid)
    flying := requestsOf gid d.predicts.flatten
    sent := d.sent gid
    mintedFor := d.mintedFor
    alive }

/-- The loop is running. -/
def Control.alive : Control → Bool
  | .head | .parked => true
  | _ => false

/-! ## What a transition leaves alone -/

/-- Nothing a station sees changes. -/
structure Keeps (d d' : Driver Id R) : Prop where
  groups : d'.groups = d.groups
  ids : ∀ lane, d'.route.slotId lane = d.route.slotId lane
  predicts : d'.predicts = d.predicts
  sent : ∀ gid, d'.sent gid = d.sent gid
  mintedFor : d'.mintedFor = d.mintedFor

/-- Nothing but one group's station changes, except that ids may be drawn. -/
structure Within (cfg : DriverConfig Id R) (gid : Nat) (d d' : Driver Id R) : Prop where
  groups : ∀ g, g ≠ gid → d'.groups g = d.groups g
  ids : ∀ lane, lane ∉ cfg.spec.lanes gid → d'.route.slotId lane = d.route.slotId lane
  predicts : d'.predicts = d.predicts
  sent : ∀ g, d'.sent g = d.sent g
  minted : ∃ more, d'.mintedFor = d.mintedFor ++ more

variable {cfg : DriverConfig Id R} {gid g : Nat} {d d' d'' : Driver Id R} {alive : Bool}
  {C : Station Id R → Bool → Prop} {p : Inputs}

theorem Keeps.station (h : Keeps d d') : cfg.station g alive d' = cfg.station g alive d := by
  unfold DriverConfig.station
  rw [h.groups, h.predicts, h.sent, h.mintedFor, RouteState.episodeIdsAt_congr (fun lane _ => h.ids lane)]

theorem Keeps.trans (h : Keeps d d') (h' : Keeps d' d'') : Keeps d d'' :=
  ⟨h'.groups.trans h.groups, fun lane => (h'.ids lane).trans (h.ids lane), h'.predicts.trans h.predicts,
    fun g => (h'.sent g).trans (h.sent g), h'.mintedFor.trans h.mintedFor⟩

theorem Keeps.within (h : Keeps d d') : Within cfg gid d d' :=
  ⟨fun g _ => congrFun h.groups g, fun lane _ => h.ids lane, h.predicts, h.sent, [], by rw [h.mintedFor]; simp⟩

theorem Within.trans (h : Within cfg gid d d') (h' : Within cfg gid d' d'') : Within cfg gid d d'' := by
  obtain ⟨more, hm⟩ := h.minted
  obtain ⟨more', hm'⟩ := h'.minted
  exact ⟨fun g hg => (h'.groups g hg).trans (h.groups g hg), fun l hl => (h'.ids l hl).trans (h.ids l hl),
    h'.predicts.trans h.predicts, fun g => (h'.sent g).trans (h.sent g), more ++ more', by rw [hm', hm]; simp⟩

theorem Within.station (h : Within cfg gid d d') (hg : g < cfg.spec.groupCount) (hgid : gid < cfg.spec.groupCount)
    (hne : g ≠ gid) (alive : Bool) :
    ∃ more, cfg.station g alive d' = { cfg.station g alive d with mintedFor := d.mintedFor ++ more } := by
  obtain ⟨more, hm⟩ := h.minted
  have hids : d'.route.episodeIdsAt (cfg.spec.lanes g) = d.route.episodeIdsAt (cfg.spec.lanes g) := by
    refine RouteState.episodeIdsAt_congr (fun lane hl => h.ids lane (fun hl' => hne ?_))
    exact cfg.spec.lanes_disjoint hg hgid hl hl'
  exact ⟨more, by simp only [DriverConfig.station, hids, h.groups g hne, h.predicts, h.sent, hm]⟩

theorem Within.bystander (h : Within cfg gid d d') (hg : g < cfg.spec.groupCount) (hgid : gid < cfg.spec.groupCount)
    (hne : g ≠ gid) : Track cfg g C p (cfg.station g alive d) (cfg.station g alive d') := by
  obtain ⟨more, he⟩ := h.station hg hgid hne alive
  rw [he]
  exact .single (.plain (.minted _ more) (Nat.le_refl _) rfl (fun _ => .inl))

theorem within_updateGroup (f : Group Id R → Group Id R) : Within cfg gid d (d.updateGroup gid f) :=
  ⟨fun g hg => Function.update_of_ne hg _ _, fun _ _ => rfl, rfl, fun _ => rfl, [], by simp [Driver.updateGroup]⟩

theorem updateGroup_self (f : Group Id R → Group Id R) : (d.updateGroup gid f).groups gid = f (d.groups gid) :=
  Function.update_self _ _ _

theorem keeps_emit (events : List (HookEvent Id R)) : Keeps d (d.emit events) :=
  ⟨rfl, fun _ => rfl, rfl, fun _ => rfl, rfl⟩

theorem keeps_route {route : RouteState Id R} (h : ∀ lane, route.slotId lane = d.route.slotId lane) :
    Keeps d { d with route } :=
  ⟨rfl, h, rfl, fun _ => rfl, rfl⟩

theorem keeps_queueEvictions (envIndices : List Nat) : Keeps d (cfg.queueEvictions gid envIndices d) := by
  have he : cfg.queueEvictions gid envIndices d =
      if (d.groups gid).predict.isInFlight then
        { d with
          route := (d.route.endEpisodesAt cfg.spec envIndices).2
          heldEvictions := d.heldEvictions ++ (d.route.endEpisodesAt cfg.spec envIndices).1.map (fun id => (gid, id)) }
      else
        { d with
          route := (d.route.endEpisodesAt cfg.spec envIndices).2
          pendingEvictions := d.pendingEvictions ++ (d.route.endEpisodesAt cfg.spec envIndices).1 } := rfl
  rw [he]
  split
  · exact ⟨rfl, fun l => d.route.slotId_endEpisodesAt cfg.spec envIndices l, rfl, fun _ => rfl, rfl⟩
  · exact ⟨rfl, fun l => d.route.slotId_endEpisodesAt cfg.spec envIndices l, rfl, fun _ => rfl, rfl⟩

theorem keeps_flushEvictions : Keeps d (cfg.flushEvictions d) := by
  unfold DriverConfig.flushEvictions
  split
  · exact ⟨rfl, fun _ => rfl, rfl, fun _ => rfl, rfl⟩
  · exact ⟨rfl, fun _ => rfl, rfl, fun g => by simp [Driver.sent], rfl⟩

theorem keeps_turnFlush : Keeps d (cfg.turnFlush d) := by
  unfold DriverConfig.turnFlush
  split
  · exact keeps_flushEvictions
  · exact ⟨rfl, fun _ => rfl, rfl, fun _ => rfl, rfl⟩

/-! ## Resets -/

theorem claimForReset_snd (cfg : DriverConfig Id R) (gid : Nat) (route : RouteState Id R) :
    ∃ nextSlot, (cfg.claimForReset gid route).2 = { route with nextSlot } := by
  unfold DriverConfig.claimForReset
  split
  · exact route.claimSlots_snd cfg.spec _ true
  · exact ⟨_, rfl⟩

theorem foldl_markSurplus_slots (ids : List Id) (route : RouteState Id R) :
    (ids.foldl RouteState.markSurplus route).slots = route.slots := by
  induction ids generalizing route with
  | nil => rfl
  | cons id rest ih => rw [List.foldl_cons, ih]; rfl

theorem noteEpisodes_slots (ids : List Id) (slots : List Nat) (seeds : List Int) (route : RouteState Id R) :
    (cfg.noteEpisodes ids slots seeds route).2.slots = route.slots := by
  have he : (cfg.noteEpisodes ids slots seeds route).2.slots =
      (cfg.plannedTrialIndices ids.length
        (((ids.drop slots.length).foldl RouteState.markSurplus route).noteEpisodeSeeds ids seeds)).2.slots := rfl
  rw [he]
  unfold DriverConfig.plannedTrialIndices
  split
  · exact foldl_markSurplus_slots _ _
  · exact foldl_markSurplus_slots _ _

/-- The ids a reset of the group draws. -/
def DriverConfig.resetIds (cfg : DriverConfig Id R) (gid : Nat) (d : Driver Id R) : List Id :=
  (List.range' d.mintedFor.length (cfg.spec.lanes gid).length).map cfg.minter.id

def DriverConfig.resetSeeds (cfg : DriverConfig Id R) (gid : Nat) (initial : Bool) (d : Driver Id R) : List Int :=
  cfg.seedsFor gid ((d.groups gid).resetGeneration + if initial then 0 else 1) (cfg.claimForReset gid d.route).1

/-- What a reset notes: the trials of its episodes, and the route that knows them. -/
def DriverConfig.resetNotes (cfg : DriverConfig Id R) (gid : Nat) (initial : Bool) (d : Driver Id R) :
    List Nat × RouteState Id R :=
  cfg.noteEpisodes (cfg.resetIds gid d) (cfg.claimForReset gid d.route).1 (cfg.resetSeeds gid initial d)
    (cfg.claimForReset gid d.route).2

theorem beginReset_eq (initial : Bool) :
    cfg.beginReset gid initial d =
      if (cfg.claimForReset gid d.route).1.isEmpty then
        { d with route := (cfg.claimForReset gid d.route).2 }.updateGroup gid Group.retire
      else
        ({ d with
            route := (cfg.resetNotes gid initial d).2
            mintedFor := d.mintedFor ++ List.replicate (cfg.spec.lanes gid).length gid } : Driver Id R).updateGroup gid
          (fun group =>
            { group with resetGeneration := (d.groups gid).resetGeneration + if initial then 0 else 1 }.resetting initial
              (cfg.resetRequest gid (cfg.resetIds gid d) (cfg.resetSeeds gid initial d) (cfg.resetNotes gid initial d).1)
              (cfg.resetIds gid d) (cfg.claimForReset gid d.route).1) := rfl

theorem beginReset_station (cfg : DriverConfig Id R) (gid : Nat) (d : Driver Id R) (alive : Bool) (initial : Bool) :
    Within cfg gid d (cfg.beginReset gid initial d) ∧
    (cfg.station gid alive (cfg.beginReset gid initial d) =
        { cfg.station gid alive d with group := (d.groups gid).retire } ∨
     ∃ request ids slots minted, ids.length = (cfg.spec.lanes gid).length ∧
        Mints cfg.minter gid d.mintedFor ids minted ∧
        cfg.station gid alive (cfg.beginReset gid initial d) =
          (cfg.station gid alive d).restart initial request ids slots
            ((d.groups gid).resetGeneration + if initial then 0 else 1) minted) := by
  obtain ⟨nextSlot, hclaim⟩ := claimForReset_snd cfg gid d.route
  have hclaimed : ∀ lane, (cfg.claimForReset gid d.route).2.slotId lane = d.route.slotId lane := by
    intro lane
    rw [hclaim]
    rfl
  have hnoted : ∀ lane, (cfg.resetNotes gid initial d).2.slotId lane = d.route.slotId lane := by
    intro lane
    unfold RouteState.slotId DriverConfig.resetNotes
    rw [noteEpisodes_slots, hclaim]
  rw [beginReset_eq]
  split
  · refine ⟨(keeps_route hclaimed).within.trans (within_updateGroup _), .inl ?_⟩
    rw [← (keeps_route hclaimed).station]
    simp only [DriverConfig.station, updateGroup_self]
    rfl
  · have hlen : (cfg.resetIds gid d).length = (cfg.spec.lanes gid).length := by simp [DriverConfig.resetIds]
    refine ⟨⟨fun g hg => Function.update_of_ne hg _ _, fun lane _ => hnoted lane, rfl, fun _ => rfl, _, rfl⟩,
      .inr ⟨cfg.resetRequest gid (cfg.resetIds gid d) (cfg.resetSeeds gid initial d) (cfg.resetNotes gid initial d).1,
        cfg.resetIds gid d, (cfg.claimForReset gid d.route).1, List.replicate (cfg.spec.lanes gid).length gid, hlen,
        ⟨by rw [hlen]; rfl, by rw [hlen]⟩, ?_⟩⟩
    rw [← (keeps_route hnoted).station]
    simp only [DriverConfig.station, updateGroup_self, Station.restart]
    rfl

/-! ## Observations -/

theorem observe_outcome (cfg : DriverConfig Id R) (gid : Nat) (d : Driver Id R) (observation : Option Leaves) (infos : Option (MetaMap R)) (phase : RequestPhase)
    (isReset : Bool) (transformed : Transformed) :
    (∃ e, Keeps d (cfg.observe gid observation infos phase isReset transformed d).1 ∧
      (cfg.observe gid observation infos phase isReset transformed d).2 = some e) ∨
    (∃ msg group after, Keeps d after ∧ Fresh (d.route.episodeIdsAt (cfg.spec.lanes gid)) msg ∧
      transformed = .ok msg.observation ∧ (d.groups gid).observe cfg.deliverHistory msg = some group ∧
      cfg.observe gid observation infos phase isReset transformed d = (after.updateGroup gid (fun _ => group), none)) := by
  unfold DriverConfig.observe
  dsimp only
  split
  · exact .inl ⟨_, ⟨rfl, fun _ => rfl, rfl, fun _ => rfl, rfl⟩, rfl⟩
  · split
    · exact .inl ⟨_, ⟨rfl, fun _ => rfl, rfl, fun _ => rfl, rfl⟩, rfl⟩
    · rename_i group hobs
      refine .inr ⟨_, group, _, ?_, ?_, rfl, hobs, rfl⟩
      · exact ⟨rfl, fun _ => rfl, rfl, fun _ => rfl, rfl⟩
      · refine ⟨?_, rfl, rfl⟩
        simp [names, RouteState.predictRequestAt, Function.comp_def]

theorem station_observed {group : Group Id R} (h : Keeps d d') :
    cfg.station gid alive (d'.updateGroup gid (fun _ => group)) = { cfg.station gid alive d with group } := by
  rw [← h.station]
  simp only [DriverConfig.station, updateGroup_self]
  rfl

/-! ## Steps -/

theorem length_episodeIdsWithRoll (ids : List Id) (lanes : List Nat) (pendingRoll : List (Nat × Id)) :
    (episodeIdsWithRoll ids lanes pendingRoll).length = ids.length := by
  unfold episodeIdsWithRoll
  induction pendingRoll generalizing ids with
  | nil => rfl
  | cons entry rest ih =>
    rw [List.foldl_cons, ih]
    split
    · exact List.length_set
    · rfl

theorem account_station (cfg : DriverConfig Id R) (gid : Nat) (d : Driver Id R) (alive : Bool) 
    (response : StepResponse Id R) (completed : List (EpisodeMetadata Id R)) :
    Within cfg gid d (cfg.account gid response completed d) ∧
    cfg.station gid alive (cfg.account gid response completed d) =
      { cfg.station gid alive d with group := (d.groups gid).stepped } := by
  have hk : Keeps d { d with route := d.route.recordStepAt (cfg.spec.lanes gid) response.rewards } :=
    keeps_route (fun lane => d.route.slotId_recordStepAt _ _ lane)
  refine ⟨(hk.within.trans (within_updateGroup Group.stepped)).trans (keeps_emit _).within, ?_⟩
  unfold DriverConfig.account
  rw [(keeps_emit _).station, ← hk.station]
  simp only [DriverConfig.station, updateGroup_self]
  rfl

theorem claimRolls_slots (lanes rolling : List Nat) (route : RouteState Id R) :
    (cfg.claimRolls lanes rolling route).2.slots = route.slots := by
  refine List.foldlRecOn (motive := fun acc : List (Option Nat) × RouteState Id R => acc.2.slots = route.slots)
    lanes _ rfl ?_
  intro acc h lane _
  dsimp only
  split
  · obtain ⟨nextSlot, hn⟩ := acc.2.claimSlots_snd cfg.spec 1 true
    rw [hn]
    exact h
  · exact h

theorem markRolledSurplus_slots (lanes rolling : List Nat) (rollIds : List Id) (slots : List (Option Nat))
    (route : RouteState Id R) :
    (DriverConfig.markRolledSurplus lanes rolling rollIds slots route).slots = route.slots := by
  refine List.foldlRecOn (motive := fun after : RouteState Id R => after.slots = route.slots)
    ((lanes.zip rollIds).zip slots) _ rfl ?_
  intro after h entry _
  split
  · exact h
  · exact h

/-- The driver before a roll's slots move on: the ended ids' completions and evictions are out. -/
def DriverConfig.rollEnds (cfg : DriverConfig Id R) (gid : Nat) (d : Driver Id R) : Driver Id R :=
  cfg.queueEvictions gid ((d.groups gid).pendingRoll.map Prod.fst)
    ((d.emit ((d.groups gid).pendingCompleted.map HookEvent.episodeCompleted)).updateGroup gid
      (fun group => { group with pendingCompleted := [], pendingRoll := [] }))

/-- The ids a roll brings the group's lanes to. -/
def DriverConfig.rollIds (cfg : DriverConfig Id R) (gid : Nat) (d : Driver Id R) : List Id :=
  episodeIdsWithRoll (d.route.episodeIdsAt (cfg.spec.lanes gid)) (cfg.spec.lanes gid) (d.groups gid).pendingRoll

/-- The slots a roll claims for its lanes, and the route that counts them. -/
def DriverConfig.rollSlots (cfg : DriverConfig Id R) (gid : Nat) (d : Driver Id R) :
    List (Option Nat) × RouteState Id R :=
  cfg.claimRolls (cfg.spec.lanes gid) ((d.groups gid).pendingRoll.map Prod.fst) (cfg.rollEnds gid d).route

/-- The episodes a roll starts, and the route that runs them. -/
def DriverConfig.rollStarts (cfg : DriverConfig Id R) (gid : Nat) (now : Int) (d : Driver Id R) :
    List (StartedEpisode Id) × RouteState Id R :=
  (markRolledSurplus (cfg.spec.lanes gid) ((d.groups gid).pendingRoll.map Prod.fst) (cfg.rollIds gid d)
    (cfg.rollSlots gid d).1 (cfg.rollSlots gid d).2).observeEpisodeIdsAt now (cfg.spec.lanes gid) (cfg.rollIds gid d)
      (cfg.rollSlots gid d).1

theorem rollEnds_ids (lane : Nat) : (cfg.rollEnds gid d).route.slotId lane = d.route.slotId lane :=
  (keeps_queueEvictions _).ids lane

theorem roll_eq (now : Int) :
    cfg.roll gid now d =
      { cfg.rollEnds gid d with route := (cfg.rollStarts gid now d).2 }.emit
        (cfg.startedEvents gid (cfg.rollStarts gid now d).1 (cfg.rollStarts gid now d).2) := by
  have hids : (cfg.rollEnds gid d).route.episodeIdsAt (cfg.spec.lanes gid) =
      d.route.episodeIdsAt (cfg.spec.lanes gid) := RouteState.episodeIdsAt_congr (fun lane _ => rollEnds_ids lane)
  have he : cfg.roll gid now d =
      let rollIds := episodeIdsWithRoll ((cfg.rollEnds gid d).route.episodeIdsAt (cfg.spec.lanes gid))
        (cfg.spec.lanes gid) (d.groups gid).pendingRoll
      let starts := (DriverConfig.markRolledSurplus (cfg.spec.lanes gid) ((d.groups gid).pendingRoll.map Prod.fst) rollIds
        (cfg.rollSlots gid d).1 (cfg.rollSlots gid d).2).observeEpisodeIdsAt now (cfg.spec.lanes gid) rollIds
          (cfg.rollSlots gid d).1
      { cfg.rollEnds gid d with route := starts.2 }.emit (cfg.startedEvents gid starts.1 starts.2) := rfl
  rw [he, hids]
  rfl

theorem roll_station (cfg : DriverConfig Id R) (gid : Nat) (d : Driver Id R) (alive : Bool) (now : Int) :
    Within cfg gid d (cfg.roll gid now d) ∧
    cfg.station gid alive (cfg.roll gid now d) =
      { cfg.station gid alive d with
        ids := cfg.rollIds gid d
        group := { d.groups gid with pendingCompleted := [], pendingRoll := [] } } := by
  have hends : Within cfg gid d (cfg.rollEnds gid d) :=
    (((keeps_emit _).within.trans (within_updateGroup _)).trans (keeps_queueEvictions _).within)
  have hk : Keeps ((d.emit ((d.groups gid).pendingCompleted.map HookEvent.episodeCompleted)).updateGroup gid
      (fun group => { group with pendingCompleted := [], pendingRoll := [] })) (cfg.rollEnds gid d) :=
    keeps_queueEvictions _
  have hslots : (DriverConfig.markRolledSurplus (cfg.spec.lanes gid) ((d.groups gid).pendingRoll.map Prod.fst) (cfg.rollIds gid d)
      (cfg.rollSlots gid d).1 (cfg.rollSlots gid d).2).slots = (cfg.rollEnds gid d).route.slots := by
    rw [markRolledSurplus_slots]
    exact claimRolls_slots _ _ _
  have hids : (cfg.rollStarts gid now d).2.episodeIdsAt (cfg.spec.lanes gid) = cfg.rollIds gid d := by
    refine RouteState.episodeIdsAt_observeEpisodeIdsAt _ now (cfg.spec.lanes_nodup gid) ?_ _
    rw [DriverConfig.rollIds, length_episodeIdsWithRoll, RouteState.episodeIdsAt, List.length_map]
  rw [roll_eq]
  refine ⟨hends.trans ⟨fun _ _ => rfl, fun lane hl => ?_, rfl, fun _ => rfl, [], by simp [Driver.emit]⟩, ?_⟩
  · refine RouteState.slotId_of_episode (congrArg SlotState.episode ?_)
    exact (RouteState.slots_observeEpisodeIdsAt_of_notMem _ _ _ _ _ hl).trans (congrFun hslots lane)
  · rw [(keeps_emit _).station]
    simp only [DriverConfig.station, hids]
    have hgroup : (cfg.rollEnds gid d).groups gid = { d.groups gid with pendingCompleted := [], pendingRoll := [] } := by
      rw [hk.groups, updateGroup_self]
      rfl
    rw [hgroup]
    simp only [Driver.sent]
    rw [show (cfg.rollEnds gid d).predicts = d.predicts from hk.predicts,
      show (cfg.rollEnds gid d).mintedFor = d.mintedFor from hk.mintedFor]
    have hsent : (cfg.rollEnds gid d).sent gid = d.sent gid := hk.sent gid
    simp only [Driver.sent] at hsent
    rw [hsent]

theorem completeEpisodes_slots (completed : List (EpisodeMetadata Id R)) (route : RouteState Id R) :
    (cfg.completeEpisodes gid completed route).2.slots = route.slots := by
  refine List.foldlRecOn
    (motive := fun acc : List (EpisodeCompletedEvent Id R) × RouteState Id R => acc.2.slots = route.slots)
    completed _ rfl ?_
  intro acc h metadata _
  unfold DriverConfig.completeEpisode
  split
  · exact h
  · dsimp only
    split
    · exact h
    · exact h

theorem complete_station (cfg : DriverConfig Id R) (gid : Nat) (d : Driver Id R) (alive : Bool) 
    (completed : List (EpisodeMetadata Id R)) :
    Within cfg gid d (cfg.complete gid completed d) ∧
    ∃ events, cfg.station gid alive (cfg.complete gid completed d) =
      { cfg.station gid alive d with group := { d.groups gid with pendingCompleted := events } } := by
  have hk : Keeps d { d with route := (cfg.completeEpisodes gid completed d.route).2 } := by
    refine keeps_route (fun lane => ?_)
    unfold RouteState.slotId
    rw [completeEpisodes_slots]
  unfold DriverConfig.complete
  dsimp only
  split
  · exact ⟨((hk.trans (keeps_emit _)).trans (keeps_queueEvictions _)).within, (d.groups gid).pendingCompleted,
      ((hk.trans (keeps_emit _)).trans (keeps_queueEvictions _)).station⟩
  · refine ⟨hk.within.trans (within_updateGroup _),
      (d.groups gid).pendingCompleted ++ (cfg.completeEpisodes gid completed d.route).1, ?_⟩
    rw [← hk.station]
    simp only [DriverConfig.station, updateGroup_self]
    rfl

/-- A driver whose group has drawn ids for its rolls. -/
def Driver.withRolls (gid : Nat) (rolls : List (Nat × Id)) (d : Driver Id R) : Driver Id R :=
  ({ d with mintedFor := d.mintedFor ++ List.replicate rolls.length gid } : Driver Id R).updateGroup gid
    (fun group => { group with pendingRoll := rolls })

/-- The rolls of a group: distinct lanes, with the ids drawn next. -/
structure Rolls (minter : Minter Id) (gid : Nat) (mintedFor : List Nat) (rolls : List (Nat × Id)) : Prop where
  nodup : (rolls.map Prod.fst).Nodup
  mints : Mints minter gid mintedFor (rolls.map Prod.snd) (List.replicate rolls.length gid)

theorem Rolls.append {rolls : List (Nat × Id)} (h : Rolls cfg.minter gid d.mintedFor rolls) {lane : Nat}
    (hl : lane ∉ rolls.map Prod.fst) :
    Rolls cfg.minter gid d.mintedFor (rolls ++ [(lane, cfg.minter.id (d.mintedFor.length + rolls.length))]) := by
  refine ⟨?_, ?_, ?_⟩
  · rw [List.map_append, List.nodup_append]
    refine ⟨h.nodup, by simp, ?_⟩
    intro l hmem l' hl' heq
    simp only [List.map_cons, List.map_nil, List.mem_singleton] at hl'
    subst hl' heq
    exact hl hmem
  · have hdrawn := h.mints.drawn
    simp only [List.length_map] at hdrawn
    simp only [List.map_append, List.map_cons, List.map_nil, List.length_append, List.length_map, List.length_singleton,
      List.range'_concat, ← hdrawn, Nat.one_mul]
  · simp

theorem withRolls_nil (hd : (d.groups gid).pendingRoll = []) : d.withRolls gid [] = d := by
  simp only [Driver.withRolls, Driver.updateGroup, List.length_nil, List.replicate_zero, List.append_nil]
  rw [← hd, Function.update_eq_self]

theorem mintRolls_eq (cfg : DriverConfig Id R) (lanes : List Nat) (hd : (d.groups gid).pendingRoll = []) :
    ∃ rolls, Rolls cfg.minter gid d.mintedFor rolls ∧ (∀ lane, lane ∈ rolls.map Prod.fst ↔ lane ∈ lanes) ∧
      cfg.mintRolls gid lanes d = d.withRolls gid rolls := by
  have main : ∀ (lanes : List Nat) (rolls : List (Nat × Id)), Rolls cfg.minter gid d.mintedFor rolls →
      ∃ rolls', Rolls cfg.minter gid d.mintedFor rolls' ∧
        (∀ lane, lane ∈ rolls'.map Prod.fst ↔ lane ∈ rolls.map Prod.fst ∨ lane ∈ lanes) ∧
        cfg.mintRolls gid lanes (d.withRolls gid rolls) = d.withRolls gid rolls' := by
    intro lanes
    induction lanes with
    | nil => exact fun rolls h => ⟨rolls, h, by simp, rfl⟩
    | cons lane rest ih =>
      intro rolls h
      have hroll : ((d.withRolls gid rolls).groups gid).pendingRoll = rolls := by
        rw [Driver.withRolls, updateGroup_self]
      unfold DriverConfig.mintRolls at ih ⊢
      rw [List.foldl_cons, hroll]
      split
      · rename_i hmem
        obtain ⟨rolls', h', hkeys, he⟩ := ih rolls h
        refine ⟨rolls', h', fun l => ?_, he⟩
        rw [hkeys, List.mem_cons]
        constructor
        · rintro (hl | hl)
          · exact .inl hl
          · exact .inr (.inr hl)
        · rintro (hl | rfl | hl)
          · exact .inl hl
          · exact .inl hmem
          · exact .inr hl
      · rename_i hmem
        obtain ⟨rolls', h', hkeys, he⟩ := ih _ (h.append hmem)
        refine ⟨rolls', h', fun l => ?_, ?_⟩
        · rw [hkeys]
          simp [or_assoc]
        · rw [← he]
          congr 1
          simp only [Driver.withRolls, Driver.updateGroup, Function.update_self, Function.update_idem,
            List.length_append, List.length_singleton, List.replicate_succ', List.append_assoc, List.length_replicate]
  obtain ⟨rolls, h, hkeys, he⟩ := main lanes [] ⟨List.nodup_nil, rfl, rfl⟩
  refine ⟨rolls, h, fun lane => by simpa using hkeys lane, ?_⟩
  rw [← he, withRolls_nil hd]

theorem within_withRolls (rolls : List (Nat × Id)) : Within cfg gid d (d.withRolls gid rolls) :=
  ⟨fun _ hg => Function.update_of_ne hg _ _, fun _ _ => rfl, rfl, fun _ => rfl, _, rfl⟩

theorem station_updateGroup (f : Group Id R → Group Id R) :
    cfg.station gid alive (d.updateGroup gid f) = { cfg.station gid alive d with group := f (d.groups gid) } := by
  simp only [DriverConfig.station, updateGroup_self]
  rfl

theorem station_withRolls (rolls : List (Nat × Id)) :
    cfg.station gid alive (d.withRolls gid rolls) =
      { cfg.station gid alive d with
        group := { d.groups gid with pendingRoll := rolls }
        mintedFor := d.mintedFor ++ List.replicate rolls.length gid } := by
  unfold Driver.withRolls
  rw [station_updateGroup]
  rfl

/-- Completed episodes flush the group and, where the env owns the resets, stage a roll of each lane. -/
theorem flushCompleted_eq (cfg : DriverConfig Id R) (completed : List (EpisodeMetadata Id R)) (hd : (d.groups gid).pendingRoll = []) :
    ∃ rolls, Rolls cfg.minter gid d.mintedFor rolls ∧
      (∀ lane, lane ∈ rolls.map Prod.fst ↔
        cfg.spec.driverOwnsResets = false ∧ lane ∈ completed.map (·.envIndex)) ∧
      cfg.flushCompleted gid completed d =
        (if completed.isEmpty then d else d.updateGroup gid Group.flush).withRolls gid rolls := by
  have hnil : Rolls cfg.minter gid d.mintedFor [] := ⟨List.nodup_nil, rfl, rfl⟩
  have hflush : ((d.updateGroup gid Group.flush).groups gid).pendingRoll = [] := by
    rw [updateGroup_self]
    exact hd
  unfold DriverConfig.flushCompleted
  split
  · rename_i hempty
    refine ⟨[], hnil, fun lane => ?_, (withRolls_nil hd).symm⟩
    simp [List.isEmpty_iff.mp hempty]
  · split
    · rename_i hdriver
      exact ⟨[], hnil, fun lane => by simp [hdriver], (withRolls_nil hflush).symm⟩
    · rename_i hdriver
      obtain ⟨rolls, h, hkeys, he⟩ := mintRolls_eq cfg (completed.map (·.envIndex)) hflush
      refine ⟨rolls, h, fun lane => ?_, he⟩
      rw [hkeys]
      simp [hdriver]

/-- The driver once a step is accounted for and its roll, if one was due, is followed. -/
def DriverConfig.rolledOn (cfg : DriverConfig Id R) (gid : Nat) (response : StepResponse Id R)
    (completed : List (EpisodeMetadata Id R)) (now : Int) (d : Driver Id R) : Driver Id R :=
  if !(d.groups gid).pendingRoll.isEmpty then cfg.roll gid now (cfg.account gid response completed d)
  else cfg.account gid response completed d

theorem settle_eq (response : StepResponse Id R) (completed : List (EpisodeMetadata Id R)) (now : Int) :
    cfg.settle gid response completed now d =
      cfg.flushCompleted gid completed (cfg.complete gid completed (cfg.rolledOn gid response completed now d)) := rfl

theorem rolledOn_station (cfg : DriverConfig Id R) (gid : Nat) (d : Driver Id R) (alive : Bool)
    (response : StepResponse Id R) (completed : List (EpisodeMetadata Id R)) (now : Int) :
    Within cfg gid d (cfg.rolledOn gid response completed now d) ∧
    ∃ events, cfg.station gid alive (cfg.rolledOn gid response completed now d) =
      { cfg.station gid alive d with
        ids := episodeIdsWithRoll (cfg.station gid alive d).ids (cfg.spec.lanes gid) (d.groups gid).pendingRoll
        group := { (d.groups gid).stepped with pendingRoll := [], pendingCompleted := events } } := by
  obtain ⟨hwa, hsa⟩ := account_station cfg gid d alive response completed
  have hgroup : (cfg.account gid response completed d).groups gid = (d.groups gid).stepped :=
    congrArg Station.group hsa
  have hids : (cfg.account gid response completed d).route.episodeIdsAt (cfg.spec.lanes gid) =
      d.route.episodeIdsAt (cfg.spec.lanes gid) := congrArg Station.ids hsa
  unfold DriverConfig.rolledOn
  cases hroll : (d.groups gid).pendingRoll with
  | nil =>
    refine ⟨hwa, (d.groups gid).pendingCompleted, hsa.trans ?_⟩
    simp [DriverConfig.station, episodeIdsWithRoll, Group.stepped, hroll]
  | cons entry rest =>
    obtain ⟨hwr, hsr⟩ := roll_station cfg gid (cfg.account gid response completed d) alive now
    refine ⟨hwa.trans hwr, [], hsr.trans ?_⟩
    rw [hsa, DriverConfig.rollIds, hgroup, hids]
    simp [DriverConfig.station, Group.stepped, hroll]

theorem settle_station (cfg : DriverConfig Id R) (gid : Nat) (d : Driver Id R) (alive : Bool) 
    (response : StepResponse Id R) (completed : List (EpisodeMetadata Id R)) (now : Int) :
    Within cfg gid d (cfg.settle gid response completed now d) ∧
    ∃ rolls events, Rolls cfg.minter gid d.mintedFor rolls ∧
      (∀ lane, lane ∈ rolls.map Prod.fst ↔
        cfg.spec.driverOwnsResets = false ∧ lane ∈ completed.map (·.envIndex)) ∧
      cfg.station gid alive (cfg.settle gid response completed now d) =
        (cfg.station gid alive d).settle (cfg.spec.lanes gid) (!completed.isEmpty) rolls events
          (List.replicate rolls.length gid) := by
  obtain ⟨rolledTo, hrolled⟩ : ∃ rolledTo, rolledTo = cfg.rolledOn gid response completed now d := ⟨_, rfl⟩
  obtain ⟨hwb, events, hsb⟩ := rolledOn_station cfg gid d alive response completed now
  rw [← hrolled] at hwb hsb
  have hrollB : (rolledTo.groups gid).pendingRoll = [] := congrArg (fun s => s.group.pendingRoll) hsb
  obtain ⟨hwc, events', hsc⟩ := complete_station cfg gid rolledTo alive completed
  have hgroupC : (cfg.complete gid completed rolledTo).groups gid =
      { (d.groups gid).stepped with pendingRoll := [], pendingCompleted := events' } := by
    have h1 : (cfg.complete gid completed rolledTo).groups gid =
      { rolledTo.groups gid with pendingCompleted := events' } := congrArg Station.group hsc
    have h2 : rolledTo.groups gid = { (d.groups gid).stepped with pendingRoll := [], pendingCompleted := events } :=
      congrArg Station.group hsb
    rw [h1, h2]
  have hmintC : (cfg.complete gid completed rolledTo).mintedFor = d.mintedFor :=
    (congrArg Station.mintedFor hsc).trans (congrArg Station.mintedFor hsb)
  obtain ⟨rolls, hrolls, hkeys, he⟩ := flushCompleted_eq cfg completed
    (show ((cfg.complete gid completed rolledTo).groups gid).pendingRoll = [] by rw [hgroupC])
  rw [hmintC] at hrolls
  have hsettle : cfg.settle gid response completed now d =
      cfg.flushCompleted gid completed (cfg.complete gid completed rolledTo) := by rw [hrolled]; rfl
  have hwf : Within cfg gid d (cfg.settle gid response completed now d) := by
    rw [hsettle, he]
    refine ((hwb.trans hwc).trans ?_).trans (within_withRolls _)
    split
    · exact ⟨fun _ _ => rfl, fun _ _ => rfl, rfl, fun _ => rfl, [], by simp⟩
    · exact within_updateGroup _
  refine ⟨hwf, rolls, events', hrolls, hkeys, ?_⟩
  have hstation : cfg.station gid alive (cfg.complete gid completed rolledTo) =
      { cfg.station gid alive d with
        ids := episodeIdsWithRoll (cfg.station gid alive d).ids (cfg.spec.lanes gid) (d.groups gid).pendingRoll
        group := { (d.groups gid).stepped with pendingRoll := [], pendingCompleted := events' } } := by
    rw [hsc, hsb, ← hgroupC]
    have h1 : (cfg.complete gid completed rolledTo).groups gid =
      { rolledTo.groups gid with pendingCompleted := events' } := congrArg Station.group hsc
    rw [h1]
  rw [hsettle, he, station_withRolls]
  split
  · rename_i hempty
    rw [hstation, hgroupC, hmintC, hempty]
    rfl
  · rename_i hempty
    have hmint : ((cfg.complete gid completed rolledTo).updateGroup gid Group.flush).mintedFor = d.mintedFor := hmintC
    rw [station_updateGroup, updateGroup_self, hstation, hgroupC, hmint]
    rw [Bool.not_eq_true] at hempty
    rw [hempty]
    rfl

/-! ## What a step leads to -/

/-- The episodes that complete on a step. -/
def DriverConfig.stepEnds (cfg : DriverConfig Id R) (gid : Nat) (response : StepResponse Id R) (now : Int)
    (d : Driver Id R) : List (EpisodeMetadata Id R) :=
  cfg.completions now gid response (d.route.recordStepAt (cfg.spec.lanes gid) response.rewards)

/-- The driver once a step is accounted for. -/
def DriverConfig.settled (cfg : DriverConfig Id R) (gid : Nat) (response : StepResponse Id R) (now : Int)
    (d : Driver Id R) : Driver Id R :=
  cfg.settle gid response (cfg.stepEnds gid response now d) now d

/-- The group goes on from a step: it is neither retired nor reset. -/
def DriverConfig.goesOn (cfg : DriverConfig Id R) (gid : Nat) (response : StepResponse Id R) (now : Int)
    (d : Driver Id R) : Bool :=
  !cfg.stops gid (cfg.settled gid response now d).route &&
    !(cfg.spec.driverOwnsResets && !(cfg.stepEnds gid response now d).isEmpty)

theorem onStep_eq (response : StepResponse Id R) (now : Int) (transformed : Transformed) :
    cfg.onStep gid (.ok response) now transformed d =
      if cfg.stops gid (cfg.settled gid response now d).route then (cfg.stop gid (cfg.settled gid response now d), none)
      else if cfg.spec.driverOwnsResets && !(cfg.stepEnds gid response now d).isEmpty then
        (cfg.beginReset gid false (cfg.settled gid response now d), none)
      else cfg.observe gid response.observation
        (if !(d.groups gid).pendingRoll.isEmpty then response.infos else none) .stepObservation false transformed
        (cfg.settled gid response now d) := rfl

theorem stop_station (cfg : DriverConfig Id R) (gid : Nat) (d : Driver Id R) (alive : Bool) :
    Within cfg gid d (cfg.stop gid d) ∧
    cfg.station gid alive (cfg.stop gid d) =
      { cfg.station gid alive d with
        group := { d.groups gid with pendingCompleted := [], pendingRoll := [] }.retire } := by
  have hw : Within cfg gid d ((d.emit ((d.groups gid).pendingCompleted.map HookEvent.episodeCompleted)).updateGroup gid
      (fun group => { group with pendingCompleted := [], pendingRoll := [] })) :=
    (keeps_emit _).within.trans (within_updateGroup _)
  refine ⟨(hw.trans (keeps_queueEvictions _).within).trans (within_updateGroup _), ?_⟩
  unfold DriverConfig.stop
  dsimp only
  rw [station_updateGroup, (keeps_queueEvictions _).groups, (keeps_queueEvictions _).station, station_updateGroup,
    updateGroup_self, (keeps_emit _).station]
  rfl

theorem settle_op (s : Station Id R) (lanes : List Nat) (completes : Bool) (rolls : List (Nat × Id))
    (events : List (EpisodeCompletedEvent Id R)) (minted : List Nat) :
    (s.settle lanes completes rolls events minted).group.op = none ∧
      (s.settle lanes completes rolls events minted).group.observed = s.group.observed := by
  cases completes <;> exact ⟨rfl, rfl⟩

end Rlmesh.Runtime
