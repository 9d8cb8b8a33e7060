import Rlmesh.Runtime.Requests
/-!
# The ends of episodes

An episode's end is queued for the model when its slot is done with it: on the
roll, at a driver-owned completion, when the group stops or at the teardown. The
slot is marked then, so the ids queued so far are kept apart from the ids of the
slots that are not marked. A running group's slots are not marked, and those of a
group whose reset is out are.
-/
open Rlmesh.Wire

set_option linter.unusedSectionVars false

namespace Rlmesh.Runtime

variable {Id R : Type} [DecidableEq Id] [Inhabited Id] [Zero R] [Add R] [BEq R]

/-! ## What the model is sent -/

/-- The ids a message evicts. -/
def ModelMessage.evicts : ModelMessage Id → List Id
  | .resetAdapter request => request.episodeIds
  | .predict _ _ => []

/-- The ids a message asks about. -/
def ModelMessage.names : ModelMessage Id → List Id
  | .predict _ request => requestNames request
  | .resetAdapter _ => []

def Driver.evicted (d : Driver Id R) : List Id := d.wire.flatMap ModelMessage.evicts

def Driver.named (d : Driver Id R) : List Id := d.wire.flatMap ModelMessage.names

/-- The ids whose end has been queued: sent, waiting for the next turn, or held behind a predict. -/
def Driver.evictions (d : Driver Id R) : List Id :=
  d.evicted ++ d.pendingEvictions ++ d.heldEvictions.map Prod.snd

/-- No request names an id that was evicted before it. -/
def Ordered (wire : List (ModelMessage Id)) : Prop :=
  wire.Pairwise (fun earlier later => ∀ id ∈ earlier.evicts, id ∉ later.names)

instance (wire : List (ModelMessage Id)) : Decidable (Ordered wire) :=
  inferInstanceAs (Decidable (List.Pairwise _ wire))

/-! ## Slots and their ends -/

/-- The episode a lane's slot holds. -/
def RouteState.episodeOf (route : RouteState Id R) (lane : Nat) : Option (EpisodeState Id) := (route.slots lane).episode

theorem RouteState.slotId_of_id {route : RouteState Id R} {lane : Nat} {id : Id}
    (h : (route.episodeOf lane).map (·.episodeId) = some id) : route.slotId lane = id := by
  rw [RouteState.slotId, show (route.slots lane).episode = route.episodeOf lane from rfl, h, Option.getD_some]

theorem RouteState.slotId_of_some {route : RouteState Id R} {lane : Nat} {episode : EpisodeState Id}
    (h : route.episodeOf lane = some episode) : route.slotId lane = episode.episodeId :=
  slotId_of_id (by rw [h, Option.map_some])

/-- No two slots hold the same episode. -/
def Apart (width : Nat) (episodes : Nat → Option (EpisodeState Id)) : Prop :=
  ∀ lane lane' id, lane < width → lane' < width → (episodes lane).map (·.episodeId) = some id →
    (episodes lane').map (·.episodeId) = some id → lane = lane'

/-- The ends queued so far, against the slots and the ids the model was asked about. -/
structure Ends (width : Nat) (episodes : Nat → Option (EpisodeState Id)) (evictions named : List Id) : Prop where
  nodup : evictions.Nodup
  proper : ∀ lane episode, episodes lane = some episode → episode.episodeId ≠ default
  unended : ∀ lane episode, lane < width → episodes lane = some episode → episode.ended = false →
    episode.episodeId ∉ evictions
  named : ∀ id ∈ named, id ∈ evictions ∨ ∃ lane episode, lane < width ∧ episodes lane = some episode ∧
    episode.episodeId = id ∧ RouteState.isLive episode = true

variable {cfg : DriverConfig Id R} {spec : RuntimeSessionSpec R} {gid g width : Nat} {d d' : Driver Id R}
  {route : RouteState Id R} {episodes episodes' : Nat → Option (EpisodeState Id)} {E E' N N' : List Id}

theorem Ends.perm (h : Ends width episodes E N) (hp : E'.Perm E) : Ends width episodes E' N := by
  refine ⟨hp.nodup_iff.mpr h.nodup, h.proper, fun lane episode hl he hu hmem => ?_, fun id hid => ?_⟩
  · exact h.unended lane episode hl he hu (hp.mem_iff.mp hmem)
  · exact (h.named id hid).imp_left hp.mem_iff.mpr

theorem Ends.endEpisodeAt (h : Ends spec.width route.episodeOf E N) (hapart : Apart spec.width route.episodeOf)
    (envIndex : Nat) : Ends spec.width (route.endEpisodeAt spec envIndex).2.episodeOf
      (E ++ (route.endEpisodeAt spec envIndex).1.toList) N := by
  rcases route.endEpisodeAt_cases spec envIndex with ⟨he, -⟩ | ⟨ended, hlt, hended, hopen, he⟩
  · rw [he]
    simpa using h
  · rw [he]
    have hmarked : ∀ l, (route.updateEpisode envIndex (fun episode => { episode with ended := true })).episodeOf l =
        if l = envIndex then (route.episodeOf l).map (fun episode => { episode with ended := true })
        else route.episodeOf l := route.updateEpisode_episode envIndex _
    have hended : route.episodeOf envIndex = some ended := hended
    refine ⟨?_, fun lane episode hl => ?_, fun lane episode hl hepisode hu hmem => ?_, fun id hid => ?_⟩
    · refine List.nodup_append.mpr ⟨h.nodup, by simp, ?_⟩
      rintro id hid id' hid' rfl
      obtain rfl : id = ended.episodeId := by simpa using hid'
      exact h.unended envIndex ended hlt hended hopen hid
    · rw [hmarked] at hl
      split at hl
      · rename_i hlane
        subst hlane
        rw [hended] at hl
        cases hl
        exact h.proper lane ended hended
      · exact h.proper lane episode hl
    · rw [hmarked] at hepisode
      split at hepisode
      · rename_i hlane
        rw [hlane, hended] at hepisode
        cases hepisode
        cases hu
      · rename_i hlane
        rcases List.mem_append.mp hmem with hmem | hmem
        · exact h.unended lane episode hl hepisode hu hmem
        · -- The id that was just queued is another slot's.
          have hid : episode.episodeId = ended.episodeId := by simpa using hmem
          exact hlane (hapart lane envIndex ended.episodeId hl hlt (by rw [hepisode, Option.map_some, hid])
            (by rw [hended, Option.map_some]))
    · rcases h.named id hid with hid | ⟨lane, episode, hl, hepisode, rfl, hlive⟩
      · exact .inl (List.mem_append_left _ hid)
      · by_cases hlane : lane = envIndex
        · subst hlane
          rw [hended] at hepisode
          cases hepisode
          exact .inl (by simp)
        · exact .inr ⟨lane, episode, hl, by rw [hmarked, if_neg hlane, hepisode], rfl, hlive⟩

theorem endEpisodesAt_ids (route : RouteState Id R) (spec : RuntimeSessionSpec R) (envIndices : List Nat) (l : Nat) :
    ((route.endEpisodesAt spec envIndices).2.episodeOf l).map (·.episodeId) =
      (route.episodeOf l).map (·.episodeId) := by
  unfold RouteState.episodeOf
  rw [RouteState.endEpisodesAt_episode]
  split
  · cases (route.slots l).episode <;> rfl
  · rfl

theorem Apart.congr (h : Apart width episodes)
    (hids : ∀ lane, (episodes' lane).map (·.episodeId) = (episodes lane).map (·.episodeId)) : Apart width episodes' := by
  intro lane lane' id hl hl' he he'
  exact h lane lane' id hl hl' ((hids lane).symm.trans he) ((hids lane').symm.trans he')

theorem Ends.endEpisodesAt (h : Ends spec.width route.episodeOf E N) (hapart : Apart spec.width route.episodeOf)
    (envIndices : List Nat) : Ends spec.width (route.endEpisodesAt spec envIndices).2.episodeOf
      (E ++ (route.endEpisodesAt spec envIndices).1) N := by
  have hboth := route.endEpisodesAt_inv spec
    (fun ids after => Ends spec.width after.episodeOf (E ++ ids) N ∧ Apart spec.width after.episodeOf) envIndices
    ⟨by simpa using h, hapart⟩ ?_
  · exact hboth.1
  · rintro ids after envIndex - ⟨hends, hapart⟩
    refine ⟨by simpa using hends.endEpisodeAt hapart envIndex, hapart.congr (fun lane => ?_)⟩
    have hone := endEpisodesAt_ids after spec [envIndex] lane
    simpa [RouteState.endEpisodesAt] using hone

theorem mem_endEpisodesAt (envIndices : List Nat) :
    ∀ id ∈ (route.endEpisodesAt spec envIndices).1, ∃ lane ∈ envIndices, lane < spec.width ∧
      (route.episodeOf lane).map (·.episodeId) = some id := by
  have hall := route.endEpisodesAt_inv spec
    (fun ids after => (∀ id ∈ ids, ∃ lane ∈ envIndices, lane < spec.width ∧
        (route.episodeOf lane).map (·.episodeId) = some id) ∧
      ∀ l, (after.episodeOf l).map (·.episodeId) = (route.episodeOf l).map (·.episodeId)) envIndices
    ⟨nofun, fun _ => rfl⟩ ?_
  · exact hall.1
  · rintro ids after envIndex hi ⟨hids, hsame⟩
    refine ⟨fun id hid => ?_, fun l => ?_⟩
    · rcases List.mem_append.mp hid with hid | hid
      · exact hids id hid
      · rcases after.endEpisodeAt_cases spec envIndex with ⟨he, -⟩ | ⟨ended, hlt, hended, -, he⟩
        · rw [he] at hid
          cases hid
        · rw [he] at hid
          obtain rfl : id = ended.episodeId := by simpa using hid
          refine ⟨envIndex, hi, hlt, ?_⟩
          rw [← hsame, show after.episodeOf envIndex = some ended from hended, Option.map_some]
    · rw [← hsame]
      have hone := endEpisodesAt_ids after spec [envIndex] l
      simpa [RouteState.endEpisodesAt] using hone

/-! ## The ids in the slots -/

/-- The ids in each group's slots are distinct, and drawn for the group. -/
def IdsHeld (cfg : DriverConfig Id R) (route : RouteState Id R) (mintedFor : List Nat) : Prop :=
  ∀ g, g < cfg.spec.groupCount → Distinct (route.episodeIdsAt (cfg.spec.lanes g)) ∧
    ∀ id ∈ route.episodeIdsAt (cfg.spec.lanes g), id = default ∨ Drawn cfg.minter g mintedFor id

theorem IdsHeld.drawn {mintedFor : List Nat} (h : IdsHeld cfg route mintedFor) (hg : g < cfg.spec.groupCount)
    {lane : Nat} (hl : lane ∈ cfg.spec.lanes g) {id : Id} (hid : (route.episodeOf lane).map (·.episodeId) = some id)
    (hne : id ≠ default) : Drawn cfg.minter g mintedFor id := by
  refine ((h g hg).2 id ?_).resolve_left hne
  rw [← RouteState.slotId_of_id hid]
  exact List.mem_map_of_mem hl

theorem IdsHeld.apart {mintedFor : List Nat} (h : IdsHeld cfg route mintedFor)
    (hproper : ∀ lane episode, route.episodeOf lane = some episode → episode.episodeId ≠ default) :
    Apart cfg.spec.width route.episodeOf := by
  intro lane lane' id hlane hlane' hid hid'
  have hne : id ≠ default := by
    obtain ⟨episode, hepisode, rfl⟩ := Option.map_eq_some_iff.mp hid
    exact hproper lane episode hepisode
  obtain ⟨g, hg, hmem⟩ := cfg.spec.exists_group hlane
  obtain ⟨g', hg', hmem'⟩ := cfg.spec.exists_group hlane'
  -- An id belongs to one group, and within it to one lane.
  obtain rfl := (h.drawn hg hmem hid hne).owner (h.drawn hg' hmem' hid' hne)
  obtain ⟨i, hi⟩ := List.getElem?_of_mem hmem
  obtain ⟨j, hj⟩ := List.getElem?_of_mem hmem'
  have hsame : i = j := (h g hg).1 i j id (by rw [RouteState.episodeIdsAt, List.getElem?_map, hi, Option.map_some, RouteState.slotId_of_id hid])
    (by rw [RouteState.episodeIdsAt, List.getElem?_map, hj, Option.map_some, RouteState.slotId_of_id hid']) hne
  subst hsame
  exact Option.some.inj (hi.symm.trans hj)

theorem idsHeld_of_stations {alive : Bool} (h : ∀ g, g < cfg.spec.groupCount → IdsFit cfg g (cfg.station g alive d)) :
    IdsHeld cfg d.route d.mintedFor := by
  intro g hg
  exact ⟨(h g hg).distinct, fun id hid => (h g hg).seen id (.inl hid)⟩

/-! ## The groups -/

/-- The ids waiting for a group's lanes. -/
def Group.staged (group : Group Id R) : List Id :=
  match group.phase with
  | .ready | .stepping => group.pendingRoll.map Prod.snd
  | .resetting => (group.pendingStart.map Prod.fst).getD []
  | .idle => []

/-- A group's share of the ends: its staged ids are new, a running group's slots
are not marked and a resetting group's are, and what rolls are its lanes. -/
structure GroupFit (lanes : List Nat) (episodes : Nat → Option (EpisodeState Id)) (evictions : List Id)
    (group : Group Id R) : Prop where
  staged : ∀ id ∈ group.staged, id ∉ evictions
  running : group.phase.running = true → ∀ lane ∈ lanes, ∃ episode, episodes lane = some episode ∧ episode.ended = false
  rolls : group.phase.running = true → (group.pendingRoll.map Prod.fst).Nodup ∧
    ∀ lane ∈ group.pendingRoll.map Prod.fst, lane ∈ lanes
  resetting : group.phase = .resetting → ∀ lane ∈ lanes, ∀ episode, episodes lane = some episode → episode.ended = true

/-- The ends of a driver, with the groups in `on` in order. -/
structure Evictions (cfg : DriverConfig Id R) (on : Nat → Prop) (d : Driver Id R) : Prop where
  ends : Ends cfg.spec.width d.route.episodeOf d.evictions d.named
  drawn : ∀ id ∈ d.evictions, ∃ g, Drawn cfg.minter g d.mintedFor id
  ordered : Ordered d.wire
  groups : ∀ g, on g → GroupFit (cfg.spec.lanes g) d.route.episodeOf d.evictions (d.groups g)

variable {lanes : List Nat} {group after : Group Id R} {on on' : Nat → Prop}

theorem Alike.running (h : Alike group after) : after.phase.running = group.phase.running := by
  rcases h.phase with hp | ⟨hp, hp'⟩
  · rw [hp]
  · rw [hp, hp']
    rfl

theorem Alike.staged (h : Alike group after) : after.staged = group.staged := by
  unfold Group.staged
  rcases h.phase with hp | ⟨hp, hp'⟩
  · rw [hp, h.pendingRoll, h.pendingStart]
  · rw [hp, hp', h.pendingRoll]

theorem Alike.resetting (h : Alike group after) (hr : after.phase = .resetting) : group.phase = .resetting := by
  rcases h.phase with hp | ⟨hp, hp'⟩
  · rw [← hp, hr]
  · exact nomatch hp'.symm.trans hr

theorem GroupFit.alike (h : GroupFit lanes episodes E group) (ha : Alike group after) : GroupFit lanes episodes E after := by
  refine ⟨fun id hid => h.staged id (ha.staged ▸ hid), fun hr => h.running (ha.running ▸ hr), fun hr => ?_,
    fun hr => h.resetting (ha.resetting hr)⟩
  rw [ha.pendingRoll]
  exact h.rolls (ha.running ▸ hr)

theorem GroupFit.frame (h : GroupFit lanes episodes E group) (hE : ∀ id ∈ group.staged, id ∈ E' → id ∈ E)
    (hep : ∀ lane ∈ lanes, episodes' lane = episodes lane) : GroupFit lanes episodes' E' group := by
  refine ⟨fun id hid hmem => h.staged id hid (hE id hid hmem), fun hr lane hl => ?_, h.rolls, fun hr lane hl => ?_⟩
  · rw [hep lane hl]
    exact h.running hr lane hl
  · rw [hep lane hl]
    exact h.resetting hr lane hl

theorem Evictions.weaken (h : Evictions cfg on d) (hon : ∀ g, on' g → on g) : Evictions cfg on' d :=
  ⟨h.ends, h.drawn, h.ordered, fun g hg => h.groups g (hon g hg)⟩

/-- The ends of a group's lanes are queued; the others' groups stay in order. -/
theorem Evictions.queue (h : Evictions cfg on d) (hids : IdsHeld cfg d.route d.mintedFor)
    (hgid : gid < cfg.spec.groupCount) {envIndices : List Nat} (hlanes : ∀ lane ∈ envIndices, lane ∈ cfg.spec.lanes gid)
    (hon : ∀ g, on g → g < cfg.spec.groupCount ∧ g ≠ gid)
    (hstaged : ∀ g, on g → ∀ id ∈ (d.groups g).staged, Drawn cfg.minter g d.mintedFor id) :
    Evictions cfg on (cfg.queueEvictions gid envIndices d) := by
  obtain ⟨ended, hended⟩ : ∃ ended, ended = d.route.endEpisodesAt cfg.spec envIndices := ⟨_, rfl⟩
  have hdrawn : ∀ id ∈ ended.1, Drawn cfg.minter gid d.mintedFor id := by
    intro id hid
    rw [hended] at hid
    obtain ⟨lane, hl, -, hslot⟩ := mem_endEpisodesAt envIndices id hid
    refine hids.drawn hgid (hlanes lane hl) hslot ?_
    obtain ⟨episode, hepisode, rfl⟩ := Option.map_eq_some_iff.mp hslot
    exact h.ends.proper lane episode hepisode
  have hends : Ends cfg.spec.width ended.2.episodeOf (d.evictions ++ ended.1) d.named := by
    rw [hended]
    exact h.ends.endEpisodesAt (hids.apart h.ends.proper) envIndices
  have hother : ∀ g, on g → ∀ lane ∈ cfg.spec.lanes g, ended.2.episodeOf lane = d.route.episodeOf lane := by
    intro g hg lane hl
    rw [hended, RouteState.episodeOf, RouteState.endEpisodesAt_episode, if_neg]
    · rfl
    · rintro ⟨hmem, -⟩
      exact (hon g hg).2 (cfg.spec.lanes_disjoint (hon g hg).1 hgid hl (hlanes lane hmem))
  -- Held or pending, the same ids are queued.
  suffices hq : ∀ pendingEvictions heldEvictions,
      (d.evicted ++ pendingEvictions ++ heldEvictions.map Prod.snd).Perm (d.evictions ++ ended.1) →
      Evictions cfg on { d with route := ended.2, pendingEvictions, heldEvictions } by
    unfold DriverConfig.queueEvictions
    dsimp only
    rw [← hended]
    split
    · refine hq _ _ ?_
      simp [Driver.evictions, Function.comp_def]
    · refine hq _ _ ?_
      simp only [Driver.evictions, List.append_assoc]
      exact (List.perm_append_comm).append_left _ |>.append_left _
  intro pendingEvictions heldEvictions hperm
  refine ⟨hends.perm hperm, fun id hid => ?_, h.ordered, fun g hg => ?_⟩
  · rcases List.mem_append.mp (hperm.mem_iff.mp hid) with hid | hid
    · exact h.drawn id hid
    · exact ⟨gid, hdrawn id hid⟩
  · refine (h.groups g hg).frame (fun id hid hmem => ?_) (hother g hg)
    rcases List.mem_append.mp (hperm.mem_iff.mp hmem) with hmem | hmem
    · exact hmem
    · exact absurd ((hstaged g hg id hid).owner (hdrawn id hmem)) (hon g hg).2

theorem Evictions.congr (h : Evictions cfg on d) (hep : ∀ lane, d'.route.episodeOf lane = d.route.episodeOf lane)
    (hwire : d'.wire = d.wire) (hpending : d'.pendingEvictions = d.pendingEvictions)
    (hheld : d'.heldEvictions = d.heldEvictions) (hminted : ∃ more, d'.mintedFor = d.mintedFor ++ more)
    (hgroups : ∀ g, on g → d'.groups g = d.groups g) : Evictions cfg on d' := by
  obtain ⟨more, hm⟩ := hminted
  have hepisodes : d'.route.episodeOf = d.route.episodeOf := funext hep
  have hevictions : d'.evictions = d.evictions := by
    simp only [Driver.evictions, Driver.evicted, hwire, hpending, hheld]
  refine ⟨?_, fun id hid => ?_, by rw [hwire]; exact h.ordered, fun g hg => ?_⟩
  · rw [hepisodes, hevictions, Driver.named, hwire]
    exact h.ends
  · obtain ⟨g, hd⟩ := h.drawn id (hevictions ▸ hid)
    rw [hm]
    exact ⟨g, hd.mono more⟩
  · rw [hepisodes, hevictions, hgroups g hg]
    exact h.groups g hg

theorem IdsHeld.congr {route' : RouteState Id R} {mintedFor : List Nat} (h : IdsHeld cfg route mintedFor)
    (hids : ∀ lane, route'.slotId lane = route.slotId lane) : IdsHeld cfg route' mintedFor := by
  intro g hg
  rw [RouteState.episodeIdsAt_congr (fun lane _ => hids lane)]
  exact h g hg

theorem slotId_of_episodeOf {route' : RouteState Id R} {lane : Nat} (h : route'.episodeOf lane = route.episodeOf lane) :
    route'.slotId lane = route.slotId lane := RouteState.slotId_of_episode h

/-- Lanes are brought to ids: new ones where the slot was done with the old, or the ones they had. -/
theorem Ends.sync (lanes : List Nat) (h : Ends width episodes E N) (hsame : ∀ lane, lane ∉ lanes → episodes' lane = episodes lane)
    (hnew : ∀ lane ∈ lanes, ∃ episode, episodes' lane = some episode ∧ episode.episodeId ≠ default ∧
      ((episode.episodeId ∉ E ∧ ∀ previous, episodes lane = some previous → previous.ended = true) ∨
       ∃ previous, episodes lane = some previous ∧ previous.episodeId = episode.episodeId ∧
        episode.predicted = previous.predicted ∧ episode.ended = previous.ended)) : Ends width episodes' E N := by
  refine ⟨h.nodup, fun lane episode he => ?_, fun lane episode hl he hu => ?_, fun id hid => ?_⟩
  · by_cases hlane : lane ∈ lanes
    · obtain ⟨episode', he', hne, -⟩ := hnew lane hlane
      rw [he'] at he
      cases he
      exact hne
    · exact h.proper lane episode (hsame lane hlane ▸ he)
  · by_cases hlane : lane ∈ lanes
    · obtain ⟨episode', he', -, ⟨hfresh, -⟩ | ⟨previous, hp, hid, -, hended⟩⟩ := hnew lane hlane
      · rw [he'] at he
        cases he
        exact hfresh
      · rw [he'] at he
        cases he
        rw [← hid]
        exact h.unended lane previous hl hp (hended ▸ hu)
    · exact h.unended lane episode hl (hsame lane hlane ▸ he) hu
  · rcases h.named id hid with hid | ⟨lane, episode, hl, he, rfl, hlive⟩
    · exact .inl hid
    · refine .inr ?_
      by_cases hlane : lane ∈ lanes
      · obtain ⟨episode', he', -, ⟨-, hdone⟩ | ⟨previous, hp, hid, hpredicted, hended⟩⟩ := hnew lane hlane
        · rw [RouteState.isLive, hdone episode he] at hlive
          simp at hlive
        · rw [he] at hp
          cases hp
          exact ⟨lane, episode', hl, he', hid.symm, by rw [RouteState.isLive, hpredicted, hended]; exact hlive⟩
      · exact ⟨lane, episode, hl, by rw [hsame lane hlane, he], rfl, hlive⟩

theorem IdsFit.staged {s : Station Id R} (h : IdsFit cfg gid s) (halive : s.alive = true) :
    Staged cfg.minter gid s s.group.staged := by
  unfold Group.staged
  cases hphase : s.group.phase with
  | ready => exact h.rolls halive (by rw [hphase]; rfl)
  | stepping => exact h.rolls halive (by rw [hphase]; rfl)
  | idle => exact .nil
  | resetting =>
    cases hstart : s.group.pendingStart with
    | none => exact .nil
    | some staged => exact h.starts halive hphase staged.1 staged.2 hstart

theorem queueEvictions_route (envIndices : List Nat) :
    (cfg.queueEvictions gid envIndices d).route = (d.route.endEpisodesAt cfg.spec envIndices).2 := by
  unfold DriverConfig.queueEvictions
  dsimp only
  split <;> rfl

theorem mem_queueEvictions {envIndices : List Nat} {id : Id} :
    id ∈ (cfg.queueEvictions gid envIndices d).evictions ↔
      id ∈ d.evictions ∨ id ∈ (d.route.endEpisodesAt cfg.spec envIndices).1 := by
  unfold DriverConfig.queueEvictions
  dsimp only
  split
  · simp [Driver.evictions, Driver.evicted, Function.comp_def, or_assoc]
  · simp only [Driver.evictions, Driver.evicted, List.mem_append]
    tauto

/-! ## A step comes back -/

/-- What the evictions need to know of a group's station. -/
def EvictionStation (cfg : DriverConfig Id R) (g : Nat) (s : Station Id R) : Prop :=
  IdsFit cfg g s ∧ Unrolled cfg s ∧
    (s.alive = true → s.group.phase.running = true → NamesFit cfg.deliverHistory s.ids s.group)

/-- The groups of the run but one. -/
def Others (cfg : DriverConfig Id R) (gid g : Nat) : Prop := g < cfg.spec.groupCount ∧ g ≠ gid

/-- The route a roll's slots move on from. -/
def DriverConfig.rollBase (cfg : DriverConfig Id R) (gid : Nat) (d : Driver Id R) : RouteState Id R :=
  markRolledSurplus (cfg.spec.lanes gid) ((d.groups gid).pendingRoll.map Prod.fst) (cfg.rollIds gid d)
    (cfg.rollSlots gid d).1 (cfg.rollSlots gid d).2

theorem rollBase_slots (cfg : DriverConfig Id R) (gid : Nat) (d : Driver Id R) :
    (cfg.rollBase gid d).slots = (cfg.rollEnds gid d).route.slots := by
  unfold DriverConfig.rollBase
  rw [markRolledSurplus_slots]
  exact claimRolls_slots _ _ _

/-- The slot of a lane after a roll: fresh under another id, marked as before under the same. -/
theorem rollStarts_episode (now : Int) {position lane : Nat} (hl : (cfg.spec.lanes gid)[position]? = some lane) {id : Id}
    (hid : (cfg.rollIds gid d)[position]? = some id) (hne : id ≠ default) :
    ∃ episode, (cfg.rollStarts gid now d).2.episodeOf lane = some episode ∧ episode.episodeId = id ∧
      ((d.route.slotId lane ≠ id ∧ episode.predicted = false ∧ episode.ended = false) ∨
       (∃ previous, (cfg.rollEnds gid d).route.episodeOf lane = some previous ∧ previous.episodeId = id ∧
        episode.predicted = previous.predicted ∧ episode.ended = previous.ended)) := by
  have hbase := rollBase_slots cfg gid d
  obtain ⟨episode, he, heid, hcase⟩ := (cfg.rollBase gid d).observeEpisodeIdsAt_episode now (cfg.spec.lanes_nodup gid)
    (cfg.rollSlots gid d).1 hl hid hne
  refine ⟨episode, he, heid, ?_⟩
  have hids : (cfg.rollEnds gid d).route.slotId lane = d.route.slotId lane := rollEnds_ids lane
  rw [← hids]
  unfold RouteState.slotId at hcase ⊢
  rwa [hbase] at hcase

theorem rollStarts_other (now : Int) {lane : Nat} (hlane : lane ∉ cfg.spec.lanes gid) :
    (cfg.rollStarts gid now d).2.episodeOf lane = (cfg.rollEnds gid d).route.episodeOf lane := by
  have hslot := (cfg.rollBase gid d).slots_observeEpisodeIdsAt_of_notMem now _ (cfg.rollIds gid d)
    (cfg.rollSlots gid d).1 hlane
  rw [rollBase_slots] at hslot
  exact congrArg SlotState.episode hslot

/-- A roll queues the ends of the lanes it leaves; afterwards no slot of the group is marked. -/
theorem Evictions.roll (hgid : gid < cfg.spec.groupCount) (h : Evictions cfg (Others cfg gid) d)
    (hgroup : GroupFit (cfg.spec.lanes gid) d.route.episodeOf d.evictions (d.groups gid))
    (hrunning : (d.groups gid).phase.running = true) (hids : IdsHeld cfg d.route d.mintedFor)
    (hstaged : ∀ g, g < cfg.spec.groupCount → ∀ id ∈ (d.groups g).staged, Drawn cfg.minter g d.mintedFor id)
    (hunseen : ∀ id ∈ (d.groups gid).staged, id ∉ d.route.episodeIdsAt (cfg.spec.lanes gid)) (now : Int) :
    Evictions cfg (Others cfg gid) (cfg.roll gid now d) ∧
      ∀ lane ∈ cfg.spec.lanes gid, ∃ episode, (cfg.roll gid now d).route.episodeOf lane = some episode ∧
        episode.ended = false := by
  obtain ⟨hnodup, hrolling⟩ := hgroup.rolls hrunning
  have hstagedIds : (d.groups gid).staged = (d.groups gid).pendingRoll.map Prod.snd := by
    unfold Group.staged
    cases hp : (d.groups gid).phase <;> first | rfl | (rw [hp] at hrunning; cases hrunning)
  -- The ends of the rolling lanes are queued.
  have hbefore : Evictions cfg (Others cfg gid) ((d.emit ((d.groups gid).pendingCompleted.map
      HookEvent.episodeCompleted)).updateGroup gid (fun group => { group with pendingCompleted := [], pendingRoll := [] })) :=
    h.congr (fun _ => rfl) rfl rfl rfl ⟨[], (List.append_nil _).symm⟩ (fun g hg => Function.update_of_ne hg.2 _ _)
  have hends : Evictions cfg (Others cfg gid) (cfg.rollEnds gid d) := by
    refine hbefore.queue hids hgid hrolling (fun g hg => hg) (fun g hg id hid => ?_)
    rw [show ((d.emit _).updateGroup gid _).groups g = d.groups g from Function.update_of_ne hg.2 _ _] at hid
    exact hstaged g hg.1 id hid
  have hroute : (cfg.rollEnds gid d).route =
      (d.route.endEpisodesAt cfg.spec ((d.groups gid).pendingRoll.map Prod.fst)).2 := queueEvictions_route _
  have hlen : (d.route.episodeIdsAt (cfg.spec.lanes gid)).length = (cfg.spec.lanes gid).length := List.length_map _
  -- The slots move on: a rolling lane to its staged id, the others to the id they hold.
  have hmoved : ∀ lane ∈ cfg.spec.lanes gid, ∃ episode, (cfg.rollStarts gid now d).2.episodeOf lane = some episode ∧
      episode.episodeId ≠ default ∧ episode.ended = false ∧
      ((episode.episodeId ∉ (cfg.rollEnds gid d).evictions ∧
          ∀ previous, (cfg.rollEnds gid d).route.episodeOf lane = some previous → previous.ended = true) ∨
       ∃ previous, (cfg.rollEnds gid d).route.episodeOf lane = some previous ∧
        previous.episodeId = episode.episodeId ∧ episode.predicted = previous.predicted ∧
        episode.ended = previous.ended) := by
    intro lane hlane
    have hwidth := cfg.spec.lane_lt hgid hlane
    obtain ⟨position, hl⟩ := List.getElem?_of_mem hlane
    obtain ⟨current, hcurrent, hopen⟩ := hgroup.running hrunning lane hlane
    have hmark : ∀ l, (cfg.rollEnds gid d).route.episodeOf l =
        if l ∈ (d.groups gid).pendingRoll.map Prod.fst ∧ l < cfg.spec.width then
          (d.route.episodeOf l).map (fun episode => { episode with ended := true }) else d.route.episodeOf l := by
      intro l
      rw [hroute]
      exact d.route.endEpisodesAt_episode cfg.spec _ l
    rcases roll_getElem? (cfg.spec.lanes_nodup gid) hnodup hlen hl with ⟨id, hmem, hid⟩ | ⟨hkept, hid⟩
    · -- It rolls to a staged id, which is in no slot.
      have hkey : lane ∈ (d.groups gid).pendingRoll.map Prod.fst := List.mem_map_of_mem hmem
      have hstage : id ∈ (d.groups gid).staged := by
        rw [hstagedIds]
        exact List.mem_map_of_mem hmem
      have hslot : d.route.slotId lane ≠ id := by
        rintro rfl
        exact hunseen _ hstage (List.mem_map_of_mem hlane)
      obtain ⟨episode, he, rfl, hcase⟩ :=
        rollStarts_episode now hl hid (hstaged gid hgid id hstage).ne_default
      have hnew : episode.ended = false := by
        rcases hcase with ⟨-, -, hended⟩ | ⟨previous, hp, hsame, -⟩
        · exact hended
        · rw [hmark, if_pos ⟨hkey, hwidth⟩, hcurrent, Option.map_some, Option.some.injEq] at hp
          subst hp
          exact absurd ((RouteState.slotId_of_some hcurrent).trans hsame) hslot
      refine ⟨episode, he, (hstaged gid hgid _ hstage).ne_default, hnew, .inl ⟨fun hmem => ?_, fun previous hp => ?_⟩⟩
      · rcases mem_queueEvictions.mp hmem with hmem | hmem
        · exact hgroup.staged _ hstage hmem
        · obtain ⟨l, hl, -, hslotId⟩ := mem_endEpisodesAt _ _ hmem
          exact hunseen _ hstage (RouteState.slotId_of_id hslotId ▸ List.mem_map_of_mem (hrolling l hl))
      · rw [hmark, if_pos ⟨hkey, hwidth⟩, hcurrent, Option.map_some, Option.some.injEq] at hp
        rw [← hp]
    · -- It goes on with the id it has.
      have hsame : (cfg.rollIds gid d)[position]? = some current.episodeId := by
        refine hid.trans ?_
        rw [RouteState.episodeIdsAt, List.getElem?_map, hl, Option.map_some, RouteState.slotId_of_some hcurrent]
      have hproper := h.ends.proper lane current hcurrent
      obtain ⟨episode, he, heid, ⟨hslot, -⟩ | ⟨previous, hp, hpid, hmarks⟩⟩ := rollStarts_episode now hl hsame hproper
      · exact absurd (RouteState.slotId_of_some hcurrent) hslot
      · have hprevious : previous = current := by
          rw [hmark, if_neg (fun hk => hkept hk.1), hcurrent] at hp
          exact (Option.some.inj hp).symm
        refine ⟨episode, he, heid ▸ hproper, ?_, .inr ⟨previous, hp, hpid.trans heid.symm, hmarks⟩⟩
        rw [hmarks.2, hprevious]
        exact hopen
  rw [roll_eq]
  refine ⟨⟨?_, hends.drawn, hends.ordered, fun g hg => ?_⟩, fun lane hlane => ?_⟩
  · refine hends.ends.sync (cfg.spec.lanes gid) (fun lane hlane => rollStarts_other now hlane) (fun lane hlane => ?_)
    obtain ⟨episode, he, hne, -, hcase⟩ := hmoved lane hlane
    exact ⟨episode, he, hne, hcase⟩
  · refine (hends.groups g hg).frame (fun _ _ hmem => hmem) (fun lane hlane => rollStarts_other now (fun hmem => ?_))
    exact hg.2 (cfg.spec.lanes_disjoint hg.1 hgid hlane hmem)
  · obtain ⟨episode, he, -, hopen, -⟩ := hmoved lane hlane
    exact ⟨episode, he, hopen⟩

theorem idsHeld_rolledOn (hk : Stations cfg (EvictionStation cfg) true d) (hgid : gid < cfg.spec.groupCount)
    (hphase : (d.groups gid).phase = .stepping) (response : StepResponse Id R) (completed : List (EpisodeMetadata Id R))
    (now : Int) : IdsHeld cfg (cfg.rolledOn gid response completed now d).route d.mintedFor := by
  obtain ⟨hw, events, hs⟩ := rolledOn_station cfg gid d true response completed now
  intro g hg
  by_cases hne : g = gid
  · subst hne
    have hids : (cfg.rolledOn g response completed now d).route.episodeIdsAt (cfg.spec.lanes g) = _ :=
      congrArg Station.ids hs
    obtain ⟨-, hdistinct, hmem⟩ := (hk g hg).2.1.next (hk g hg).1 rfl (.inr (.inr ⟨hphase, rfl⟩))
    rw [hids]
    refine ⟨hdistinct, fun id hid => ?_⟩
    rcases hmem id hid with hid | hd
    · exact (hk g hg).2.1.seen id (.inl hid)
    · exact .inr hd
  · have hsame : (cfg.rolledOn gid response completed now d).route.episodeIdsAt (cfg.spec.lanes g) =
        d.route.episodeIdsAt (cfg.spec.lanes g) := by
      refine RouteState.episodeIdsAt_congr (fun lane hl => hw.ids lane (fun hmem => hne ?_))
      exact cfg.spec.lanes_disjoint hg hgid hl hmem
    rw [hsame]
    exact ⟨(hk g hg).2.1.distinct, fun id hid => (hk g hg).2.1.seen id (.inl hid)⟩

theorem Evictions.rolledOn (h : Evictions cfg (· < cfg.spec.groupCount) d)
    (hk : Stations cfg (EvictionStation cfg) true d) (hgid : gid < cfg.spec.groupCount)
    (hphase : (d.groups gid).phase = .stepping) (response : StepResponse Id R) (completed : List (EpisodeMetadata Id R))
    (now : Int) :
    Evictions cfg (Others cfg gid) (cfg.rolledOn gid response completed now d) ∧
      ∀ lane ∈ cfg.spec.lanes gid, ∃ episode,
        (cfg.rolledOn gid response completed now d).route.episodeOf lane = some episode ∧ episode.ended = false := by
  have hgroup := h.groups gid hgid
  have hrunning : (d.groups gid).phase.running = true := by rw [hphase]; rfl
  have hstagedIds : (d.groups gid).staged = (d.groups gid).pendingRoll.map Prod.snd := by
    unfold Group.staged
    rw [hphase]
  have hep : ∀ lane, (cfg.account gid response completed d).route.episodeOf lane = d.route.episodeOf lane :=
    fun lane => d.route.recordStepAt_episode _ _ lane
  have haccount : Evictions cfg (Others cfg gid) (cfg.account gid response completed d) :=
    (h.weaken (fun g hg => hg.1)).congr hep rfl rfl rfl ⟨[], (List.append_nil _).symm⟩
      (fun g hg => Function.update_of_ne hg.2 _ _)
  have hself : (cfg.account gid response completed d).groups gid = (d.groups gid).stepped :=
    updateGroup_self Group.stepped
  unfold DriverConfig.rolledOn
  split
  · refine haccount.roll hgid ?_ (by rw [hself]; rfl) ?_ ?_ ?_ now
    · rw [hself, funext hep]
      exact ⟨fun id hid => hgroup.staged id (hstagedIds ▸ hid), fun _ => hgroup.running hrunning,
        fun _ => hgroup.rolls hrunning, nofun⟩
    · exact (idsHeld_of_stations (fun g hg => (hk g hg).2.1)).congr (fun lane => slotId_of_episodeOf (hep lane))
    · intro g hg id hid
      refine ((hk g hg).2.1.staged rfl).drawn id ?_
      by_cases hne : g = gid
      · subst hne
        rw [hself] at hid
        exact hstagedIds ▸ hid
      · rw [show (cfg.account gid response completed d).groups g = d.groups g from Function.update_of_ne hne _ _] at hid
        exact hid
    · intro id hid hmem
      rw [hself] at hid
      refine ((hk gid hgid).2.1.staged rfl).unseen id (hstagedIds ▸ hid) (.inl ?_)
      rw [RouteState.episodeIdsAt_congr (fun lane _ => slotId_of_episodeOf (hep lane))] at hmem
      exact hmem
  · refine ⟨haccount, fun lane hl => ?_⟩
    rw [hep]
    exact hgroup.running hrunning lane hl

theorem IdsHeld.mono {mintedFor : List Nat} (h : IdsHeld cfg route mintedFor) (more : List Nat) :
    IdsHeld cfg route (mintedFor ++ more) := by
  intro g hg
  exact ⟨(h g hg).1, fun id hid => ((h g hg).2 id hid).imp_right (fun hd => hd.mono more)⟩

/-- Completing episodes under driver-owned resets queues their ends, and marks their slots. -/
theorem Evictions.complete (h : Evictions cfg (Others cfg gid) d) (hgid : gid < cfg.spec.groupCount)
    (hids : IdsHeld cfg d.route d.mintedFor)
    (hstaged : ∀ g, Others cfg gid g → ∀ id ∈ (d.groups g).staged, Drawn cfg.minter g d.mintedFor id)
    (hopen : ∀ lane ∈ cfg.spec.lanes gid, ∃ episode, d.route.episodeOf lane = some episode ∧ episode.ended = false)
    {completed : List (EpisodeMetadata Id R)} (hlanes : ∀ metadata ∈ completed, metadata.envIndex ∈ cfg.spec.lanes gid) :
    Evictions cfg (Others cfg gid) (cfg.complete gid completed d) ∧
      ∀ lane ∈ cfg.spec.lanes gid, ∃ episode, (cfg.complete gid completed d).route.episodeOf lane = some episode ∧
        (episode.ended = true ↔ cfg.spec.driverOwnsResets = true ∧ lane ∈ completed.map (·.envIndex)) := by
  obtain ⟨counted, hcounted⟩ : ∃ counted, counted = (cfg.completeEpisodes gid completed d.route).2 := ⟨_, rfl⟩
  have hep : ∀ lane, counted.episodeOf lane = d.route.episodeOf lane := by
    intro lane
    rw [hcounted, RouteState.episodeOf, completeEpisodes_slots]
    rfl
  have hbase : Evictions cfg (Others cfg gid) { d with route := counted } :=
    h.congr hep rfl rfl rfl ⟨[], (List.append_nil _).symm⟩ (fun _ _ => rfl)
  unfold DriverConfig.complete
  dsimp only
  rw [← hcounted]
  split
  · rename_i howned
    have hlanes' : ∀ lane ∈ completed.map (·.envIndex), lane ∈ cfg.spec.lanes gid := by
      intro lane hl
      obtain ⟨metadata, hmem, rfl⟩ := List.mem_map.mp hl
      exact hlanes metadata hmem
    have hemitted : Evictions cfg (Others cfg gid) (({ d with route := counted } : Driver Id R).emit
        ((cfg.completeEpisodes gid completed d.route).1.map HookEvent.episodeCompleted)) :=
      hbase.congr (fun _ => rfl) rfl rfl rfl ⟨[], (List.append_nil _).symm⟩ (fun _ _ => rfl)
    refine ⟨hemitted.queue (hids.congr (fun lane => slotId_of_episodeOf (hep lane))) hgid hlanes' (fun g hg => hg)
      hstaged, fun lane hl => ?_⟩
    obtain ⟨episode, he, hended⟩ := hopen lane hl
    rw [queueEvictions_route]
    unfold RouteState.episodeOf
    rw [RouteState.endEpisodesAt_episode]
    dsimp only [Driver.emit]
    rw [show (counted.slots lane).episode = some episode from (hep lane).trans he]
    by_cases hmem : lane ∈ completed.map (·.envIndex)
    · rw [if_pos ⟨hmem, cfg.spec.lane_lt hgid hl⟩]
      exact ⟨_, rfl, by simp [howned, hmem]⟩
    · rw [if_neg (fun hk => hmem hk.1)]
      exact ⟨episode, rfl, by simp [hended, hmem]⟩
  · rename_i howned
    refine ⟨hbase.congr (fun _ => rfl) rfl rfl rfl ⟨[], (List.append_nil _).symm⟩
      (fun g hg => Function.update_of_ne hg.2 _ _), fun lane hl => ?_⟩
    obtain ⟨episode, he, hended⟩ := hopen lane hl
    exact ⟨episode, (hep lane).trans he, by simp [hended, howned]⟩

/-- Once a step is settled, the slots of its group are marked where the driver completed them. -/
theorem Evictions.settled (h : Evictions cfg (· < cfg.spec.groupCount) d)
    (hk : Stations cfg (EvictionStation cfg) true d) (hgid : gid < cfg.spec.groupCount)
    (hphase : (d.groups gid).phase = .stepping) (response : StepResponse Id R) {completed : List (EpisodeMetadata Id R)}
    (hlanes : ∀ metadata ∈ completed, metadata.envIndex ∈ cfg.spec.lanes gid) (now : Int) :
    Evictions cfg (Others cfg gid) (cfg.settle gid response completed now d) ∧
      (∀ id ∈ (cfg.settle gid response completed now d).evictions, ∃ g, Drawn cfg.minter g d.mintedFor id) ∧
      IdsHeld cfg (cfg.settle gid response completed now d).route (cfg.settle gid response completed now d).mintedFor ∧
      ∀ lane ∈ cfg.spec.lanes gid, ∃ episode,
        (cfg.settle gid response completed now d).route.episodeOf lane = some episode ∧
        (episode.ended = true ↔ cfg.spec.driverOwnsResets = true ∧ lane ∈ completed.map (·.envIndex)) := by
  obtain ⟨hw, events, hs⟩ := rolledOn_station cfg gid d true response completed now
  obtain ⟨hrolled, hopen⟩ := h.rolledOn hk hgid hphase response completed now
  have hids := idsHeld_rolledOn hk hgid hphase response completed now
  have hminted : (cfg.rolledOn gid response completed now d).mintedFor = d.mintedFor := congrArg Station.mintedFor hs
  have hstaged : ∀ g, Others cfg gid g → ∀ id ∈ ((cfg.rolledOn gid response completed now d).groups g).staged,
      Drawn cfg.minter g (cfg.rolledOn gid response completed now d).mintedFor id := by
    intro g hg id hid
    rw [hw.groups g hg.2] at hid
    rw [hminted]
    exact ((hk g hg.1).2.1.staged rfl).drawn id hid
  obtain ⟨hcomplete, hmarks⟩ := hrolled.complete hgid (by rw [hminted]; exact hids) hstaged hopen hlanes
  obtain ⟨hwc, events', hsc⟩ := complete_station cfg gid (cfg.rolledOn gid response completed now d) true completed
  have hnoRoll : ((cfg.complete gid completed (cfg.rolledOn gid response completed now d)).groups gid).pendingRoll = [] := by
    have hg : (cfg.complete gid completed (cfg.rolledOn gid response completed now d)).groups gid = _ :=
      congrArg Station.group hsc
    have hg' : (cfg.rolledOn gid response completed now d).groups gid = _ := congrArg Station.group hs
    rw [hg, hg']
  obtain ⟨rolls, -, -, he⟩ := flushCompleted_eq cfg completed hnoRoll
  -- Flushing the group and staging its rolls leaves the slots and the ends alone.
  obtain ⟨done, hdone⟩ : ∃ done, done = cfg.complete gid completed (cfg.rolledOn gid response completed now d) := ⟨_, rfl⟩
  obtain ⟨flushed, hflushed⟩ : ∃ flushed, flushed = if completed.isEmpty then done else done.updateGroup gid Group.flush :=
    ⟨_, rfl⟩
  have hsame : flushed = { done with groups := flushed.groups } ∧ ∀ g, g ≠ gid → flushed.groups g = done.groups g := by
    rw [hflushed]
    split
    · exact ⟨rfl, fun _ _ => rfl⟩
    · exact ⟨rfl, fun g hg => Function.update_of_ne hg _ _⟩
  have hsettled : cfg.settle gid response completed now d = flushed.withRolls gid rolls := by
    rw [settle_eq, he, hflushed, hdone]
  have hroute : (flushed.withRolls gid rolls).route = done.route := by
    rw [hsame.1]
    rfl
  have hevictions : (flushed.withRolls gid rolls).evictions = done.evictions := by
    rw [hsame.1]
    rfl
  have hmintedDone : done.mintedFor = d.mintedFor := by
    rw [hdone]
    exact (congrArg Station.mintedFor hsc).trans hminted
  have hmintedAll : (flushed.withRolls gid rolls).mintedFor = d.mintedFor ++ List.replicate rolls.length gid := by
    rw [← hmintedDone, hsame.1]
    rfl
  rw [hsettled]
  rw [← hdone] at hcomplete hmarks
  refine ⟨hcomplete.congr (fun lane => by rw [hroute]) ?_ ?_ ?_ ⟨List.replicate rolls.length gid, ?_⟩ (fun g hg => ?_),
    fun id hid => ?_, ?_, ?_⟩
  · rw [hsame.1]
    rfl
  · rw [hsame.1]
    rfl
  · rw [hsame.1]
    rfl
  · rw [hmintedAll, hmintedDone]
  · rw [← hsame.2 g hg.2]
    exact Function.update_of_ne hg.2 _ _
  · rw [hevictions] at hid
    rw [← hmintedDone]
    exact hcomplete.drawn id hid
  · rw [hroute, hmintedAll]
    refine (hids.congr (fun lane => ?_)).mono _
    rw [hdone]
    by_cases hl : lane ∈ cfg.spec.lanes gid
    · exact List.map_inj_left.mp (congrArg Station.ids hsc) lane hl
    · exact hwc.ids lane hl
  · rw [hroute]
    exact hmarks

end Rlmesh.Runtime
