import Rlmesh.Runtime.Ends
/-!
# Evictions

The model is told the end of each episode it predicted on, once, and is not
asked about an episode after that: a request names only slots that are not
marked, what ends is marked, and the teardown ends what is left.
-/
open Rlmesh.Wire Rlmesh.Lib

set_option linter.unusedSectionVars false

namespace Rlmesh.Runtime

variable {Id R : Type} [DecidableEq Id] [Inhabited Id] [Zero R] [Add R] [BEq R]

variable {cfg : DriverConfig Id R} {spec : RuntimeSessionSpec R} {gid g width : Nat} {d d' : Driver Id R}
  {route : RouteState Id R} {E N : List Id} {on on' : Nat → Prop}

/-! ## The transitions -/

theorem Evictions.release (h : Evictions cfg on d) (gid : Nat) : Evictions cfg on (d.release gid) := by
  have hperm : (d.release gid).evictions.Perm d.evictions := by
    have hsplit := List.filter_append_perm (fun held : Nat × Id => decide (held.1 = gid)) d.heldEvictions
    simp only [Driver.evictions, Driver.release, List.append_assoc]
    refine List.Perm.append_left _ (List.Perm.append_left _ ?_)
    rw [← List.map_append]
    refine List.Perm.map _ ?_
    simpa using hsplit
  refine ⟨h.ends.perm hperm, fun id hid => h.drawn id (hperm.mem_iff.mp hid), h.ordered, fun g hg => ?_⟩
  exact (h.groups g hg).frame (fun id _ hmem => hperm.mem_iff.mp hmem) (fun _ _ => rfl)

theorem Evictions.flush (h : Evictions cfg on d) : Evictions cfg on (cfg.flushEvictions d) := by
  unfold DriverConfig.flushEvictions
  split
  · exact h
  · have hevictions : Driver.evictions { d with
        route := (d.route.resetAdapterRequest cfg.spec d.pendingEvictions).2, pendingEvictions := []
        wire := d.wire ++ [.resetAdapter (d.route.resetAdapterRequest cfg.spec d.pendingEvictions).1] } = d.evictions := by
      simp [Driver.evictions, Driver.evicted, ModelMessage.evicts, RouteState.resetAdapterRequest]
    have hnamed : Driver.named { d with
        route := (d.route.resetAdapterRequest cfg.spec d.pendingEvictions).2, pendingEvictions := []
        wire := d.wire ++ [.resetAdapter (d.route.resetAdapterRequest cfg.spec d.pendingEvictions).1] } = d.named := by
      simp [Driver.named, ModelMessage.names]
    refine ⟨?_, fun id hid => ?_, ?_, fun g hg => ?_⟩
    · rw [hevictions, hnamed]
      exact h.ends
    · rw [hevictions] at hid
      exact h.drawn id hid
    · refine List.pairwise_append.mpr ⟨h.ordered, List.pairwise_singleton _ _, fun earlier _ later hlater => ?_⟩
      rw [List.mem_singleton] at hlater
      rw [hlater]
      exact fun _ _ => List.not_mem_nil
    · rw [hevictions]
      exact h.groups g hg

theorem Evictions.beginReset (h : Evictions cfg on d) (gid : Nat)
    (hdone : ∀ lane ∈ cfg.spec.lanes gid, ∀ episode, d.route.episodeOf lane = some episode → episode.ended = true)
    (initial : Bool) : Evictions cfg (fun g => g = gid ∨ (on g ∧ g ≠ gid)) (cfg.beginReset gid initial d) ∧
      ∀ lane, (cfg.beginReset gid initial d).route.episodeOf lane = d.route.episodeOf lane := by
  obtain ⟨nextSlot, hclaim⟩ := claimForReset_snd cfg gid d.route
  have hother : ∀ (f : Group Id R → Group Id R) (base : Driver Id R), base.groups = d.groups →
      ∀ g, on g ∧ g ≠ gid → (base.updateGroup gid f).groups g = d.groups g := by
    intro f base hbase g hg
    rw [← hbase]
    exact Function.update_of_ne hg.2 _ _
  -- The groups but the one that resets stay in order; it has to be put in order anew.
  have hrejoin : ∀ {after : Driver Id R}, Evictions cfg (fun g => on g ∧ g ≠ gid) after →
      GroupFit (cfg.spec.lanes gid) after.route.episodeOf after.evictions (after.groups gid) →
      Evictions cfg (fun g => g = gid ∨ (on g ∧ g ≠ gid)) after := by
    intro after hafter hgroup
    refine ⟨hafter.ends, hafter.drawn, hafter.ordered, ?_⟩
    rintro g (rfl | hg)
    · exact hgroup
    · exact hafter.groups g hg
  have hweak : Evictions cfg (fun g => on g ∧ g ≠ gid) d := h.weaken (fun g hg => hg.1)
  rw [beginReset_eq]
  split
  · have hep : ∀ lane, (cfg.claimForReset gid d.route).2.episodeOf lane = d.route.episodeOf lane := by
      intro lane
      rw [hclaim]
      rfl
    refine ⟨hrejoin (hweak.congr hep rfl rfl rfl ⟨[], (List.append_nil _).symm⟩ (hother _ _ rfl)) ?_, hep⟩
    rw [updateGroup_self]
    exact ⟨fun _ h => (by cases h), fun h => (by cases h), fun h => (by cases h), fun h => (by cases h)⟩
  · have hep : ∀ lane, (cfg.resetNotes gid initial d).2.episodeOf lane = d.route.episodeOf lane := by
      intro lane
      unfold RouteState.episodeOf DriverConfig.resetNotes
      rw [noteEpisodes_slots, hclaim]
    refine ⟨hrejoin (hweak.congr hep rfl rfl rfl ⟨_, rfl⟩ (hother _ _ rfl)) ?_, hep⟩
    have hmints : Mints cfg.minter gid d.mintedFor (cfg.resetIds gid d)
        (List.replicate (cfg.spec.lanes gid).length gid) := by
      refine ⟨?_, ?_⟩ <;> simp [DriverConfig.resetIds]
    rw [updateGroup_self]
    refine ⟨fun id hid hmem => ?_, fun h => (by cases h), fun h => (by cases h), fun _ lane hl episode he => ?_⟩
    · obtain ⟨g, hd⟩ := h.drawn id hmem
      exact (hmints.fresh hid).2 g hd
    · exact hdone lane hl episode ((hep lane).symm.trans he)

theorem Evictions.launch (cfg : DriverConfig Id R) (now : Int) :
    Evictions cfg (· < cfg.spec.groupCount) (cfg.launch now) := by
  suffices hall : ∀ (gids : List Nat) (on : Nat → Prop) (d : Driver Id R), Evictions cfg on d →
      (∀ lane, d.route.episodeOf lane = none) →
      Evictions cfg (fun g => on g ∨ g ∈ gids) (gids.foldl (fun d gid => cfg.beginReset gid true d) d) by
    have hblank : Evictions cfg (fun _ => False) ((Driver.new now : Driver Id R).emit [.sessionStarted]) :=
      ⟨⟨List.nodup_nil, nofun, nofun, nofun⟩, nofun, List.Pairwise.nil, nofun⟩
    exact (hall cfg.groupIds _ _ hblank (fun _ => rfl)).weaken (fun g hg => .inr (List.mem_range.mpr hg))
  intro gids
  induction gids with
  | nil => exact fun on d h _ => h.weaken (fun g hg => hg.resolve_right List.not_mem_nil)
  | cons gid rest ih =>
    intro on d h hnone
    obtain ⟨hreset, hep⟩ := h.beginReset gid (fun lane _ episode he => nomatch (hnone lane).symm.trans he) true
    refine (ih _ _ hreset (fun lane => (hep lane).trans (hnone lane))).weaken (fun g hg => ?_)
    by_cases hne : g = gid
    · exact .inl (.inl hne)
    · rcases hg with hg | hg
      · exact .inl (.inr ⟨hg, hne⟩)
      · exact .inr ((List.mem_cons.mp hg).resolve_left hne)

theorem running_of_wanted {alive : Bool} (hl : Live cfg gid (cfg.station gid alive d)) (halive : alive = true)
    {msg : PredictRequest Id} (hw : (d.groups gid).predict = .wanted msg) : (d.groups gid).phase.running = true := by
  have hsound := hl halive
  cases hphase : (d.groups gid).phase with
  | ready | stepping => rfl
  | idle => exact nomatch hw.symm.trans (hsound.retired hphase)
  | resetting =>
    obtain ⟨-, -, -, hnone | hstale⟩ := hsound.cleared hphase
    · exact nomatch hw.symm.trans hnone
    · exact nomatch hw.symm.trans hstale

theorem Evictions.send (h : Evictions cfg on d) (hgid : gid < cfg.spec.groupCount)
    (hgroup : GroupFit (cfg.spec.lanes gid) d.route.episodeOf d.evictions (d.groups gid))
    (hrunning : (d.groups gid).phase.running = true) {msg : PredictRequest Id}
    (hnames : ∀ id ∈ requestNames msg, id ∈ d.route.episodeIdsAt (cfg.spec.lanes gid)) :
    Evictions cfg on (cfg.sendRequest gid msg d) := by
  have hep : ∀ lane, (cfg.sendRequest gid msg d).route.episodeOf lane =
      if lane ∈ cfg.spec.lanes gid then (d.route.episodeOf lane).map (fun episode => { episode with predicted := true })
      else d.route.episodeOf lane :=
    d.route.updateEpisodes_episode (cfg.spec.lanes gid) (fun _ => rfl)
  have hmarked : ∀ lane episode, (cfg.sendRequest gid msg d).route.episodeOf lane = some episode →
      ∃ previous, d.route.episodeOf lane = some previous ∧ previous.episodeId = episode.episodeId ∧
        previous.ended = episode.ended := by
    intro lane episode he
    rw [hep] at he
    split at he
    · obtain ⟨previous, hp, rfl⟩ := Option.map_eq_some_iff.mp he
      exact ⟨previous, hp, rfl, rfl⟩
    · exact ⟨episode, he, rfl, rfl⟩
  have hkept : ∀ lane episode, d.route.episodeOf lane = some episode → ∃ after,
      (cfg.sendRequest gid msg d).route.episodeOf lane = some after ∧ after.episodeId = episode.episodeId ∧
        after.ended = episode.ended ∧ (episode.predicted = true ∨ lane ∈ cfg.spec.lanes gid → after.predicted = true) := by
    intro lane episode he
    rw [hep, he]
    split
    · exact ⟨_, rfl, rfl, rfl, fun _ => rfl⟩
    · rename_i hlane
      exact ⟨episode, rfl, rfl, rfl, fun hp => hp.resolve_right hlane⟩
  have hevictions : (cfg.sendRequest gid msg d).evictions = d.evictions := by
    simp [Driver.evictions, Driver.evicted, DriverConfig.sendRequest, ModelMessage.evicts]
  have hnamed : (cfg.sendRequest gid msg d).named = d.named ++ requestNames msg := by
    simp [Driver.named, DriverConfig.sendRequest, ModelMessage.names]
  -- The episodes it names are in slots that are not marked.
  have hopen : ∀ id ∈ requestNames msg, ∃ lane ∈ cfg.spec.lanes gid, ∃ episode,
      d.route.episodeOf lane = some episode ∧ episode.episodeId = id ∧ episode.ended = false := by
    intro id hid
    obtain ⟨lane, hl, rfl⟩ := List.mem_map.mp (hnames id hid)
    obtain ⟨episode, he, hu⟩ := hgroup.running hrunning lane hl
    refine ⟨lane, hl, episode, he, ?_, hu⟩
    rw [RouteState.slotId, show (d.route.slots lane).episode = some episode from he]
    rfl
  refine ⟨⟨?_, fun lane episode he => ?_, fun lane episode hl he hu => ?_, fun id hid => ?_⟩, fun id hid => ?_, ?_,
    fun g hg => ?_⟩
  · rw [hevictions]
    exact h.ends.nodup
  · obtain ⟨previous, hp, hid, -⟩ := hmarked lane episode he
    rw [← hid]
    exact h.ends.proper lane previous hp
  · obtain ⟨previous, hp, hid, hended⟩ := hmarked lane episode he
    rw [hevictions, ← hid]
    exact h.ends.unended lane previous hl hp (hended.trans hu)
  · rw [hnamed] at hid
    rw [hevictions]
    rcases List.mem_append.mp hid with hid | hid
    · rcases h.ends.named id hid with hid | ⟨lane, episode, hl, he, rfl, hlive⟩
      · exact .inl hid
      · obtain ⟨after, ha, haid, hended, hpredicted⟩ := hkept lane episode he
        rw [RouteState.isLive, Bool.and_eq_true] at hlive
        exact .inr ⟨lane, after, hl, ha, haid,
          by rw [RouteState.isLive, Bool.and_eq_true, hended]; exact ⟨hpredicted (.inl hlive.1), hlive.2⟩⟩
    · obtain ⟨lane, hl, episode, he, rfl, hu⟩ := hopen id hid
      obtain ⟨after, ha, haid, hended, hpredicted⟩ := hkept lane episode he
      exact .inr ⟨lane, after, cfg.spec.lane_lt hgid hl, ha, haid,
        by rw [RouteState.isLive, hended, hu, hpredicted (.inr hl)]; rfl⟩
  · rw [hevictions] at hid
    exact h.drawn id hid
  · refine List.pairwise_append.mpr ⟨h.ordered, List.pairwise_singleton _ _, fun earlier he later hlater id hid hmem => ?_⟩
    rw [List.mem_singleton] at hlater
    subst hlater
    obtain ⟨lane, hl, episode, hepisode, rfl, hu⟩ := hopen id hmem
    refine h.ends.unended lane episode (cfg.spec.lane_lt hgid hl) hepisode hu ?_
    exact List.mem_append_left _ (List.mem_append_left _ (List.mem_flatMap_of_mem he hid))
  · have halike : Alike (d.groups g) ((cfg.sendRequest gid msg d).groups g) := by
      by_cases hne : g = gid
      · subst hne
        rw [show (cfg.sendRequest g msg d).groups g = _ from Function.update_self _ _ _]
        exact ⟨.inl rfl, rfl, rfl⟩
      · rw [show (cfg.sendRequest gid msg d).groups g = _ from Function.update_of_ne hne _ _]
        exact .refl _
    have hfit := h.groups g hg
    rw [hevictions]
    refine GroupFit.alike ⟨hfit.staged, fun hr lane hl => ?_, hfit.rolls, fun hr lane hl episode he => ?_⟩ halike
    · obtain ⟨episode, he, hu⟩ := hfit.running hr lane hl
      obtain ⟨after, ha, -, hended, -⟩ := hkept lane episode he
      exact ⟨after, ha, hended.trans hu⟩
    · obtain ⟨previous, hp, -, hended⟩ := hmarked lane episode he
      exact hended.symm.trans (hfit.resetting hr lane hl previous hp)

/-- A reset came back: the slots it restarts are taken by the staged ids. -/
theorem Evictions.start (h : Evictions cfg (· < cfg.spec.groupCount) d) (hk : Stations cfg (EvictionStation cfg) true d)
    (hgid : gid < cfg.spec.groupCount) {initial : Bool} {request : ResetRequest Id R} {ids : List Id} {slots : List Nat}
    (hop : (d.groups gid).op = some (.reset initial request)) (hstart : (d.groups gid).pendingStart = some (ids, slots))
    (now : Int) : Evictions cfg (· < cfg.spec.groupCount) (cfg.startReset gid initial now ids slots d) := by
  obtain ⟨hlive, hfit, -⟩ := hk gid hgid
  have hphase : (d.groups gid).phase = .resetting := (hlive rfl).op.resetting hop
  obtain ⟨hlen, -, -⟩ := hfit.next hlive rfl (.inr (.inl ⟨slots, hphase, hstart⟩))
  have hstaged := hfit.starts rfl hphase ids slots hstart
  have hgroup := h.groups gid hgid
  have hfresh : ∀ id ∈ ids, id ∉ d.evictions := by
    intro id hid
    refine hgroup.staged id ?_
    rw [Group.staged, hphase, hstart]
    exact hid
  have hother : ∀ lane, lane ∉ cfg.spec.lanes gid →
      (cfg.startReset gid initial now ids slots d).route.episodeOf lane = d.route.episodeOf lane := fun lane hlane =>
    congrArg SlotState.episode (d.route.slots_startEpisodesAt_of_notMem now _ ids (!initial) slots hlane)
  have hnew : ∀ lane ∈ cfg.spec.lanes gid, ∃ episode,
      (cfg.startReset gid initial now ids slots d).route.episodeOf lane = some episode ∧
        episode.episodeId ∈ ids ∧ episode.ended = false := by
    intro lane hlane
    obtain ⟨position, hl⟩ := List.getElem?_of_mem hlane
    have hlt : position < ids.length := by
      have := (List.getElem?_eq_some_iff.mp hl).1
      omega
    have hmem : ids[position] ∈ ids := List.getElem_mem hlt
    obtain ⟨episode, he, hid, ⟨-, -, hended⟩ | ⟨previous, hp, hsame, -⟩⟩ := d.route.startEpisodesAt_episode now
      (cfg.spec.lanes_nodup gid) (!initial) slots hl (List.getElem?_eq_getElem hlt) (hstaged.drawn _ hmem).ne_default
    · exact ⟨episode, he, hid ▸ hmem, hended⟩
    · -- The id is in no slot yet.
      refine absurd (.inl ?_) (hstaged.unseen _ hmem)
      have hslot : d.route.slotId lane = ids[position] := by
        rw [RouteState.slotId, hp, ← hsame]
        rfl
      rw [← hslot]
      exact List.mem_map_of_mem hlane
  refine ⟨?_, h.drawn, h.ordered, fun g hg => ?_⟩
  · refine h.ends.sync (cfg.spec.lanes gid) hother (fun lane hlane => ?_)
    obtain ⟨episode, he, hmem, -⟩ := hnew lane hlane
    exact ⟨episode, he, (hstaged.drawn _ hmem).ne_default, .inl ⟨hfresh _ hmem, hgroup.resetting hphase lane hlane⟩⟩
  · by_cases hne : g = gid
    · subst hne
      rw [DriverConfig.startReset, Driver.emit, updateGroup_self]
      have hrolls := ((hlive rfl).cleared hphase).2.2.1
      have hrolls : (d.groups g).pendingRoll = [] := hrolls
      refine ⟨fun id hid => ?_, fun _ lane hlane => ?_, fun _ => ?_, fun h => (by cases h)⟩
      · rw [Group.staged, hrolls] at hid
        cases hid
      · obtain ⟨episode, he, -, hopen⟩ := hnew lane hlane
        exact ⟨episode, he, hopen⟩
      · rw [hrolls]
        exact ⟨List.nodup_nil, fun _ h => (by cases h)⟩
    · rw [show (cfg.startReset gid initial now ids slots d).groups g = d.groups g from Function.update_of_ne hne _ _]
      refine (h.groups g hg).frame (fun _ _ hmem => hmem) (fun lane hlane => hother lane (fun hmem => hne ?_))
      exact cfg.spec.lanes_disjoint hg hgid hlane hmem

variable {response : StepResponse Id R} {completed : List (EpisodeMetadata Id R)}

theorem Evictions.rejoin (h : Evictions cfg (Others cfg gid) d)
    (hgroup : GroupFit (cfg.spec.lanes gid) d.route.episodeOf d.evictions (d.groups gid)) :
    Evictions cfg (· < cfg.spec.groupCount) d := by
  refine ⟨h.ends, h.drawn, h.ordered, fun g hg => ?_⟩
  by_cases hne : g = gid
  · subst hne
    exact hgroup
  · exact h.groups g ⟨hg, hne⟩

/-- What a step that came back leaves to roll: lanes of the group, each once, to ids not drawn before. -/
theorem settle_rolls (response : StepResponse Id R) (hcompletes : Completes cfg gid completed d) (now : Int) :
    (((cfg.settle gid response completed now d).groups gid).pendingRoll.map Prod.fst).Nodup ∧
      (∀ lane ∈ ((cfg.settle gid response completed now d).groups gid).pendingRoll.map Prod.fst,
        lane ∈ cfg.spec.lanes gid) ∧
      (∀ id ∈ ((cfg.settle gid response completed now d).groups gid).pendingRoll.map Prod.snd,
        ∀ g, ¬ Drawn cfg.minter g d.mintedFor id) ∧
      ((cfg.settle gid response completed now d).groups gid).phase = .ready := by
  obtain ⟨-, rolls, events, hrolls, hkeys, hs⟩ := settle_station cfg gid d true response completed now
  have hg : (cfg.settle gid response completed now d).groups gid = _ := congrArg Station.group hs
  have hpending : ((cfg.settle gid response completed now d).groups gid).pendingRoll = rolls := by
    rw [hg]
    unfold Station.settle
    dsimp only
    split <;> rfl
  rw [hpending]
  refine ⟨hrolls.nodup, fun lane hl => ?_, fun id hid => (hrolls.mints.fresh hid).2, ?_⟩
  · obtain ⟨metadata, hmem, rfl⟩ := List.mem_map.mp ((hkeys lane).mp hl).2
    exact hcompletes.lane metadata hmem
  · rw [hg]
    unfold Station.settle
    dsimp only
    split <;> rfl

theorem Evictions.goOn (h : Evictions cfg (· < cfg.spec.groupCount) d) (hk : Stations cfg (EvictionStation cfg) true d)
    (hgid : gid < cfg.spec.groupCount) (hphase : (d.groups gid).phase = .stepping) (hcompletes : Completes cfg gid completed d)
    (hgoes : cfg.spec.driverOwnsResets = true → completed = []) (now : Int) :
    Evictions cfg (· < cfg.spec.groupCount) (cfg.settle gid response completed now d) := by
  obtain ⟨hsettled, hdrawn, -, hmarks⟩ := h.settled hk hgid hphase response hcompletes.lane now
  obtain ⟨hnodup, hlanes, hnew, hready⟩ := settle_rolls response hcompletes now
  refine hsettled.rejoin ⟨fun id hid hmem => ?_, fun _ lane hl => ?_, fun _ => ⟨hnodup, hlanes⟩, fun hr => ?_⟩
  · rw [Group.staged, hready] at hid
    obtain ⟨g, hd⟩ := hdrawn id hmem
    exact hnew id hid g hd
  · obtain ⟨episode, he, hended⟩ := hmarks lane hl
    refine ⟨episode, he, Bool.eq_false_iff.mpr (fun hmark => ?_)⟩
    obtain ⟨howned, hmem⟩ := hended.mp hmark
    rw [hgoes howned] at hmem
    cases hmem
  · exact nomatch hready.symm.trans hr

/-- The group stops: the lanes that were to roll end, and it is idle. -/
theorem Evictions.stop (h : Evictions cfg (· < cfg.spec.groupCount) d) (hk : Stations cfg (EvictionStation cfg) true d)
    (hgid : gid < cfg.spec.groupCount) (hphase : (d.groups gid).phase = .stepping) (hcompletes : Completes cfg gid completed d)
    (now : Int) :
    Evictions cfg (· < cfg.spec.groupCount) (cfg.stop gid (cfg.settle gid response completed now d)) := by
  obtain ⟨hsettled, -, hids, -⟩ := h.settled hk hgid hphase response hcompletes.lane now
  obtain ⟨-, hlanes, -, -⟩ := settle_rolls response hcompletes now
  obtain ⟨hw, -⟩ := settle_station cfg gid d true response completed now
  obtain ⟨after, hafter⟩ : ∃ after, after = cfg.settle gid response completed now d := ⟨_, rfl⟩
  rw [← hafter] at hsettled hids hlanes hw ⊢
  have hcleared : Evictions cfg (Others cfg gid) ((after.emit ((after.groups gid).pendingCompleted.map
      HookEvent.episodeCompleted)).updateGroup gid (fun group => { group with pendingCompleted := [], pendingRoll := [] })) :=
    hsettled.congr (fun _ => rfl) rfl rfl rfl ⟨[], (List.append_nil _).symm⟩ (fun g hg => Function.update_of_ne hg.2 _ _)
  have hqueued := hcleared.queue hids hgid hlanes (fun g hg => hg) (fun g hg id hid => ?_)
  · refine Evictions.rejoin (hqueued.congr (fun _ => rfl) rfl rfl rfl ⟨[], (List.append_nil _).symm⟩
      (fun g hg => Function.update_of_ne hg.2 _ _)) ?_
    rw [show (cfg.stop gid after).groups gid = _ from Function.update_self _ _ _]
    exact ⟨nofun, nofun, nofun, nofun⟩
  · obtain ⟨more, hm⟩ := hw.minted
    rw [show ((after.emit _).updateGroup gid _).groups g = after.groups g from Function.update_of_ne hg.2 _ _,
      hw.groups g hg.2] at hid
    rw [show ((after.emit _).updateGroup gid _).mintedFor = d.mintedFor ++ more from hm]
    exact (((hk g hg.1).2.1.staged rfl).drawn id hid).mono more

theorem Evictions.restart (h : Evictions cfg (· < cfg.spec.groupCount) d) (hk : Stations cfg (EvictionStation cfg) true d)
    (hv : Valid cfg.spec) (hgid : gid < cfg.spec.groupCount) (hphase : (d.groups gid).phase = .stepping)
    (hcompletes : Completes cfg gid completed d) (howned : cfg.spec.driverOwnsResets = true) (hne : completed ≠ [])
    (now : Int) :
    Evictions cfg (· < cfg.spec.groupCount) (cfg.beginReset gid false (cfg.settle gid response completed now d)) := by
  obtain ⟨hsettled, -, -, hmarks⟩ := h.settled hk hgid hphase response hcompletes.lane now
  refine (hsettled.beginReset gid (fun lane hl episode he => ?_) false).1.weaken (fun g hg => ?_)
  · obtain ⟨metadata, rest, rfl⟩ := List.exists_cons_of_ne_nil hne
    obtain ⟨only, honly⟩ := cfg.spec.lanes_singleton hv howned gid
    have hmem := hcompletes.lane metadata List.mem_cons_self
    rw [honly, List.mem_singleton] at hl hmem
    obtain ⟨episode', he', hended⟩ := hmarks lane (by rw [honly, hl]; exact List.mem_singleton_self _)
    obtain rfl : episode = episode' := Option.some.inj (he.symm.trans he')
    refine hended.mpr ⟨howned, ?_⟩
    rw [hl, ← hmem]
    exact List.mem_cons_self
  · by_cases hg' : g = gid
    · exact .inl hg'
    · exact .inr ⟨⟨hg, hg'⟩, hg'⟩

/-! ## The teardown -/

theorem endLiveEpisodes_episode (lane : Nat) :
    (route.endLiveEpisodes spec).2.episodeOf lane =
      if lane < spec.width ∧ (route.episodeOf lane).any RouteState.isLive = true then
        (route.episodeOf lane).map (fun episode => { episode with ended := true }) else route.episodeOf lane := by
  have he := route.updateEpisodes_episode
    ((List.range spec.width).filter (fun lane => (route.slots lane).episode.any RouteState.isLive))
    (f := fun episode => { episode with ended := true }) (fun _ => rfl) lane
  simp only [List.mem_filter, List.mem_range] at he
  exact he

theorem mem_endLiveEpisodes {id : Id} : id ∈ (route.endLiveEpisodes spec).1 ↔
    ∃ lane episode, lane < spec.width ∧ route.episodeOf lane = some episode ∧ episode.episodeId = id ∧
      RouteState.isLive episode = true := by
  unfold RouteState.endLiveEpisodes
  simp only [List.mem_map, List.mem_filter, List.mem_range]
  constructor
  · rintro ⟨lane, ⟨hl, hlive⟩, rfl⟩
    cases he : (route.slots lane).episode with
    | none => rw [he] at hlive; cases hlive
    | some episode =>
    rw [he] at hlive
    exact ⟨lane, episode, hl, he, by rw [RouteState.slotId, he]; rfl, hlive⟩
  · rintro ⟨lane, episode, hl, he, rfl, hlive⟩
    have he : (route.slots lane).episode = some episode := he
    exact ⟨lane, ⟨hl, by rw [he]; exact hlive⟩, by rw [RouteState.slotId, he]; rfl⟩

theorem Ends.endLiveEpisodes (h : Ends spec.width route.episodeOf E N) (hapart : Apart spec.width route.episodeOf) :
    Ends spec.width (route.endLiveEpisodes spec).2.episodeOf (E ++ (route.endLiveEpisodes spec).1) N ∧
      ∀ id ∈ N, id ∈ E ++ (route.endLiveEpisodes spec).1 := by
  have hnamed : ∀ id ∈ N, id ∈ E ++ (route.endLiveEpisodes spec).1 := by
    intro id hid
    rcases h.named id hid with hid | hlive
    · exact List.mem_append_left _ hid
    · exact List.mem_append_right _ (mem_endLiveEpisodes.mpr hlive)
  have hsame : ∀ lane episode, (route.endLiveEpisodes spec).2.episodeOf lane = some episode → ∃ previous,
      route.episodeOf lane = some previous ∧ previous.episodeId = episode.episodeId ∧
        (episode.ended = false → previous = episode ∧ ¬(lane < spec.width ∧ RouteState.isLive episode = true)) := by
    intro lane episode he
    rw [endLiveEpisodes_episode] at he
    split at he
    · obtain ⟨previous, hp, rfl⟩ := Option.map_eq_some_iff.mp he
      exact ⟨previous, hp, rfl, nofun⟩
    · rename_i hquiet
      refine ⟨episode, he, rfl, fun _ => ⟨rfl, fun hlive => hquiet ⟨hlive.1, ?_⟩⟩⟩
      rw [he]
      exact hlive.2
  refine ⟨⟨?_, fun lane episode he => ?_, fun lane episode hl he hu hmem => ?_, fun id hid => .inl (hnamed id hid)⟩, hnamed⟩
  · refine List.nodup_append.mpr ⟨h.nodup, ?_, ?_⟩
    · refine List.Nodup.map_on (fun lane hlane lane' hlane' heq => ?_) (List.nodup_range.filter _)
      rw [List.mem_filter, List.mem_range] at hlane hlane'
      obtain ⟨episode, he⟩ := Option.isSome_iff_exists.mp (Option.isSome_of_any hlane.2)
      obtain ⟨episode', he'⟩ := Option.isSome_iff_exists.mp (Option.isSome_of_any hlane'.2)
      rw [RouteState.slotId, RouteState.slotId, he, he'] at heq
      refine hapart lane lane' episode.episodeId hlane.1 hlane'.1 ?_ ?_
      · rw [RouteState.episodeOf, he, Option.map_some]
      · rw [RouteState.episodeOf, he']
        exact congrArg some heq.symm
    · rintro id hid id' hmem rfl
      obtain ⟨lane, episode, hl, he, rfl, hlive⟩ := mem_endLiveEpisodes.mp hmem
      rw [RouteState.isLive, Bool.and_eq_true, Bool.not_eq_true'] at hlive
      exact h.unended lane episode hl he hlive.2 hid
  · obtain ⟨previous, hp, hid, -⟩ := hsame lane episode he
    rw [← hid]
    exact h.proper lane previous hp
  · obtain ⟨previous, hp, -, hopen⟩ := hsame lane episode he
    obtain ⟨rfl, hquiet⟩ := hopen hu
    rcases List.mem_append.mp hmem with hmem | hmem
    · exact h.unended lane previous hl hp hu hmem
    · obtain ⟨lane', episode', hl', he', hid, hlive⟩ := mem_endLiveEpisodes.mp hmem
      obtain rfl := hapart lane lane' previous.episodeId hl hl' (by rw [hp, Option.map_some]) (by rw [he', Option.map_some, hid])
      rw [hp] at he'
      cases he'
      exact hquiet ⟨hl, hlive⟩

theorem flushEvictions_evicted (hheld : d.heldEvictions = []) : (cfg.flushEvictions d).evicted = d.evictions := by
  unfold DriverConfig.flushEvictions
  split
  · rename_i hempty
    rw [List.isEmpty_iff] at hempty
    simp [Driver.evictions, hheld, hempty]
  · simp [Driver.evictions, Driver.evicted, ModelMessage.evicts, RouteState.resetAdapterRequest, hheld]

theorem flushEvictions_named : (cfg.flushEvictions d).named = d.named := by
  unfold DriverConfig.flushEvictions
  split
  · rfl
  · simp [Driver.named, ModelMessage.names]

theorem Evictions.teardown (h : Evictions cfg on d) (hids : IdsHeld cfg d.route d.mintedFor) :
    Evictions cfg (fun _ => False) (cfg.teardown false d) ∧ ∀ id ∈ (cfg.teardown false d).named,
      id ∈ (cfg.teardown false d).evicted := by
  obtain ⟨hends, hall⟩ := h.ends.endLiveEpisodes (hids.apart h.ends.proper)
  obtain ⟨before, hbefore⟩ : ∃ before, before = ({ d with
      route := (d.route.endLiveEpisodes cfg.spec).2
      predicts := []
      pendingEvictions := d.pendingEvictions ++ d.heldEvictions.map (·.2) ++ (d.route.endLiveEpisodes cfg.spec).1
      heldEvictions := [] } : Driver Id R) := ⟨_, rfl⟩
  have hevictions : before.evictions = d.evictions ++ (d.route.endLiveEpisodes cfg.spec).1 := by
    rw [hbefore]
    simp [Driver.evictions, Driver.evicted]
  have hnamed : before.named = d.named := by rw [hbefore]; rfl
  have hready : Evictions cfg (fun _ => False) before := by
    refine ⟨?_, fun id hid => ?_, by rw [hbefore]; exact h.ordered, fun _ hg => hg.elim⟩
    · rw [hevictions, hnamed, hbefore]
      exact hends
    · have hminted : before.mintedFor = d.mintedFor := by rw [hbefore]
      rw [hevictions] at hid
      rw [hminted]
      rcases List.mem_append.mp hid with hid | hid
      · exact h.drawn id hid
      · obtain ⟨lane, episode, hl, he, rfl, -⟩ := mem_endLiveEpisodes.mp hid
        obtain ⟨g, hg, hmem⟩ := cfg.spec.exists_group hl
        exact ⟨g, hids.drawn hg hmem (by rw [he, Option.map_some]) (h.ends.proper lane episode he)⟩
  have htorn : cfg.teardown false d = cfg.flushEvictions before := by
    rw [hbefore]
    rfl
  rw [htorn]
  refine ⟨hready.flush, fun id hid => ?_⟩
  rw [flushEvictions_evicted (by rw [hbefore]), hevictions]
  rw [flushEvictions_named, hnamed] at hid
  exact hall id hid

/-! ## Along a run -/

/-- The run does not give up on a predict at its end. -/
def Lands : Event Id R → Prop
  | .finish abandoned => abandoned = false
  | _ => True

instance : ∀ e : Event Id R, Decidable (Lands e)
  | .finish abandoned => inferInstanceAs (Decidable (abandoned = false))
  | .launch _ _ | .turn _ _ | .resetDone _ _ _ _ | .stepDone _ _ _ _ | .envTaskFailed _ | .predictDone _ _
  | .cancelled _ => .isTrue trivial

/-- The env conforms, no predict is abandoned, and no roll finds a request waiting. -/
def DriverConfig.EvictionSteps (cfg : DriverConfig Id R) (s : Session Id R) (e : Event Id R) : Prop :=
  cfg.StepsConform s e ∧ Lands e ∧ cfg.StepsMeet RollsUnwanted s e

instance (cfg : DriverConfig Id R) (s : Session Id R) (e : Event Id R) : Decidable (cfg.EvictionSteps s e) :=
  inferInstanceAs (Decidable (_ ∧ _ ∧ _))

/-- The ends are in order, and while the run is on so is every group. -/
def EvictionsFit (cfg : DriverConfig Id R) (alive : Bool) (d : Driver Id R) : Prop :=
  Evictions cfg (fun g => alive = true ∧ g < cfg.spec.groupCount) d

theorem EvictionsFit.all (h : EvictionsFit cfg true d) : Evictions cfg (· < cfg.spec.groupCount) d :=
  h.weaken (fun _ hg => ⟨rfl, hg⟩)

theorem Evictions.fit (h : Evictions cfg (· < cfg.spec.groupCount) d) : EvictionsFit cfg true d :=
  h.weaken (fun _ hg => hg.2)

theorem EvictionsFit.dead (h : Evictions cfg on d) : EvictionsFit cfg false d := h.weaken (fun _ hg => nomatch hg.1)

theorem StepBack.completes {s : Session Id R} {response : StepResponse Id R} {now : Int} (hv : Valid cfg.spec)
    (h : StepBack cfg (Stations cfg (EvictionStation cfg)) cfg.EvictionSteps (EvictionsFit cfg) s gid response now) :
    (s.driver.groups gid).phase = .stepping ∧ Completes cfg gid (cfg.stepEnds gid response now s.driver) s.driver := by
  obtain ⟨hlive, -, hunrolled, -⟩ := h.known gid h.group
  obtain ⟨frame, request, hop⟩ := h.op
  obtain ⟨transformed, hC⟩ := h.meets
  have hphase : (s.driver.groups gid).phase = .stepping := (hlive rfl).op.stepping hop
  refine ⟨hphase, Conforming.completes hC.1 hv (fun howned => hunrolled rfl ?_ howned) now⟩
  rw [show (cfg.station gid true s.driver).group.phase = .stepping from hphase]
  rfl

theorem evictions_kept (hv : Valid cfg.spec) :
    Kept cfg (Stations cfg (EvictionStation cfg)) cfg.EvictionSteps (EvictionsFit cfg) where
  launch now := (Evictions.launch cfg now).fit
  refuse now := ⟨⟨List.nodup_nil, nofun, nofun, nofun⟩, nofun, List.Pairwise.nil, nofun⟩
  die groups h := ⟨h.ends, h.drawn, h.ordered, nofun⟩
  alike {d gid group} h ha := by
    refine ⟨h.ends, h.drawn, h.ordered, fun g hg => ?_⟩
    by_cases hne : g = gid
    · subst hne
      rw [updateGroup_self]
      exact (h.groups g hg).alike ha
    · rw [show (d.updateGroup gid (fun _ => group)).groups g = d.groups g from Function.update_of_ne hne _ _]
      exact h.groups g hg
  seq requestSeq h := ⟨h.ends, h.drawn, h.ordered, h.groups⟩
  predicts predicts h := ⟨h.ends, h.drawn, h.ordered, h.groups⟩
  emit events h := ⟨h.ends, h.drawn, h.ordered, h.groups⟩
  flush h := h.flush
  send {d d0 gid msg} hgid hk hgroup hids h hw := by
    obtain ⟨hlive, -, -, hnames⟩ := hk gid hgid
    have hw0 : (d0.groups gid).predict = .wanted msg := hgroup ▸ hw
    have hrunning := running_of_wanted hlive rfl hw0
    refine h.send hgid (h.groups gid ⟨rfl, hgid⟩) (hgroup ▸ hrunning) (fun id hid => ?_)
    rw [RouteState.episodeIdsAt_congr (fun lane _ => hids lane)]
    exact ((hnames rfl hrunning).held.wanted msg hw0).names id hid
  release gid h := h.release gid
  start now hgid hk h hop hstart := (h.all.start hk hgid hop hstart now).fit
  stop h _ := by
    obtain ⟨hphase, hcompletes⟩ := h.completes hv
    exact (h.kept.all.stop h.known h.group hphase hcompletes _).fit
  restart h howned hne := by
    obtain ⟨hphase, hcompletes⟩ := h.completes hv
    exact (h.kept.all.restart h.known hv h.group hphase hcompletes howned hne _).fit
  settle h hgoes := by
    obtain ⟨hphase, hcompletes⟩ := h.completes hv
    refine (h.kept.all.goOn h.known h.group hphase hcompletes (fun howned => ?_) _).fit
    rw [DriverConfig.goesOn, howned, Bool.and_eq_true, Bool.true_and, Bool.not_not] at hgoes
    exact List.isEmpty_iff.mp hgoes.2
  finish abandoned hs hC hk h := by
    obtain rfl : abandoned = false := hC.2.1
    have htorn := (h.teardown (idsHeld_of_stations (fun g hg => (hk g hg).2.1))).1
    exact EvictionsFit.dead (htorn.congr (fun _ => rfl) rfl rfl rfl ⟨[], (List.append_nil _).symm⟩ (fun _ _ => rfl))

theorem reach_evictions {s : Session Id R} (h : cfg.runs.Reach cfg.EvictionSteps s) :
    EvictionsFit cfg s.control.alive s.driver :=
  Kept.reach (P := EvictionStation cfg) (fun _ _ h => ⟨h.idsFit, h.unrolled, h.namesFit⟩)
    (fun _ _ _ hl h hm => ⟨hm.idsFit hl h.1, hm.unrolled hl h.2.1, hm.namesFit hl h.2.2⟩) (fun _ _ h => h.2.2)
    ⟨⟨List.nodup_nil, nofun, nofun, nofun⟩, nofun, List.Pairwise.nil, nofun⟩ evictions_kept h

theorem closed_evicted {s : Session Id R} (h : cfg.runs.Reach cfg.EvictionSteps s) :
    (s.control = .start → s.driver = .new 0) ∧
      ∀ result, s.control = .closed result → ∀ id ∈ s.driver.named, id ∈ s.driver.evicted := by
  refine h.inv_of (fun s => EvictionsFit cfg s.control.alive s.driver ∧ cfg.runs.Reach (fun _ _ => True) s)
    (fun s => (s.control = .start → s.driver = .new 0) ∧
      ∀ result, s.control = .closed result → ∀ id ∈ s.driver.named, id ∈ s.driver.evicted)
    (fun hr => ⟨reach_evictions hr, hr.mono (fun _ _ _ => trivial)⟩) ⟨fun _ => rfl, nofun⟩ ?_
  intro s e s' ⟨hfit, hreach⟩ _ hi hc he
  refine ⟨fun hs => absurd hs (step_control he), fun result hclosed => ?_⟩
  rcases cfg.closed_cases he hclosed with ⟨hs, hsame, -⟩ | ⟨abandoned, rfl, hs, rfl⟩
  · rw [hsame, hi.1 hs]
    exact nofun
  · obtain rfl : abandoned = false := hc.2.1
    exact (hfit.teardown (idsHeld_of_stations (fun g hg => reach_idsFit hreach hg))).2

/-- In every run on a conforming env that abandons no predict and whose rolls find
no request waiting, whatever the model, the scheduler and the order of
completions: no request names an episode evicted before it, no episode is evicted
twice, and once the run is over, however it ended, every episode the model was
asked about has been evicted. -/
theorem evict_follows_predicts {s : Session Id R} (h : cfg.runs.Reach cfg.EvictionSteps s) :
    Ordered s.driver.wire ∧ s.driver.evicted.Nodup ∧
      ∀ result, s.control = .closed result → ∀ id ∈ s.driver.named, id ∈ s.driver.evicted := by
  have hfit := reach_evictions h
  have hqueued : (s.driver.evicted ++ (s.driver.pendingEvictions ++ s.driver.heldEvictions.map Prod.snd)).Nodup := by
    rw [← List.append_assoc]
    exact hfit.ends.nodup
  exact ⟨hfit.ordered, hqueued.of_append_left, (closed_evicted h).2⟩

/-- A one-lane NEXT_STEP route: the first episode ends, its lane rolls, and the run
is cancelled with a predict on the second out. -/
theorem evict_follows_predicts_cancelled :
    ∃ s : Session Nat Int, s.driver.named = [1, 1, 2] ∧ s.driver.evicted = [1, 2] ∧
      Ordered s.driver.wire ∧ s.driver.evicted.Nodup ∧
      ∀ result, s.control = .closed result → ∀ id ∈ s.driver.named, id ∈ s.driver.evicted := by
  obtain ⟨s, hr, hp⟩ := System.exists_reach_of_runFrom (smallConfig (smallSpec 1 1 false)).runs
    (smallConfig (smallSpec 1 1 false)).EvictionSteps
    (fun s => decide (s.driver.named = [1, 1, 2]) && decide (s.driver.evicted = [1, 2]))
    [.launch 0 none, plainTurn [], resetLands 0, plainTurn [], predictLands .resetObservation 1 1, plainTurn [],
      stepLands 0 [(1, 0)], plainTurn [], predictLands .stepObservation 2 1, plainTurn [], stepLands 0 [],
      plainTurn [], .cancelled "stop", .finish false]
    (by decide +kernel) (by decide +kernel)
  simp only [Bool.and_eq_true, decide_eq_true_eq] at hp
  exact ⟨s, hp.1, hp.2, evict_follows_predicts hr⟩

/-- The same route, asking for the next chunk one frame ahead. -/
def prefetchConfig : DriverConfig Nat Int := { smallConfig (smallSpec 1 1 false) with prefetchLead := 1 }

/-- The request prefetched from the terminal observation, which names episode 1, is
left waiting while the roll is out; the roll evicts episode 1, and the request is
sent after that. -/
theorem prefetched_request_names_evicted :
    ∃ s : Session Nat Int, prefetchConfig.runs.Reach (fun s e => prefetchConfig.StepsConform s e ∧ Lands e) s ∧
      ¬ Ordered s.driver.wire := by
  obtain ⟨s, hr, hp⟩ := System.exists_reach_of_runFrom prefetchConfig.runs
    (fun s e => prefetchConfig.StepsConform s e ∧ Lands e) (fun s => decide (¬ Ordered s.driver.wire))
    [.launch 0 none, plainTurn [], resetLands 0, plainTurn [], predictLands .resetObservation 1 1, plainTurn [],
      stepLands 0 [(1, 0)], plainTurn [], predictLands .stepObservation 2 1, plainTurn [], stepLands 0 [], plainTurn []]
    (by decide +kernel) (by decide +kernel)
  exact ⟨s, hr, of_decide_eq_true hp⟩

end Rlmesh.Runtime
