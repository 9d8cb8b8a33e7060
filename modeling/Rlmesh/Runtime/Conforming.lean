import Rlmesh.Runtime.Invariants
/-!
# What a conforming env reports

The driver passes over completions reported under an id their slot no longer
holds. A conforming env reports, among the rest, only lanes of the group it
stepped, each once, and none that rolled on that very step. Together with the
lanes the driver itself truncates, these are the episodes that complete on a step.
-/
open Rlmesh.Wire Rlmesh.Lib

set_option linter.unusedSectionVars false

namespace Rlmesh.Runtime

variable {Id R : Type} [DecidableEq Id] [Inhabited Id] [Zero R] [Add R] [BEq R]

/-- The completions of a response that the driver takes in are the stepped group's. -/
structure Conforming (cfg : DriverConfig Id R) (gid : Nat) (response : StepResponse Id R) (d : Driver Id R) : Prop where
  once : ((cfg.echoedCompletions response d.route).map (·.envIndex)).Nodup
  lane : ∀ metadata ∈ cfg.echoedCompletions response d.route, metadata.envIndex ∈ cfg.spec.lanes gid
  running : ∀ metadata ∈ cfg.echoedCompletions response d.route,
    metadata.envIndex ∉ (d.groups gid).pendingRoll.map Prod.fst

instance (cfg : DriverConfig Id R) (gid : Nat) (response : StepResponse Id R) (d : Driver Id R) :
    Decidable (Conforming cfg gid response d) :=
  decidable_of_iff
    (((cfg.echoedCompletions response d.route).map (·.envIndex)).Nodup ∧
      (∀ metadata ∈ cfg.echoedCompletions response d.route, metadata.envIndex ∈ cfg.spec.lanes gid) ∧
      ∀ metadata ∈ cfg.echoedCompletions response d.route,
        metadata.envIndex ∉ (d.groups gid).pendingRoll.map Prod.fst)
    ⟨fun h => ⟨h.1, h.2.1, h.2.2⟩, fun h => ⟨h.once, h.lane, h.running⟩⟩

/-- Every step of the run is answered by a conforming env. -/
def DriverConfig.StepsConform (cfg : DriverConfig Id R) (s : Session Id R) (e : Event Id R) : Prop :=
  match e with
  | .stepDone gid (.ok response) _ _ => Conforming cfg gid response s.driver
  | _ => True

instance (cfg : DriverConfig Id R) (s : Session Id R) : ∀ e : Event Id R, Decidable (cfg.StepsConform s e)
  | .stepDone gid (.ok response) _ _ => inferInstanceAs (Decidable (Conforming cfg gid response s.driver))
  | .stepDone _ (.error _) _ _ | .launch _ _ | .turn _ _ | .resetDone _ _ _ _ | .envTaskFailed _ | .predictDone _ _
  | .cancelled _ | .finish _ => .isTrue trivial

/-- The episodes that complete on a step are current ones of the group's lanes that do not roll, each once. -/
structure Completes (cfg : DriverConfig Id R) (gid : Nat) (completed : List (EpisodeMetadata Id R)) (d : Driver Id R) :
    Prop where
  nodup : (completed.map (·.envIndex)).Nodup
  lane : ∀ metadata ∈ completed, metadata.envIndex ∈ cfg.spec.lanes gid
  current : ∀ metadata ∈ completed, ∃ episode, (d.route.slots metadata.envIndex).episode = some episode ∧
    episode.episodeId = metadata.episodeId
  running : ∀ metadata ∈ completed, metadata.envIndex ∉ (d.groups gid).pendingRoll.map Prod.fst

variable {cfg : DriverConfig Id R} {gid : Nat} {d : Driver Id R} {response : StepResponse Id R}

/-- Under driver-owned resets no lane rolls. -/
def Unrolled (cfg : DriverConfig Id R) (s : Station Id R) : Prop :=
  s.alive = true → s.group.phase.running = true → cfg.spec.driverOwnsResets = true → s.group.pendingRoll = []

theorem Launched.unrolled {s : Station Id R} (h : Launched cfg gid s) : Unrolled cfg s := by
  cases h with
  | retired | reset => exact fun _ _ _ => rfl
  | dead => exact nofun

theorem Move.unrolled {C : Station Id R → Bool → Prop} {s s' : Station Id R} (hm : Move cfg gid C s s')
    (hl : Live cfg gid s) (h : Unrolled cfg s) : Unrolled cfg s' := by
  intro halive' hrunning' howned
  cases hm with
  | minted => exact h halive' hrunning' howned
  | skipped group halive hready ht =>
    rw [(Alike.takeFrame ht).pendingRoll]
    exact h halive (by rw [hready]; rfl) howned
  | dispatched frame group request halive hready ht =>
    exact (Alike.takeFrame ht).pendingRoll.trans (h halive (by rw [hready]; rfl) howned)
  | sent => exact h halive' hrunning' howned
  | landed request frames halive =>
    have halike := Alike.landed s.group cfg.deliverHistory frames
    refine halike.pendingRoll.trans (h halive ?_ howned)
    rcases halike.phase with hp | ⟨hp, -⟩
    · rw [← hp]
      exact hrunning'
    · rw [hp]
      rfl
  | started initial request ids slots msg group halive hop hpending hfresh hobs =>
    obtain ⟨_, _, _, rfl, -⟩ := Group.observe_some _ _ hobs
    exact ((hl halive).cleared ((hl halive).op.resetting hop)).2.2.1
  | stopped => cases hrunning'
  | restarted => cases hrunning'
  | observed frame request completes rolls events minted msg group halive hop _ howner hrolls _ _ hobs =>
    have hrolled : (s.settle (cfg.spec.lanes gid) completes rolls events minted).group.pendingRoll = rolls := by
      cases completes <;> rfl
    obtain ⟨_, _, _, rfl, -⟩ := Group.observe_some _ _ hobs
    show (s.settle (cfg.spec.lanes gid) completes rolls events minted).group.pendingRoll = []
    rw [hrolled]
    cases completes with
    | true => exact nomatch howned.symm.trans (howner rfl)
    | false => exact hrolls rfl
  | failed => cases halive'
  | killed => cases halive'
  | drained flying hdead => exact nomatch hdead.symm.trans halive'

/-- A capped lane is one the group runs, and not one the env completed. -/
theorem mem_cappedCompletions {now : Int} {echoed : List (EpisodeMetadata Id R)} {infos : Option (MetaMap R)}
    {route : RouteState Id R} {metadata : EpisodeMetadata Id R}
    (h : metadata ∈ cfg.cappedCompletions now gid echoed infos route) :
    metadata.envIndex ∈ cfg.spec.lanes gid ∧ metadata.envIndex ∉ echoed.map (·.envIndex) ∧
      (∃ episode, (route.slots metadata.envIndex).episode = some episode ∧ episode.episodeId = metadata.episodeId) ∧
      (cfg.stepCap.isSome = true ∨ cfg.spec.maxEpisodeSeconds.isSome = true) := by
  obtain ⟨entry, hentry, hcapped⟩ := List.mem_filterMap.mp h
  have hlane := (List.mem_zipIdx_iff_getElem?.mp (show (entry.1, entry.2) ∈ _ from hentry))
  unfold DriverConfig.cappedLane at hcapped
  dsimp only at hcapped
  split at hcapped
  · cases hcapped
  · rename_i episode hepisode
    split at hcapped
    · cases hcapped
    · rename_i hdone
      split at hcapped
      · rename_i hcaps
        cases hcapped
        refine ⟨List.mem_of_getElem? hlane, hdone, ⟨episode, hepisode, rfl⟩, ?_⟩
        rw [Bool.or_eq_true] at hcaps
        rcases hcaps with hcap | hcap
        · left
          cases hc : cfg.stepCap with
          | none => rw [hc] at hcap; cases hcap
          | some _ => rfl
        · right
          cases hc : cfg.spec.maxEpisodeSeconds with
          | none => rw [hc] at hcap; cases hcap
          | some _ => rfl
      · cases hcapped

theorem cappedCompletions_nodup (now : Int) (echoed : List (EpisodeMetadata Id R)) (infos : Option (MetaMap R))
    (route : RouteState Id R) :
    ((cfg.cappedCompletions now gid echoed infos route).map (·.envIndex)).Nodup := by
  have hkey : ∀ entry metadata, cfg.cappedLane now (echoed.map (·.envIndex)) infos (cfg.spec.lanes gid).length route
      entry = some metadata → metadata.envIndex = entry.1 := by
    intro entry metadata hcapped
    unfold DriverConfig.cappedLane at hcapped
    dsimp only at hcapped
    split at hcapped
    · cases hcapped
    · split at hcapped
      · cases hcapped
      · split at hcapped
        · cases hcapped
          rfl
        · cases hcapped
  refine (map_filterMap_sublist hkey _).nodup ?_
  rw [List.zipIdx_map_fst]
  exact cfg.spec.lanes_nodup gid

theorem echoedCompletions_recordStepAt (response : StepResponse Id R) (route : RouteState Id R) (lanes : List Nat)
    (rewards : List R) :
    cfg.echoedCompletions response (route.recordStepAt lanes rewards) = cfg.echoedCompletions response route := by
  refine List.filter_congr (fun metadata _ => ?_)
  unfold RouteState.episodeIdAt
  simp only [RouteState.recordStepAt_episode]

/-- The driver takes a completion in only under the id the slot holds. -/
theorem mem_echoedCompletions {route : RouteState Id R} {metadata : EpisodeMetadata Id R}
    (h : metadata ∈ cfg.echoedCompletions response route) :
    ∃ episode, (route.slots metadata.envIndex).episode = some episode ∧ episode.episodeId = metadata.episodeId := by
  have hid := (List.mem_filter.mp h).2
  unfold RouteState.episodeIdAt RouteState.slotPosition at hid
  split at hid
  · simpa using hid
  · simp at hid

theorem driverOwnsResets_of_cap (hv : Valid cfg.spec)
    (h : cfg.stepCap.isSome = true ∨ cfg.spec.maxEpisodeSeconds.isSome = true) : cfg.spec.driverOwnsResets = true := by
  by_contra hne
  rw [Bool.not_eq_true] at hne
  obtain ⟨hsteps, hseconds⟩ := hv.uncapped hne
  unfold DriverConfig.stepCap at h
  simp [hsteps, hseconds, hne] at h

theorem Conforming.completes (h : Conforming cfg gid response d) (hv : Valid cfg.spec)
    (hrolls : cfg.spec.driverOwnsResets = true → (d.groups gid).pendingRoll = []) (now : Int) :
    Completes cfg gid (cfg.stepEnds gid response now d) d := by
  have hsplit : cfg.stepEnds gid response now d = cfg.echoedCompletions response d.route ++
      cfg.cappedCompletions now gid (cfg.echoedCompletions response d.route) response.infos
        (d.route.recordStepAt (cfg.spec.lanes gid) response.rewards) := by
    unfold DriverConfig.stepEnds DriverConfig.completions
    rw [echoedCompletions_recordStepAt]
  rw [hsplit]
  refine ⟨?_, fun metadata hmem => ?_, fun metadata hmem => ?_, fun metadata hmem => ?_⟩
  · rw [List.map_append, List.nodup_append]
    refine ⟨h.once, cappedCompletions_nodup _ _ _ _, ?_⟩
    rintro lane hechoed lane' hcapped rfl
    obtain ⟨metadata, hmem, rfl⟩ := List.mem_map.mp hcapped
    exact (mem_cappedCompletions hmem).2.1 hechoed
  all_goals rcases List.mem_append.mp hmem with hmem | hmem
  · exact h.lane metadata hmem
  · exact (mem_cappedCompletions hmem).1
  · exact mem_echoedCompletions hmem
  · obtain ⟨-, -, hcurrent, -⟩ := mem_cappedCompletions hmem
    simpa only [RouteState.recordStepAt_episode] using hcurrent
  · exact h.running metadata hmem
  · obtain ⟨-, -, -, hcap⟩ := mem_cappedCompletions hmem
    rw [hrolls (driverOwnsResets_of_cap hv hcap)]
    exact List.not_mem_nil

end Rlmesh.Runtime
