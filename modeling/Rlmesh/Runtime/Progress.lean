import Rlmesh.Runtime.Simulation
/-!
# The route never stalls

After the steps of a turn are dispatched, a ready group has no frame left to
play, so a sound one waits for a prediction: wanted, or in flight. With nothing in
flight the plan is forced, and a wanted prediction goes out. So the turn either
leaves something in flight, or every group was idle to begin with.
-/
open Rlmesh.Wire

set_option linter.unusedSectionVars false

namespace Rlmesh.Runtime

variable {Id R : Type} [DecidableEq Id] [Inhabited Id] [Zero R] [Add R] [BEq R]
variable {cfg : DriverConfig Id R} {gid g : Nat} {d d' : Driver Id R}

/-! ## After the steps are dispatched -/

/-- The group has no frame left to play now. -/
def Drained (group : Group Id R) : Prop :=
  group.phase = .ready → group.replay = [] ∧ ∀ frames, group.predict ≠ .ready frames

theorem Group.refill_drained (group : Group Id R) (h : group.refill.replay = []) (frames : List (Frame Id)) :
    group.refill.predict ≠ .ready frames := by
  unfold Group.refill at h ⊢
  cases hr : group.replay with
  | cons => simp only [hr] at h; cases h
  | nil => cases hp : group.predict <;> simp [hp]

theorem Group.takeFrame_none_drained {lead : Nat} {deliver : Bool} {group after : Group Id R}
    (h : group.takeFrame lead deliver = (none, after)) :
    after = group.refill ∧ after.replay = [] ∧ ∀ frames, after.predict ≠ .ready frames := by
  unfold Group.takeFrame at h
  split at h
  · rename_i hempty
    obtain rfl : group.refill = after := (Prod.mk.inj h).2
    -- A chunk that is still waiting would have been taken in.
    exact ⟨rfl, hempty, group.refill_drained hempty⟩
  · cases h

theorem dispatchStep_drained (transformed : Transformed) (h : cfg.dispatchStep gid transformed d = (d', none)) :
    Drained (d'.groups gid) ∧ (∀ g, g ≠ gid → d'.groups g = d.groups g) ∧ d'.predicts = d.predicts ∧
      ((d'.groups gid).phase = .idle → (d.groups gid).phase = .idle) := by
  unfold DriverConfig.dispatchStep at h
  split at h
  · rename_i hready
    split at h
    · rename_i after ht
      cases h
      refine ⟨fun _ => ?_, fun g hg => Function.update_of_ne hg _ _, rfl, fun hidle => ?_⟩
      · rw [updateGroup_self]
        exact (Group.takeFrame_none_drained ht).2
      · rw [updateGroup_self, (Group.takeFrame_none_drained ht).1] at hidle
        unfold Group.refill at hidle
        split at hidle <;> exact hidle
    · rename_i frame after ht
      dsimp only at h
      split at h
      · cases h
      · cases h
        refine ⟨fun hphase => ?_, fun g hg => ?_, rfl, fun hphase => ?_⟩
        · rw [updateGroup_self] at hphase
          cases hphase
        · exact (Function.update_of_ne hg _ _).trans (Function.update_of_ne hg _ _)
        · rw [updateGroup_self] at hphase
          cases hphase
  · rename_i hnot
    cases h
    exact ⟨fun hready => absurd hready hnot, fun _ _ => rfl, rfl, fun h => h⟩

theorem dispatchSteps_drained (transformed : Nat → Transformed) (gids : List Nat)
    (h : cfg.dispatchSteps transformed gids d = (d', none)) :
    (∀ gid ∈ gids, Drained (d'.groups gid)) ∧ (∀ g, g ∉ gids → d'.groups g = d.groups g) ∧ d'.predicts = d.predicts ∧
      (∀ g, (d'.groups g).phase = .idle → (d.groups g).phase = .idle) := by
  induction gids generalizing d with
  | nil =>
    cases h
    exact ⟨nofun, fun _ _ => rfl, rfl, fun _ h => h⟩
  | cons gid rest ih =>
    unfold DriverConfig.dispatchSteps at h
    split at h
    · cases h
    · rename_i mid hstep
      obtain ⟨hdrained, hothers, hpred, hidle⟩ := dispatchStep_drained (transformed gid) hstep
      obtain ⟨hdrained', hothers', hpred', hidle'⟩ := ih h
      refine ⟨fun g hg => ?_, fun g hg => ?_, hpred'.trans hpred, fun g hphase => ?_⟩
      · by_cases hmem : g ∈ rest
        · exact hdrained' g hmem
        · obtain rfl := (List.mem_cons.mp hg).resolve_right hmem
          rw [hothers' g hmem]
          exact hdrained
      · rw [List.mem_cons, not_or] at hg
        rw [hothers' g hg.2, hothers g hg.1]
      · have hmid := hidle' g hphase
        by_cases hg : g = gid
        · subst hg
          exact hidle hmid
        · rwa [hothers g hg] at hmid

/-! ## After the predicts are dispatched -/

theorem sendPredicts_groups (chosen : List Nat) {requests : List (Nat × PredictRequest Id)}
    (h : cfg.sendPredicts chosen d = some (requests, d')) :
    requests.length = chosen.length ∧ d'.predicts = d.predicts ∧
      ∀ g, (d'.groups g).op = (d.groups g).op ∧ (d'.groups g).phase = (d.groups g).phase := by
  induction chosen generalizing d requests with
  | nil =>
    cases h
    exact ⟨rfl, rfl, fun _ => ⟨rfl, rfl⟩⟩
  | cons gid rest ih =>
    unfold DriverConfig.sendPredicts at h
    split at h
    · cases h
    · rename_i msg sent hsend
      split at h
      · cases h
      · rename_i others after hrest
        cases h
        unfold DriverConfig.sendPredict at hsend
        split at hsend
        · cases hsend
          obtain ⟨hlen, hpred, hsame⟩ := ih hrest
          refine ⟨by simp [hlen], hpred, fun g => ?_⟩
          rw [(hsame g).1, (hsame g).2]
          by_cases hg : g = gid
          · subst hg
            simp
          · simp [hg]
        · cases hsend

theorem dispatchPredict_forced (plan : List Nat) (hempty : d.predicts = []) (hwaits : cfg.waiting d ≠ [])
    (h : cfg.dispatchPredict plan true d = (d', none)) : d'.predicts ≠ [] := by
  have hchosen : cfg.chosen plan true d ≠ [] := by
    unfold DriverConfig.chosen
    split
    · exact hwaits
    · rename_i hplanned
      intro hnil
      rw [hnil] at hplanned
      exact hplanned rfl
  rw [dispatchPredict_eq, hempty] at h
  simp only [List.isEmpty_nil, Bool.not_true, Bool.and_false, Bool.false_eq_true, if_false, List.isEmpty_iff, hchosen] at h
  split at h
  · cases h
  · rename_i requests sent hsend
    have hlen := (sendPredicts_groups _ hsend).1
    have hrequests : requests ≠ [] := by
      rintro rfl
      exact hchosen (List.eq_nil_of_length_eq_zero hlen.symm)
    cases h
    dsimp only
    split
    · simp
    · simp [hrequests]

theorem dispatchPredict_groups (plan : List Nat) (force : Bool) (h : cfg.dispatchPredict plan force d = (d', none)) :
    (∀ g, (d'.groups g).op = (d.groups g).op ∧ (d'.groups g).phase = (d.groups g).phase) ∧
      (d'.predicts = [] → d.predicts = []) := by
  rw [dispatchPredict_eq] at h
  split at h
  · cases h
    exact ⟨fun _ => ⟨rfl, rfl⟩, fun h => h⟩
  · split at h
    · cases h
      exact ⟨fun _ => ⟨rfl, rfl⟩, fun h => h⟩
    · split at h
      · cases h
      · rename_i requests sent hsend
        obtain ⟨-, hpred, hsame⟩ := sendPredicts_groups _ hsend
        cases h
        refine ⟨hsame, fun hnil => ?_⟩
        rw [← hpred]
        exact (List.append_eq_nil_iff.mp hnil).1

/-! ## A turn -/

/-- A live group with nothing out and nothing in flight wants a prediction, once
the steps are dispatched. -/
theorem Sound.wants (h : Sound cfg.deliverHistory (cfg.spec.lanes gid) (cfg.station gid true d))
    (hdrained : Drained (d.groups gid)) (hop : (d.groups gid).op = none) (hpredicts : d.predicts = []) :
    (d.groups gid).phase = .idle ∨ (d.groups gid).predict.isWanted = true := by
  have hgroup : (cfg.station gid true d).group = d.groups gid := rfl
  have hfits := h.op
  unfold OpFits at hfits
  rw [hgroup, hop] at hfits
  cases hphase : (d.groups gid).phase with
  | idle => exact .inl rfl
  | stepping =>
    rw [hphase] at hfits
    obtain ⟨_, _, hstep⟩ := hfits
    cases hstep
  | resetting =>
    rw [hphase] at hfits
    obtain ⟨_, _, _, _, hreset, -⟩ := hfits
    cases hreset
  | ready =>
    obtain ⟨hreplay, hchunk⟩ := hdrained hphase
    refine .inr ?_
    cases hpredict : (d.groups gid).predict with
    | wanted => rfl
    | ready frames => exact absurd hpredict (hchunk frames)
    | none =>
      rcases h.planned hphase with hne | hne
      · exact absurd hreplay hne
      · rw [hgroup, hpredict] at hne
        cases hne
    | inFlight stale =>
      obtain ⟨request, hfly⟩ := h.inFlight (by rw [hgroup, hpredict]; rfl)
      have hnil : (cfg.station gid true d).flying = [] := by
        show requestsOf gid d.predicts.flatten = []
        rw [hpredicts]
        rfl
      rw [hnil] at hfly
      cases hfly

theorem quiet_iff : cfg.quiet d = true ↔ ∀ gid, gid < cfg.spec.groupCount → (d.groups gid).op = none := by
  simp [DriverConfig.quiet, DriverConfig.groupIds]

theorem allIdle_iff : cfg.allIdle d = true ↔ ∀ gid, gid < cfg.spec.groupCount → (d.groups gid).phase = .idle := by
  simp [DriverConfig.allIdle, DriverConfig.groupIds]

/-- A turn that leaves nothing in flight found every group idle, and nothing in flight either. -/
theorem dispatch_idle (hlive : ∀ g, g < cfg.spec.groupCount → Live cfg g (cfg.station g true d)) (plan : List Nat)
    (transformed : Nat → Transformed) (h : cfg.dispatch plan transformed d = (d', none))
    (hquiet : cfg.quiet d' = true) (hnil : d'.predicts = []) :
    (∀ gid, gid < cfg.spec.groupCount → (d.groups gid).phase = .idle ∧ (d'.groups gid).phase = .idle) ∧
      d.predicts = [] := by
  unfold DriverConfig.dispatch at h
  split at h
  · cases h
  · rename_i mid hsteps
    obtain ⟨hdrained, -, hpredicts, hidle⟩ := dispatchSteps_drained transformed cfg.groupIds hsteps
    obtain ⟨hsame, hempty⟩ := dispatchPredict_groups plan _ h
    have hop : ∀ gid, gid < cfg.spec.groupCount → (mid.groups gid).op = none := by
      intro gid hg
      rw [← (hsame gid).1]
      exact quiet_iff.mp hquiet gid hg
    have hnone : mid.predicts = [] := hempty hnil
    have hwants : ∀ gid, gid < cfg.spec.groupCount →
        (mid.groups gid).phase = .idle ∨ (mid.groups gid).predict.isWanted = true := by
      intro gid hg
      have hmoves := dispatchSteps_moves (C := fun _ _ => True) (p := ⟨fun _ => True, fun _ => True⟩) transformed cfg.groupIds
        (fun _ h => List.mem_range.mp h) hlive hg
      rw [hsteps] at hmoves
      exact Sound.wants (hmoves.live (hlive gid hg) rfl) (hdrained gid (List.mem_range.mpr hg)) (hop gid hg) hnone
    -- A wanted prediction would have been forced out.
    have hforce : (cfg.quiet mid && mid.predicts.isEmpty) = true := by
      rw [hnone, quiet_iff.mpr hop]
      rfl
    rw [hforce] at h
    have hwaiting : cfg.waiting mid = [] := by
      by_contra hne
      exact dispatchPredict_forced plan hnone hne h hnil
    have hall : ∀ gid, gid < cfg.spec.groupCount → (mid.groups gid).phase = .idle := by
      intro gid hg
      refine (hwants gid hg).resolve_right (fun hw => ?_)
      have hmem : gid ∈ cfg.waiting mid := List.mem_filter.mpr ⟨List.mem_range.mpr hg, hw⟩
      rw [hwaiting] at hmem
      cases hmem
    exact ⟨fun gid hg => ⟨hidle gid (hall gid hg), (hsame gid).2.trans (hall gid hg)⟩, hpredicts ▸ hnone⟩

/-- Whatever the scheduler plans and the hooks make of the actions, a turn that
goes through leaves an env operation or a predict in flight, unless every group
is idle; and the loop, which first checks for that, never finds itself stalled. -/
theorem route_never_stalls {s : Session Id R} (h : cfg.runs.Reach (fun _ _ => True) s) (hhead : s.control = .head)
    (plan : List Nat) (transformed : Nat → Transformed)
    (hd : cfg.dispatch plan transformed (cfg.turnFlush s.driver) = (d', none)) :
    ((∃ gid, gid < cfg.spec.groupCount ∧ (d'.groups gid).op ≠ none) ∨ d'.predicts ≠ [] ∨
      ∀ gid, gid < cfg.spec.groupCount → (d'.groups gid).phase = .idle) ∧
    ((cfg.allIdle s.driver && cfg.quiet s.driver && s.driver.predicts.isEmpty) = false →
      (cfg.quiet d' && d'.predicts.isEmpty) = false) := by
  have hlive : ∀ g, g < cfg.spec.groupCount → Live cfg g (cfg.station g true (cfg.turnFlush s.driver)) := by
    intro g hg
    have hl := reach_live h hg
    unfold DriverConfig.stationOf at hl
    rw [hhead] at hl
    rwa [keeps_turnFlush.station]
  have hkeep : Keeps s.driver (cfg.turnFlush s.driver) := keeps_turnFlush
  constructor
  · by_cases hquiet : cfg.quiet d' = true
    · by_cases hnil : d'.predicts = []
      · exact .inr (.inr (fun gid hg => ((dispatch_idle hlive plan transformed hd hquiet hnil).1 gid hg).2))
      · exact .inr (.inl hnil)
    · rw [quiet_iff] at hquiet
      simp only [not_forall] at hquiet
      obtain ⟨gid, hg, hne⟩ := hquiet
      exact .inl ⟨gid, hg, hne⟩
  · intro hcheck
    by_contra hstall
    rw [Bool.not_eq_false, Bool.and_eq_true, List.isEmpty_iff] at hstall
    obtain ⟨hidle, hnil⟩ := dispatch_idle hlive plan transformed hd hstall.1 hstall.2
    rw [hkeep.predicts] at hnil
    rw [hkeep.groups] at hidle
    have hquiet : cfg.quiet s.driver = true := by
      rw [quiet_iff]
      intro gid hg
      have hfits := (hlive gid hg rfl).op
      unfold OpFits at hfits
      rw [show (cfg.station gid true (cfg.turnFlush s.driver)).group = s.driver.groups gid from
        congrFun hkeep.groups gid, (hidle gid hg).1] at hfits
      exact hfits
    rw [allIdle_iff.mpr (fun gid hg => (hidle gid hg).1), hquiet, hnil] at hcheck
    cases hcheck

/-- The first turn of a route, with its reset out. -/
theorem route_never_stalls_first_turn :
    ∃ (s : Session Nat Int) (d' : Driver Nat Int),
      (smallConfig (smallSpec 1 1 false)).runs.Reach (fun _ _ => True) s ∧
      ((smallConfig (smallSpec 1 1 false)).quiet d' && d'.predicts.isEmpty) = false := by
  have hreach : (smallConfig (smallSpec 1 1 false)).runs.Reach (fun _ _ => True)
      { driver := (smallConfig (smallSpec 1 1 false)).launch 0, control := .head } :=
    .step (e := .launch 0 none) .init trivial rfl
  exact ⟨_, _, hreach, (route_never_stalls hreach rfl [] (fun _ => .ok none) rfl).2 rfl⟩

/-- While a run is on, a group has at most one request with the model, has one
exactly while it waits for it unless it was stopped, and has out the env operation
its phase says. -/
theorem one_request_per_group {s : Session Id R} (h : cfg.runs.Reach (fun _ _ => True) s) (hon : s.control.alive = true)
    (hg : g < cfg.spec.groupCount) :
    (cfg.stationOf g s).flying.length ≤ 1 ∧ OpFits (cfg.spec.lanes g) (s.driver.groups g) ∧
    ((s.driver.groups g).phase ≠ .idle →
      ((s.driver.groups g).predict.isInFlight = true ↔ (cfg.stationOf g s).flying ≠ [])) := by
  have hsound := reach_live h hg hon
  refine ⟨hsound.one, hsound.op, fun hidle => ⟨fun hfly => ?_, fun hne => (hsound.landing hne).resolve_right hidle⟩⟩
  obtain ⟨request, hrequest⟩ := hsound.inFlight hfly
  simp [hrequest]

theorem one_request_per_group_launched :
    OpFits [0] (((smallConfig (smallSpec 1 1 false)).launch 0).groups 0) := by
  have hreach : (smallConfig (smallSpec 1 1 false)).runs.Reach (fun _ _ => True) ⟨_, .head⟩ :=
    .step (e := .launch 0 none) .init trivial rfl
  exact (one_request_per_group hreach rfl (by decide)).2.1

end Rlmesh.Runtime
