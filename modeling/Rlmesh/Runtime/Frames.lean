import Rlmesh.Runtime.Simulation
/-!
# Frames and episodes

A frame is planned for the episodes the group's lanes were in when its request
was built. What is buffered, ready, wanted or in flight (and not stale) is kept
consistent with the ids in the group's slots: completions flush all of it. A roll
does not, so frames planned on an ended episode's terminal observation are
played into the next episode unless none is left when the roll comes back.
-/
open Rlmesh.Wire Rlmesh.Lib

set_option linter.unusedSectionVars false

namespace Rlmesh.Runtime

variable {Id R : Type} [DecidableEq Id] [Inhabited Id] [Zero R] [Add R] [BEq R]

/-- What a group may play or plan from names `ids`. -/
structure PlansFor (ids : List Id) (flying : List (PredictRequest Id)) (group : Group Id R) : Prop where
  obsMsg : ∀ msg, group.obsMsg = some msg → names msg.episodeInfo = ids
  replay : ∀ frame ∈ group.replay, names frame.origin.episodeInfo = ids
  wanted : ∀ msg, group.predict = .wanted msg → names msg.episodeInfo = ids
  ready : ∀ frames, group.predict = .ready frames → ∀ frame ∈ frames, names frame.origin.episodeInfo = ids
  flying : group.predict = .inFlight false → ∀ request ∈ flying, names request.episodeInfo = ids

/-- A frame in play was planned for the episodes of the group's slots, and so is
what a running group has planned. -/
structure FramesFit (s : Station Id R) : Prop where
  plans : s.alive = true → s.group.phase.running = true → PlansFor s.ids s.flying s.group
  played : ∀ frame request, s.group.op = some (.step frame request) → names frame.origin.episodeInfo = s.ids

/-- A roll is observed with nothing left to play: no frame, and no prediction on
its way. (A step that completes an episode may always be observed: it flushes.) -/
def RollsBare (s : Station Id R) (completes : Bool) : Prop :=
  s.group.pendingRoll ≠ [] → completes = false → s.group.replay = [] ∧ s.group.predict.isNone = true

instance (s : Station Id R) (completes : Bool) : Decidable (RollsBare s completes) :=
  have : Decidable (s.group.pendingRoll ≠ []) := decidable_of_iff (s.group.pendingRoll.isEmpty = false) (by simp)
  have : Decidable (s.group.replay = []) := decidable_of_iff (s.group.replay.isEmpty = true) (by simp)
  inferInstanceAs (Decidable (_ → _ → _ ∧ _))

variable {cfg : DriverConfig Id R} {gid : Nat} {s s' : Station Id R} {ids : List Id} {deliver : Bool}
  {flying : List (PredictRequest Id)} {group after : Group Id R} {msg : PredictRequest Id}

/-! ## What the group's operations keep -/

theorem Group.stamp_episodeInfo : (group.stamp deliver msg).episodeInfo = msg.episodeInfo := by
  unfold Group.stamp
  split <;> rfl

theorem PlansFor.latest (h : PlansFor ids flying group) (hm : (group.latestRequest deliver).1 = some msg) :
    names msg.episodeInfo = ids := by
  obtain ⟨latest, hobs, hcase⟩ := group.latestRequest_some deliver hm
  have hlatest := h.obsMsg latest hobs
  split at hcase
  · rw [hcase.2.1]
    exact hlatest
  · rw [hcase.1]
    exact hlatest

/-- A frame that is taken names the group's ids, and so does what is left. -/
theorem PlansFor.takeFrame (h : PlansFor ids flying group) {lead : Nat} {frame : Frame Id}
    (ht : group.takeFrame lead deliver = (some frame, after)) :
    names frame.origin.episodeInfo = ids ∧ PlansFor ids flying after := by
  obtain ⟨replay, predict, history, rfl, hcase⟩ := group.takeFrame_some lead deliver ht
  rcases hcase with ⟨hreplay, rfl, rfl⟩ | ⟨-, hready, rfl, rfl⟩ | ⟨hfrom, msg, rfl, hmsg, rfl⟩
  · refine ⟨h.replay frame (by rw [hreplay]; exact List.mem_cons_self), ⟨h.obsMsg, ?_, h.wanted, h.ready, h.flying⟩⟩
    intro f hf
    exact h.replay f (by rw [hreplay]; exact List.mem_cons_of_mem _ hf)
  · have hchunk := h.ready _ hready
    refine ⟨hchunk frame List.mem_cons_self, ⟨h.obsMsg, ?_, nofun, nofun, nofun⟩⟩
    intro f hf
    exact hchunk f (List.mem_cons_of_mem _ hf)
  · have hall : ∀ f ∈ frame :: replay, names f.origin.episodeInfo = ids := by
      rcases hfrom with ⟨hreplay, -⟩ | ⟨-, hready⟩
      · rw [← hreplay]
        exact h.replay
      · exact h.ready _ hready
    refine ⟨hall frame List.mem_cons_self, ⟨h.obsMsg, ?_, ?_, nofun, nofun⟩⟩
    · intro f hf
      exact hall f (List.mem_cons_of_mem _ hf)
    · rintro m hm
      cases hm
      exact h.latest hmsg

theorem PlansFor.landed (h : PlansFor ids flying group) {request : PredictRequest Id} {frames : List (Frame Id)}
    (hfly : flying = [request]) (hfrom : ∀ frame ∈ frames, frame.origin = request) :
    PlansFor ids [] (group.landed deliver frames) := by
  have hframes : group.predict = .inFlight false → ∀ frame ∈ frames, names frame.origin.episodeInfo = ids := by
    intro hp frame hframe
    rw [hfrom frame hframe]
    exact h.flying hp request (by rw [hfly]; exact List.mem_singleton_self _)
  rcases group.landed_cases deliver frames with ⟨hp, msg, -, hempty, hmsg, he⟩ | ⟨hp, -, he⟩ | ⟨hp, -, he⟩ |
    ⟨hp, -, he⟩ | ⟨hp, he⟩ <;> rw [he]
  · refine ⟨h.obsMsg, h.replay, ?_, nofun, nofun⟩
    rintro m hm
    cases hm
    exact h.latest hmsg
  · exact ⟨h.obsMsg, h.replay, nofun, nofun, nofun⟩
  · exact ⟨h.obsMsg, hframes hp, nofun, nofun, nofun⟩
  · refine ⟨h.obsMsg, h.replay, nofun, ?_, nofun⟩
    rintro fs hfs
    cases hfs
    exact hframes hp
  · exact ⟨h.obsMsg, h.replay, h.wanted, h.ready, fun _ request hr => nomatch hr⟩

/-- An observation of `ids` is taken in by a group that has nothing planned for
other ids. -/
theorem PlansFor.observe (h : group.observe deliver msg = some after) (hfresh : names msg.episodeInfo = ids)
    (hreplay : ∀ frame ∈ group.replay, names frame.origin.episodeInfo = ids)
    (hwanted : ∀ m, group.predict = .wanted m → names m.episodeInfo = ids)
    (hready : ∀ frames, group.predict = .ready frames → ∀ frame ∈ frames, names frame.origin.episodeInfo = ids)
    (hflying : group.predict = .inFlight false → ∀ request ∈ flying, names request.episodeInfo = ids) : PlansFor ids flying after := by
  obtain ⟨own, predict, history, rfl, ⟨hempty, hnone, rfl, hown, -⟩ | ⟨-, rfl, rfl, -⟩⟩ := group.observe_some deliver h
  · have hnamed : names own.episodeInfo = ids := by
      rw [hown]
      split
      · rw [Group.stamp_episodeInfo]
        exact hfresh
      · exact hfresh
    refine ⟨?_, hreplay, ?_, nofun, nofun⟩
    · rintro m hm
      cases hm
      exact hnamed
    · rintro m hm
      cases hm
      exact hnamed
  · refine ⟨?_, hreplay, hwanted, hready, hflying⟩
    rintro m hm
    cases hm
    rw [Group.stamp_episodeInfo]
    exact hfresh

/-! ## Every move keeps frames and episodes together -/

theorem Launched.framesFit (h : Launched cfg gid s) : FramesFit s := by
  cases h with
  | retired | reset => exact ⟨fun _ h => (by cases h), nofun⟩
  | dead => exact ⟨nofun, nofun⟩

theorem Move.framesFit (hm : Move cfg gid RollsBare s s') (hl : Live cfg gid s) (h : FramesFit s) : FramesFit s' := by
  cases hm with
  | minted more => exact ⟨h.plans, h.played⟩
  | skipped group halive hready ht =>
    have hsame := s.group.takeFrame_none _ _ ht (fun hp => (hl halive).chunk [] hp rfl)
    rw [hsame.1]
    exact h
  | dispatched frame group request halive hready ht =>
    obtain ⟨hframe, hplans⟩ := (h.plans halive (by rw [hready]; rfl)).takeFrame ht
    refine ⟨fun _ _ => ⟨hplans.obsMsg, hplans.replay, hplans.wanted, hplans.ready, hplans.flying⟩, ?_⟩
    rintro f r hop
    cases hop
    exact hframe
  | sent msg halive hw =>
    refine ⟨fun _ hphase => ?_, h.played⟩
    have hplans := h.plans halive hphase
    -- Nothing else of the group's is in flight.
    have hfly : s.flying = [] := by
      by_contra hne
      rcases (hl halive).landing hne with hin | hidle
      · rw [hw] at hin
        cases hin
      · rw [show s.group.phase = .idle from hidle] at hphase
        cases hphase
    refine ⟨hplans.obsMsg, hplans.replay, nofun, nofun, fun _ request hr => ?_⟩
    rw [hfly, List.nil_append, List.mem_singleton] at hr
    rw [hr]
    exact hplans.wanted msg hw
  | landed request frames halive hfly _ hfrom =>
    have hphase : (s.group.landed cfg.deliverHistory frames).phase = s.group.phase ∧
        (s.group.landed cfg.deliverHistory frames).op = s.group.op := by
      rcases s.group.landed_cases cfg.deliverHistory frames with ⟨-, _, -, -, -, he⟩ | ⟨-, -, he⟩ | ⟨-, -, he⟩ |
        ⟨-, -, he⟩ | ⟨-, he⟩ <;> rw [he] <;> exact ⟨rfl, rfl⟩
    refine ⟨fun _ hp => ?_, fun f r hop => h.played f r (hphase.2 ▸ hop)⟩
    exact (h.plans halive (hphase.1 ▸ hp)).landed hfly hfrom
  | started initial request ids slots msg group halive hop hpending hfresh hobs =>
    have hcleared := (hl halive).cleared ((hl halive).op.resetting hop)
    have hop' : group.op = none := by
      obtain ⟨_, _, _, rfl, -⟩ := Group.observe_some _ _ hobs
      rfl
    refine ⟨fun _ _ => PlansFor.observe hobs hfresh.named ?_ ?_ ?_ ?_, fun f r hstep => nomatch hop'.symm.trans hstep⟩
    · intro frame hframe
      rw [show s.group.replay = [] from hcleared.1] at hframe
      cases hframe
    all_goals
      rcases hcleared.2.2.2 with hq | hq
      · simp [hq]
      · simp [hq]
  | stopped frame request completes rolls events minted =>
    have hop := (settle_op s (cfg.spec.lanes gid) completes rolls events minted).1
    exact ⟨fun _ h => (by cases h), fun f r hstep => nomatch hop.symm.trans hstep⟩
  | restarted => exact ⟨fun _ h => (by cases h), nofun⟩
  | observed frame request completes rolls events minted msg group halive hop hbare _ _ _ hfresh hobs =>
    have hphase := (hl halive).op.stepping hop
    have hplans := h.plans halive (by rw [hphase]; rfl)
    have hop' : group.op = none := by
      obtain ⟨_, _, _, rfl, -⟩ := Group.observe_some _ _ hobs
      exact (settle_op s (cfg.spec.lanes gid) completes rolls events minted).1
    refine ⟨fun _ _ => ?_, fun f r hstep => nomatch hop'.symm.trans hstep⟩
    cases completes with
    | true =>
      -- Everything planned was flushed.
      have hflush := (hl halive).settle_fields hop true rolls events minted
      refine PlansFor.observe hobs hfresh.named (fun f hf => ?_) ?_ ?_ ?_
      · cases hf
      all_goals
        rcases hflush.2.2.2.2.2 rfl with hq | hq
        · simp [hq]
        · simp [hq]
    | false =>
      cases hroll : s.group.pendingRoll with
      | nil =>
        -- The lanes go on with the ids they had.
        have hids : episodeIdsWithRoll s.ids (cfg.spec.lanes gid) s.group.pendingRoll = s.ids := by rw [hroll]; rfl
        rw [hids] at hfresh
        show PlansFor (episodeIdsWithRoll s.ids (cfg.spec.lanes gid) s.group.pendingRoll) _ _
        rw [hids]
        exact PlansFor.observe hobs hfresh.named hplans.replay hplans.wanted hplans.ready hplans.flying
      | cons entry rest =>
        obtain ⟨hreplay, hnone⟩ := hbare (by rw [hroll]; exact List.cons_ne_nil _ _) rfl
        have hpredict : s.group.predict = .none := by
          cases hp : s.group.predict <;> rw [hp] at hnone <;> first | rfl | cases hnone
        refine PlansFor.observe hobs hfresh.named ?_ ?_ ?_ ?_
        · intro f hf
          rw [show (s.settle (cfg.spec.lanes gid) false rolls events minted).group.replay = [] from hreplay] at hf
          cases hf
        all_goals
          rw [show (s.settle (cfg.spec.lanes gid) false rolls events minted).group.predict = .none from hpredict]
          exact nofun
  | failed group ids flying more _ hop _ _ => exact ⟨nofun, fun f r hstep => nomatch hop.symm.trans hstep⟩
  | killed => exact ⟨nofun, h.played⟩
  | drained flying hdead => exact ⟨fun halive => (nomatch hdead.symm.trans halive), h.played⟩

/-! ## Frames and episode boundaries -/

/-- In every run whose rolls are observed bare, the frame a step plays was
predicted from a request that named, for each lane of the group (rolling or
not), the episode in its slot. -/
theorem frame_stays_in_episode {s : Session Id R} (h : cfg.runs.Reach (cfg.StepsMeet RollsBare) s)
    (hg : gid < cfg.spec.groupCount) {frame : Frame Id} {request : StepRequest Id}
    (hop : (s.driver.groups gid).op = some (.step frame request)) {position lane : Nat}
    (hlane : (cfg.spec.lanes gid)[position]? = some lane) :
    (frame.origin.episodeInfo[position]?).map (·.episodeId) = some (s.driver.route.slotId lane) := by
  obtain ⟨-, hfit⟩ := reach_station (fun _ => FramesFit) (fun _ _ h => h.framesFit)
    (fun _ _ _ hl h hm => hm.framesFit hl h) h hg
  have hnames : names frame.origin.episodeInfo = s.driver.route.episodeIdsAt (cfg.spec.lanes gid) :=
    hfit.played frame request hop
  have hget := congrArg (·[position]?) hnames
  simpa [names, RouteState.episodeIdsAt, hlane] using hget

/-- The env is stepping. -/
def EnvOp.isStep : EnvOp Nat Int → Bool
  | .step _ _ => true
  | .reset _ _ => false

/-- A one-lane NEXT_STEP route whose model answers with one frame at a time: the
lane's first step ends its episode, the second rolls it, the third plays a frame
of the new episode. -/
theorem frame_stays_in_rolled_episode :
    ∃ (s : Session Nat Int) (frame : Frame Nat) (request : StepRequest Nat),
      (s.driver.groups 0).op = some (.step frame request) ∧ s.driver.route.slotId 0 = 2 ∧
      (frame.origin.episodeInfo[0]?).map (·.episodeId) = some (s.driver.route.slotId 0) := by
  obtain ⟨s, hr, hp⟩ := System.exists_reach_of_runFrom (smallConfig (smallSpec 1 1 false)).runs
    ((smallConfig (smallSpec 1 1 false)).StepsMeet RollsBare)
    (fun s => s.control.alive && decide (s.driver.route.slotId 0 = 2) && (s.driver.groups 0).op.any EnvOp.isStep)
    [.launch 0 none, plainTurn [], resetLands 0, plainTurn [], predictLands .resetObservation 1 1, plainTurn [],
      stepLands 0 [(1, 0)], plainTurn [], predictLands .stepObservation 2 1, plainTurn [],
      stepLands 0 [], plainTurn [], predictLands .stepObservation 3 1, plainTurn []] (by decide +kernel) (by decide +kernel)
  simp only [Bool.and_eq_true, decide_eq_true_eq] at hp
  cases hop : (s.driver.groups 0).op with
  | none => rw [hop] at hp; cases hp.2
  | some op =>
    cases op with
    | reset => rw [hop] at hp; cases hp.2
    | step frame request =>
      exact ⟨s, frame, request, hop, hp.1.2, frame_stays_in_episode hr (by decide) hop rfl⟩

/-- On the same route with chunks of two frames, the second frame predicted from
the ended episode's terminal observation (request 2, naming id 1) is played after
the roll, when the lane's slot holds id 2 and no roll is pending. -/
theorem leftover_frame_crosses_roll :
    ∃ s : Session Nat Int, (smallConfig (smallSpec 1 1 false)).runs.Reach (fun _ _ => True) s ∧
      (match (s.driver.groups 0).op with
        | some (.step frame _) =>
          decide ((s.driver.groups 0).pendingRoll.map Prod.fst = []) &&
            decide ((frame.origin.episodeInfo[0]?).map (·.episodeId) = some 1) &&
            decide (s.driver.route.slotId 0 = 2)
        | _ => false) = true :=
  System.exists_reach_of_runFrom _ _ _
    [.launch 0 none, plainTurn [], resetLands 0, plainTurn [], predictLands .resetObservation 1 2, plainTurn [],
      stepLands 0 [(1, 0)], plainTurn [], predictLands .stepObservation 2 2, plainTurn [],
      stepLands 0 [], plainTurn []] (by decide +kernel) (by decide +kernel)

end Rlmesh.Runtime
