import Rlmesh.Runtime.Effects
/-!
# The driver moves its stations

Every transition of the driver is a sequence of moves of each of its stations:
the group it serves makes its own move, and the others at most see ids drawn. So
what holds of a launched station and is kept by every move holds of every
station along every run (`reach_station`).
-/
open Rlmesh.Wire

set_option linter.unusedSectionVars false

namespace Rlmesh.Runtime

variable {Id R : Type} [DecidableEq Id] [Inhabited Id] [Zero R] [Add R] [BEq R]

variable {cfg : DriverConfig Id R} {gid g : Nat} {d d' d'' : Driver Id R} {alive : Bool}
  {C : Station Id R → Bool → Prop} {p : Inputs}

/-! ## A transition and its outcome -/

theorem Within.failed (h : Within cfg gid d d') (hop : (d'.groups gid).op = none)
    (hobs : (d'.groups gid).observed = (d.groups gid).observed)
    (hnext : Next (cfg.spec.lanes gid) (cfg.station gid true d) (d'.route.episodeIdsAt (cfg.spec.lanes gid)))
    (hrows : (d'.groups gid).history = (d.groups gid).history ∨ ∃ frame after, (d.groups gid).phase = .ready ∧
      (d.groups gid).takeFrame cfg.prefetchLead cfg.deliverHistory = (some frame, after) ∧
      (d'.groups gid).history = after.history) :
    Tracked cfg gid C p (cfg.station gid true d) (cfg.station gid false d') := by
  obtain ⟨more, hm⟩ := h.minted
  have he : cfg.station gid false d' =
      { cfg.station gid true d with
        group := d'.groups gid, ids := d'.route.episodeIdsAt (cfg.spec.lanes gid)
        flying := requestsOf gid d'.predicts.flatten
        mintedFor := (cfg.station gid true d).mintedFor ++ more, alive := false } := by
    simp only [DriverConfig.station, h.sent, hm]
  refine .ended ?_ rfl hobs (hrows.imp_right ?_)
  · rw [he]
    exact .failed _ _ _ _ more rfl hop hobs hnext
  · rintro ⟨frame, after, htaken⟩
    exact ⟨frame, after, rfl, htaken⟩

/-- A transition that served one group: the group's station moved, and nothing else changed. -/
structure Served (cfg : DriverConfig Id R) (gid : Nat) (C : Station Id R → Bool → Prop) (p : Inputs)
    (d : Driver Id R) (o : Outcome Id R) : Prop where
  within : Within cfg gid d o.1
  moves : Track cfg gid C p (cfg.station gid true d) (cfg.station gid o.2.isNone o.1)

theorem Tracked.killed (s : Station Id R) : Tracked cfg g C p s { s with alive := false } := .ended (.killed s) rfl rfl (.inl rfl)

theorem Served.all {o : Outcome Id R} (h : Served cfg gid C p d o) (hgid : gid < cfg.spec.groupCount)
    (hg : g < cfg.spec.groupCount) : Track cfg g C p (cfg.station g true d) (cfg.station g o.2.isNone o.1) := by
  by_cases hne : g = gid
  · subst hne
    exact h.moves
  · have hmoves : Track cfg g C p (cfg.station g true d) (cfg.station g true o.1) := h.within.bystander hg hgid hne
    cases ho : o.2 with
    | none => exact hmoves
    | some e => exact hmoves.tail (.killed _)

/-! ## What comes back -/

theorem observe_observed {deliver : Bool} {msg : PredictRequest Id} {group after : Group Id R}
    (h : group.observe deliver msg = some after) {q : Option Leaves → Prop} (hq : q msg.observation) :
    ∀ m ∈ after.observed, m ∈ group.observed ∨ q m.observation := by
  obtain ⟨_, _, _, rfl, -⟩ := group.observe_some deliver h
  intro m hm
  refine (List.mem_append.mp hm).imp_right (fun hm => ?_)
  rw [List.mem_singleton.mp hm, Group.stamp]
  split <;> exact hq

theorem onReset_served {initial : Bool} {request : ResetRequest Id R} (answer : Except RuntimeError (ResetResponse R))
    (now : Int) (transformed : Transformed) (hlive : Live cfg gid (cfg.station gid true d))
    (hop : (d.groups gid).op = some (.reset initial request))
    (hq : ∀ leaves, transformed = .ok leaves → p.observation leaves) :
    Served cfg gid C p d (cfg.onReset gid initial answer now transformed d) := by
  have hhome : Within cfg gid d (d.updateGroup gid (fun group => { group with op := none })) := within_updateGroup _
  have hstart := (hlive rfl).op
  have hphase := hstart.resetting hop
  unfold OpFits at hstart
  rw [hphase] at hstart
  obtain ⟨_, _, ids, slots, -, hpending, hlen⟩ := hstart
  unfold DriverConfig.onReset
  cases answer with
  | error e =>
    refine ⟨hhome, .single (hhome.failed ?_ ?_ (.inl rfl) (.inl ?_))⟩
    · rw [updateGroup_self]
    · rw [updateGroup_self]
    · rw [updateGroup_self]
  | ok response =>
    dsimp only
    rw [updateGroup_self]
    simp only [show (d.groups gid).pendingStart = some (ids, slots) from hpending]
    -- The episodes start: the group's slots hold the staged ids.
    generalize hd : (Driver.emit _ _ : Driver Id R) = started
    have hw : Within cfg gid d started := by
      subst hd
      refine ⟨fun g hg => ?_, fun lane hl => ?_, rfl, fun _ => rfl, [], by simp [Driver.emit, Driver.updateGroup]⟩
      · simp [Driver.emit, Driver.updateGroup, hg]
      · exact RouteState.slotId_of_episode
          (congrArg SlotState.episode (d.route.slots_startEpisodesAt_of_notMem _ _ _ _ _ hl))
    have hgroup : started.groups gid = { d.groups gid with op := none, pendingStart := none } := by
      subst hd
      simp [Driver.emit, Driver.updateGroup]
    have hids : started.route.episodeIdsAt (cfg.spec.lanes gid) = ids := by
      subst hd
      exact d.route.episodeIdsAt_startEpisodesAt now (cfg.spec.lanes_nodup gid) hlen (!initial) slots
    rcases observe_outcome cfg gid started response.observation response.infos
      .resetObservation true transformed with ⟨e, hk, he⟩ | ⟨msg, group, after, hk, hfresh, hmsg, hobs, he⟩
    · have hw' : Within cfg gid d _ := hw.trans hk.within
      refine ⟨hw', ?_⟩
      rw [he]
      refine .single (hw'.failed ?_ ?_ (.inr (.inl ⟨slots, hphase, ?_⟩)) (.inl ?_))
      · rw [hk.groups, hgroup]
      · rw [hk.groups, hgroup]
      · rw [RouteState.episodeIdsAt_congr (fun lane _ => hk.ids lane), hids]
        exact hpending
      · rw [hk.groups, hgroup]
    · rw [he]
      have hw' : Within cfg gid d (after.updateGroup gid (fun _ => group)) :=
        (hw.trans hk.within).trans (within_updateGroup _)
      refine ⟨hw', .single ?_⟩
      rw [hids] at hfresh
      rw [hgroup] at hobs
      have hsame : cfg.station gid true (after.updateGroup gid (fun _ => group)) =
          { cfg.station gid true d with group, ids } := by
        rw [station_observed hk]
        obtain ⟨more, hm⟩ := hw.minted
        have hmore : more = [] := by
          subst hd
          simpa [Driver.emit, Driver.updateGroup] using hm
        subst hmore
        simp only [DriverConfig.station, hids, hw.predicts, hw.sent, hm, List.append_nil]
      rw [show (none : Option RuntimeError).isNone = true from rfl, hsame]
      exact .plain (.started _ initial request ids slots msg group rfl hop hpending hfresh hobs) (Nat.le_refl _) rfl
        (observe_observed hobs (hq _ hmsg))

theorem onStep_served {frame : Frame Id} {request : StepRequest Id} (answer : Except RuntimeError (StepResponse Id R))
    (now : Int) (transformed : Transformed) (hlive : Live cfg gid (cfg.station gid true d))
    (hop : (d.groups gid).op = some (.step frame request))
    (hC : ∀ response, answer = .ok response → cfg.goesOn gid response now d = true →
      C (cfg.station gid true d) (!(cfg.stepEnds gid response now d).isEmpty))
    (hq : ∀ leaves, transformed = .ok leaves → p.observation leaves) :
    Served cfg gid C p d (cfg.onStep gid answer now transformed d) := by
  have hphase := (hlive rfl).op.stepping hop
  cases answer with
  | error e =>
    have hhome : Within cfg gid d (d.updateGroup gid (fun group => { group with op := none })) := within_updateGroup _
    refine ⟨hhome, .single (hhome.failed ?_ ?_ (.inl rfl) (.inl ?_))⟩
    · rw [updateGroup_self]
    · rw [updateGroup_self]
    · rw [updateGroup_self]
  | ok response =>
    obtain ⟨hw, rolls, events, hrolls, hkeys, hs⟩ :=
      settle_station cfg gid d true response (cfg.stepEnds gid response now d) now
    have hgroup : (cfg.settled gid response now d).groups gid = _ := congrArg Station.group hs
    have hsame : ∀ completes rolls events minted, ∀ m ∈ ((cfg.station gid true d).settle (cfg.spec.lanes gid) completes
        rolls events minted).group.observed, m ∈ (d.groups gid).observed ∨ p.observation m.observation := by
      intro completes rolls events minted m hm
      rw [(settle_op _ _ completes rolls events minted).2] at hm
      exact .inl hm
    have hminted : (cfg.settled gid response now d).mintedFor = d.mintedFor ++ List.replicate rolls.length gid :=
      congrArg Station.mintedFor hs
    have hsettled : cfg.station gid true (cfg.settled gid response now d) =
        (cfg.station gid true d).settle (cfg.spec.lanes gid) (!(cfg.stepEnds gid response now d).isEmpty) rolls events
          (List.replicate rolls.length gid) := hs
    rw [onStep_eq]
    split
    · obtain ⟨hws, hss⟩ := stop_station cfg gid (cfg.settled gid response now d) true
      refine ⟨hw.trans hws, .single ?_⟩
      have hmove : Tracked cfg gid C p (cfg.station gid true d) _ := .plain (.stopped (cfg.station gid true d) frame
        request (!(cfg.stepEnds gid response now d).isEmpty) [] [] (List.replicate rolls.length gid) rfl hop)
        (Nat.le_refl _) rfl (hsame _ _ _ _)
      rw [show (none : Option RuntimeError).isNone = true from rfl, hss, hgroup, hsettled]
      cases hends : (cfg.stepEnds gid response now d).isEmpty with
      | true => rw [hends] at hmove; exact hmove
      | false => rw [hends] at hmove; exact hmove
    · rename_i hstops
      split
      · rename_i hrestart
        rw [Bool.and_eq_true] at hrestart
        rw [hrestart.2] at hsettled
        obtain ⟨hwr, hsr⟩ := beginReset_station cfg gid (cfg.settled gid response now d) true false
        refine ⟨hw.trans hwr, .single ?_⟩
        rw [show (none : Option RuntimeError).isNone = true from rfl]
        rcases hsr with hsr | ⟨resetRequest, ids, slots, minted', hlen, hmints, hsr⟩
        · rw [hsr, show (cfg.settled gid response now d).groups gid = _ from congrArg Station.group hsettled, hsettled]
          exact .plain (.stopped _ frame request true rolls events _ rfl hop) (Nat.le_refl _) rfl (hsame _ _ _ _)
        · rw [hsr, hsettled]
          rw [hminted] at hmints
          exact .plain (.restarted _ frame request rolls events _ false resetRequest ids slots _ minted' rfl hop
            hrestart.1 hlen hmints) (Nat.le_refl _) rfl (hsame _ _ _ _)
      · rename_i hrestart
        have hgoes : cfg.goesOn gid response now d = true := by
          rw [DriverConfig.goesOn, Bool.and_eq_true, Bool.not_eq_true', Bool.not_eq_true']
          exact ⟨Bool.eq_false_iff.mpr hstops, Bool.eq_false_iff.mpr hrestart⟩
        have hnone := settle_op (cfg.station gid true d) (cfg.spec.lanes gid)
          (!(cfg.stepEnds gid response now d).isEmpty) rolls events (List.replicate rolls.length gid)
        rcases observe_outcome cfg gid (cfg.settled gid response now d) response.observation
          (if !(d.groups gid).pendingRoll.isEmpty then response.infos else none) .stepObservation false transformed with
          ⟨e, hk, he⟩ | ⟨msg, group, after, hk, hfresh, hmsg, hobs, he⟩
        · have hw' : Within cfg gid d _ := hw.trans hk.within
          refine ⟨hw', ?_⟩
          rw [he]
          refine .single (hw'.failed ?_ ?_ (.inr (.inr ⟨hphase, ?_⟩)) (.inl ?_))
          · rw [hk.groups, hgroup, hnone.1]
          · rw [hk.groups, hgroup, hnone.2]
            rfl
          · rw [RouteState.episodeIdsAt_congr (fun lane _ => hk.ids lane)]
            exact congrArg Station.ids hsettled
          · rw [hk.groups, hgroup]
            cases (cfg.stepEnds gid response now d).isEmpty <;> rfl
        · rw [he]
          have hw' : Within cfg gid d (after.updateGroup gid (fun _ => group)) :=
            (hw.trans hk.within).trans (within_updateGroup _)
          refine ⟨hw', .single ?_⟩
          rw [show (none : Option RuntimeError).isNone = true from rfl, station_observed hk, hsettled]
          have hids : (cfg.settled gid response now d).route.episodeIdsAt (cfg.spec.lanes gid) = _ :=
            congrArg Station.ids hsettled
          rw [hids] at hfresh
          rw [hgroup] at hobs
          refine .plain (.observed _ frame request _ rolls events _ msg group rfl hop (hC response rfl hgoes) ?_ ?_ ?_
            hfresh hobs) (Nat.le_refl _) rfl (fun m hm => ?_)
          · intro hends
            rw [hends, Bool.and_true, Bool.not_eq_true] at hrestart
            exact hrestart
          · -- Nothing rolls unless something completed.
            intro hends
            simp only [Bool.not_eq_false', List.isEmpty_iff] at hends
            rw [hends] at hkeys
            refine List.eq_nil_iff_forall_not_mem.mpr (fun entry hentry => ?_)
            have hlane := (hkeys entry.1).mp (List.mem_map_of_mem hentry)
            exact nomatch hlane.2
          · exact hrolls.mints
          · exact (observe_observed hobs (hq _ hmsg) m hm).elim (hsame _ _ _ _ m) .inr

/-! ## Dispatch -/

theorem takeFrame_op {lead : Nat} {deliver : Bool} {group after : Group Id R} {frame : Option (Frame Id)}
    (h : group.takeFrame lead deliver = (frame, after)) : after.op = group.op ∧ after.observed = group.observed := by
  cases frame with
  | some frame =>
    obtain ⟨_, _, _, rfl, -⟩ := group.takeFrame_some lead deliver h
    exact ⟨rfl, rfl⟩
  | none =>
    unfold Group.takeFrame at h
    split at h
    · rw [Prod.mk.injEq] at h
      rw [← h.2]
      unfold Group.refill
      split <;> exact ⟨rfl, rfl⟩
    · cases h

theorem dispatchStep_served (transformed : Transformed) (hlive : Live cfg gid (cfg.station gid true d)) :
    Served cfg gid C p d (cfg.dispatchStep gid transformed d) := by
  unfold DriverConfig.dispatchStep
  split
  · rename_i hready
    have hop : (d.groups gid).op = none := by
      have hfits := (hlive rfl).op
      unfold OpFits at hfits
      rw [show (cfg.station gid true d).group.phase = .ready from hready] at hfits
      exact hfits
    have hkept : ∀ {frame group}, (d.groups gid).takeFrame cfg.prefetchLead cfg.deliverHistory = (frame, group) →
        ∀ m ∈ group.observed, m ∈ (d.groups gid).observed ∨ p.observation m.observation := by
      intro frame group ht m hm
      exact .inl ((takeFrame_op ht).2 ▸ hm)
    split
    · rename_i group ht
      have hw : Within cfg gid d (d.updateGroup gid (fun _ => group)) := within_updateGroup _
      refine ⟨hw, .single ?_⟩
      rw [show (none : Option RuntimeError).isNone = true from rfl, station_updateGroup]
      exact .plain (.skipped _ group rfl hready ht) (Nat.le_refl _) rfl (hkept ht)
    · rename_i frame group ht
      dsimp only
      split
      · rename_i e
        have hw : Within cfg gid d ((d.updateGroup gid (fun _ => group)).emit
            [.transformAction (cfg.actionEvent gid frame d.route)]) :=
          (within_updateGroup _).trans (keeps_emit _).within
        refine ⟨hw, .single (hw.failed ?_ ?_ (.inl rfl) (.inr ⟨frame, group, hready, ht, ?_⟩))⟩
        · rw [(keeps_emit _).groups, updateGroup_self, (takeFrame_op ht).1, hop]
        · rw [(keeps_emit _).groups, updateGroup_self, (takeFrame_op ht).2]
        · rw [(keeps_emit _).groups, updateGroup_self]
      · rename_i action
        refine ⟨(((within_updateGroup _).trans (keeps_emit _).within).trans (keeps_emit _).within).trans
          (within_updateGroup _), .single ?_⟩
        rw [show (none : Option RuntimeError).isNone = true from rfl, station_updateGroup, (keeps_emit _).groups,
          (keeps_emit _).groups, updateGroup_self, (keeps_emit _).station, (keeps_emit _).station, station_updateGroup]
        exact .plain (.dispatched _ frame group _ rfl hready ht) (Nat.le_refl _) rfl (fun m hm => hkept ht m hm)
  · exact ⟨⟨fun _ _ => rfl, fun _ _ => rfl, rfl, fun _ => rfl, [], (List.append_nil _).symm⟩, .refl⟩

theorem Track.keep {P : Station Id R → Prop} (hmove : ∀ s s', Live cfg g s → P s → Tracked cfg g C p s s' → P s')
    {s s' : Station Id R} (h : Track cfg g C p s s') (hs : Live cfg g s ∧ P s) : Live cfg g s' ∧ P s' := by
  induction h with
  | refl => exact hs
  | tail _ hm ih => exact ⟨hm.move.live ih.1, hmove _ _ ih.1 ih.2 hm⟩

theorem Track.live {s s' : Station Id R} (h : Track cfg g C p s s') (hl : Live cfg g s) : Live cfg g s' :=
  (h.keep (P := fun _ => True) (fun _ _ _ _ _ => trivial) ⟨hl, trivial⟩).1

theorem dispatchSteps_moves (transformed : Nat → Transformed) (gids : List Nat)
    (hgids : ∀ gid ∈ gids, gid < cfg.spec.groupCount)
    (hlive : ∀ g, g < cfg.spec.groupCount → Live cfg g (cfg.station g true d)) (hg : g < cfg.spec.groupCount) :
    Track cfg g C p (cfg.station g true d)
      (cfg.station g (cfg.dispatchSteps transformed gids d).2.isNone (cfg.dispatchSteps transformed gids d).1) := by
  induction gids generalizing d with
  | nil => exact .refl
  | cons gid rest ih =>
    have hgid := hgids gid List.mem_cons_self
    have hmove : ∀ g, g < cfg.spec.groupCount → Track cfg g C p (cfg.station g true d)
        (cfg.station g (cfg.dispatchStep gid (transformed gid) d).2.isNone
          (cfg.dispatchStep gid (transformed gid) d).1) :=
      fun g hg => (dispatchStep_served (transformed gid) (hlive gid hgid)).all hgid hg
    unfold DriverConfig.dispatchSteps
    split
    · rename_i after e he
      rw [he] at hmove
      exact hmove g hg
    · rename_i after he
      rw [he] at hmove
      refine (hmove g hg).trans (ih (fun gid h => hgids gid (List.mem_cons_of_mem _ h)) (fun g hg => ?_))
      exact (hmove g hg).live (hlive g hg)

/-! ## Predictions -/

theorem requestsOf_append (gid : Nat) (requests more : List (Nat × PredictRequest Id)) :
    requestsOf gid (requests ++ more) = requestsOf gid requests ++ requestsOf gid more := by
  simp [requestsOf]

theorem requestsOf_cons (gid : Nat) (request : Nat × PredictRequest Id) (rest : List (Nat × PredictRequest Id)) :
    requestsOf gid (request :: rest) = (if request.1 = gid then [request.2] else []) ++ requestsOf gid rest := by
  by_cases h : request.1 = gid <;> simp [requestsOf, h]

variable {requests : List (Nat × PredictRequest Id)} {s s' : Session Id R} {e : Event Id R}

theorem sendPredicts_moves (chosen : List Nat) (h : cfg.sendPredicts chosen d = some (requests, d'))
    (flying : List (PredictRequest Id)) :
    d'.predicts = d.predicts ∧
    Track cfg g C p { cfg.station g true d with flying }
      { cfg.station g true d' with flying := flying ++ requestsOf g requests } := by
  induction chosen generalizing d requests flying with
  | nil =>
    rw [DriverConfig.sendPredicts, Option.some.injEq, Prod.mk.injEq] at h
    obtain ⟨rfl, rfl⟩ := h
    rw [show requestsOf g ([] : List (Nat × PredictRequest Id)) = [] from rfl, List.append_nil]
    exact ⟨rfl, .refl⟩
  | cons gid rest ih =>
    unfold DriverConfig.sendPredicts at h
    split at h
    · cases h
    · rename_i msg sent hsend
      split at h
      · cases h
      · rename_i others after hrest
        cases h
        -- The first group's request goes out.
        unfold DriverConfig.sendPredict at hsend
        split at hsend
        · rename_i wanted hw
          simp only [Option.some.injEq, Prod.mk.injEq] at hsend
          obtain ⟨rfl, rfl⟩ := hsend
          obtain ⟨hpred, hmoves⟩ := ih hrest (flying ++ if gid = g then [wanted] else [])
          refine ⟨hpred, ?_⟩
          rw [requestsOf_cons, ← List.append_assoc]
          refine Relation.ReflTransGen.trans ?_ hmoves
          have hids : (d.route.markPredicted (cfg.spec.lanes gid)).episodeIdsAt (cfg.spec.lanes g) =
              d.route.episodeIdsAt (cfg.spec.lanes g) :=
            RouteState.episodeIdsAt_congr (fun lane _ => d.route.slotId_markPredicted _ lane)
          by_cases hgid : gid = g
          · subst hgid
            refine .single ?_
            rw [if_pos rfl]
            have hmove : Tracked cfg gid C p { cfg.station gid true d with flying } _ :=
              .plain (.sent _ wanted rfl hw) (by simp) rfl (fun _ => .inl)
            simpa [DriverConfig.station, hids, Driver.sent] using hmove
          · rw [if_neg hgid, List.append_nil]
            have hsame : Function.update d.groups gid { d.groups gid with predict := .inFlight false } g = d.groups g :=
              Function.update_of_ne (Ne.symm hgid) _ _
            simp only [DriverConfig.station, hids, hsame]
            simp [Driver.sent, hgid]
            exact .refl
        · cases hsend

/-- The groups that wait for a prediction. -/
def DriverConfig.waiting (cfg : DriverConfig Id R) (d : Driver Id R) : List Nat :=
  (List.range cfg.spec.groupCount).filter (fun gid => (d.groups gid).predict.isWanted)

/-- The groups whose requests go out on a turn. -/
def DriverConfig.chosen (cfg : DriverConfig Id R) (plan : List Nat) (force : Bool) (d : Driver Id R) : List Nat :=
  if (plan.filter (fun gid => decide (gid ∈ cfg.waiting d))).isEmpty && force then cfg.waiting d
  else plan.filter (fun gid => decide (gid ∈ cfg.waiting d))

theorem dispatchPredict_eq (plan : List Nat) (force : Bool) :
    cfg.dispatchPredict plan force d =
      if cfg.fusesPredicts && !d.predicts.isEmpty then (d, none)
      else if (cfg.chosen plan force d).isEmpty then (d, none)
      else match cfg.sendPredicts (cfg.chosen plan force d) d with
        | none => (d, some .panicked)
        | some (requests, sent) =>
          ({ sent with predicts := sent.predicts ++ if cfg.fusesPredicts then [requests] else requests.map ([·]) },
            none) := rfl

theorem dispatchPredict_moves (plan : List Nat) (force : Bool) :
    Track cfg g C p (cfg.station g true d)
      (cfg.station g (cfg.dispatchPredict plan force d).2.isNone (cfg.dispatchPredict plan force d).1) := by
  rw [dispatchPredict_eq]
  split
  · exact .refl
  · split
    · exact .refl
    · split
      · exact .single (.killed _)
      · rename_i requests sent hsend
        obtain ⟨hpred, hmoves⟩ := sendPredicts_moves (C := C) (p := p) (g := g) _ hsend (cfg.station g true d).flying
        refine hmoves.trans ?_
        have hflat : requestsOf g (sent.predicts ++
            if cfg.fusesPredicts = true then [requests] else requests.map ([·])).flatten =
            (cfg.station g true d).flying ++ requestsOf g requests := by
          rw [List.flatten_append, requestsOf_append, hpred]
          congr 1
          split
          · simp
          · rw [← List.flatMap_def, List.flatMap_singleton']
        simp only [Option.isNone_none, DriverConfig.station, hflat]
        exact .refl

theorem requestsOf_eraseIdx {predicts : List (List (Nat × PredictRequest Id))} {index : Nat}
    (h : predicts[index]? = some requests) (hone : (requestsOf g predicts.flatten).length ≤ 1) :
    (requestsOf g requests = [] ∧ requestsOf g (predicts.eraseIdx index).flatten = requestsOf g predicts.flatten) ∨
    (∃ request, requestsOf g requests = [request] ∧ requestsOf g predicts.flatten = [request] ∧
      requestsOf g (predicts.eraseIdx index).flatten = []) := by
  obtain ⟨hlt, hget⟩ := List.getElem?_eq_some_iff.mp h
  have hsplit : predicts = predicts.take index ++ requests :: predicts.drop (index + 1) := by
    rw [← hget, List.getElem_cons_drop, List.take_append_drop]
  have hall : requestsOf g predicts.flatten = requestsOf g (predicts.take index).flatten ++
      (requestsOf g requests ++ requestsOf g (predicts.drop (index + 1)).flatten) := by
    conv_lhs => rw [hsplit]
    rw [List.flatten_append, List.flatten_cons, requestsOf_append, requestsOf_append]
  have herase : requestsOf g (predicts.eraseIdx index).flatten = requestsOf g (predicts.take index).flatten ++
      requestsOf g (predicts.drop (index + 1)).flatten := by
    rw [List.eraseIdx_eq_take_drop_succ, List.flatten_append, requestsOf_append]
  rw [hall] at hone ⊢
  rw [herase]
  cases hr : requestsOf g requests with
  | nil => exact .inl ⟨rfl, rfl⟩
  | cons request rest =>
    rw [hr] at hone
    simp only [List.length_append, List.length_cons] at hone
    have h1 : requestsOf g (predicts.take index).flatten = [] := List.eq_nil_of_length_eq_zero (by omega)
    have h2 : rest = [] := List.eq_nil_of_length_eq_zero (by omega)
    have h3 : requestsOf g (predicts.drop (index + 1)).flatten = [] := List.eq_nil_of_length_eq_zero (by omega)
    exact .inr ⟨request, by rw [h2], by rw [h1, h2, h3]; rfl, by rw [h1, h3]; rfl⟩

/-- The frames an answer carries. -/
def chunkLength : Except RuntimeError PredictResponse → Nat
  | .ok response => response.actions.length
  | .error _ => 0

/-- The lengths of a predict call's answers satisfy `p`. -/
def Event.Chunks (p : Nat → Prop) : Event Id R → Prop
  | .predictDone _ (.ok results) => ∀ result ∈ results, p (chunkLength result)
  | _ => True

/-- The answers carry at most `bound` frames each. -/
abbrev Event.ChunksWithin (bound : Nat) : Event Id R → Prop := Event.Chunks (· ≤ bound)

instance (p : Nat → Prop) [DecidablePred p] : ∀ e : Event Id R, Decidable (e.Chunks p)
  | .predictDone _ (.ok results) => inferInstanceAs (Decidable (∀ result ∈ results, p (chunkLength result)))
  | .predictDone _ (.error _) | .launch _ _ | .turn _ _ | .resetDone _ _ _ _ | .stepDone _ _ _ _ | .envTaskFailed _
  | .cancelled _ | .finish _ => .isTrue trivial

/-- The observations that come back, as they are handed to the groups, satisfy `q`. -/
def Event.Observes (q : Option Leaves → Prop) : Event Id R → Prop
  | .resetDone _ _ _ (.ok leaves) | .stepDone _ _ _ (.ok leaves) => q leaves
  | _ => True

instance (q : Option Leaves → Prop) [DecidablePred q] : ∀ e : Event Id R, Decidable (e.Observes q)
  | .resetDone _ _ _ (.ok leaves) | .stepDone _ _ _ (.ok leaves) => inferInstanceAs (Decidable (q leaves))
  | .resetDone _ _ _ (.error _) | .stepDone _ _ _ (.error _) | .launch _ _ | .turn _ _ | .envTaskFailed _
  | .predictDone _ _ | .cancelled _ | .finish _ => .isTrue trivial

theorem Event.Observes.imp {q q' : Option Leaves → Prop} {e : Event Id R} (h : e.Observes q)
    (himp : ∀ leaves, q leaves → q' leaves) : e.Observes q' := by
  unfold Event.Observes at h ⊢
  split
  · exact himp _ h
  · exact himp _ h
  · trivial

/-- The evictions held behind a group's predict are released. -/
def Driver.release (gid : Nat) (d : Driver Id R) : Driver Id R :=
  { d with
    pendingEvictions := d.pendingEvictions ++ (d.heldEvictions.filter (fun held => held.1 = gid)).map (·.2)
    heldEvictions := d.heldEvictions.filter (fun held => held.1 ≠ gid) }

theorem land_cases (cfg : DriverConfig Id R) (d : Driver Id R) (gid : Nat) (request : PredictRequest Id) (result : Except RuntimeError PredictResponse) :
    (∃ e, cfg.land gid request result d = (d, some e)) ∨
    (∃ frames, frames ≠ [] ∧ (∀ frame ∈ frames, frame.origin = request) ∧ frames.length = chunkLength result ∧
      cfg.land gid request result d =
        ((d.updateGroup gid (Group.landed cfg.deliverHistory frames)).release gid, none)) := by
  unfold DriverConfig.land
  split
  · exact .inl ⟨_, rfl⟩
  · rename_i response
    split
    · exact .inl ⟨_, rfl⟩
    · split
      · exact .inl ⟨_, rfl⟩
      · rename_i hactions
        refine .inr ⟨_, ?_, ?_, ?_, rfl⟩
        · simpa using hactions
        · simp
        · simp [chunkLength]

theorem station_landed_of_ne (hne : g ≠ gid) (frames : List (Frame Id)) :
    cfg.station g true ((d.updateGroup gid (Group.landed cfg.deliverHistory frames)).release gid) = cfg.station g true d := by
  simp only [DriverConfig.station, Driver.release, Driver.updateGroup, Function.update_of_ne hne]
  rfl

theorem landAll_bystander (entries : List ((Nat × PredictRequest Id) × Except RuntimeError PredictResponse))
    (hnone : requestsOf g (entries.map Prod.fst) = []) :
    Track cfg g C p (cfg.station g true d) (cfg.station g (cfg.landAll entries d).2.isNone (cfg.landAll entries d).1) := by
  induction entries generalizing d with
  | nil => exact .refl
  | cons entry rest ih =>
    rw [List.map_cons, requestsOf_cons, List.append_eq_nil_iff] at hnone
    have hne : g ≠ entry.1.1 := by
      rintro rfl
      simp at hnone
    unfold DriverConfig.landAll
    rcases land_cases cfg d entry.1.1 entry.1.2 entry.2 with ⟨e, he⟩ | ⟨frames, -, -, -, he⟩
    · rw [he]
      exact .single (.killed _)
    · rw [he, ← station_landed_of_ne hne frames]
      exact ih hnone.2

theorem landAll_moves (entries : List ((Nat × PredictRequest Id) × Except RuntimeError PredictResponse))
    {request : PredictRequest Id} (hmine : requestsOf g (entries.map Prod.fst) = [request])
    (hfly : (cfg.station g true d).flying = []) (hp : ∀ entry ∈ entries, p.chunk (chunkLength entry.2)) :
    Track cfg g C p { cfg.station g true d with flying := [request] }
      (cfg.station g (cfg.landAll entries d).2.isNone (cfg.landAll entries d).1) := by
  induction entries generalizing d with
  | nil => cases hmine
  | cons entry rest ih =>
    rw [List.map_cons, requestsOf_cons] at hmine
    unfold DriverConfig.landAll
    rcases land_cases cfg d entry.1.1 entry.1.2 entry.2 with ⟨e, he⟩ | ⟨frames, hne, hfrom, hlen, he⟩
    · rw [he]
      have hdrained : cfg.station g false d =
          { ({ cfg.station g true d with flying := [request], alive := false } : Station Id R) with flying := [] } := by
        rw [← hfly]
        rfl
      refine Relation.ReflTransGen.tail (.single (.killed _)) ?_
      show Tracked cfg g C p _ (cfg.station g false d)
      rw [hdrained]
      exact .ended (.drained _ [] rfl) rfl rfl (.inl rfl)
    · rw [he]
      by_cases hg : entry.1.1 = g
      · rw [if_pos hg] at hmine
        obtain ⟨hreq, hrest⟩ : entry.1.2 = request ∧ requestsOf g (rest.map Prod.fst) = [] := by
          simpa using hmine
        refine Relation.ReflTransGen.trans (.single ?_) (landAll_bystander rest hrest)
        subst hg hreq
        have hland : cfg.station entry.1.1 true
            ((d.updateGroup entry.1.1 (Group.landed cfg.deliverHistory frames)).release entry.1.1) =
            { ({ cfg.station entry.1.1 true d with flying := [entry.1.2] } : Station Id R) with
              group := (d.groups entry.1.1).landed cfg.deliverHistory frames, flying := [] } := by
          rw [← hfly]
          simp only [DriverConfig.station, Driver.release, Driver.updateGroup, Function.update_self]
          rfl
        rw [hland]
        exact .landed _ entry.1.2 frames rfl rfl hne hfrom (hlen ▸ hp entry List.mem_cons_self)
      · rw [if_neg hg, List.nil_append] at hmine
        have hsame : _ = cfg.station g true d := station_landed_of_ne (Ne.symm hg) frames
        rw [← hsame]
        exact ih hmine (by rw [hsame]; exact hfly) (fun entry hentry => hp entry (List.mem_cons_of_mem _ hentry))

theorem onPredictOutcome_moves {index : Nat} {result : Except RuntimeError (List (Except RuntimeError PredictResponse))}
    (hp : (Event.predictDone index result : Event Id R).Chunks p.chunk) (hidx : d.predicts[index]? = some requests) (hlive : Live cfg g (cfg.station g true d)) :
    Track cfg g C p (cfg.station g true d)
      (cfg.station g (cfg.onPredictOutcome requests result { d with predicts := d.predicts.eraseIdx index }).2.isNone
        (cfg.onPredictOutcome requests result { d with predicts := d.predicts.eraseIdx index }).1) := by
  have hfail : ∀ e : RuntimeError, Track cfg g C p (cfg.station g true d)
      (cfg.station g (some e).isNone { d with predicts := d.predicts.eraseIdx index }) := fun e =>
    Relation.ReflTransGen.tail (.single (.killed _)) (.ended (.drained _ _ rfl) rfl rfl (.inl rfl))
  unfold DriverConfig.onPredictOutcome
  split
  · exact hfail _
  · rename_i results
    split
    · exact hfail _
    · rename_i hlen
      have hfst : (requests.zip results).map Prod.fst = requests := List.map_fst_zip (by omega)
      rcases requestsOf_eraseIdx hidx (hlive rfl).one with ⟨hnone, hsame⟩ | ⟨request, hmine, hfly, hrest⟩
      · have hstation : cfg.station g true d = cfg.station g true { d with predicts := d.predicts.eraseIdx index } := by
          simp only [DriverConfig.station, hsame]
          rfl
        rw [hstation]
        exact landAll_bystander _ (by rw [hfst]; exact hnone)
      · have hstation : cfg.station g true d =
            { cfg.station g true { d with predicts := d.predicts.eraseIdx index } with flying := [request] } := by
          simp only [DriverConfig.station, hfly]
          rfl
        rw [hstation]
        exact landAll_moves _ (by rw [hfst]; exact hmine) hrest
          (fun entry hentry => hp entry.2 (List.of_mem_zip hentry).2)

/-! ## Runs -/

/-- The stations of a session. -/
def DriverConfig.stationOf (cfg : DriverConfig Id R) (gid : Nat) (s : Session Id R) : Station Id R :=
  cfg.station gid s.control.alive s.driver

/-- Every step that comes back and is observed meets `C`. -/
def DriverConfig.StepsMeet (cfg : DriverConfig Id R) (C : Station Id R → Bool → Prop) (s : Session Id R)
    (e : Event Id R) : Prop :=
  match e with
  | .stepDone gid (.ok response) now _ => cfg.goesOn gid response now s.driver = true →
      C (cfg.stationOf gid s) (!(cfg.stepEnds gid response now s.driver).isEmpty)
  | _ => True

instance [∀ s completes, Decidable (C s completes)] (s : Session Id R) :
    ∀ e : Event Id R, Decidable (cfg.StepsMeet C s e)
  | .stepDone _ (.ok _) _ _ => inferInstanceAs (Decidable (_ → _))
  | .stepDone _ (.error _) _ _ | .launch _ _ | .turn _ _ | .resetDone _ _ _ _ | .envTaskFailed _ | .predictDone _ _
  | .cancelled _ | .finish _ => .isTrue trivial

theorem stationOf_of {next : Control} (hnext : next.alive = true) (o : Outcome Id R) :
    cfg.stationOf g (Session.of next o) = cfg.station g o.2.isNone o.1 := by
  unfold DriverConfig.stationOf Session.of
  split
  · rw [hnext]
    rfl
  · rfl
  · rename_i e _
    cases e <;> rfl

theorem of_driver (next : Control) (o : Outcome Id R) : (Session.of next o).driver = o.1 := by
  unfold Session.of
  split <;> rfl

theorem turn_moves (plan : List Nat) (transformed : Nat → Transformed)
    (hlive : ∀ g, g < cfg.spec.groupCount → Live cfg g (cfg.station g true d)) (hg : g < cfg.spec.groupCount) :
    Track cfg g C p (cfg.station g true d) (cfg.stationOf g (cfg.turn plan transformed d)) := by
  have hkeep : ∀ g, cfg.station g true (cfg.turnFlush d) = cfg.station g true d := fun g => keeps_turnFlush.station
  have hdispatch : Track cfg g C p (cfg.station g true d)
      (cfg.station g (cfg.dispatch plan transformed (cfg.turnFlush d)).2.isNone
        (cfg.dispatch plan transformed (cfg.turnFlush d)).1) := by
    have hsteps := dispatchSteps_moves (C := C) (p := p) (d := cfg.turnFlush d) transformed cfg.groupIds
      (fun gid h => List.mem_range.mp h) (fun g hg => by rw [hkeep]; exact hlive g hg) hg
    rw [hkeep] at hsteps
    unfold DriverConfig.dispatch
    split
    · rename_i after e he
      rw [he] at hsteps
      exact hsteps
    · rename_i after he
      rw [he] at hsteps
      exact hsteps.trans (dispatchPredict_moves _ _)
  unfold DriverConfig.turn
  split
  · exact .single (.killed _)
  · split
    · rename_i after e he
      rw [he] at hdispatch
      rw [stationOf_of rfl]
      exact hdispatch
    · rename_i after he
      rw [he] at hdispatch
      split
      · exact hdispatch.tail (.killed _)
      · exact hdispatch

theorem launched_foldl (gids : List Nat) (hn : gids.Nodup) (hgids : ∀ gid ∈ gids, gid < cfg.spec.groupCount)
    (hmem : g ∈ gids) (hd : cfg.station g true d = Station.initial (cfg.spec.lanes g) d.mintedFor true) :
    Launched cfg g (cfg.station g true (gids.foldl (fun d gid => cfg.beginReset gid true d) d)) := by
  have hg := hgids g hmem
  -- The resets of other groups only draw ids.
  have hothers : ∀ (rest : List Nat) (d : Driver Id R), g ∉ rest → (∀ gid ∈ rest, gid < cfg.spec.groupCount) →
      ∃ more, cfg.station g true (rest.foldl (fun d gid => cfg.beginReset gid true d) d) =
        { cfg.station g true d with mintedFor := d.mintedFor ++ more } := by
    intro rest
    induction rest with
    | nil => exact fun d _ _ => ⟨[], by rw [List.append_nil]; rfl⟩
    | cons gid rest ih =>
      intro d hnot hlt
      rw [List.mem_cons, not_or] at hnot
      obtain ⟨more, he⟩ := (beginReset_station cfg gid d true true).1.station hg (hlt gid List.mem_cons_self) hnot.1 true
      obtain ⟨more', he'⟩ := ih (cfg.beginReset gid true d) hnot.2 (fun gid h => hlt gid (List.mem_cons_of_mem _ h))
      have hm : (cfg.beginReset gid true d).mintedFor = d.mintedFor ++ more := congrArg Station.mintedFor he
      refine ⟨more ++ more', ?_⟩
      rw [List.foldl_cons, he', he, hm, List.append_assoc]
  induction gids generalizing d with
  | nil => cases hmem
  | cons gid rest ih =>
    rw [List.nodup_cons] at hn
    rw [List.foldl_cons]
    have hrest : ∀ gid ∈ rest, gid < cfg.spec.groupCount := fun gid h => hgids gid (List.mem_cons_of_mem _ h)
    by_cases hgid : gid = g
    · subst hgid
      obtain ⟨more, he⟩ := hothers rest (cfg.beginReset gid true d) hn.1 hrest
      have hgroup : d.groups gid = Group.new := congrArg Station.group hd
      have hm : (cfg.station gid true (cfg.beginReset gid true d)).mintedFor = (cfg.beginReset gid true d).mintedFor := rfl
      rw [he, ← hm]
      rcases (beginReset_station cfg gid d true true).2 with hs | ⟨request, ids, slots, minted, hlen, hmints, hs⟩
      · rw [hs, hd, hgroup]
        exact .retired (d.mintedFor ++ more)
      · rw [hs, hd, hgroup]
        exact .reset d.mintedFor request ids slots minted more hlen hmints
    · obtain ⟨more, he⟩ := (beginReset_station cfg gid d true true).1.station hg (hgids gid List.mem_cons_self)
        (Ne.symm hgid) true
      have hm : (cfg.beginReset gid true d).mintedFor = d.mintedFor ++ more := congrArg Station.mintedFor he
      refine ih hn.2 hrest ?_ ?_
      · exact (List.mem_cons.mp hmem).resolve_left (Ne.symm hgid)
      · rw [he, hd, hm]
        rfl

theorem station_new (now : Int) (alive : Bool) (events : List (HookEvent Id R)) :
    cfg.station g alive ((Driver.new now : Driver Id R).emit events) = Station.initial (cfg.spec.lanes g) [] alive := rfl

theorem launch_launched (now : Int) (hg : g < cfg.spec.groupCount) :
    Launched cfg g (cfg.station g true (cfg.launch now)) :=
  launched_foldl _ List.nodup_range (fun _ h => List.mem_range.mp h) (List.mem_range.mpr hg) (station_new now true _)

theorem teardown_station (cfg : DriverConfig Id R) (abandoned : Bool) :
    cfg.station g false (cfg.teardown abandoned d) = { cfg.station g false d with flying := [] } := by
  unfold DriverConfig.teardown
  split
  · rfl
  · dsimp only
    rw [keeps_flushEvictions.station]
    have hids : (d.route.endLiveEpisodes cfg.spec).2.episodeIdsAt (cfg.spec.lanes g) =
        d.route.episodeIdsAt (cfg.spec.lanes g) :=
      RouteState.episodeIdsAt_congr (fun lane _ => d.route.slotId_endLiveEpisodes cfg.spec lane)
    simp only [DriverConfig.station, hids]
    rfl

theorem step_moves (h : cfg.step s e = some s') (hstart : s.control ≠ .start)
    (hlive : ∀ g, g < cfg.spec.groupCount → Live cfg g (cfg.stationOf g s)) (hC : cfg.StepsMeet C s e)
    (hp : e.Chunks p.chunk) (hq : e.Observes p.observation) (hg : g < cfg.spec.groupCount) : Track cfg g C p (cfg.stationOf g s) (cfg.stationOf g s') := by
  have halive : ∀ {control}, s.control = control → ∀ g, cfg.stationOf g s = cfg.station g control.alive s.driver := by
    rintro control rfl g
    rfl
  cases cfg.step_cases h with
  | rejected _ _ _ hs | refused _ _ hs | launched _ hs => exact absurd hs hstart
  | turned plan transformed hs =>
    simp only [halive hs] at hlive ⊢
    exact turn_moves plan transformed hlive hg
  | cancelled reason hs => exact .single (.killed _)
  | resetDone gid initial request answer now transformed hs hgid hop =>
    simp only [halive hs] at hlive ⊢
    rw [stationOf_of rfl]
    exact (onReset_served answer now transformed (hlive gid hgid) hop (fun _ ht => by subst ht; exact hq)).all hgid hg
  | stepDone gid frame request answer now transformed hs hgid hop =>
    rw [stationOf_of rfl]
    have hserved : Served cfg gid C p s.driver (cfg.onStep gid answer now transformed s.driver) := by
      refine onStep_served answer now transformed (halive hs gid ▸ hlive gid hgid) hop (fun response hr => ?_)
        (fun _ ht => by subst ht; exact hq)
      subst hr
      have hstation : cfg.stationOf gid s = cfg.station gid true s.driver := halive hs gid
      rw [← hstation]
      exact hC
    rw [halive hs]
    exact hserved.all hgid hg
  | envTaskFailed message hs => exact .single (.killed _)
  | predictDone index requests result hs hidx =>
    rw [stationOf_of rfl, halive hs]
    exact onPredictOutcome_moves hp hidx (halive hs g ▸ hlive g hg)
  | finished result abandoned hs =>
    have hdrained : cfg.stationOf g (cfg.finish abandoned result s.driver) =
        { cfg.stationOf g s with flying := [] } := by
      rw [halive hs]
      unfold DriverConfig.stationOf DriverConfig.finish
      rw [(keeps_emit _).station]
      exact teardown_station cfg abandoned
    rw [hdrained]
    have hover : (cfg.stationOf g s).alive = false := by
      rw [halive hs]
      rfl
    exact .single (.ended (.drained _ [] hover) hover rfl (.inl rfl))

theorem step_launched (h : cfg.step s e = some s') (hstart : s.control = .start) (hd : s.driver = .new 0)
    (hg : g < cfg.spec.groupCount) : Launched cfg g (cfg.stationOf g s') := by
  cases cfg.step_cases h with
  | rejected =>
    unfold DriverConfig.stationOf
    rw [hd]
    exact .dead []
  | refused => exact .dead []
  | launched now => exact launch_launched now hg
  | turned _ _ hs | resetDone _ _ _ _ _ _ hs | stepDone _ _ _ _ _ _ hs | envTaskFailed _ hs | predictDone _ _ _ hs
  | finished _ _ hs => cases hstart.symm.trans hs
  | cancelled _ hs => rcases hs with hs | hs <;> cases hstart.symm.trans hs

theorem step_control (h : cfg.step s e = some s') : s'.control ≠ .start := by
  intro hstart
  cases cfg.step_cases h with
  | rejected | refused | launched | cancelled | envTaskFailed | finished => cases hstart
  | turned plan transformed =>
    rcases cfg.turn_control plan transformed s.driver with ⟨hn, -⟩ | hn | hn | ⟨_, hn⟩
    · rw [hn] at hstart
      cases hstart
    all_goals exact nomatch hn.symm.trans hstart
  | resetDone | stepDone | predictDone =>
    rcases DriverConfig.of_control .head (_ : Outcome Id R) with hn | hn | ⟨_, hn⟩ <;>
      exact nomatch hn.symm.trans hstart

/-- What holds of every launched station and is kept by every move holds of
every station along every run whose steps meet `C` and whose inputs are as `p` says. -/
theorem reach_tracked (P : Nat → Station Id R → Prop) (hlaunch : ∀ g s, Launched cfg g s → P g s)
    (hmove : ∀ g s s', Live cfg g s → P g s → Tracked cfg g C p s s' → P g s')
    (h : cfg.runs.Reach (fun s e => cfg.StepsMeet C s e ∧ e.Chunks p.chunk ∧ e.Observes p.observation) s) (hg : g < cfg.spec.groupCount) :
    Live cfg g (cfg.stationOf g s) ∧ P g (cfg.stationOf g s) := by
  have hlaunched : ∀ {g s}, Launched cfg g s → Live cfg g s ∧ P g s := fun h => ⟨h.live, hlaunch _ _ h⟩
  suffices hall : (∀ g, g < cfg.spec.groupCount → Live cfg g (cfg.stationOf g s) ∧ P g (cfg.stationOf g s)) ∧
      (s.control = .start → s.driver = .new 0) from hall.1 g hg
  induction h with
  | init => exact ⟨fun g _ => hlaunched (.dead []), fun _ => rfl⟩
  | step _ hmeets he ih =>
    refine ⟨fun g hg => ?_, fun hs => absurd hs (step_control he)⟩
    rename_i s _ _ _
    by_cases hstart : s.control = .start
    · exact hlaunched (step_launched he hstart (ih.2 hstart) hg)
    · exact (step_moves he hstart (fun g hg => (ih.1 g hg).1) hmeets.1 hmeets.2.1 hmeets.2.2 hg).keep (hmove g) (ih.1 g hg)

theorem chunks_any (e : Event Id R) : e.Chunks (fun _ => True) := by
  unfold Event.Chunks
  split
  · exact fun _ _ => trivial
  · trivial

theorem observes_any (e : Event Id R) : e.Observes (fun _ => True) := by
  unfold Event.Observes
  split <;> trivial

theorem reach_station (P : Nat → Station Id R → Prop) (hlaunch : ∀ g s, Launched cfg g s → P g s)
    (hmove : ∀ g s s', Live cfg g s → P g s → Move cfg g C s s' → P g s') (h : cfg.runs.Reach (cfg.StepsMeet C) s)
    (hg : g < cfg.spec.groupCount) : Live cfg g (cfg.stationOf g s) ∧ P g (cfg.stationOf g s) :=
  reach_tracked (p := ⟨fun _ => True, fun _ => True⟩) P hlaunch (fun g s s' hl hp hm => hmove g s s' hl hp hm.move)
    (h.mono (fun _ e hmeets => ⟨hmeets, chunks_any e, observes_any e⟩)) hg

theorem meets_any (s : Session Id R) (e : Event Id R) : cfg.StepsMeet (fun _ _ => True) s e := by
  unfold DriverConfig.StepsMeet
  split
  · exact fun _ => trivial
  · trivial

theorem reach_meets (h : cfg.runs.Reach (fun _ _ => True) s) :
    cfg.runs.Reach (cfg.StepsMeet (fun _ _ => True)) s := h.mono (fun s e _ => meets_any s e)

/-- Along every run the stations are live. -/
theorem reach_live (h : cfg.runs.Reach (fun _ _ => True) s) (hg : g < cfg.spec.groupCount) :
    Live cfg g (cfg.stationOf g s) :=
  (reach_station (fun _ _ => True) (fun _ _ _ => trivial) (fun _ _ _ _ _ _ => trivial) (reach_meets h) hg).1

end Rlmesh.Runtime
