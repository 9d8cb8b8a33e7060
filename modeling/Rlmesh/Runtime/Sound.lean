import Rlmesh.Runtime.Station
/-!
# Every move keeps a station sound

One lemma for each of the group's operations, then one case for each move.
-/
open Rlmesh.Wire

namespace Rlmesh.Runtime

variable {Id R : Type}

/-! ## What the group's operations change -/

namespace Group

variable (lead : Nat) (deliver : Bool) (group : Group Id R)

theorem latestRequest_none (h : (group.latestRequest deliver).1 = none) : (group.latestRequest deliver).2 = group := by
  unfold latestRequest at h ⊢
  split
  · rfl
  · split
    · split
      · rfl
      · simp_all
    · rfl

theorem latestRequest_some {msg : PredictRequest Id} (h : (group.latestRequest deliver).1 = some msg) :
    ∃ latest, group.obsMsg = some latest ∧
      if deliver then group.history.getLast?.map (·.step) = latest.step ∧
        msg = { latest with history := group.history.dropLast } ∧
        (group.latestRequest deliver).2 = { group with history := [] }
      else msg = latest ∧ (group.latestRequest deliver).2 = group := by
  unfold latestRequest at h ⊢
  cases ho : group.obsMsg with
  | none => rw [ho] at h; cases h
  | some latest =>
    rw [ho] at h
    refine ⟨latest, rfl, ?_⟩
    cases deliver with
    | false => exact ⟨(Option.some.inj h).symm, rfl⟩
    | true =>
      simp only [if_true] at h ⊢
      split at h
      · cases h
      · rename_i hstep
        simp only [ne_eq, not_not] at hstep
        simp only [hstep, ne_eq, not_true_eq_false, if_false, true_and]
        exact ⟨(Option.some.inj h).symm, trivial⟩

theorem latestRequest_group :
    (group.latestRequest deliver).2 = { group with history := (group.latestRequest deliver).2.history } := by
  rcases hl : (group.latestRequest deliver).1 with _ | msg
  · rw [group.latestRequest_none deliver hl]
  · obtain ⟨latest, -, hcase⟩ := group.latestRequest_some deliver hl
    split at hcase
    · rw [hcase.2.2]
    · rw [hcase.2]

theorem latestRequest_update (replay : List (Frame Id)) (predict : PredictState Id) :
    ({ group with replay, predict } : Group Id R).latestRequest deliver =
      ((group.latestRequest deliver).1, { (group.latestRequest deliver).2 with replay, predict }) := by
  unfold latestRequest
  rcases Option.eq_none_or_eq_some group.obsMsg with ho | ⟨msg, ho⟩
  · simp only [ho]
  · simp only [ho]
    split
    · split <;> simp only [ho]
    · simp only [ho]

theorem prefetch_cases :
    group.prefetch lead deliver = group ∨
    (∃ msg, group.predict = .none ∧ (group.latestRequest deliver).1 = some msg ∧
      group.prefetch lead deliver =
        { group with predict := .wanted msg, history := (group.latestRequest deliver).2.history }) := by
  unfold prefetch
  split
  · rename_i hc
    simp only [Bool.and_eq_true] at hc
    have hnone : group.predict = .none := by
      have := hc.2
      unfold PredictState.isNone at this
      split at this
      · assumption
      · cases this
    split
    · rename_i msg after hl
      have hafter : after = { group with history := after.history } := by
        simpa only [hl] using group.latestRequest_group deliver
      refine .inr ⟨msg, hnone, by rw [hl], ?_⟩
      rw [hl, hafter]
    · rename_i after hl
      have hsame := group.latestRequest_none deliver (by rw [hl])
      rw [hl] at hsame
      exact .inl hsame
  · exact .inl rfl

/-- How a group is left after a frame is taken: the frame comes off the replay
buffer, or off the chunk that arrived meanwhile, and a prefetch may plan. -/
theorem takeFrame_some {frame : Frame Id} {after : Group Id R}
    (h : group.takeFrame lead deliver = (some frame, after)) :
    ∃ replay predict history, after = { group with replay, predict, history } ∧
      ((group.replay = frame :: replay ∧ predict = group.predict ∧ history = group.history) ∨
       (group.replay = [] ∧ group.predict = .ready (frame :: replay) ∧ predict = .none ∧ history = group.history) ∨
       (((group.replay = frame :: replay ∧ group.predict = .none) ∨
          (group.replay = [] ∧ group.predict = .ready (frame :: replay))) ∧
        ∃ msg, predict = .wanted msg ∧ (group.latestRequest deliver).1 = some msg ∧
          history = (group.latestRequest deliver).2.history)) := by
  unfold takeFrame at h
  cases hr : group.replay with
  | cons first rest =>
    have hrefill : group.refill = group := by unfold refill; rw [hr]
    rw [hrefill, hr, Prod.mk.injEq, Option.some.injEq] at h
    obtain ⟨rfl, rfl⟩ := h
    rcases ({ group with replay := rest } : Group Id R).prefetch_cases lead deliver with hp | ⟨msg, hnone, hmsg, hp⟩
    · exact ⟨rest, group.predict, group.history, hp, .inl ⟨rfl, rfl, rfl⟩⟩
    · rw [latestRequest_update] at hmsg hp
      exact ⟨rest, _, _, hp, .inr (.inr ⟨.inl ⟨rfl, hnone⟩, msg, rfl, hmsg, rfl⟩)⟩
  | nil =>
    cases hp : group.predict with
    | ready frames =>
      have hrefill : group.refill = { group with replay := frames, predict := .none } := by
        unfold refill; rw [hr, hp]
      rw [hrefill] at h
      cases frames with
      | nil => cases h
      | cons first rest =>
        rw [Prod.mk.injEq, Option.some.injEq] at h
        obtain ⟨rfl, rfl⟩ := h
        rcases ({ group with replay := rest, predict := .none } : Group Id R).prefetch_cases lead deliver with
          hq | ⟨msg, -, hmsg, hq⟩
        · exact ⟨rest, .none, group.history, hq, .inr (.inl ⟨rfl, rfl, rfl, rfl⟩)⟩
        · rw [latestRequest_update] at hmsg hq
          exact ⟨rest, _, _, hq, .inr (.inr ⟨.inr ⟨rfl, rfl⟩, msg, rfl, hmsg, rfl⟩)⟩
    | none | wanted _ | inFlight _ =>
      have hrefill : group.refill = group := by unfold refill; rw [hr, hp]
      rw [hrefill, hr] at h
      cases h

/-- A group without a frame is left as it is, unless it took in an empty chunk. -/
theorem takeFrame_none {after : Group Id R} (h : group.takeFrame lead deliver = (none, after))
    (hchunk : group.predict ≠ .ready []) : after = group ∧ group.replay = [] := by
  unfold takeFrame at h
  cases hr : group.replay with
  | cons first rest =>
    have hrefill : group.refill = group := by unfold refill; rw [hr]
    rw [hrefill, hr] at h
    cases h
  | nil =>
    cases hp : group.predict with
    | ready frames =>
      have hrefill : group.refill = { group with replay := frames, predict := .none } := by
        unfold refill; rw [hr, hp]
      rw [hrefill] at h
      cases frames with
      | nil => exact absurd hp hchunk
      | cons first rest => cases h
    | none | wanted _ | inFlight _ =>
      have hrefill : group.refill = group := by unfold refill; rw [hr, hp]
      rw [hrefill, hr] at h
      exact ⟨(Prod.mk.inj h).2.symm, rfl⟩

theorem replans_iff : group.replans = true ↔ group.replay = [] ∧ group.predict = .none := by
  unfold replans PredictState.isNone
  cases group.predict <;> simp

/-- The request an observation is kept as: stamped with its step on a history route. -/
def stamp (msg : PredictRequest Id) : PredictRequest Id :=
  if deliver then { msg with step := some group.steps } else msg

/-- How a group takes in an observation: it plans from it, or keeps it. -/
theorem observe_some {msg : PredictRequest Id} {after : Group Id R} (h : group.observe deliver msg = some after) :
    ∃ own predict history, after = { group with
        obsMsg := some own, phase := .ready, predict, history
        observed := group.observed ++ [group.stamp deliver msg] } ∧
      ((group.replay = [] ∧ group.predict = .none ∧ predict = .wanted own ∧
          own = (if deliver then { group.stamp deliver msg with history := group.history } else msg) ∧
          history = if deliver then [] else group.history) ∨
       ((group.replay ≠ [] ∨ group.predict ≠ .none) ∧ predict = group.predict ∧ own = group.stamp deliver msg ∧
          history = if deliver then group.history ++ [{ observation := msg.observation
                                                        episodeInfo := msg.episodeInfo
                                                        step := group.steps }] else group.history)) := by
  unfold observe at h
  dsimp only at h
  split at h
  · rename_i hreplans
    have hempty := group.replans_iff.mp hreplans
    refine ⟨_, _, _, (Option.some.inj h).symm, .inl ⟨hempty.1, hempty.2, rfl, ?_, rfl⟩⟩
    cases deliver <;> rfl
  · rename_i hreplans
    split at h
    · cases h
    · refine ⟨_, _, _, (Option.some.inj h).symm, .inr ⟨?_, rfl, rfl, rfl⟩⟩
      by_contra hcon
      simp only [not_or, not_not] at hcon
      exact hreplans (group.replans_iff.mpr hcon)

theorem landed_cases (frames : List (Frame Id)) :
    (group.predict = .inFlight true ∧ ∃ msg, group.phase = .ready ∧ group.replay = [] ∧
      (group.latestRequest deliver).1 = some msg ∧
      group.landed deliver frames =
        { group with predict := .wanted msg, history := (group.latestRequest deliver).2.history }) ∨
    (group.predict = .inFlight true ∧
      (group.phase = .ready → group.replay = [] → (group.latestRequest deliver).1 = none) ∧
      group.landed deliver frames = { group with predict := .none }) ∨
    (group.predict = .inFlight false ∧ group.replay = [] ∧
      group.landed deliver frames = { group with replay := frames, predict := .none }) ∨
    (group.predict = .inFlight false ∧ group.replay ≠ [] ∧
      group.landed deliver frames = { group with predict := .ready frames }) ∨
    (group.predict.isInFlight = false ∧ group.landed deliver frames = group) := by
  unfold landed
  cases hp : group.predict with
  | none | wanted _ | ready _ => exact .inr (.inr (.inr (.inr ⟨rfl, rfl⟩)))
  | inFlight stale =>
    cases stale with
    | false =>
      refine .inr (.inr ?_)
      dsimp only
      split
      · rename_i hempty
        exact .inl ⟨rfl, List.isEmpty_iff.mp hempty, rfl⟩
      · rename_i hempty
        exact .inr (.inl ⟨rfl, fun h => hempty (List.isEmpty_iff.mpr h), rfl⟩)
    | true =>
      have hupdate := group.latestRequest_update deliver group.replay .none
      have hafter := group.latestRequest_group deliver
      dsimp only
      split
      · rename_i hwaits
        simp only [Bool.and_eq_true, decide_eq_true_eq, List.isEmpty_iff] at hwaits
        split
        · rename_i msg after hl
          rw [hupdate, Prod.mk.injEq] at hl
          refine .inl ⟨rfl, msg, hwaits.1, hwaits.2, hl.1, ?_⟩
          rw [← hl.2, hafter]
        · rename_i after hl
          rw [hupdate, Prod.mk.injEq] at hl
          refine .inr (.inl ⟨rfl, fun _ _ => hl.1, ?_⟩)
          rw [← hl.2, group.latestRequest_none deliver hl.1]
      · rename_i hwaits
        simp only [Bool.and_eq_true, decide_eq_true_eq, List.isEmpty_iff, not_and] at hwaits
        exact .inr (.inl ⟨rfl, fun hready hempty => absurd hempty (hwaits hready), rfl⟩)

end Group

/-! ## Stations stay sound -/

section

variable {s s' : Station Id R} {deliver : Bool} {lanes : List Nat}

theorem OpFits.stepping {group : Group Id R} {frame request} (h : OpFits lanes group)
    (hop : group.op = some (.step frame request)) : group.phase = .stepping := by
  unfold OpFits at h
  split at h
  · rw [h] at hop; cases hop
  · rw [h] at hop; cases hop
  · assumption
  · obtain ⟨_, _, _, _, hreset, -⟩ := h
    rw [hreset] at hop
    cases hop

theorem OpFits.resetting {group : Group Id R} {initial request} (h : OpFits lanes group)
    (hop : group.op = some (.reset initial request)) : group.phase = .resetting := by
  unfold OpFits at h
  split at h
  · rw [h] at hop; cases hop
  · rw [h] at hop; cases hop
  · obtain ⟨_, _, hstep⟩ := h
    rw [hstep] at hop
    cases hop
  · assumption

/-- A group at rest, whose predictions are as its phase says, takes in an
observation and stays sound. -/
theorem Sound.observe {group after : Group Id R} {msg : PredictRequest Id}
    (h : group.observe deliver msg = some after) (hop : group.op = none)
    (hchunk : ∀ frames, group.predict = .ready frames → frames ≠ [])
    (hin : group.predict.isInFlight = true → ∃ request, s.flying = [request])
    (hland : s.flying ≠ [] → group.predict.isInFlight = true) (hone : s.flying.length ≤ 1)
    (hstale : group.predict = .inFlight true → group.replay = []) : Sound deliver lanes { s with group := after } := by
  obtain ⟨own, predict, history, rfl, ⟨hreplay, hnone, rfl, rfl, rfl⟩ | ⟨hcover, rfl, rfl, rfl⟩⟩ :=
    group.observe_some deliver h
  · -- It plans at once: nothing was in flight.
    have hfly : s.flying = [] := by
      by_contra hne
      have := hland hne
      rw [hnone] at this
      cases this
    exact {
      op := hop, planned := fun _ => .inr rfl, chunk := nofun, inFlight := nofun
      landing := fun hne => absurd hfly hne, one := hone, cleared := nofun, stale := nofun, retired := nofun }
  · refine {
      op := hop, planned := fun _ => ?_, chunk := hchunk, inFlight := hin
      landing := fun hne => .inl (hland hne), one := hone, cleared := nofun
      stale := fun hst => ⟨nofun, fun _ => ⟨hstale hst, _, rfl, fun hd => ?_⟩⟩, retired := nofun }
    · rcases hcover with hne | hne
      · exact .inl hne
      · refine .inr ?_
        cases hp : group.predict with
        | none => exact absurd hp hne
        | wanted _ | inFlight _ | ready _ => rfl
    · -- The row just buffered is the observation itself.
      subst hd
      simp [Group.stamp]

theorem Group.flush_predict (group : Group Id R) :
    (group.predict.isInFlight = true ∧ group.flush.predict = .inFlight true) ∨
    (group.predict.isInFlight = false ∧ group.flush.predict = .none) := by
  unfold Group.flush
  cases hp : group.predict.isInFlight with
  | true => exact .inl ⟨rfl, rfl⟩
  | false => exact .inr ⟨rfl, rfl⟩

theorem PredictState.isInFlight_iff {predict : PredictState Id} :
    predict.isInFlight = true ↔ ∃ stale, predict = .inFlight stale := by
  cases predict <;> simp [PredictState.isInFlight]

theorem Sound.settle_fields (h : Sound deliver lanes s) {frame request} (hop : s.group.op = some (.step frame request))
    (completes : Bool) (rolls : List (Nat × Id)) (events : List (EpisodeCompletedEvent Id R)) (minted : List Nat) :
    let group := (s.settle lanes completes rolls events minted).group
    group.op = none ∧ (∀ frames, group.predict = .ready frames → frames ≠ []) ∧
      (group.predict.isInFlight = true → ∃ request, s.flying = [request]) ∧
      (s.flying ≠ [] → group.predict.isInFlight = true) ∧
      (group.predict = .inFlight true → group.replay = []) ∧
      (completes = true → group.predict = .none ∨ group.predict = .inFlight true) := by
  have hphase := h.op.stepping hop
  have hland : s.flying ≠ [] → s.group.predict.isInFlight = true := by
    intro hne
    rcases h.landing hne with hin | hidle
    · exact hin
    · rw [hphase] at hidle
      cases hidle
  cases completes with
  | false =>
    refine ⟨rfl, h.chunk, h.inFlight, hland, fun hst => ?_, nofun⟩
    exact absurd hphase (h.stale hst).1
  | true =>
    have hflush := ({ s.group.stepped with pendingRoll := rolls, pendingCompleted := events } : Group Id R).flush_predict
    rcases hflush with ⟨hin, hpred⟩ | ⟨hin, hpred⟩
    · refine ⟨rfl, fun _ hready => ?_, fun _ => h.inFlight hin, fun _ => ?_, fun _ => rfl, fun _ => .inr hpred⟩
      · exact nomatch hpred.symm.trans hready
      · exact PredictState.isInFlight_iff.mpr ⟨true, hpred⟩
    · refine ⟨rfl, fun _ hready => ?_, fun hin' => ?_, fun hne => ?_, fun _ => rfl, fun _ => .inl hpred⟩
      · exact nomatch hpred.symm.trans hready
      · obtain ⟨stale, hst⟩ := PredictState.isInFlight_iff.mp hin'
        exact nomatch hpred.symm.trans hst
      · exact absurd (hland hne) (by rw [show s.group.predict.isInFlight = false from hin]; exact nofun)

theorem Sound.dispatched (h : Sound deliver lanes s) {lead : Nat} {frame : Frame Id} {group : Group Id R}
    (request : StepRequest Id) (hready : s.group.phase = .ready)
    (ht : s.group.takeFrame lead deliver = (some frame, group)) :
    Sound deliver lanes { s with group := group.stepping frame request } := by
  have hland : s.flying ≠ [] → s.group.predict.isInFlight = true := by
    intro hne
    rcases h.landing hne with hin | hidle
    · exact hin
    · rw [hready] at hidle
      cases hidle
  have hstale : s.group.predict = .inFlight true → s.group.replay = [] := fun hst => ((h.stale hst).2 hready).1
  obtain ⟨replay, predict, history, rfl, hcase⟩ := s.group.takeFrame_some lead deliver ht
  rcases hcase with ⟨hreplay, rfl, rfl⟩ | ⟨hreplay, hpred, rfl, rfl⟩ | ⟨hfrom, msg, rfl, -, -⟩
  · refine {
      op := ⟨frame, request, rfl⟩, planned := nofun, chunk := h.chunk, inFlight := h.inFlight
      landing := fun hne => .inl (hland hne), one := h.one, cleared := nofun
      stale := fun hst => ?_, retired := nofun }
    exact absurd (hstale hst) (by rw [hreplay]; exact nofun)
  all_goals
    -- The chunk that was ready, or the prefetch: nothing is in flight.
    have hfly : s.flying = [] := by
      by_contra hne
      obtain ⟨stale, hin⟩ := PredictState.isInFlight_iff.mp (hland hne)
      simp_all
    exact {
      op := ⟨frame, request, rfl⟩, planned := nofun, chunk := nofun, inFlight := nofun
      landing := fun hne => absurd hfly hne, one := h.one, cleared := nofun, stale := nofun, retired := nofun }

theorem Sound.sent (h : Sound deliver lanes s) {msg : PredictRequest Id} (hw : s.group.predict = .wanted msg) :
    Sound deliver lanes { s with
      group := { s.group with predict := .inFlight false }, flying := s.flying ++ [msg], sent := s.sent ++ [msg] } := by
  have hactive : s.group.phase ≠ .idle := fun hidle => nomatch hw.symm.trans (h.retired hidle)
  have hfly : s.flying = [] := by
    by_contra hne
    rcases h.landing hne with hin | hidle
    · rw [hw] at hin
      cases hin
    · exact hactive hidle
  refine {
    op := h.op, planned := fun _ => .inr rfl, chunk := nofun
    inFlight := fun _ => ⟨msg, by rw [hfly]; rfl⟩
    landing := fun _ => .inl rfl, one := by rw [hfly]; exact Nat.le_refl 1
    cleared := fun hreset => ?_, stale := nofun, retired := fun hidle => absurd hidle hactive }
  rcases (h.cleared hreset).2.2.2 with hp | hp
  · exact nomatch hw.symm.trans hp
  · exact nomatch hw.symm.trans hp

theorem Sound.landed (h : Sound deliver lanes s) {request : PredictRequest Id} {frames : List (Frame Id)}
    (hfly : s.flying = [request]) (hframes : frames ≠ []) :
    Sound deliver lanes { s with group := s.group.landed deliver frames, flying := [] } := by
  have hop : ∀ {replay predict history}, OpFits lanes { s.group with replay, predict, history } := fun {_ _ _} => h.op
  rcases s.group.landed_cases deliver frames with ⟨hp, msg, hready, hreplay, -, he⟩ | ⟨hp, hwait, he⟩ |
    ⟨hp, hreplay, he⟩ | ⟨hp, hreplay, he⟩ | ⟨hp, he⟩ <;> rw [he]
  · refine { op := hop, planned := fun _ => .inr rfl, chunk := nofun, inFlight := nofun
             landing := fun hne => absurd rfl hne, one := Nat.zero_le _
             cleared := fun hreset => ?_, stale := nofun, retired := fun hidle => ?_ }
    · exact nomatch hready.symm.trans hreset
    · exact nomatch hready.symm.trans hidle
  · refine { op := h.op, planned := fun hready => ?_, chunk := nofun, inFlight := nofun
             landing := fun hne => absurd rfl hne, one := Nat.zero_le _
             cleared := fun hreset => ?_, stale := nofun, retired := fun _ => rfl }
    · -- A ready group whose prediction went stale has an observation to plan from.
      obtain ⟨hempty, msg, hobs, hrow⟩ := (h.stale hp).2 hready
      have hnone := hwait hready hempty
      unfold Group.latestRequest at hnone
      rw [hobs] at hnone
      cases deliver with
      | false => cases hnone
      | true => simp [hrow rfl] at hnone
    · exact ⟨(h.cleared hreset).1, (h.cleared hreset).2.1, (h.cleared hreset).2.2.1, .inl rfl⟩
  · refine { op := h.op, planned := fun _ => .inl hframes, chunk := nofun, inFlight := nofun
             landing := fun hne => absurd rfl hne, one := Nat.zero_le _
             cleared := fun hreset => ?_, stale := nofun, retired := fun _ => rfl }
    rcases (h.cleared hreset).2.2.2 with hq | hq
    · exact nomatch hp.symm.trans hq
    · exact nomatch hp.symm.trans hq
  · refine { op := h.op, planned := fun _ => .inl hreplay, chunk := fun _ hc => ?_, inFlight := nofun
             landing := fun hne => absurd rfl hne, one := Nat.zero_le _
             cleared := fun hreset => absurd (h.cleared hreset).1 hreplay, stale := nofun
             retired := fun hidle => nomatch hp.symm.trans (h.retired hidle) }
    cases hc
    exact hframes
  · have hidle : s.group.phase = .idle := by
      rcases h.landing (by rw [hfly]; exact nofun) with hin | hidle
      · rw [hp] at hin
        cases hin
      · exact hidle
    exact { op := h.op, planned := h.planned, chunk := h.chunk
            inFlight := fun hin => by rw [hp] at hin; cases hin
            landing := fun hne => absurd rfl hne, one := Nat.zero_le _, cleared := h.cleared, stale := h.stale
            retired := h.retired }

end

variable [Inhabited Id] {cfg : DriverConfig Id R} {gid : Nat} {C : Station Id R → Bool → Prop} {s s' : Station Id R}

/-- A station whose run is not over is sound. -/
def Live (cfg : DriverConfig Id R) (gid : Nat) (s : Station Id R) : Prop :=
  s.alive = true → Sound cfg.deliverHistory (cfg.spec.lanes gid) s

theorem Launched.live (h : Launched cfg gid s) : Live cfg gid s := by
  intro halive
  cases h with
  | retired =>
    exact { op := rfl, planned := nofun, chunk := nofun, inFlight := nofun, landing := fun hne => absurd rfl hne
            one := Nat.zero_le _, cleared := nofun, stale := nofun, retired := fun _ => rfl }
  | reset before request ids slots minted more hlen _ =>
    exact { op := ⟨true, request, ids, slots, rfl, rfl, hlen⟩, planned := nofun, chunk := nofun, inFlight := nofun
            landing := fun hne => absurd rfl hne, one := Nat.zero_le _
            cleared := fun _ => ⟨rfl, rfl, rfl, .inl rfl⟩, stale := nofun, retired := nofun }
  | dead => cases halive

theorem Move.live (hm : Move cfg gid C s s') (hl : Live cfg gid s) : Live cfg gid s' := by
  intro halive
  cases hm with
  | minted more =>
    have h := hl halive
    exact ⟨h.op, h.planned, h.chunk, h.inFlight, h.landing, h.one, h.cleared, h.stale, h.retired⟩
  | skipped group _ hready ht =>
    have h := hl halive
    have hsame := s.group.takeFrame_none _ _ ht (fun hp => h.chunk [] hp rfl)
    rw [hsame.1]
    exact h
  | dispatched frame group request _ hready ht => exact (hl halive).dispatched request hready ht
  | sent msg _ hw => exact (hl halive).sent hw
  | landed request frames _ hfly hframes _ => exact (hl halive).landed hfly hframes
  | started initial request ids slots msg group hlive hop _ _ hobs =>
    have h := hl hlive
    have hcleared := h.cleared (h.op.resetting hop)
    have hland : s.flying ≠ [] → s.group.predict.isInFlight = true := by
      intro hne
      rcases h.landing hne with hin | hidle
      · exact hin
      · exact nomatch (h.op.resetting hop).symm.trans hidle
    have hsound : Sound cfg.deliverHistory (cfg.spec.lanes gid) { s with group } :=
      Sound.observe hobs rfl h.chunk h.inFlight hland h.one (fun _ => hcleared.1)
    exact ⟨hsound.op, hsound.planned, hsound.chunk, hsound.inFlight, hsound.landing, hsound.one, hsound.cleared,
      hsound.stale, hsound.retired⟩
  | stopped frame request completes rolls events minted hlive hop =>
    have h := hl hlive
    have hnone := (h.settle_fields hop completes rolls events minted).1
    exact { op := hnone, planned := nofun, chunk := nofun, inFlight := nofun, landing := fun _ => .inr rfl
            one := h.one, cleared := nofun, stale := nofun, retired := fun _ => rfl }
  | restarted frame request rolls events minted initial resetRequest ids slots generation minted' hlive hop _ hlen _ =>
    have h := hl hlive
    obtain ⟨-, -, hin, hland, -, hpred⟩ := h.settle_fields hop true rolls events minted
    refine { op := ⟨initial, resetRequest, ids, slots, rfl, rfl, hlen⟩, planned := nofun, chunk := fun _ hc => ?_
             inFlight := hin, landing := fun hne => .inl (hland hne), one := h.one
             cleared := fun _ => ⟨rfl, rfl, rfl, hpred rfl⟩, stale := fun _ => ⟨nofun, nofun⟩, retired := nofun }
    rcases hpred rfl with hq | hq
    · exact nomatch hq.symm.trans hc
    · exact nomatch hq.symm.trans hc
  | observed frame request completes rolls events minted msg group hlive hop _ _ _ _ _ hobs =>
    have h := hl hlive
    obtain ⟨hnone, hchunk, hin, hland, hstale, -⟩ := h.settle_fields hop completes rolls events minted
    have hsound : Sound cfg.deliverHistory (cfg.spec.lanes gid) { s with group } :=
      Sound.observe hobs hnone hchunk hin hland h.one hstale
    exact ⟨hsound.op, hsound.planned, hsound.chunk, hsound.inFlight, hsound.landing, hsound.one, hsound.cleared,
      hsound.stale, hsound.retired⟩
  | failed => cases halive
  | killed => cases halive
  | drained flying hdead => rw [hdead] at halive; cases halive

end Rlmesh.Runtime
