import Rlmesh.Runtime.Conforming
/-!
# What a request names

Whatever a running group wants to send, and whatever a later request may be
built from, names the episodes in its slots and no other. A roll moves the slots
on, so it has to find nothing planned for the episodes it leaves: on a history
route it never does, on any other route only as long as no prefetched request is
left waiting.
-/
open Rlmesh.Wire

set_option linter.unusedSectionVars false

namespace Rlmesh.Runtime

variable {Id R : Type} [DecidableEq Id] [Inhabited Id] [Zero R] [Add R] [BEq R]

/-- The episode ids a request names, in its own observation or a row. -/
def requestNames (request : PredictRequest Id) : List Id :=
  names request.episodeInfo ++ request.history.flatMap (fun row => names row.episodeInfo)

/-- A group with rolls due on a history route: its backlog is empty unless a stale
prediction is still out, and it steps with nothing planned ahead. -/
structure RollsClear (group : Group Id R) : Prop where
  history : group.predict = .inFlight true ∨ group.history = []
  replay : group.predict = .none ∨ group.replay = []
  stepping : group.phase = .stepping → group.predict = .none
  ready : ∀ frames, group.predict ≠ .ready frames

/-- Rows that satisfy `q`, and no more of them than a group keeps. -/
structure RowsFit (q : Option Leaves → List (EpisodeInfo Id) → Prop) (deliver : Bool)
    (rows : List (ObservationHistoryFrame Id)) : Prop where
  each : ∀ row ∈ rows, q row.observation row.episodeInfo
  count : rows.length ≤ if deliver then historyBacklogCap else 0

structure RequestFits (q : Option Leaves → List (EpisodeInfo Id) → Prop) (deliver : Bool) (request : PredictRequest Id) :
    Prop where
  own : q request.observation request.episodeInfo
  rows : RowsFit q deliver request.history

/-- What a group holds and may still send. -/
structure HeldFits (q : Option Leaves → List (EpisodeInfo Id) → Prop) (deliver : Bool) (group : Group Id R) : Prop where
  rows : RowsFit q deliver group.history
  latest : ∀ msg, group.obsMsg = some msg → RequestFits q deliver msg
  wanted : ∀ msg, group.predict = .wanted msg → RequestFits q deliver msg

/-- What a running group holds names the episodes in its slots. -/
structure NamesFit (deliver : Bool) (ids : List Id) (group : Group Id R) : Prop where
  held : HeldFits (fun _ info => names info = ids) deliver group
  latest : ∃ msg, group.obsMsg = some msg ∧ (deliver = true → msg.step ≠ none)
  rolling : deliver = true → group.pendingRoll ≠ [] → RollsClear group

/-- A roll that completes nothing is observed while no request waits to be sent. -/
def RollsUnwanted (s : Station Id R) (completes : Bool) : Prop :=
  s.group.pendingRoll ≠ [] → completes = false → s.group.predict.isWanted = false

instance (s : Station Id R) (completes : Bool) : Decidable (RollsUnwanted s completes) :=
  have : Decidable (s.group.pendingRoll ≠ []) := decidable_of_iff (s.group.pendingRoll.isEmpty = false) List.isEmpty_eq_false_iff
  inferInstanceAs (Decidable (_ → _ → _))

variable {cfg : DriverConfig Id R} {gid : Nat} {s s' : Station Id R} {deliver : Bool} {ids : List Id}
  {group after : Group Id R} {msg : PredictRequest Id} {q : Option Leaves → List (EpisodeInfo Id) → Prop}

/-! ## What the group's operations keep -/

theorem RowsFit.nil : RowsFit q deliver ([] : List (ObservationHistoryFrame Id)) := ⟨nofun, Nat.zero_le _⟩

theorem RequestFits.names (h : RequestFits (fun _ info => names info = ids) deliver msg) :
    ∀ e ∈ requestNames msg, e ∈ ids := by
  intro e he
  rcases List.mem_append.mp he with he | he
  · exact h.own ▸ he
  · obtain ⟨row, hrow, he⟩ := List.mem_flatMap.mp he
    exact h.rows.each row hrow ▸ he

/-- Whatever a group drops or keeps of its plans, it holds nothing new. -/
theorem HeldFits.keep (h : HeldFits q deliver group) (hobs : after.obsMsg = group.obsMsg)
    (hrows : after.history = group.history ∨ after.history = [])
    (hw : ∀ msg, after.predict = .wanted msg → group.predict = .wanted msg) : HeldFits q deliver after := by
  refine ⟨?_, fun msg hm => h.latest msg (hobs ▸ hm), fun msg hm => h.wanted msg (hw msg hm)⟩
  rcases hrows with hr | hr <;> rw [hr]
  · exact h.rows
  · exact .nil

/-- A re-plan from the latest observation takes the rows before it along. -/
theorem HeldFits.replan (h : HeldFits q deliver group) (hm : (group.latestRequest deliver).1 = some msg)
    (replay : List (Frame Id)) :
    HeldFits q deliver { group with replay, predict := .wanted msg, history := (group.latestRequest deliver).2.history } := by
  obtain ⟨latest, hobs, hcase⟩ := group.latestRequest_some deliver hm
  have hlatest := h.latest latest hobs
  cases deliver with
  | false =>
    obtain ⟨rfl, hgroup⟩ := hcase
    refine ⟨by rw [hgroup]; exact h.rows, h.latest, ?_⟩
    rintro m hm
    cases hm
    exact hlatest
  | true =>
    obtain ⟨-, rfl, hgroup⟩ := hcase
    refine ⟨by rw [hgroup]; exact .nil, h.latest, ?_⟩
    rintro m hm
    cases hm
    refine ⟨hlatest.own, fun row hrow => h.rows.each row (List.dropLast_subset _ hrow), ?_⟩
    exact Nat.le_trans (List.dropLast_sublist _).length_le h.rows.count

theorem HeldFits.takeFrame (h : HeldFits q deliver group) {lead : Nat} {frame : Frame Id}
    (ht : group.takeFrame lead deliver = (some frame, after)) : HeldFits q deliver after := by
  obtain ⟨replay, predict, history, rfl, hcase⟩ := group.takeFrame_some lead deliver ht
  rcases hcase with ⟨-, rfl, rfl⟩ | ⟨-, -, rfl, rfl⟩ | ⟨-, msg, rfl, hmsg, rfl⟩
  · exact h.keep rfl (.inl rfl) (fun _ hm => hm)
  · exact h.keep rfl (.inl rfl) nofun
  · exact h.replan hmsg replay

theorem HeldFits.landed (h : HeldFits q deliver group) (frames : List (Frame Id)) :
    HeldFits q deliver (group.landed deliver frames) := by
  rcases group.landed_cases deliver frames with ⟨-, msg, -, -, hmsg, he⟩ | ⟨-, -, he⟩ | ⟨-, -, he⟩ | ⟨-, -, he⟩ | ⟨-, he⟩ <;>
    rw [he]
  · exact h.replan hmsg group.replay
  iterate 3 exact h.keep rfl (.inl rfl) nofun
  · exact h

/-- An observation is taken in by a group whose backlog and request, if any, fit. -/
theorem HeldFits.observe (hobs : group.observe deliver msg = some after) (hbare : msg.history = [])
    (hq : q msg.observation msg.episodeInfo) (hrows : RowsFit q deliver group.history)
    (hwanted : ∀ m, group.predict = .wanted m → RequestFits q deliver m) : HeldFits q deliver after := by
  have hmsg : RequestFits q deliver msg := ⟨hq, hbare ▸ .nil⟩
  unfold Group.observe at hobs
  dsimp only at hobs
  split at hobs
  · cases hobs
    cases deliver with
    | false => exact ⟨hrows, fun m hm => by cases hm; exact hmsg, fun m hm => by cases hm; exact hmsg⟩
    | true => exact ⟨.nil, fun m hm => by cases hm; exact ⟨hq, hrows⟩, fun m hm => by cases hm; exact ⟨hq, hrows⟩⟩
  · split at hobs
    · cases hobs
    · rename_i hroom
      cases hobs
      cases deliver with
      | false => exact ⟨hrows, fun m hm => by cases hm; exact hmsg, hwanted⟩
      | true =>
        have hlt : group.history.length < historyBacklogCap := by simpa using hroom
        refine ⟨⟨?_, by simpa using Nat.succ_le_of_lt hlt⟩, fun m hm => by cases hm; exact ⟨hq, hmsg.rows⟩, hwanted⟩
        simp only [if_true, List.mem_append, List.mem_singleton]
        rintro row (hrow | rfl)
        · exact hrows.each row hrow
        · exact hq

theorem HeldFits.settle (h : HeldFits q deliver s.group) (lanes : List Nat) (completes : Bool) (rolls : List (Nat × Id))
    (events : List (EpisodeCompletedEvent Id R)) (minted : List Nat) :
    HeldFits q deliver (s.settle lanes completes rolls events minted).group := by
  cases completes with
  | false => exact h.keep rfl (.inl rfl) (fun _ hm => hm)
  | true =>
    refine h.keep rfl (.inl rfl) (fun msg hm => ?_)
    change (if s.group.predict.isInFlight then PredictState.inFlight true else .none) = .wanted msg at hm
    split at hm <;> cases hm

theorem NamesFit.latest_none (h : NamesFit true ids group) (hnil : group.history = []) :
    (group.latestRequest true).1 = none := by
  obtain ⟨latest, hobs, hstep⟩ := h.latest
  cases hm : (group.latestRequest true).1 with
  | none => rfl
  | some msg =>
    obtain ⟨latest', hobs', hcase⟩ := group.latestRequest_some true hm
    obtain rfl : latest = latest' := Option.some.inj (hobs.symm.trans hobs')
    have hlast := hcase.1
    rw [hnil] at hlast
    exact absurd hlast.symm (hstep rfl)

theorem NamesFit.takeFrame (h : NamesFit deliver ids group) {lead : Nat} {frame : Frame Id} (request : StepRequest Id)
    (ht : group.takeFrame lead deliver = (some frame, after)) : NamesFit deliver ids (after.stepping frame request) := by
  have hheld := h.held.takeFrame ht
  obtain ⟨replay, predict, history, rfl, hcase⟩ := group.takeFrame_some lead deliver ht
  refine ⟨hheld.keep rfl (.inl rfl) (fun _ hm => hm), h.latest, fun hd hroll => ?_⟩
  -- A group with rolls due takes the frame off its buffer, and plans nothing ahead.
  have hrolling := h.rolling hd hroll
  have hnone : group.predict = .none := by
    rcases hrolling.replay with hnone | hempty
    · exact hnone
    · rcases hcase with ⟨hreplay, -⟩ | ⟨-, hready, -⟩ | ⟨⟨-, hnone⟩ | ⟨-, hready⟩, -⟩
      · exact nomatch hempty.symm.trans hreplay
      · exact absurd hready (hrolling.ready _)
      · exact hnone
      · exact absurd hready (hrolling.ready _)
  have hnil : group.history = [] := hrolling.history.resolve_left (by rw [hnone]; exact nofun)
  rcases hcase with ⟨-, rfl, rfl⟩ | ⟨-, hready, -, -⟩ | ⟨-, msg, -, hmsg, -⟩
  · exact ⟨.inr hnil, .inl hnone, fun _ => hnone, fun _ hp => nomatch hnone.symm.trans hp⟩
  · exact nomatch hnone.symm.trans hready
  · subst hd
    exact nomatch (h.latest_none hnil).symm.trans hmsg

theorem Rearms.latest_some (h : Rearms deliver group) : (group.latestRequest deliver).1 ≠ none := by
  obtain ⟨-, msg, hobs, hstep⟩ := h
  unfold Group.latestRequest
  simp only [hobs]
  cases deliver with
  | false => exact nofun
  | true => simp [hstep rfl]

theorem NamesFit.landed (h : NamesFit deliver ids group) (frames : List (Frame Id))
    (hrunning : group.phase.running = true) (hrearms : group.predict = .inFlight true → group.phase = .ready → Rearms deliver group) :
    NamesFit deliver ids (group.landed deliver frames) := by
  have hheld := h.held.landed frames
  rcases group.landed_cases deliver frames with ⟨hp, msg, hready, hempty, hmsg, he⟩ | ⟨hp, hnone, he⟩ | ⟨hp, hempty, he⟩ |
    ⟨hp, hne, he⟩ | ⟨hp, he⟩ <;> rw [he] at hheld ⊢
  · refine ⟨hheld, h.latest, fun hd _ => ?_⟩
    subst hd
    obtain ⟨_, -, hcase⟩ := group.latestRequest_some true hmsg
    exact ⟨.inr (congrArg Group.history hcase.2.2), .inr hempty, fun hstep => (nomatch hready.symm.trans hstep), nofun⟩
  · refine ⟨hheld, h.latest, fun hd hroll => ?_⟩
    -- A group with rolls due waits for its stale prediction, and plans again when it lands.
    have hrolling := h.rolling hd hroll
    have hready : group.phase = .ready := by
      cases hphase : group.phase with
      | ready => rfl
      | stepping => exact nomatch hp.symm.trans (hrolling.stepping hphase)
      | resetting | idle => rw [hphase] at hrunning; cases hrunning
    have hempty := hrolling.replay.resolve_left (by rw [hp]; exact nofun)
    exact absurd (hnone hready hempty) (hrearms hp hready).latest_some
  · refine ⟨hheld, h.latest, fun hd hroll => ?_⟩
    have hrolling := h.rolling hd hroll
    refine ⟨.inr (hrolling.history.resolve_left ?_), .inl rfl, fun _ => rfl, nofun⟩
    rw [hp]
    exact nofun
  · refine ⟨hheld, h.latest, fun hd hroll => ?_⟩
    rcases (h.rolling hd hroll).replay with hnone | hempty
    · exact nomatch hnone.symm.trans hp
    · exact absurd hempty hne
  · exact h

/-- An observation of `ids` is taken in by a group whose backlog, if any, names them. -/
theorem NamesFit.observe (hobs : group.observe deliver msg = some after) (hfresh : Fresh ids msg)
    (hrows : RowsFit (fun _ info => names info = ids) deliver group.history)
    (hwanted : ∀ m, group.predict = .wanted m → RequestFits (fun _ info => names info = ids) deliver m)
    (hroll : deliver = true → group.pendingRoll ≠ [] → group.replay = [] ∧
      (group.predict = .none ∨ group.predict = .inFlight true)) : NamesFit deliver ids after := by
  have hheld := HeldFits.observe hobs hfresh.history hfresh.named hrows hwanted
  obtain ⟨own, predict, history, rfl, ⟨hempty, hnone, rfl, rfl, rfl⟩ | ⟨hkept, rfl, rfl, rfl⟩⟩ :=
    group.observe_some deliver hobs
  · refine ⟨hheld, ⟨_, rfl, fun hd => ?_⟩, fun hd _ => ?_⟩ <;> subst hd
    · exact nofun
    · exact ⟨.inr rfl, .inr hempty, nofun, nofun⟩
  · refine ⟨hheld, ⟨_, rfl, fun hd => ?_⟩, fun hd hrolls => ?_⟩
    · subst hd
      exact nofun
    · obtain ⟨hempty, hpredict⟩ := hroll hd hrolls
      have hstale : group.predict = .inFlight true := by
        rcases hpredict with hnone | hstale
        · exact absurd hkept (by simp [hempty, hnone])
        · exact hstale
      exact ⟨.inl hstale, .inr hempty, nofun, fun _ hp => nomatch hstale.symm.trans hp⟩

/-! ## Every move keeps the names in order -/

theorem Launched.namesFit (h : Launched cfg gid s) :
    s.alive = true → s.group.phase.running = true → NamesFit cfg.deliverHistory s.ids s.group := by
  cases h with
  | retired | reset => exact fun _ h => (by cases h)
  | dead => exact nofun

theorem Move.namesFit (hm : Move cfg gid RollsUnwanted s s') (hl : Live cfg gid s)
    (h : s.alive = true → s.group.phase.running = true → NamesFit cfg.deliverHistory s.ids s.group) :
    s'.alive = true → s'.group.phase.running = true → NamesFit cfg.deliverHistory s'.ids s'.group := by
  intro halive' hrunning'
  cases hm with
  | minted => exact h halive' hrunning'
  | skipped group halive hready ht =>
    have hsame := s.group.takeFrame_none _ _ ht (fun hp => (hl halive).chunk [] hp rfl)
    rw [hsame.1] at hrunning' ⊢
    exact h halive hrunning'
  | dispatched frame group request halive hready ht => exact (h halive (by rw [hready]; rfl)).takeFrame request ht
  | sent msg halive hw =>
    have hfit := h halive hrunning'
    refine ⟨hfit.held.keep rfl (.inl rfl) nofun, hfit.latest, fun hd hroll => ?_⟩
    have hrolling := hfit.rolling hd hroll
    refine ⟨.inr (hrolling.history.resolve_left ?_), .inr (hrolling.replay.resolve_left ?_), fun hstep => ?_, nofun⟩
    · rw [hw]
      exact nofun
    · rw [hw]
      exact nofun
    · exact nomatch hw.symm.trans (hrolling.stepping hstep)
  | landed request frames halive =>
    have hrunning : s.group.phase.running = true := by
      rcases (Alike.landed s.group cfg.deliverHistory frames).phase with hp | ⟨hp, -⟩
      · rw [← hp]
        exact hrunning'
      · rw [hp]
        rfl
    exact (h halive hrunning).landed frames hrunning (fun hp => ((hl halive).stale hp).2)
  | started initial request ids slots msg group halive hop hpending hfresh hobs =>
    obtain ⟨hreplay, hhistory, hroll, hpredict⟩ := (hl halive).cleared ((hl halive).op.resetting hop)
    refine NamesFit.observe hobs hfresh ?_ ?_ (fun _ hne => absurd hroll hne)
    · rw [show s.group.history = [] from hhistory]
      exact .nil
    · rintro m hm
      rcases hpredict with hp | hp <;> exact nomatch hp.symm.trans hm
  | stopped => cases hrunning'
  | restarted => cases hrunning'
  | observed frame request completes rolls events minted msg group halive hop hunwanted _ hrolls _ hfresh hobs =>
    have hphase := (hl halive).op.stepping hop
    have hfit := h halive (by rw [hphase]; rfl)
    have hsettled : (s.settle (cfg.spec.lanes gid) completes rolls events minted).group.history = s.group.history ∧
        (s.settle (cfg.spec.lanes gid) completes rolls events minted).group.pendingRoll = rolls := by
      cases completes <;> exact ⟨rfl, rfl⟩
    have hflush := (hl halive).settle_fields hop completes rolls events minted
    -- A roll finds an empty backlog.
    have hbacklog : s.group.pendingRoll ≠ [] → s.group.history = [] := by
      intro hne
      cases hd : cfg.deliverHistory with
      | false =>
        have hcount := hfit.held.rows.count
        rw [hd] at hcount
        exact List.eq_nil_of_length_eq_zero (Nat.le_zero.mp hcount)
      | true =>
        have hrolling := hfit.rolling hd hne
        exact hrolling.history.resolve_left (by rw [hrolling.stepping hphase]; exact nofun)
    show NamesFit cfg.deliverHistory (episodeIdsWithRoll s.ids (cfg.spec.lanes gid) s.group.pendingRoll) group
    have hclear : rolls ≠ [] → completes = true := by
      intro hne
      cases completes with
      | true => rfl
      | false => exact absurd (hrolls rfl) hne
    by_cases hnil : s.group.pendingRoll = []
    · have hheld := hfit.held.settle (cfg.spec.lanes gid) completes rolls events minted
      rw [hnil] at hfresh ⊢
      refine NamesFit.observe hobs hfresh hheld.rows hheld.wanted (fun _ hne => ?_)
      obtain rfl := hclear (hsettled.2 ▸ hne)
      exact ⟨rfl, hflush.2.2.2.2.2 rfl⟩
    · refine NamesFit.observe hobs hfresh ?_ (fun m hm => ?_) (fun _ hne => ?_)
      · rw [hsettled.1, hbacklog hnil]
        exact .nil
      · cases completes with
        | true => rcases hflush.2.2.2.2.2 rfl with hp | hp <;> exact nomatch hp.symm.trans hm
        | false =>
          have hw := hunwanted hnil rfl
          rw [show s.group.predict = .wanted m from hm] at hw
          cases hw
      · obtain rfl := hclear (hsettled.2 ▸ hne)
        exact ⟨rfl, hflush.2.2.2.2.2 rfl⟩
  | failed => cases halive'
  | killed => cases halive'
  | drained flying hdead => exact nomatch hdead.symm.trans halive'

end Rlmesh.Runtime
