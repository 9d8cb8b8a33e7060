import Rlmesh.Runtime.Invariants
/-!
# Observation history

On a history route every observation carries the step it was made at, and the
model is to be sent each observation of an episode once, as a row of some
request's history or as its own observation. What a running group has sent of an
episode, followed by what it still holds (the request it wants to send, then its
backlog), is a stretch of what it observed, and all of it for the episodes in
its slots. A completion that drops a request the group still wants breaks this.
-/
open Rlmesh.Wire Rlmesh.Lib

set_option linter.unusedSectionVars false

namespace Rlmesh.Runtime

variable {Id R : Type} [DecidableEq Id] [Inhabited Id] [Zero R] [Add R] [BEq R]

/-! ## Step stamps -/

/-- The steps of the rows that name an episode. -/
def rowStamps (e : Id) (rows : List (ObservationHistoryFrame Id)) : List Int :=
  (rows.filter (fun row => decide (e ∈ names row.episodeInfo))).map (·.step)

/-- The step of a request's own observation, if it names the episode. -/
def ownStamp (e : Id) (request : PredictRequest Id) : List Int :=
  if e ∈ names request.episodeInfo then request.step.toList else []

/-- The steps a request delivers of an episode: its rows, then its own observation. -/
def stamps (e : Id) (request : PredictRequest Id) : List Int := rowStamps e request.history ++ ownStamp e request

def delivered (e : Id) (sent : List (PredictRequest Id)) : List Int := sent.flatMap (stamps e)

/-- The steps at which a group observed an episode. -/
def observedStamps (e : Id) (group : Group Id R) : List Int := group.observed.flatMap (ownStamp e)

def PredictState.stamps (e : Id) : PredictState Id → List Int
  | .wanted msg => Runtime.stamps e msg
  | _ => []

/-- What a group holds of an episode and has not sent. -/
def Group.undelivered (e : Id) (group : Group Id R) : List Int :=
  group.predict.stamps e ++ rowStamps e group.history

/-- Each step follows the one before. -/
abbrev Consecutive (steps : List Int) : Prop := steps.IsChain (fun a b => b = a + 1)

theorem rowStamps_append (e : Id) (rows more : List (ObservationHistoryFrame Id)) :
    rowStamps e (rows ++ more) = rowStamps e rows ++ rowStamps e more := by
  simp [rowStamps]

theorem rowStamps_singleton (e : Id) (row : ObservationHistoryFrame Id) :
    rowStamps e [row] = if e ∈ names row.episodeInfo then [row.step] else [] := by
  by_cases h : e ∈ names row.episodeInfo <;> simp [rowStamps, h]

theorem delivered_append (e : Id) (sent more : List (PredictRequest Id)) :
    delivered e (sent ++ more) = delivered e sent ++ delivered e more := by
  simp [delivered]

theorem Consecutive.eq_range {steps : List Int} (h : Consecutive steps) :
    steps = (List.range steps.length).map (fun i : Nat => steps.head?.getD 0 + (i : Int)) := by
  induction steps with
  | nil => rfl
  | cons first rest ih =>
    cases rest with
    | nil => simp
    | cons second rest =>
      rw [Consecutive, List.isChain_cons_cons] at h
      have hrest := ih h.2
      rw [List.length_cons, List.range_succ_eq_map, List.map_cons, List.map_map]
      conv_lhs => rw [hrest]
      refine congrArg₂ List.cons (by simp) (List.map_congr_left (fun i _ => ?_))
      show second + (i : Int) = first + ((i + 1 : Nat) : Int)
      have hnext := h.1
      omega

/-! ## The backlog of a group -/

/-- What a running group has sent of an episode and what it holds fit together. -/
structure Backlog (ids : List Id) (sent : List (PredictRequest Id)) (group : Group Id R) : Prop where
  pending : ∀ e, delivered e sent ++ group.undelivered e <+: observedStamps e group
  whole : ∀ e ∈ ids, delivered e sent ++ group.undelivered e = observedStamps e group ∧
    (observedStamps e group).getLast? = some group.steps
  /-- The trailing row, if there is one, is the latest observation. -/
  latest : ∀ msg row, group.obsMsg = some msg → group.history.getLast? = some row → row.episodeInfo = msg.episodeInfo

structure HistoryFit (s : Station Id R) : Prop where
  consecutive : ∀ e, Consecutive (observedStamps e s.group)
  sent : ∀ e, delivered e s.sent <+: observedStamps e s.group
  running : s.alive = true → s.group.phase.running = true → Backlog s.ids s.sent s.group

/-- A step that completes an episode is observed while no request waits to be sent. -/
def CompletesUnwanted (s : Station Id R) (completes : Bool) : Prop :=
  completes = true → s.group.predict.isWanted = false

instance (s : Station Id R) (completes : Bool) : Decidable (CompletesUnwanted s completes) :=
  inferInstanceAs (Decidable (_ → _))

variable {cfg : DriverConfig Id R} {gid : Nat} {C : Station Id R → Bool → Prop} {s s' : Station Id R} {ids : List Id}
  {sent sent' : List (PredictRequest Id)} {group after : Group Id R} {msg : PredictRequest Id} {e : Id}

/-- A re-plan takes over the whole backlog: the trailing row becomes its own observation. -/
theorem Backlog.latest_stamps (h : Backlog ids sent group) (hm : (group.latestRequest true).1 = some msg) (e : Id) :
    stamps e msg = rowStamps e group.history ∧ (group.latestRequest true).2.history = [] := by
  obtain ⟨latest, hobs, hstep, rfl, hgroup⟩ := group.latestRequest_some true hm
  refine ⟨?_, by rw [hgroup]⟩
  unfold stamps ownStamp
  rcases List.eq_nil_or_concat group.history with hnil | ⟨init, row, hrows⟩
  · rw [hnil] at hstep ⊢
    rw [← hstep]
    simp [rowStamps]
  · rw [List.concat_eq_append] at hrows
    have hrow : group.history.getLast? = some row := by rw [hrows, List.getLast?_concat]
    have hinfo := h.latest latest row hobs hrow
    rw [hrow] at hstep
    rw [hrows, List.dropLast_concat, rowStamps_append, rowStamps_singleton, ← hstep, hinfo]
    rfl

/-- Requests move from the group to the wire; nothing is observed or lost. -/
theorem Backlog.handOver (h : Backlog ids sent group)
    (hsame : ∀ e, delivered e sent' ++ after.undelivered e = delivered e sent ++ group.undelivered e)
    (hobserved : after.observed = group.observed) (hsteps : after.steps = group.steps)
    (hobs : after.obsMsg = group.obsMsg) (hrows : after.history = group.history ∨ after.history = []) :
    Backlog ids sent' after := by
  have hstamps : ∀ e, observedStamps e after = observedStamps e group := by
    intro e
    rw [observedStamps, hobserved, observedStamps]
  refine ⟨fun e => ?_, fun e he => ?_, fun msg row hmsg hrow => ?_⟩
  · rw [hsame, hstamps]
    exact h.pending e
  · rw [hsame, hstamps, hsteps]
    exact h.whole e he
  · rcases hrows with hr | hr
    · exact h.latest msg row (hobs ▸ hmsg) (hr ▸ hrow)
    · rw [hr] at hrow
      cases hrow

theorem Backlog.replan (h : Backlog ids sent group) (hm : (group.latestRequest true).1 = some msg)
    (hw : ∀ e, group.predict.stamps e = []) (replay : List (Frame Id)) :
    Backlog ids sent { group with replay, predict := .wanted msg, history := (group.latestRequest true).2.history } := by
  refine h.handOver (fun e => ?_) rfl rfl rfl (.inr (h.latest_stamps hm default).2)
  unfold Group.undelivered
  rw [hw e, (h.latest_stamps hm e).2]
  show delivered e sent ++ (stamps e msg ++ []) = _
  rw [(h.latest_stamps hm e).1, List.append_nil, List.nil_append]

theorem observedStamps_append {r : PredictRequest Id} (h : after.observed = group.observed ++ [r]) :
    observedStamps e after = observedStamps e group ++ ownStamp e r := by
  rw [observedStamps, h, List.flatMap_append, observedStamps]
  simp

/-- An observation of `ids` is added to what is held of each of them, and to nothing else. -/
theorem observe_stamps (h : group.observe true msg = some after) (hfresh : names msg.episodeInfo = ids) (e : Id) :
    after.undelivered e = group.undelivered e ++ (if e ∈ ids then [group.steps] else []) ∧
      observedStamps e after = observedStamps e group ++ (if e ∈ ids then [group.steps] else []) := by
  have hown : ownStamp e (group.stamp true msg) = if e ∈ ids then [group.steps] else [] := by
    rw [← hfresh]
    rfl
  obtain ⟨own, predict, history, rfl, ⟨-, hnone, rfl, rfl, rfl⟩ | ⟨-, rfl, rfl, rfl⟩⟩ := group.observe_some true h
  · refine ⟨?_, hown ▸ observedStamps_append rfl⟩
    show (rowStamps e group.history ++ ownStamp e (group.stamp true msg)) ++ [] = _
    rw [Group.undelivered, hnone, hown, List.append_nil]
    rfl
  · refine ⟨?_, hown ▸ observedStamps_append rfl⟩
    show group.predict.stamps e ++ rowStamps e (group.history ++ [_]) = _
    rw [rowStamps_append, rowStamps_singleton, hfresh, Group.undelivered, List.append_assoc]

/-- An observation of `ids` follows on what was observed of them before. -/
theorem Backlog.observe (h : group.observe true msg = some after) (hfresh : names msg.episodeInfo = ids)
    (hpending : ∀ e, delivered e sent ++ group.undelivered e <+: observedStamps e group)
    (hwhole : ∀ e ∈ ids, delivered e sent ++ group.undelivered e = observedStamps e group ∧
      ∀ step, (observedStamps e group).getLast? = some step → group.steps = step + 1)
    (hconsecutive : ∀ e, Consecutive (observedStamps e group)) :
    (∀ e, Consecutive (observedStamps e after)) ∧ Backlog ids sent after := by
  have hsteps : after.steps = group.steps := by
    obtain ⟨_, _, _, rfl, -⟩ := group.observe_some true h
    rfl
  have hstamps := fun e => observe_stamps h hfresh e
  refine ⟨fun e => ?_, ⟨fun e => ?_, fun e he => ?_, fun m row hm hrow => ?_⟩⟩
  · rw [(hstamps e).2]
    split
    · rename_i he
      refine List.isChain_append.mpr ⟨hconsecutive e, List.isChain_singleton _, fun a ha b hb => ?_⟩
      obtain rfl : group.steps = b := by simpa using hb
      exact (hwhole e he).2 a ha
    · rw [List.append_nil]
      exact hconsecutive e
  · rw [(hstamps e).1, (hstamps e).2, ← List.append_assoc]
    by_cases he : e ∈ ids
    · rewrite [(hwhole e he).1]
      exact List.prefix_rfl
    · rw [if_neg he, List.append_nil, List.append_nil]
      exact hpending e
  · rw [(hstamps e).1, (hstamps e).2, if_pos he, ← List.append_assoc, (hwhole e he).1, hsteps]
    exact ⟨rfl, List.getLast?_concat⟩
  · obtain ⟨own, predict, history, rfl, ⟨-, -, -, -, rfl⟩ | ⟨-, -, rfl, rfl⟩⟩ := group.observe_some true h
    · cases hrow
    · rw [if_pos rfl, List.getLast?_concat] at hrow
      cases hm
      cases hrow
      rfl

/-! ## Every move keeps the history in order -/

theorem observedStamps_of_unseen (h : ¬ Seen s e) : observedStamps e s.group = [] := by
  refine List.flatMap_eq_nil_iff.mpr (fun r hr => ?_)
  rw [ownStamp, if_neg (fun he => h (.inr ⟨r, hr, he⟩))]

theorem whole_of_unseen (h : ¬ Seen s e)
    (hpending : delivered e s.sent ++ group.undelivered e <+: observedStamps e s.group) :
    delivered e s.sent ++ group.undelivered e = observedStamps e s.group ∧ observedStamps e s.group = [] := by
  rw [observedStamps_of_unseen h] at hpending ⊢
  exact ⟨List.prefix_nil.mp hpending, rfl⟩

theorem Launched.historyFit (h : Launched cfg gid s) : HistoryFit s := by
  cases h with
  | retired | reset =>
    exact ⟨fun _ => List.isChain_nil, fun _ => List.prefix_rfl, fun _ h => (by cases h)⟩
  | dead => exact ⟨fun _ => List.isChain_nil, fun _ => List.prefix_rfl, nofun⟩

theorem HistoryFit.handOver (h : HistoryFit s) (hobserved : s'.group.observed = s.group.observed)
    (hsent : ∀ e, delivered e s'.sent <+: observedStamps e s.group)
    (hrun : s'.alive = true → s'.group.phase.running = true → Backlog s'.ids s'.sent s'.group) : HistoryFit s' := by
  have hstamps : ∀ e, observedStamps e s'.group = observedStamps e s.group := by
    intro e
    rw [observedStamps, hobserved, observedStamps]
  refine ⟨fun e => ?_, fun e => ?_, hrun⟩
  · rw [hstamps]
    exact h.consecutive e
  · rw [hstamps]
    exact hsent e

theorem settle_undelivered {completes : Bool} (hp : completes = true → s.group.predict.isWanted = false) (lanes : List Nat)
    (rolls : List (Nat × Id)) (events : List (EpisodeCompletedEvent Id R)) (minted : List Nat) (e : Id) :
    (s.settle lanes completes rolls events minted).group.undelivered e = s.group.undelivered e := by
  cases completes with
  | false => rfl
  | true =>
    unfold Group.undelivered
    show (if s.group.predict.isInFlight then PredictState.inFlight true else .none).stamps e ++ _ = _
    have hw := hp rfl
    cases hq : s.group.predict with
    | none | ready _ => rfl
    | inFlight _ => rfl
    | wanted _ =>
      rw [hq] at hw
      cases hw

/-- An observation is taken in by a station that lost nothing: the episodes it
names are new, or were observed one step before. -/
theorem HistoryFit.observe (h : HistoryFit s) {before : Group Id R} (hobs : before.observe true msg = some after)
    (hfresh : names msg.episodeInfo = ids) (hobserved : before.observed = s.group.observed)
    (hpending : ∀ e, delivered e s.sent ++ before.undelivered e <+: observedStamps e s.group)
    (hids : ∀ e ∈ ids, ¬ Seen s e ∨
      (delivered e s.sent ++ before.undelivered e = observedStamps e s.group ∧
        ∃ step, (observedStamps e s.group).getLast? = some step ∧ before.steps = step + 1))
    (hs' : s'.group = after) (hids' : s'.ids = ids) (hsent' : s'.sent = s.sent) : HistoryFit s' := by
  have hstamps : ∀ e, observedStamps e before = observedStamps e s.group := by
    intro e
    rw [observedStamps, hobserved, observedStamps]
  have hgrown : ∀ e, observedStamps e s.group <+: observedStamps e after := by
    intro e
    rw [(observe_stamps hobs hfresh e).2, hstamps]
    exact List.prefix_append _ _
  have hwhole : ∀ e ∈ ids, delivered e s.sent ++ before.undelivered e = observedStamps e before ∧
      ∀ step, (observedStamps e before).getLast? = some step → before.steps = step + 1 := by
    intro e he
    rw [hstamps]
    rcases hids e he with hnew | ⟨hwhole, last, hlast, hsteps⟩
    · obtain ⟨hwhole, hnil⟩ := whole_of_unseen hnew (hpending e)
      refine ⟨hwhole, fun step hstep => ?_⟩
      rw [hnil] at hstep
      cases hstep
    · refine ⟨hwhole, fun step hstep => ?_⟩
      rw [hlast] at hstep
      cases hstep
      exact hsteps
  obtain ⟨hchain, hbacklog⟩ := Backlog.observe hobs hfresh (fun e => hstamps e ▸ hpending e) hwhole
    (fun e => hstamps e ▸ h.consecutive e)
  rw [← hs', ← hids', ← hsent'] at hbacklog
  refine ⟨hs' ▸ hchain, fun e => ?_, fun _ _ => hbacklog⟩
  rw [hs', hsent']
  exact (h.sent e).trans (hgrown e)

theorem Move.historyFit (hdeliver : cfg.deliverHistory = true) (hm : Move cfg gid CompletesUnwanted s s')
    (hl : Live cfg gid s) (hids : IdsFit cfg gid s) (h : HistoryFit s) : HistoryFit s' := by
  cases hm with
  | minted more => exact h.handOver rfl h.sent h.running
  | skipped group halive hready ht =>
    have hsame := s.group.takeFrame_none _ _ ht (fun hp => (hl halive).chunk [] hp rfl)
    rw [hsame.1]
    exact h
  | dispatched frame group request halive hready ht =>
    have hbacklog := h.running halive (by rw [hready]; rfl)
    rw [hdeliver] at ht
    obtain ⟨replay, predict, history, rfl, hcase⟩ := s.group.takeFrame_some _ _ ht
    refine h.handOver rfl h.sent (fun _ _ => ?_)
    rcases hcase with ⟨-, rfl, rfl⟩ | ⟨-, hq, rfl, rfl⟩ | ⟨hq, msg, rfl, hmsg, rfl⟩
    · exact hbacklog.handOver (fun _ => rfl) rfl rfl rfl (.inl rfl)
    · refine hbacklog.handOver (fun e => ?_) rfl rfl rfl (.inl rfl)
      rw [Group.undelivered, Group.undelivered, hq]
      rfl
    · have hw : ∀ e, s.group.predict.stamps e = [] := by
        intro e
        rcases hq with ⟨-, hq⟩ | ⟨-, hq⟩ <;> rw [hq] <;> rfl
      exact (hbacklog.replan hmsg hw replay).handOver (fun _ => rfl) rfl rfl rfl (.inl rfl)
  | sent msg halive hw =>
    have hsent : ∀ e, delivered e (s.sent ++ [msg]) = delivered e s.sent ++ s.group.predict.stamps e := by
      intro e
      rw [delivered_append, hw]
      simp [delivered, PredictState.stamps]
    have hnotIdle : s.group.phase ≠ .idle := by
      intro hidle
      exact nomatch hw.symm.trans ((hl halive).retired hidle)
    have hpending : ∀ e, delivered e s.sent ++ s.group.undelivered e <+: observedStamps e s.group := by
      intro e
      cases hphase : s.group.phase with
      | ready | stepping => exact (h.running halive (by rw [hphase]; rfl)).pending e
      | idle => exact absurd hphase hnotIdle
      | resetting =>
        rcases ((hl halive).cleared hphase).2.2.2 with hq | hq <;> exact nomatch hw.symm.trans hq
    refine h.handOver rfl (fun e => ?_) (fun _ hp => ?_)
    · rw [hsent]
      refine List.IsPrefix.trans ?_ (hpending e)
      rw [Group.undelivered, ← List.append_assoc]
      exact List.prefix_append _ _
    · refine (h.running halive hp).handOver (fun e => ?_) rfl rfl rfl (.inl rfl)
      rw [hsent, Group.undelivered, List.append_assoc]
      rfl
  | landed request frames halive hfly _ hfrom =>
    rw [hdeliver]
    rcases s.group.landed_cases true frames with ⟨hq, msg, hready, -, hmsg, he⟩ | ⟨hq, -, he⟩ | ⟨hq, -, he⟩ |
      ⟨hq, -, he⟩ | ⟨hq, he⟩ <;> rw [he]
    · refine h.handOver rfl h.sent (fun _ hp => ?_)
      exact (h.running halive hp).replan hmsg (fun e => by rw [hq]; rfl) s.group.replay
    iterate 3
      refine h.handOver rfl h.sent (fun _ hp => ?_)
      refine (h.running halive hp).handOver (fun e => ?_) rfl rfl rfl (.inl rfl)
      rw [Group.undelivered, Group.undelivered, hq]
      rfl
    · exact h.handOver rfl h.sent h.running
  | started initial request ids slots msg group halive hop hpending hfresh hobs =>
    have hphase := (hl halive).op.resetting hop
    have hcleared := (hl halive).cleared hphase
    have hstaged := hids.starts halive hphase ids slots hpending
    rw [hdeliver] at hobs
    refine h.observe hobs hfresh.named rfl (fun e => ?_) (fun e he => .inl (hstaged.unseen e he)) rfl rfl rfl
    have hnone : Group.undelivered e { s.group with op := none, pendingStart := none } = [] := by
      unfold Group.undelivered
      rw [show s.group.history = [] from hcleared.2.1]
      rcases hcleared.2.2.2 with hq | hq <;> rw [show s.group.predict = _ from hq] <;> rfl
    rw [hnone, List.append_nil]
    exact h.sent e
  | stopped frame request completes rolls events minted =>
    exact h.handOver (settle_op s (cfg.spec.lanes gid) completes rolls events minted).2 h.sent (fun _ h => (by cases h))
  | restarted => exact h.handOver rfl h.sent (fun _ h => (by cases h))
  | observed frame request completes rolls events minted msg group halive hop hunwanted _ _ _ hfresh hobs =>
    have hphase := (hl halive).op.stepping hop
    have hrunning : s.group.phase.running = true := by rw [hphase]; rfl
    have hbacklog := h.running halive hrunning
    have hstaged := hids.rolls halive hrunning
    have hsame := settle_undelivered hunwanted (cfg.spec.lanes gid) rolls events minted
    have hsteps : (s.settle (cfg.spec.lanes gid) completes rolls events minted).group.steps = s.group.steps + 1 := by
      cases completes <;> rfl
    rw [hdeliver] at hobs
    refine h.observe hobs hfresh.named (settle_op s _ _ rolls events minted).2 (fun e => ?_) (fun e he => ?_) rfl rfl rfl
    · rw [hsame]
      exact hbacklog.pending e
    · -- A lane keeps its id, or rolls to one nobody has seen.
      rcases (roll_ids (cfg.spec.lanes gid) hids.distinct hstaged.nodup
        (fun id hid hmem => hstaged.unseen id hid (.inl hmem))).2 e he with hold | hnew
      · obtain ⟨hwhole, hlast⟩ := hbacklog.whole e hold
        exact .inr ⟨by rw [hsame]; exact hwhole, _, hlast, hsteps⟩
      · exact .inl (hstaged.unseen e hnew)
  | failed group ids flying more _ _ hobserved _ => exact h.handOver hobserved h.sent nofun
  | killed => exact h.handOver rfl h.sent nofun
  | drained flying hdead => exact h.handOver rfl h.sent (fun halive => (nomatch hdead.symm.trans halive))

/-! ## What the model is sent -/

/-- The predict requests put in flight so far, in order. -/
def Driver.requests (d : Driver Id R) : List (PredictRequest Id) :=
  d.wire.filterMap (fun message => match message with
    | .predict _ request => some request
    | .resetAdapter _ => none)

/-- The step of an episode's first observation. -/
def firstStep (e : Id) (group : Group Id R) : Int := (observedStamps e group).head?.getD 0

theorem mem_sent {d : Driver Id R} {request : PredictRequest Id} :
    request ∈ d.sent gid ↔ .predict gid request ∈ d.wire := by
  unfold Driver.sent
  rw [List.mem_filterMap]
  constructor
  · rintro ⟨message, hmem, hm⟩
    cases message with
    | resetAdapter _ => cases hm
    | predict g r =>
      obtain ⟨rfl, rfl⟩ : g = gid ∧ r = request := by simpa using hm
      exact hmem
  · intro hmem
    exact ⟨_, hmem, by simp⟩

theorem delivered_requests {d : Driver Id R} (h : ∀ g, g ≠ gid → delivered e (d.sent g) = []) :
    delivered e d.requests = delivered e (d.sent gid) := by
  have hwire : ∀ g request, .predict g request ∈ d.wire → g ≠ gid → stamps e request = [] := by
    intro g request hmem hne
    exact List.flatMap_eq_nil_iff.mp (h g hne) request (mem_sent.mpr hmem)
  unfold Driver.requests Driver.sent
  generalize d.wire = wire at hwire
  induction wire with
  | nil => rfl
  | cons message rest ih =>
    have hrest := ih (fun g request hmem => hwire g request (List.mem_cons_of_mem _ hmem))
    cases message with
    | resetAdapter _ => exact hrest
    | predict g request =>
      by_cases hg : g = gid
      · simp only [List.filterMap_cons, hg, if_true]
        exact congrArg (stamps e request ++ ·) hrest
      · simp only [List.filterMap_cons, hg, if_false]
        exact (congrArg (· ++ _) (hwire g request List.mem_cons_self hg)).trans hrest

/-- On a history route, in every run in which no step completes an episode while
its group has a request waiting to be sent, what the model is sent of an episode
is its observations in order, each once and without a gap, from the first on. -/
theorem history_delivered_once (hdeliver : cfg.deliverHistory = true) {s : Session Id R}
    (h : cfg.runs.Reach (cfg.StepsMeet CompletesUnwanted) s) (hg : gid < cfg.spec.groupCount)
    (he : Drawn cfg.minter gid s.driver.mintedFor e) :
    ∃ count, delivered e s.driver.requests =
      (List.range count).map (fun i : Nat => firstStep e (s.driver.groups gid) + (i : Int)) := by
  have hall : cfg.runs.Reach (fun _ _ => True) s := h.mono (fun _ _ _ => trivial)
  have hfit : ∀ g, g < cfg.spec.groupCount →
      IdsFit cfg g (cfg.stationOf g s) ∧ HistoryFit (cfg.stationOf g s) := by
    intro g hg
    exact (reach_station (fun g s => IdsFit cfg g s ∧ HistoryFit s) (fun _ _ h => ⟨h.idsFit, h.historyFit⟩)
      (fun _ _ _ hl h hm => ⟨hm.idsFit hl h.1, hm.historyFit hdeliver hl h.1 h.2⟩) h hg).2
  -- A group that has seen the episode is the one it was drawn for.
  have hothers : ∀ g, g ≠ gid → delivered e (s.driver.sent g) = [] := by
    intro g hne
    by_cases hg' : g < cfg.spec.groupCount
    · obtain ⟨hids, hhistory⟩ := hfit g hg'
      have hunseen : ¬ Seen (cfg.stationOf g s) e := by
        intro hseen
        rcases hids.seen e hseen with hd | hd
        · exact he.ne_default hd
        · exact hne (hd.owner he)
      have hsent := hhistory.sent e
      rw [observedStamps_of_unseen hunseen] at hsent
      exact List.prefix_nil.mp hsent
    · rw [reach_sent hall hg']
      rfl
  obtain ⟨-, hhistory⟩ := hfit gid hg
  have hprefix : delivered e (s.driver.sent gid) <+: observedStamps e (s.driver.groups gid) := hhistory.sent e
  have hrange := (hhistory.consecutive e).eq_range
  refine ⟨min (delivered e (s.driver.sent gid)).length (observedStamps e (s.driver.groups gid)).length, ?_⟩
  calc delivered e s.driver.requests
      = delivered e (s.driver.sent gid) := delivered_requests hothers
    _ = (observedStamps e (s.driver.groups gid)).take (delivered e (s.driver.sent gid)).length :=
        List.prefix_iff_eq_take.mp hprefix
    _ = _ := by
        conv_lhs => rw [show observedStamps e (s.driver.groups gid) = _ from hrange]
        rw [← List.map_take, List.take_range]
        rfl

/-- A NEXT_STEP history route that asks for the next chunk one frame ahead. -/
def historyConfig : DriverConfig Nat Int :=
  { smallConfig (smallSpec 1 1 false) with prefetchLead := 1, deliverHistory := true }

/-- The prefetched request is sent while the second step is out: steps 0 to 2 of
the first episode are delivered. -/
theorem history_delivered_once_prefetching :
    ∃ s : Session Nat Int, delivered 1 s.driver.requests = [0, 1, 2] ∧
      ∃ count, delivered 1 s.driver.requests =
        (List.range count).map (fun i : Nat => firstStep 1 (s.driver.groups 0) + (i : Int)) := by
  obtain ⟨s, hr, hp⟩ := System.exists_reach_of_runFrom historyConfig.runs (historyConfig.StepsMeet CompletesUnwanted)
    (fun s => decide (s.driver.mintedFor[0]? = some 0) && decide (delivered 1 s.driver.requests = [0, 1, 2]))
    [.launch 0 none, plainTurn [], resetLands 0, plainTurn [], predictLands .resetObservation 1 2, plainTurn [],
      stepLands 0 [], plainTurn [0], stepLands 0 [(1, 0)], plainTurn [], predictLands .stepObservation 2 1, plainTurn []]
    (by decide +kernel) (by decide +kernel)
  simp only [Bool.and_eq_true, decide_eq_true_eq] at hp
  exact ⟨s, hp.2, history_delivered_once (e := 1) rfl hr (by decide) ⟨0, hp.1, rfl⟩⟩

/-- The same run with a scheduler that leaves the prefetched request waiting: the
step that ends the episode drops it, and the observation of step 1, which it
carried, is never sent. -/
theorem completion_drops_wanted_history :
    ∃ s : Session Nat Int, historyConfig.runs.Reach (fun _ _ => True) s ∧
      decide (delivered 1 s.driver.requests = [0, 2]) = true :=
  System.exists_reach_of_runFrom _ _ _
    [.launch 0 none, plainTurn [], resetLands 0, plainTurn [], predictLands .resetObservation 1 2, plainTurn [],
      stepLands 0 [], plainTurn [], stepLands 0 [(1, 0)], plainTurn []]
    (by decide +kernel) (by decide +kernel)

end Rlmesh.Runtime
