import Rlmesh.Runtime.GroupMoves
import Rlmesh.Runtime.History
/-!
# The history backlog and its cap

On a history route a group buffers a row for each step it plays from its replay
buffer. Without a prefetch a chunk of `n` frames leaves at most `n - 1` rows, so
the cap of 1023 rows is exact for chunks of 1024 frames. A prefetch takes the rows
with it early: those of the frames still to play then join the rows of the next
chunk, up to the next prefetch, which is one row more.
-/
open Rlmesh.Wire Rlmesh.Lib

set_option linter.unusedSectionVars false

namespace Rlmesh.Runtime

/-! ## Counting rows -/

/-- Rows that can join the backlog between a prefetch and the end of the chunk it was made in. -/
def spare (lead bound : Nat) : Nat := if lead = 0 then 0 else min lead (bound - 1) + 1

theorem spare_zero (bound : Nat) : spare 0 bound = 0 := rfl

theorem spare_of_pos {lead : Nat} (bound : Nat) (h : 0 < lead) : spare lead bound = min lead (bound - 1) + 1 :=
  if_neg (Nat.ne_of_gt h)

theorem spare_le (lead bound : Nat) : spare lead bound ≤ lead + 1 ∧ (0 < bound → spare lead bound ≤ bound) := by
  unfold spare
  split <;> omega

/-- The counters of a group that its backlog depends on: its rows, the observation that is due (0 or 1), its frames,
and whether it waits for a prediction. -/
structure Room (lead bound rows due frames : Nat) (waits : Bool) : Prop where
  waiting : waits = true → rows + due + frames ≤ spare lead bound
  playing : waits = false → rows + due + frames ≤ spare lead bound + bound
  /-- With a prefetch due and not made, the rows are those of the last one. -/
  spent : waits = false → 0 < lead → 0 < frames → frames ≤ lead → due = 1 → rows + 1 ≤ spare lead bound

namespace Room

variable {lead bound rows due frames : Nat} {waits : Bool}

theorem fresh (due : Nat) (hdue : due ≤ 1) (hbound : 0 < bound) : Room lead bound 0 due 0 false :=
  ⟨nofun, fun _ => by omega, fun _ _ hframes => absurd hframes (Nat.lt_irrefl 0)⟩

theorem asked : Room lead bound 0 0 0 true := ⟨fun _ => Nat.zero_le _, nofun, nofun⟩

theorem played (h : Room lead bound rows 0 (frames + 1) waits)
    (hrows : waits = false → 0 < lead → frames ≤ lead → rows = 0) : Room lead bound rows 1 frames waits := by
  refine ⟨fun hw => ?_, fun hw => ?_, fun hw hlead _ hfew _ => ?_⟩
  · have := h.waiting hw
    omega
  · have := h.playing hw
    omega
  · rw [hrows hw hlead hfew, spare_of_pos bound hlead]
    omega

theorem refilled (h : Room lead bound rows 0 0 true) (hshort : frames ≤ bound) : Room lead bound rows 0 frames false := by
  have hwaiting := h.waiting rfl
  exact ⟨nofun, fun _ => by omega, fun _ _ _ _ hdue => nomatch hdue⟩

theorem prefetched (hlead : 0 < lead) (hfew : frames ≤ lead) (hshort : frames < bound) :
    Room lead bound 0 1 frames true := by
  refine ⟨fun _ => ?_, nofun, nofun⟩
  rw [spare_of_pos bound hlead]
  omega

theorem landed (h : Room lead bound rows due frames true) {more : Nat} (hmore : more ≤ bound) :
    Room lead bound rows due (frames + more) false := by
  have hwaiting := h.waiting rfl
  exact ⟨nofun, fun _ => by omega, fun _ _ _ _ hdue => by omega⟩

/-- The frames are dropped; what is waited for may be dropped as well. -/
theorem flushed (h : Room lead bound rows due frames waits) {waits' : Bool} (hwaits : waits' = true → waits = true) :
    Room lead bound rows due 0 waits' := by
  refine ⟨fun hw => ?_, fun _ => ?_, fun _ _ hframes => absurd hframes (Nat.lt_irrefl 0)⟩
  · have := h.waiting (hwaits hw)
    omega
  · cases hw : waits with
    | true =>
      have := h.waiting hw
      omega
    | false =>
      have := h.playing hw
      omega

theorem cleared (h : Room lead bound rows 1 frames waits) (hbound : 0 < bound) : Room lead bound 0 1 0 waits := by
  refine ⟨fun hw => ?_, fun _ => by omega, fun _ _ hframes => absurd hframes (Nat.lt_irrefl 0)⟩
  have := h.waiting hw
  omega

theorem observed (h : Room lead bound rows 1 frames waits) : Room lead bound (rows + 1) 0 frames waits :=
  ⟨h.waiting, h.playing, fun _ _ _ _ hdue => nomatch hdue⟩

end Room

/-- The longest chunk for which the cap is enough. -/
def chunkBound (lead : Nat) : Nat := if lead = 0 then historyBacklogCap + 1 else historyBacklogCap

theorem chunkBound_pos (lead : Nat) : 0 < chunkBound lead := by
  unfold chunkBound historyBacklogCap
  split <;> omega

theorem Room.fits {lead rows frames : Nat} {waits : Bool} (h : Room lead (chunkBound lead) rows 1 frames waits)
    (hcovered : waits = true ∨ 0 < frames) : rows < historyBacklogCap := by
  obtain ⟨hlead, hbound⟩ := spare_le lead (chunkBound lead)
  have hbound := hbound (chunkBound_pos lead)
  rcases Nat.eq_zero_or_pos lead with rfl | hpos
  · have hzero := spare_zero (chunkBound 0)
    have hchunk : chunkBound 0 = historyBacklogCap + 1 := rfl
    cases waits with
    | true =>
      have := h.waiting rfl
      omega
    | false =>
      have := h.playing rfl
      have : 0 < frames := hcovered.resolve_left nofun
      omega
  · have hchunk : chunkBound lead = historyBacklogCap := if_neg (Nat.ne_of_gt hpos)
    rw [hchunk] at h hbound hlead
    cases waits with
    | true =>
      have := h.waiting rfl
      omega
    | false =>
      have hframes : 0 < frames := hcovered.resolve_left nofun
      rcases Nat.lt_or_ge lead frames with hmany | hfew
      · have := h.playing rfl
        omega
      · have := h.spent rfl hpos hframes hfew rfl
        omega

/-! ## The groups -/

variable {Id R : Type}

/-- The latest observation is the backlog's last row. -/
def Group.Trailing (group : Group Id R) : Prop :=
  group.history ≠ [] → ∃ msg, group.obsMsg = some msg ∧ group.history.getLast?.map (·.step) = msg.step

def Group.due (group : Group Id R) : Nat := if group.busy then 1 else 0

/-- What a group keeps of its counters. -/
structure Paced (lead bound : Nat) (group : Group Id R) : Prop where
  op : group.op ≠ none → group.busy = true
  short : group.replay.length ≤ bound
  chunk : ∀ frames, group.predict = .ready frames → frames.length ≤ bound
  trailing : group.Trailing
  room : group.phase ≠ .idle →
    Room lead bound group.history.length group.due group.replay.length (!group.predict.isNone)
  capped : group.history.length ≤ historyBacklogCap

variable {lead bound : Nat} {group after : Group Id R} {msg : PredictRequest Id}

theorem Group.due_ready (h : group.phase = .ready) : group.due = 0 := by
  rw [due, busy, h]
  rfl

theorem Group.due_busy (h : group.busy = true) : group.due = 1 := if_pos h

theorem Group.busy_ne_idle (h : group.busy = true) : group.phase ≠ .idle := by
  intro hidle
  rw [busy, hidle] at h
  cases h

theorem Group.Trailing.empty (h : group.Trailing) (hnone : (group.latestRequest true).1 = none) : group.history = [] := by
  by_contra hrows
  obtain ⟨msg, hobs, hlast⟩ := h hrows
  unfold latestRequest at hnone
  rw [hobs] at hnone
  dsimp only at hnone
  rw [if_pos rfl, if_neg (not_not.2 hlast)] at hnone
  cases hnone

theorem Group.latestRequest_history (h : (group.latestRequest true).1 = some msg) :
    (group.latestRequest true).2.history = [] := by
  obtain ⟨latest, -, hcase⟩ := group.latestRequest_some true h
  rw [if_pos rfl] at hcase
  rw [hcase.2.2]

theorem Group.prefetch_spec (lead : Nat) (group : Group Id R) :
    (group.prefetch lead true = group ∧
      (group.predict = .none → 0 < lead → group.replay.length ≤ lead → (group.latestRequest true).1 = none)) ∨
    (0 < lead ∧ group.replay.length ≤ lead ∧
      ∃ msg, group.prefetch lead true = { group with predict := .wanted msg, history := [] }) := by
  unfold prefetch
  split
  · rename_i hcond
    simp only [Bool.and_eq_true, decide_eq_true_eq] at hcond
    obtain ⟨⟨hlead, hfew⟩, -⟩ := hcond
    split
    · rename_i msg planned hlatest
      have hhistory := group.latestRequest_history (by rw [hlatest])
      have hplanned := group.latestRequest_group true
      rw [hhistory, hlatest] at hplanned
      refine .inr ⟨hlead, hfew, msg, ?_⟩
      rw [show planned = { group with history := [] } from hplanned]
    · rename_i planned hlatest
      have hsame := group.latestRequest_none true (by rw [hlatest])
      rw [hlatest] at hsame
      exact .inl ⟨hsame, fun _ _ _ => by rw [hlatest]⟩
  · rename_i hcond
    refine .inl ⟨rfl, fun hnone hlead hfew => absurd ?_ hcond⟩
    rw [hnone]
    simp [hlead, hfew, PredictState.isNone]

/-! ## Every move keeps a group paced -/

theorem Paced.refill (h : Paced lead bound group) (hready : group.phase = .ready) : Paced lead bound group.refill := by
  unfold Group.refill
  split
  · rename_i frames hreplay hpredict
    have hroom := h.room (by rw [hready]; nofun)
    rw [hreplay, hpredict, Group.due_ready hready] at hroom
    refine ⟨h.op, h.chunk frames hpredict, nofun, h.trailing, fun _ => ?_, h.capped⟩
    have hrefilled := hroom.refilled (h.chunk frames hpredict)
    rw [← Group.due_ready hready] at hrefilled
    exact hrefilled
  · exact h

theorem Paced.dispatched (h : Paced lead bound group) (hready : group.phase = .ready) {frame : Frame Id}
    (ht : group.takeFrame lead true = (some frame, after)) (request : StepRequest Id) :
    Paced lead bound (after.stepping frame request) := by
  have hrefill := h.refill hready
  have hphase : group.refill.phase = .ready := by
    unfold Group.refill
    split <;> exact hready
  unfold Group.takeFrame at ht
  generalize group.refill = start at hrefill hphase ht
  split at ht
  · cases ht
  · rename_i first rest hreplay
    cases ht
    have hroom := hrefill.room (by rw [hphase]; nofun)
    have hshort := hrefill.short
    rw [hreplay, Group.due_ready hphase, List.length_cons] at hroom
    rw [hreplay, List.length_cons] at hshort
    rcases ({ start with replay := rest } : Group Id R).prefetch_spec lead with ⟨hsame, hspent⟩ | ⟨hlead, hfew, msg, hmade⟩
    · rw [hsame]
      refine ⟨fun _ => rfl, Nat.le_of_succ_le hshort, hrefill.chunk, hrefill.trailing, fun _ => hroom.played ?_,
        hrefill.capped⟩
      intro hwaits hlead hfew
      have hnone : start.predict = .none := by
        cases hpredict : start.predict with
        | none => rfl
        | wanted _ | inFlight _ | ready _ =>
          rw [hpredict] at hwaits
          cases hwaits
      have htrailing : ({ start with replay := rest } : Group Id R).Trailing := hrefill.trailing
      exact List.length_eq_zero_iff.2 (htrailing.empty (hspent hnone hlead hfew))
    · rw [hmade]
      exact ⟨fun _ => rfl, Nat.le_of_succ_le hshort, nofun, fun hrows => absurd rfl hrows,
        fun _ => .prefetched hlead hfew hshort, Nat.zero_le _⟩

theorem Paced.landed (h : Paced lead bound group) {frames : List (Frame Id)} (hframes : frames.length ≤ bound) :
    Paced lead bound (group.landed true frames) := by
  rcases group.landed_cases true frames with ⟨hpredict, msg, hready, hreplay, hmsg, he⟩ | ⟨hpredict, -, he⟩ |
    ⟨hpredict, hreplay, he⟩ | ⟨hpredict, hreplay, he⟩ | ⟨-, he⟩
  · rw [he, Group.latestRequest_history hmsg]
    refine ⟨h.op, h.short, nofun, fun hrows => absurd rfl hrows, fun _ => ?_, Nat.zero_le _⟩
    show Room lead bound 0 group.due group.replay.length true
    rw [Group.due_ready hready, hreplay]
    exact .asked
  · rw [he]
    refine ⟨h.op, h.short, nofun, h.trailing, fun hphase => ?_, h.capped⟩
    have hroom := h.room hphase
    rw [hpredict] at hroom
    exact hroom.landed (Nat.zero_le _)
  · rw [he]
    refine ⟨h.op, hframes, nofun, h.trailing, fun hphase => ?_, h.capped⟩
    have hroom := h.room hphase
    rw [hpredict, hreplay] at hroom
    have hlanded := hroom.landed hframes
    rw [List.length_nil, Nat.zero_add] at hlanded
    exact hlanded
  · rw [he]
    refine ⟨h.op, h.short, fun other heq => ?_, h.trailing, fun hphase => ?_, h.capped⟩
    · cases heq
      exact hframes
    · have hroom := h.room hphase
      rw [hpredict] at hroom
      exact hroom
  · rw [he]
    exact h

theorem Paced.observe (group : Group Id R) (hop : group.op = none) (hshort : group.replay.length ≤ bound)
    (hchunk : ∀ frames, group.predict = .ready frames → frames.length ≤ bound)
    (hroom : Room lead bound group.history.length 1 group.replay.length (!group.predict.isNone))
    (h : group.observe true msg = some after) : Paced lead bound after := by
  unfold Group.observe at h
  dsimp only at h
  rw [if_pos rfl, if_pos rfl, if_pos rfl] at h
  split at h
  · rename_i hreplans
    obtain ⟨hreplay, hpredict⟩ := group.replans_iff.1 hreplans
    cases h
    refine ⟨fun hout => absurd hop hout, hshort, nofun, fun hrows => absurd rfl hrows, fun _ => ?_, Nat.zero_le _⟩
    show Room lead bound 0 0 group.replay.length true
    rw [hreplay]
    exact .asked
  · split at h
    · cases h
    · rename_i hfull
      have hfull : group.history.length < historyBacklogCap := by simpa using hfull
      cases h
      have hlength : ∀ row : ObservationHistoryFrame Id, (group.history ++ [row]).length = group.history.length + 1 :=
        fun row => List.length_append
      refine ⟨fun hout => absurd hop hout, hshort, hchunk, fun _ => ⟨_, rfl, ?_⟩, fun _ => ?_, ?_⟩
      · show Option.map _ (group.history ++ [_]).getLast? = _
        rw [List.getLast?_concat]
        rfl
      · show Room lead bound (group.history ++ [_]).length 0 group.replay.length _
        rw [hlength]
        exact hroom.observed
      · show (group.history ++ [_]).length ≤ _
        rw [hlength]
        exact hfull

theorem Paced.settled (h : Paced lead bound group) (hbusy : group.busy = true) (completes : Bool)
    (rolls : List (Nat × Id)) (events : List (EpisodeCompletedEvent Id R)) :
    (group.settled completes rolls events).replay.length ≤ bound ∧
    (∀ frames, (group.settled completes rolls events).predict = .ready frames → frames.length ≤ bound) ∧
    Room lead bound (group.settled completes rolls events).history.length 1
      (group.settled completes rolls events).replay.length (!(group.settled completes rolls events).predict.isNone) := by
  have hroom := h.room (Group.busy_ne_idle hbusy)
  rw [Group.due_busy hbusy] at hroom
  cases completes with
  | false => exact ⟨h.short, h.chunk, hroom⟩
  | true =>
    have hflush : ∀ frames, group.flush.predict ≠ .ready frames := by
      intro frames
      unfold Group.flush
      dsimp only
      split <;> nofun
    refine ⟨Nat.zero_le _, fun frames heq => absurd heq (hflush frames), hroom.flushed ?_⟩
    intro hwaits
    cases hpredict : group.predict with
    | none =>
      rw [Group.settled] at hwaits
      simp [Group.flush, Group.stepped, hpredict, PredictState.isInFlight, PredictState.isNone] at hwaits
    | wanted _ | inFlight _ | ready _ => rfl

theorem GroupMove.paced (hbound : 0 < bound) (h : Paced lead bound group) (hm : GroupMove lead bound true group after) :
    Paced lead bound after := by
  cases hm with
  | skipped _ hready ht =>
    unfold Group.takeFrame at ht
    split at ht
    · cases ht
      exact h.refill hready
    · cases ht
  | dispatched frame taken request hready ht => exact h.dispatched hready ht request
  | sent msg hwanted =>
    refine ⟨h.op, h.short, nofun, h.trailing, fun hphase => ?_, h.capped⟩
    have hroom := h.room hphase
    rw [hwanted] at hroom
    exact hroom
  | landed frames hframes => exact h.landed hframes
  | started initial request msg _ hop hobs =>
    have hbusy := h.op (by rw [hop]; nofun)
    have hroom := h.room (Group.busy_ne_idle hbusy)
    rw [Group.due_busy hbusy] at hroom
    exact .observe { group with op := none, pendingStart := none } rfl h.short h.chunk hroom hobs
  | stopped frame request completes rolls events hop =>
    have hbusy := h.op (by rw [hop]; nofun)
    obtain ⟨hshort, -, -⟩ := h.settled hbusy completes rolls events
    refine ⟨?_, hshort, nofun, ?_, fun hphase => absurd rfl hphase, ?_⟩
    · cases completes <;> exact fun hout => absurd rfl hout
    · cases completes <;> exact h.trailing
    · cases completes <;> exact h.capped
  | restarted frame request rolls events initial resetRequest ids slots generation hop =>
    have hbusy := h.op (by rw [hop]; nofun)
    obtain ⟨-, hchunk, hroom⟩ := h.settled hbusy true rolls events
    exact ⟨fun _ => rfl, Nat.zero_le _, hchunk, fun hrows => absurd rfl hrows, fun _ => hroom.cleared hbound,
      Nat.zero_le _⟩
  | observed frame request completes rolls events msg _ hop hobs =>
    have hbusy := h.op (by rw [hop]; nofun)
    obtain ⟨hshort, hchunk, hroom⟩ := h.settled hbusy completes rolls events
    refine .observe _ ?_ hshort hchunk hroom hobs
    cases completes <;> rfl

theorem Group.observe_ne_none (group : Group Id R) (h : Room lead (chunkBound lead) group.history.length 1
    group.replay.length (!group.predict.isNone)) (msg : PredictRequest Id) : group.observe true msg ≠ none := by
  unfold observe
  dsimp only
  rw [if_pos rfl, if_pos rfl, if_pos rfl]
  split
  · nofun
  · rename_i hreplans
    have hcovered : (!group.predict.isNone) = true ∨ 0 < group.replay.length := by
      by_contra hcon
      rw [not_or] at hcon
      refine hreplans (Bool.and_eq_true_iff.2 ⟨?_, ?_⟩)
      · exact List.isEmpty_iff_length_eq_zero.2 (Nat.eq_zero_of_not_pos hcon.2)
      · simpa using hcon.1
    rw [if_neg (by simpa using h.fits hcovered)]
    nofun

/-! ## Whole runs -/

variable [DecidableEq Id] [Inhabited Id] [Zero R] [Add R] [BEq R]

variable {cfg : DriverConfig Id R} {gid : Nat} {s : Session Id R} {d : Driver Id R}

theorem Launched.paced {station : Station Id R} (h : Launched cfg gid station) (hbound : 0 < bound) :
    Paced lead bound station.group := by
  cases h with
  | retired =>
    exact ⟨fun hout => absurd rfl hout, Nat.zero_le _, nofun, fun hrows => absurd rfl hrows,
      fun hphase => absurd rfl hphase, Nat.zero_le _⟩
  | reset =>
    exact ⟨fun _ => rfl, Nat.zero_le _, nofun, fun hrows => absurd rfl hrows,
      fun _ => .fresh 1 (Nat.le_refl 1) hbound, Nat.zero_le _⟩
  | dead =>
    exact ⟨fun hout => absurd rfl hout, Nat.zero_le _, nofun, fun hrows => absurd rfl hrows,
      fun _ => .fresh 0 (Nat.zero_le 1) hbound, Nat.zero_le _⟩

theorem observe_fits (hobs : ∀ msg, (d.groups gid).observe cfg.deliverHistory msg ≠ none) (observation : Option Leaves)
    (infos : Option (MetaMap R)) (phase : RequestPhase) (isReset : Bool) (leaves : Option Leaves) :
    (cfg.observe gid observation infos phase isReset (.ok leaves) d).2 = none := by
  unfold DriverConfig.observe
  dsimp only
  split
  · rename_i hnone
    exact absurd hnone (hobs _)
  · rfl

theorem onStep_fits (hdeliver : cfg.deliverHistory = true)
    (h : Paced cfg.prefetchLead (chunkBound cfg.prefetchLead) (d.groups gid)) {frame : Frame Id}
    {request : StepRequest Id} (hop : (d.groups gid).op = some (.step frame request)) (response : StepResponse Id R)
    (now : Int) (leaves : Option Leaves) : (cfg.onStep gid (.ok response) now (.ok leaves) d).2 = none := by
  have hbusy := h.op (by rw [hop]; nofun)
  obtain ⟨-, rolls, events, -, -, hs⟩ := settle_station cfg gid d true response (cfg.stepEnds gid response now d) now
  have hgroup : (cfg.settled gid response now d).groups gid =
      (d.groups gid).settled (!(cfg.stepEnds gid response now d).isEmpty) rolls events := congrArg Station.group hs
  rw [onStep_eq]
  split
  · rfl
  · split
    · rfl
    · refine observe_fits (fun msg => ?_) _ _ _ _ _
      rw [hgroup, hdeliver]
      exact Group.observe_ne_none _ (h.settled hbusy _ rolls events).2.2 msg

theorem onReset_fits (hdeliver : cfg.deliverHistory = true)
    (h : Paced cfg.prefetchLead (chunkBound cfg.prefetchLead) (d.groups gid))
    (hlive : Live cfg gid (cfg.station gid true d)) {initial : Bool} {request : ResetRequest Id R}
    (hop : (d.groups gid).op = some (.reset initial request)) (response : ResetResponse R) (now : Int)
    (leaves : Option Leaves) : (cfg.onReset gid initial (.ok response) now (.ok leaves) d).2 = none := by
  have hfits := (hlive rfl).op
  have hphase := hfits.resetting hop
  unfold OpFits at hfits
  rw [hphase] at hfits
  obtain ⟨_, _, ids, slots, -, hpending, -⟩ := hfits
  have hbusy := h.op (by rw [hop]; nofun)
  have hroom := h.room (Group.busy_ne_idle hbusy)
  rw [Group.due_busy hbusy] at hroom
  unfold DriverConfig.onReset
  dsimp only
  rw [updateGroup_self]
  simp only [show (d.groups gid).pendingStart = some (ids, slots) from hpending]
  refine observe_fits (fun msg => ?_) _ _ _ _ _
  generalize hd : (Driver.emit _ _ : Driver Id R) = started
  have hgroup : started.groups gid = { d.groups gid with op := none, pendingStart := none } := by
    subst hd
    simp [Driver.emit, Driver.updateGroup]
  rw [hgroup, hdeliver]
  exact Group.observe_ne_none { d.groups gid with op := none, pendingStart := none } hroom msg

/-- On a history route, in every run whose answers carry at most 1024 frames each, or 1023 when chunks are prefetched:
no group ever holds more than 1023 rows, and whatever a step or a reset brings back, its observation is taken in. -/
theorem backlog_cap_never_trips (hdeliver : cfg.deliverHistory = true)
    (h : cfg.runs.Reach (fun _ e => e.ChunksWithin (chunkBound cfg.prefetchLead)) s) (hg : gid < cfg.spec.groupCount) :
    (s.driver.groups gid).history.length ≤ historyBacklogCap ∧
    (s.control.alive = true →
      (∀ frame request, (s.driver.groups gid).op = some (.step frame request) → ∀ response now leaves,
        (cfg.onStep gid (.ok response) now (.ok leaves) s.driver).2 = none) ∧
      ∀ initial request, (s.driver.groups gid).op = some (.reset initial request) → ∀ response now leaves,
        (cfg.onReset gid initial (.ok response) now (.ok leaves) s.driver).2 = none) := by
  have hbound := chunkBound_pos cfg.prefetchLead
  have hlive := reach_live (h.mono (fun _ _ _ => trivial)) hg
  obtain ⟨mid, hmid, hsame, hrows⟩ := reach_groups (Paced cfg.prefetchLead (chunkBound cfg.prefetchLead))
    (fun _ _ hl => hl.paced hbound)
    (fun group after hi hm => GroupMove.paced hbound hi (hdeliver ▸ hm)) h hg
  refine ⟨Nat.le_trans hrows hmid.capped, fun halive => ?_⟩
  rw [← hsame halive] at hmid
  have hstation : cfg.stationOf gid s = cfg.station gid true s.driver := by rw [DriverConfig.stationOf, halive]
  rw [hstation] at hlive
  exact ⟨fun frame request hop response now leaves => onStep_fits hdeliver hmid hop response now leaves,
    fun initial request hop response now leaves => onReset_fits hdeliver hmid hlive hop response now leaves⟩

/-- Two chunks, three and two frames long. -/
theorem backlog_cap_prefetching :
    ∃ s, historyConfig.runs.Reach (fun _ e => e.ChunksWithin (chunkBound historyConfig.prefetchLead)) s ∧
      (s.driver.groups 0).history.length = 2 ∧ (s.driver.groups 0).history.length ≤ historyBacklogCap := by
  obtain ⟨s, hr, hs⟩ := System.exists_reach_of_runFrom historyConfig.runs
    (fun _ e => e.ChunksWithin (chunkBound historyConfig.prefetchLead))
    (fun s => decide ((s.driver.groups 0).history.length = 2))
    [.launch 0 none, plainTurn [], resetLands 0, plainTurn [], predictLands .resetObservation 1 3, plainTurn [],
      stepLands 0 [], plainTurn [0], predictLands .stepObservation 2 2, plainTurn [], stepLands 0 [], plainTurn [],
      stepLands 0 []] (by decide +kernel) (by decide +kernel)
  exact ⟨s, hr, of_decide_eq_true hs, (backlog_cap_never_trips rfl hr (show 0 < historyConfig.spec.groupCount by decide)).1⟩

/-! ## A chunk of 1024 frames behind a prefetch -/

/-- A run of `historyConfig` that plays its chunk: `frames` are left and `rows` buffered. -/
structure Cruising (frames rows : Nat) (s : Session Nat Int) : Prop where
  head : s.control = .head
  predicts : s.driver.predicts = []
  evictions : s.driver.pendingEvictions = []
  phase : (s.driver.groups 0).phase = .ready
  predict : (s.driver.groups 0).predict = .none
  rolls : (s.driver.groups 0).pendingRoll = []
  frames : (s.driver.groups 0).replay.length = frames
  rows : (s.driver.groups 0).history.length = rows
  scored : s.driver.route.allSurplusAt [0] = false

theorem takeFrame_cruising {group : Group Nat Int} {frame : Frame Nat} {rest : List (Frame Nat)}
    (hreplay : group.replay = frame :: rest) (hmany : 1 < rest.length) :
    group.takeFrame 1 true = (some frame, { group with replay := rest }) := by
  have hrefill : group.refill = group := by
    unfold Group.refill
    rw [hreplay]
  have hkept : ({ group with replay := rest } : Group Nat Int).prefetch 1 true = { group with replay := rest } := by
    unfold Group.prefetch
    dsimp only
    rw [if_neg (by simp; omega)]
  unfold Group.takeFrame
  rw [hrefill, hreplay]
  dsimp only
  rw [hkept]

theorem turn_cruises {s : Session Nat Int} {frames rows : Nat} (h : Cruising (frames + 3) rows s) :
    ∃ driver frame request, historyConfig.step s (plainTurn []) = some { driver, control := .parked } ∧
      driver.predicts = [] ∧ driver.pendingEvictions = [] ∧ driver.route = s.driver.route ∧
      driver.groups 0 = { s.driver.groups 0 with replay := (s.driver.groups 0).replay.tail }.stepping frame request := by
  obtain ⟨d, control⟩ := s
  obtain ⟨rfl, hpredicts, hevictions, hphase, hpredict, hrolls, hframes, hrows, hscored⟩ := h
  dsimp only at *
  obtain ⟨frame, rest, hreplay⟩ : ∃ frame rest, (d.groups 0).replay = frame :: rest :=
    List.exists_cons_of_length_pos (by omega)
  rw [hreplay, List.length_cons] at hframes
  have htake : (d.groups 0).takeFrame historyConfig.prefetchLead historyConfig.deliverHistory = _ :=
    takeFrame_cruising hreplay (by omega)
  have hidle : historyConfig.allIdle d = false := by
    show ([0].all fun gid => decide ((d.groups gid).phase = .idle)) = false
    simp [hphase]
  have hflush : historyConfig.turnFlush d = d := by
    unfold DriverConfig.turnFlush DriverConfig.flushEvictions
    simp [hevictions]
  obtain ⟨driver, hstep, hpredicts', hevictions', hroute, request, hgroup⟩ : ∃ driver,
      historyConfig.dispatchStep 0 (.ok (some [])) d = (driver, none) ∧ driver.predicts = [] ∧
      driver.pendingEvictions = [] ∧ driver.route = d.route ∧
      ∃ request, driver.groups 0 = ({ d.groups 0 with replay := rest } : Group Nat Int).stepping frame request := by
    unfold DriverConfig.dispatchStep
    rw [if_pos hphase, htake]
    refine ⟨_, rfl, hpredicts, hevictions, rfl, ?_⟩
    rw [updateGroup_self, (keeps_emit _).groups, (keeps_emit _).groups, updateGroup_self]
    exact ⟨_, rfl⟩
  have hsteps : historyConfig.dispatchSteps (fun _ => .ok (some [])) historyConfig.groupIds d = (driver, none) := by
    show historyConfig.dispatchSteps (fun _ => .ok (some [])) [0] d = _
    unfold DriverConfig.dispatchSteps
    rw [hstep]
    rfl
  have hwaiting : historyConfig.waiting driver = [] := by
    show [0].filter (fun gid => (driver.groups gid).predict.isWanted) = []
    rw [List.filter_cons_of_neg]
    · rfl
    · rw [hgroup]
      simp [Group.stepping, hpredict, PredictState.isWanted]
  have hpredicted : ∀ force, historyConfig.dispatchPredict [] force driver = (driver, none) := by
    intro force
    have hchosen : historyConfig.chosen [] force driver = [] := by
      unfold DriverConfig.chosen
      rw [hwaiting]
      exact ite_self _
    rw [dispatchPredict_eq, hchosen]
    exact ite_self _
  have hquiet : historyConfig.quiet driver = false := by
    show ([0].all fun gid => (driver.groups gid).op.isNone) = false
    simp [hgroup, Group.stepping]
  refine ⟨driver, frame, request, ?_, hpredicts', hevictions', hroute, ?_⟩
  · show some (historyConfig.turn [] (fun _ => .ok (some [])) d) = _
    unfold DriverConfig.turn DriverConfig.dispatch
    rw [hidle, hflush, hsteps]
    dsimp only
    rw [hpredicted]
    dsimp only
    rw [hquiet]
    rfl
  · rw [hreplay]
    exact hgroup

theorem settled_cruises {d : Driver Nat Int} (hrolls : (d.groups 0).pendingRoll = []) (response : StepResponse Nat Int)
    (hnone : response.completedEpisodes = []) (now : Int) :
    historyConfig.stepEnds 0 response now d = [] ∧
    (historyConfig.settled 0 response now d).predicts = d.predicts ∧
    (historyConfig.settled 0 response now d).pendingEvictions = d.pendingEvictions ∧
    (historyConfig.settled 0 response now d).route.allSurplusAt [0] = d.route.allSurplusAt [0] ∧
    (historyConfig.settled 0 response now d).groups 0 = (d.groups 0).stepped := by
  have hends : historyConfig.stepEnds 0 response now d = [] := by
    unfold DriverConfig.stepEnds DriverConfig.completions DriverConfig.echoedCompletions
    rw [hnone]
    show [] ++ historyConfig.cappedCompletions now 0 [] response.infos _ = []
    rw [List.nil_append]
    refine List.filterMap_eq_nil_iff.2 (fun entry _ => ?_)
    unfold DriverConfig.cappedLane
    dsimp only
    split
    · rfl
    · rfl
  have hsettled : historyConfig.settled 0 response now d =
      (historyConfig.account 0 response [] d).updateGroup 0
        (fun group => { group with pendingCompleted := group.pendingCompleted ++ [] }) := by
    unfold DriverConfig.settled
    rw [hends]
    unfold DriverConfig.settle
    rw [hrolls]
    rfl
  rw [hsettled]
  refine ⟨hends, rfl, rfl, ?_, ?_⟩
  · simp [Driver.updateGroup, DriverConfig.account, Driver.emit, RouteState.recordStepAt, RouteState.allSurplusAt,
      RouteState.steppedSlot, show historyConfig.spec.lanes 0 = [0] from rfl]
  · simp [Driver.updateGroup, DriverConfig.account, Driver.emit]

theorem observe_playing {group : Group Nat Int} (hreplay : group.replay ≠ []) (msg : PredictRequest Nat) :
    (historyBacklogCap ≤ group.history.length → group.observe true msg = none) ∧
    (group.history.length < historyBacklogCap → ∃ after, group.observe true msg = some after ∧ after.phase = .ready ∧
      after.predict = group.predict ∧ after.pendingRoll = group.pendingRoll ∧ after.replay = group.replay ∧
      after.history.length = group.history.length + 1) := by
  have hreplans : group.replans ≠ true := fun h => hreplay (group.replans_iff.1 h).1
  unfold Group.observe
  dsimp only
  rw [if_pos rfl, if_pos rfl, if_neg hreplans]
  constructor
  · intro hfull
    rw [if_pos (by simpa using hfull)]
  · intro hroom
    rw [if_neg (by simpa using hroom)]
    exact ⟨_, rfl, rfl, rfl, rfl, rfl, List.length_append⟩

/-- An observation of a playing group becomes a row, or finds the backlog full. -/
theorem observe_cruising {d : Driver Nat Int} (hreplay : (d.groups 0).replay ≠ []) (infos : Option (MetaMap Int)) :
    (historyBacklogCap ≤ (d.groups 0).history.length →
      (historyConfig.observe 0 (some []) infos .stepObservation false (.ok (some [])) d).2 =
        some (.protocol (.backlog "env" (d.groups 0).history.length))) ∧
    ((d.groups 0).history.length < historyBacklogCap → ∃ after,
      historyConfig.observe 0 (some []) infos .stepObservation false (.ok (some [])) d = (after, none) ∧
      after.predicts = d.predicts ∧ after.pendingEvictions = d.pendingEvictions ∧
      after.route.allSurplusAt [0] = d.route.allSurplusAt [0] ∧ (after.groups 0).phase = .ready ∧
      (after.groups 0).predict = (d.groups 0).predict ∧ (after.groups 0).pendingRoll = (d.groups 0).pendingRoll ∧
      (after.groups 0).replay = (d.groups 0).replay ∧
      (after.groups 0).history.length = (d.groups 0).history.length + 1) := by
  unfold DriverConfig.observe
  dsimp only
  constructor
  · intro hfull
    split
    · rfl
    · rename_i group hobs
      cases ((observe_playing hreplay _).1 hfull).symm.trans hobs
  · intro hroom
    split
    · rename_i hobs
      obtain ⟨after, hsome, -⟩ := (observe_playing hreplay { d.route.predictRequestAt historyConfig.spec [0] (some [])
        .stepObservation |>.1 with observation := some [] }).2 hroom
      cases hobs.symm.trans hsome
    · rename_i group hobs
      obtain ⟨after, hsome, hfacts⟩ := (observe_playing hreplay { d.route.predictRequestAt historyConfig.spec [0] (some [])
        .stepObservation |>.1 with observation := some [] }).2 hroom
      cases hobs.symm.trans hsome
      refine ⟨_, rfl, rfl, rfl, rfl, ?_⟩
      rw [updateGroup_self]
      exact hfacts

/-- A step that ends no episode. -/
def quietStep : StepResponse Nat Int :=
  { observation := some [], rewards := [0], terminatedMask := [], truncatedMask := [], infos := none, envIndices := []
    completedEpisodes := [] }

theorem round_cruises {s : Session Nat Int} {frames rows : Nat} (h : Cruising (frames + 3) rows s) :
    ∃ s', historyConfig.runs.runFrom s [plainTurn [], stepLands 0 []] = some s' ∧
      (rows < historyBacklogCap → Cruising (frames + 2) (rows + 1) s') ∧
      (historyBacklogCap ≤ rows → s'.control = .ended (.error (.protocol (.backlog "env" rows)))) := by
  obtain ⟨driver, frame, request, hturn, hpredicts, hevictions, hroute, hgroup⟩ := turn_cruises h
  obtain ⟨hends, hpredicts', hevictions', hscored, hsettled⟩ := settled_cruises (d := driver)
    (by rw [hgroup]; exact h.rolls) quietStep rfl 0
  generalize hafter : historyConfig.settled 0 quietStep 0 driver = settled at hpredicts' hevictions' hscored hsettled
  rw [hroute, h.scored] at hscored
  rw [hgroup] at hsettled
  have hframes : (settled.groups 0).replay.length = frames + 2 := by
    rw [hsettled]
    show (s.driver.groups 0).replay.tail.length = frames + 2
    rw [List.length_tail, h.frames]
    rfl
  have hrows : (settled.groups 0).history.length = rows := by
    rw [hsettled]
    exact h.rows
  have hnone : (settled.groups 0).predict = .none := by
    rw [hsettled]
    exact h.predict
  have hrolls : (settled.groups 0).pendingRoll = [] := by
    rw [hsettled]
    exact h.rolls
  have hstops : historyConfig.stops 0 settled.route = false := hscored
  have hlands : historyConfig.step { driver, control := .parked } (stepLands 0 []) =
      some (.of .head (historyConfig.onStep 0 (.ok quietStep) 0 (.ok (some [])) driver)) := by
    unfold DriverConfig.step stepLands
    dsimp only
    rw [if_pos (by decide), hgroup]
    rfl
  have honStep : historyConfig.onStep 0 (.ok quietStep) 0 (.ok (some [])) driver =
      historyConfig.observe 0 (some []) (if !(driver.groups 0).pendingRoll.isEmpty then none else none)
        .stepObservation false (.ok (some [])) settled := by
    rw [onStep_eq, hafter, hstops, hends]
    rfl
  obtain ⟨hfull, hroom⟩ := observe_cruising (d := settled) (List.ne_nil_of_length_eq_add_one hframes)
    (if !(driver.groups 0).pendingRoll.isEmpty then none else none)
  rw [hrows, ← honStep] at hfull hroom
  refine ⟨.of .head (historyConfig.onStep 0 (.ok quietStep) 0 (.ok (some [])) driver), ?_, fun hcase => ?_, fun hcase => ?_⟩
  · show (historyConfig.step s (plainTurn [])).bind (fun s' => (historyConfig.step s' (stepLands 0 [])).bind some) = _
    rw [hturn, Option.bind_some, hlands]
    rfl
  · obtain ⟨after, he, hp, hv, hs, hphase, hpredict, hroll, hreplay, hhistory⟩ := hroom hcase
    rw [he]
    exact ⟨rfl, hp.trans (hpredicts'.trans hpredicts), hv.trans (hevictions'.trans hevictions), hphase,
      hpredict.trans hnone, hroll.trans hrolls, (congrArg List.length hreplay).trans hframes, hhistory,
      hs.trans hscored⟩
  · have herror := hfull hcase
    generalize historyConfig.onStep 0 (.ok quietStep) 0 (.ok (some [])) driver = outcome at herror
    obtain ⟨after, error⟩ := outcome
    cases herror
    rfl

/-- The runs of `historyConfig` whose answers carry between 1 and 1024 frames. -/
abbrev LegalRun (s : Session Nat Int) : Prop :=
  historyConfig.runs.Reach (fun _ e => e.Chunks (fun frames => 1 ≤ frames ∧ frames ≤ 1024)) s

theorem LegalRun.round {s s' : Session Nat Int} (h : LegalRun s)
    (hr : historyConfig.runs.runFrom s [plainTurn [], stepLands 0 []] = some s') : LegalRun s' := by
  refine h.runFrom [plainTurn [], stepLands 0 []] ⟨trivial, ?_⟩ hr
  split
  · refine ⟨trivial, ?_⟩
    split <;> trivial
  · trivial

theorem LegalRun.cruise (frames k : Nat) {s : Session Nat Int} {rows : Nat} (hr : LegalRun s)
    (h : Cruising (frames + k + 3) rows s) (hroom : rows + k ≤ historyBacklogCap) :
    ∃ s', LegalRun s' ∧ Cruising (frames + 3) (rows + k) s' := by
  induction k generalizing s rows with
  | zero => exact ⟨s, hr, h⟩
  | succ k ih =>
    obtain ⟨s', hrun, hnext, -⟩ := round_cruises h
    obtain ⟨s'', hr', h'⟩ := ih (hr.round hrun) (hnext (by omega)) (by omega)
    exact ⟨s'', hr', by rwa [show rows + (k + 1) = rows + 1 + k by omega]⟩

/-- The state of `Cruising`, checked. -/
def cruises (frames rows : Nat) (s : Session Nat Int) : Bool :=
  (match s.control with | .head => true | _ => false) && s.driver.predicts.isEmpty &&
    s.driver.pendingEvictions.isEmpty && decide ((s.driver.groups 0).phase = .ready) &&
    (s.driver.groups 0).predict.isNone && (s.driver.groups 0).pendingRoll.isEmpty &&
    decide ((s.driver.groups 0).replay.length = frames) && decide ((s.driver.groups 0).history.length = rows) &&
    !s.driver.route.allSurplusAt [0]

theorem Cruising.of_cruises {frames rows : Nat} {s : Session Nat Int} (h : cruises frames rows s = true) :
    Cruising frames rows s := by
  unfold cruises at h
  simp only [Bool.and_eq_true, List.isEmpty_iff, decide_eq_true_eq, Bool.not_eq_true'] at h
  obtain ⟨⟨⟨⟨⟨⟨⟨⟨hhead, hpredicts⟩, hevictions⟩, hphase⟩, hpredict⟩, hrolls⟩, hframes⟩, hrows⟩, hscored⟩ := h
  refine ⟨?_, hpredicts, hevictions, hphase, ?_, hrolls, hframes, hrows, hscored⟩
  · split at hhead
    · assumption
    · cases hhead
  · unfold PredictState.isNone at hpredict
    split at hpredict
    · assumption
    · cases hpredict

/-- With chunks prefetched one frame ahead, a chunk of 3 frames and one of 1024 fill the backlog. -/
theorem legal_chunks_fill_backlog :
    ∃ s, LegalRun s ∧ s.control = .ended (.error (.protocol (.backlog "env" 1023))) := by
  obtain ⟨s, hr, hs⟩ := System.exists_reach_of_runFrom historyConfig.runs (fun _ e => e.Chunks (fun frames => 1 ≤ frames ∧ frames ≤ 1024)) (cruises 1023 3)
    [.launch 0 none, plainTurn [], resetLands 0, plainTurn [], predictLands .resetObservation 1 3, plainTurn [],
      stepLands 0 [], plainTurn [0], predictLands .stepObservation 2 1024, plainTurn [], stepLands 0 [], plainTurn [],
      stepLands 0 [], plainTurn [], stepLands 0 []] (by decide +kernel) (by decide +kernel)
  obtain ⟨s₁, hr₁, h₁⟩ := LegalRun.cruise 0 1020 hr (Cruising.of_cruises hs) (by decide)
  obtain ⟨s₂, hrun, -, hfull⟩ := round_cruises h₁
  exact ⟨s₂, hr₁.round hrun, hfull (by decide)⟩

end Rlmesh.Runtime
