import Rlmesh.Env.Lanes
/-!
# Episode accounting

`Ledger` says what the tracker is for, from the requests and replies alone: an
`Entry` is opened whenever an episode starts (numbered, so that two episodes
are never confused whatever their ids), collects the rewards of the step replies
that cover its lane while it runs, and is closed once. An interrupted entry
waits for the next drain; a drain delivers the latest `maxInterruptedEpisodes`
of them and drops the older ones.

`Tracks` relates a tracker to the ledger of its session. Every request keeps it,
so what the replies report is what the ledger closes, and `episode_accounting`
reads the server's guarantees off the ledger.
-/
open Rlmesh.Wire Rlmesh.Lib
open scoped List

set_option linter.unusedSectionVars false

namespace Rlmesh.Env

/-- One started episode. -/
structure Entry (Id R : Type) where
  number : Nat
  lane : Nat
  id : Id
  seed : Option Int
  /-- The lane's rewards in the successful step replies that covered it, oldest first. -/
  rewards : List R

structure Ledger (Id R : Type) where
  started : Nat
  running : Nat → Option (Entry Id R)
  /-- The lane's episode ended and the env restarts it on the next step. -/
  owed : Nat → Bool
  /-- Cut short by a reset since the last drain, oldest first. -/
  interrupted : List (Entry Id R)
  reported : List (Entry Id R)
  dropped : List (Entry Id R)

variable {Id R : Type}

namespace Ledger

def empty : Ledger Id R :=
  { started := 0, running := fun _ => none, owed := fun _ => false, interrupted := [], reported := [], dropped := [] }

def start (ledger : Ledger Id R) (lane : Nat) (seed : Option Int) (id : Id) : Ledger Id R :=
  { ledger with
    started := ledger.started + 1
    running := Function.update ledger.running lane (some { number := ledger.started, lane, id, seed, rewards := [] })
    owed := Function.update ledger.owed lane false
    interrupted := ledger.interrupted ++ (ledger.running lane).toList }

/-- Deliver the latest interrupted entries; only the oldest ones past the cap are lost. -/
def drain (ledger : Ledger Id R) : Ledger Id R :=
  let excess := ledger.interrupted.length - maxInterruptedEpisodes
  { ledger with
    interrupted := []
    reported := ledger.reported ++ ledger.interrupted.drop excess
    dropped := ledger.dropped ++ ledger.interrupted.take excess }

/-- A step reply covered `lane` at position `pos`. -/
def stepLane [Zero R] [Inhabited Id] (response : StepResponse Id R) (nextStep : Bool) (pushedIds : List Id)
    (ledger : Ledger Id R) (lane pos : Nat) : Ledger Id R :=
  match ledger.running lane with
  | some entry =>
    let entry := { entry with rewards := entry.rewards ++ [response.rewards[pos]?.getD 0] }
    if laneBit response.terminatedMask pos || laneBit response.truncatedMask pos then
      { ledger with
        running := Function.update ledger.running lane none
        owed := Function.update ledger.owed lane nextStep
        reported := ledger.reported ++ [entry] }
    else { ledger with running := Function.update ledger.running lane (some entry) }
  | none =>
    if ledger.owed lane then ledger.start lane none (pushedIds[pos]?.getD default) else ledger

/-- The session's last report: everything still running ends. -/
def close (numEnvs : Nat) (ledger : Ledger Id R) : Ledger Id R :=
  { ledger.drain with
    running := fun _ => none
    owed := fun _ => false
    reported := ledger.drain.reported ++ (List.range numEnvs).filterMap ledger.running }

/-- Book one request and its reply; only a successful reply changes anything. -/
def record [Zero R] [Inhabited Id] (cfg : ServerConfig) (ledger : Ledger Id R)
    (exchange : JoinRequest Id R × JoinResponse Id R) : Ledger Id R :=
  match exchange with
  | (.reset request, .reset _) =>
    (coveredLanes cfg request.envIndices).zipIdx.foldl (fun ledger entry =>
      ledger.start entry.1 request.seeds[entry.2]? (request.episodeIds[entry.2]?.getD default)) ledger
  | (.step request, .step response) =>
    (coveredLanes cfg request.envIndices).zipIdx.foldl (fun ledger entry =>
      ledger.stepLane response (cfg.autoresetMode = .nextStep) request.episodeIds entry.1 entry.2) ledger.drain
  | (.close _, .close _) => ledger.close cfg.numEnvs
  | _ => ledger

end Ledger

/-- What the accounting of an episode consists of. -/
structure Account (Id R : Type) where
  id : Id
  lane : Nat
  seed : Option Int
  stepCount : Int
  cumulativeReward : R

def Entry.account [Zero R] [Add R] (entry : Entry Id R) : Account Id R :=
  { id := entry.id, lane := entry.lane, seed := entry.seed
    stepCount := entry.rewards.length
    cumulativeReward := entry.rewards.foldl (· + ·) 0 }

/-- The accounting a reply reports for an episode. -/
def accountOf (metadata : EpisodeMetadata Id R) : Account Id R :=
  { id := metadata.episodeId, lane := metadata.envIndex, seed := metadata.seed
    stepCount := metadata.stepCount, cumulativeReward := metadata.cumulativeReward }

/-! ## The tracker follows the ledger -/

/-- The accounting of a running episode. -/
def Episode.account (episode : Episode Id R) : Account Id R :=
  { id := episode.id, lane := episode.envIndex, seed := episode.seed
    stepCount := episode.stepCount, cumulativeReward := episode.cumulativeReward }

@[simp] theorem accountOf_complete (now : Int) (episode : Episode Id R) (terminated truncated : Bool)
    (info : Option (MetaMap R)) : accountOf (episode.complete now terminated truncated info) = episode.account := rfl

/-- The latest entries a full buffer keeps. -/
def latest {α : Type} (l : List α) : List α := l.drop (l.length - maxInterruptedEpisodes)

theorem latest_push {α : Type} (l : List α) (a : α) :
    latest (l ++ [a]) =
      if (latest l).length ≥ maxInterruptedEpisodes then (latest l).tail ++ [a] else latest l ++ [a] := by
  unfold latest
  simp only [List.length_append, List.length_singleton, List.length_drop]
  by_cases h : maxInterruptedEpisodes ≤ l.length
  · rw [if_pos (by omega), List.tail_drop,
      show l.length + 1 - maxInterruptedEpisodes = l.length - maxInterruptedEpisodes + 1 by omega,
      List.drop_append_of_le_length (by simp [maxInterruptedEpisodes] at h ⊢; omega)]
  · rw [if_neg (by omega), List.drop_append_of_le_length (by omega)]
    congr 2
    omega

variable [Zero R] [Add R] [BEq R] [Inhabited Id]

/-- A slot of the tracker holds the account of the lane's running entry, or whether the lane is owed a roll. -/
def Books : Option (Episode Id R) × Bool → Option (Entry Id R) × Bool → Prop
  | (some episode, owed), (some entry, owed') => episode.account = entry.account ∧ owed = false ∧ owed' = false
  | (none, owed), (none, owed') => owed = owed'
  | _, _ => False

/-- The tracker holds what the ledger has open: its running episodes with
their accounts, the lanes owed a roll, and the latest interrupted ones. -/
structure Tracks (numEnvs : Nat) (tracker : EpisodeTracker Id R) (ledger : Ledger Id R) : Prop where
  slots : ∀ lane, Books (tracker.slot lane) (ledger.running lane, ledger.owed lane)
  lanes : ∀ lane entry, ledger.running lane = some entry → lane < numEnvs
  interrupted : tracker.interrupted.map accountOf = (latest ledger.interrupted).map Entry.account

namespace Tracks

variable {n lane : Nat} {tracker : EpisodeTracker Id R} {ledger : Ledger Id R} {before closed : List (Entry Id R)}

theorem new : Tracks n (EpisodeTracker.new : EpisodeTracker Id R) Ledger.empty where
  slots _ := by simp [EpisodeTracker.slot, EpisodeTracker.new, Ledger.empty, Books]
  lanes _ _ h := by cases h
  interrupted := rfl

theorem of_some (h : Tracks n tracker ledger) {episode : Episode Id R} (ha : tracker.active.lookup lane = some episode) :
    ∃ entry, ledger.running lane = some entry ∧ episode.account = entry.account ∧ ledger.owed lane = false ∧
      tracker.slot lane = (some episode, false) := by
  have hslot := h.slots lane
  rw [EpisodeTracker.slot, ha] at hslot
  cases hr : ledger.running lane with
  | none =>
    rw [hr] at hslot
    exact hslot.elim
  | some entry =>
    rw [hr] at hslot
    exact ⟨entry, rfl, hslot.1, hslot.2.2, by rw [EpisodeTracker.slot, ha, hslot.2.1]⟩

theorem of_none (h : Tracks n tracker ledger) (ha : tracker.active.lookup lane = none) :
    ledger.running lane = none ∧ (lane ∈ tracker.pendingAutoreset ↔ ledger.owed lane = true) := by
  have hslot := h.slots lane
  rw [EpisodeTracker.slot, ha] at hslot
  cases hr : ledger.running lane with
  | some entry =>
    rw [hr] at hslot
    exact hslot.elim
  | none =>
    rw [hr] at hslot
    exact ⟨rfl, by rw [← show decide (lane ∈ tracker.pendingAutoreset) = ledger.owed lane from hslot, decide_eq_true_iff]⟩

theorem pushInterrupted (h : tracker.interrupted.map accountOf = (latest ledger.interrupted).map Entry.account)
    {metadata : EpisodeMetadata Id R} {entry : Entry Id R} (hm : accountOf metadata = entry.account) :
    (tracker.pushInterrupted metadata).interrupted.map accountOf =
      (latest (ledger.interrupted ++ [entry])).map Entry.account := by
  have hlen : tracker.interrupted.length = (latest ledger.interrupted).length := by
    simpa using congrArg List.length h
  rw [latest_push]
  unfold EpisodeTracker.pushInterrupted
  by_cases hfull : tracker.interrupted.length ≥ maxInterruptedEpisodes
  · rw [if_pos hfull, if_pos (by omega)]
    simp [h, hm, List.map_tail]
  · rw [if_neg hfull, if_neg (by omega)]
    simp [h, hm]

/-- Only one lane changes. -/
theorem set (h : Tracks n tracker ledger) {tracker' : EpisodeTracker Id R} {ledger' : Ledger Id R} (hl : lane < n)
    (hslot : Books (tracker'.slot lane) (ledger'.running lane, ledger'.owed lane))
    (hothers : ∀ l, l ≠ lane → tracker'.slot l = tracker.slot l ∧ ledger'.running l = ledger.running l ∧
      ledger'.owed l = ledger.owed l)
    (hbuffer : tracker'.interrupted.map accountOf = (latest ledger'.interrupted).map Entry.account) :
    Tracks n tracker' ledger' := by
  refine ⟨fun l => ?_, fun l entry hr => ?_, hbuffer⟩
  · rcases eq_or_ne l lane with rfl | hne
    · exact hslot
    · obtain ⟨hs, hr, ho⟩ := hothers l hne
      rw [hs, hr, ho]
      exact h.slots l
  · rcases eq_or_ne l lane with rfl | hne
    · exact hl
    · exact h.lanes l entry ((hothers l hne).2.1 ▸ hr)

theorem start (h : Tracks n tracker ledger) (now : Int) (hl : lane < n) (seed : Option Int) (id : Id) :
    Tracks n (tracker.startEpisode now lane seed id) (ledger.start lane seed id) := by
  refine h.set hl ?_ (fun l hne => ?_) ?_
  · simp [EpisodeTracker.slot_startEpisode, Ledger.start, Books, Entry.account, Episode.account, Episode.new]
  · simp [EpisodeTracker.slot_startEpisode, Ledger.start, hne]
  · rw [EpisodeTracker.startEpisode_interrupted]
    cases ha : tracker.active.lookup lane with
    | none => simpa [Ledger.start, (h.of_none ha).1] using h.interrupted
    | some old =>
      obtain ⟨entry, he, hacc, -⟩ := h.of_some ha
      simp only [Ledger.start, he, Option.toList_some]
      exact pushInterrupted h.interrupted (by rw [accountOf_complete, hacc])

theorem stepped {episode : Episode Id R} {entry : Entry Id R} (h : episode.account = entry.account) (reward : R) :
    (episode.recordStep reward).account = Entry.account { entry with rewards := entry.rewards ++ [reward] } := by
  simp only [Episode.account, Entry.account, Account.mk.injEq] at h
  obtain ⟨h1, h2, h3, h4, h5⟩ := h
  simp [Episode.account, Entry.account, Episode.recordStep, h1, h2, h3, h4, h5]

/-- One lane of an applied step: the tracker follows the ledger, which closes
exactly the episodes the tracker hands out. -/
theorem stepLane (h : Tracks n tracker ledger) (now : Int) (ok : StepResponse Id R) (width : Nat) (nextStep : Bool)
    (pushedIds : List Id) (hl : lane < n) (pos : Nat) :
    Tracks n (applyLane now ok width nextStep pushedIds tracker lane pos).1
        (ledger.stepLane ok nextStep pushedIds lane pos) ∧
      ∃ closed, (ledger.stepLane ok nextStep pushedIds lane pos).reported = ledger.reported ++ closed ∧
        (applyLane now ok width nextStep pushedIds tracker lane pos).2.map accountOf = closed.map Entry.account := by
  cases ha : tracker.active.lookup lane with
  | some episode =>
    obtain ⟨entry, he, hacc, ho, hslot⟩ := h.of_some ha
    have hacc := stepped hacc (ok.rewards[pos]?.getD 0)
    have hbuffer := interrupted_applyLane now ok width nextStep pushedIds tracker lane pos
    have hothers := fun l (hne : l ≠ lane) => (slot_applyLane now ok width nextStep pushedIds tracker lane pos l).trans
      (if_neg hne)
    have hlane := slot_applyLane now ok width nextStep pushedIds tracker lane pos lane
    rw [if_pos rfl, hslot, stepSlot] at hlane
    rw [applyLane_report now ok width nextStep pushedIds tracker (lane, pos), laneReport, ha]
    unfold Ledger.stepLane
    rw [he]
    dsimp only
    rw [← laneEnds]
    cases hends : laneEnds ok pos with
    | true =>
      rw [if_pos rfl, if_pos rfl]
      refine ⟨h.set hl ?_ (fun l hne => ⟨hothers l hne, ?_⟩) (hbuffer ▸ h.interrupted), _, rfl, by simp [hacc]⟩
      · rw [hlane, hends]
        simp [Books]
      · simp [hne]
    | false =>
      rw [if_neg Bool.false_ne_true, if_neg Bool.false_ne_true]
      refine ⟨h.set hl ?_ (fun l hne => ⟨hothers l hne, ?_⟩) (hbuffer ▸ h.interrupted), [], by simp, rfl⟩
      · rw [hlane, hends]
        simp [Books, hacc, ho]
      · simp [hne]
  | none =>
    obtain ⟨he, howed⟩ := h.of_none ha
    by_cases ho : ledger.owed lane = true
    · have hstate := (tracker.laneState_pending lane).2 ⟨ha, howed.2 ho⟩
      simp only [applyLane, hstate, Ledger.stepLane, he, ho, if_true]
      exact ⟨h.start now hl none _, [], by simp [Ledger.start], rfl⟩
    · have hstate := (tracker.laneState_idle lane).2 ⟨ha, fun hm => ho (howed.1 hm)⟩
      simp only [applyLane, hstate, Ledger.stepLane, he, ho]
      exact ⟨h, [], by simp, rfl⟩

theorem startLanes (now : Int) (seeds : List Int) (ids : List Id) (lanes : List (Nat × Nat))
    (hl : ∀ entry ∈ lanes, entry.1 < n) (h : Tracks n tracker ledger) :
    Tracks n
      (lanes.foldl (fun tracker entry =>
        tracker.startEpisode now entry.1 seeds[entry.2]? (ids[entry.2]?.getD default)) tracker)
      (lanes.foldl (fun ledger entry =>
        ledger.start entry.1 seeds[entry.2]? (ids[entry.2]?.getD default)) ledger) ∧
    (lanes.foldl (fun ledger entry =>
      ledger.start entry.1 seeds[entry.2]? (ids[entry.2]?.getD default)) ledger).reported = ledger.reported := by
  induction lanes generalizing tracker ledger with
  | nil => exact ⟨h, rfl⟩
  | cons entry rest ih =>
    exact ih (fun e he => hl e (List.mem_cons_of_mem _ he)) (h.start now (hl entry (by simp)) _ _)

theorem drained (h : Tracks n tracker ledger) : Tracks n tracker.takeInterrupted.2 ledger.drain where
  slots := h.slots
  lanes := h.lanes
  interrupted := rfl

theorem completeAll (now : Int) (tracker : EpisodeTracker Id R) (ledger : Ledger Id R) :
    Tracks n (tracker.completeAll now).2 (ledger.close n) where
  slots _ := by simp [EpisodeTracker.slot, EpisodeTracker.completeAll, Ledger.close, Books]
  lanes _ _ hr := by cases hr
  interrupted := rfl

theorem stepLanes (now : Int) (ok : StepResponse Id R) (width : Nat) (nextStep : Bool) (pushedIds : List Id)
    (lanes : List (Nat × Nat)) (hl : ∀ entry ∈ lanes, entry.1 < n) {out : List (EpisodeMetadata Id R)}
    (h : Tracks n tracker ledger) (hout : out.map accountOf = closed.map Entry.account)
    (hrep : ledger.reported = before ++ closed) :
    Tracks n
        (lanes.foldl (fun acc entry =>
          ((applyLane now ok width nextStep pushedIds acc.1 entry.1 entry.2).1,
            acc.2 ++ (applyLane now ok width nextStep pushedIds acc.1 entry.1 entry.2).2)) (tracker, out)).1
        (lanes.foldl (fun ledger entry => ledger.stepLane ok nextStep pushedIds entry.1 entry.2) ledger) ∧
      ∃ closed,
        (lanes.foldl (fun ledger entry => ledger.stepLane ok nextStep pushedIds entry.1 entry.2) ledger).reported =
            before ++ closed ∧
          (lanes.foldl (fun acc entry =>
            ((applyLane now ok width nextStep pushedIds acc.1 entry.1 entry.2).1,
              acc.2 ++ (applyLane now ok width nextStep pushedIds acc.1 entry.1 entry.2).2)) (tracker, out)).2.map
            accountOf = closed.map Entry.account := by
  induction lanes generalizing tracker ledger out closed with
  | nil => exact ⟨h, closed, hrep, hout⟩
  | cons entry rest ih =>
    obtain ⟨hstep, new, hnew, hacc⟩ := h.stepLane now ok width nextStep pushedIds (hl entry (by simp)) entry.2
    have hout' : (out ++ (applyLane now ok width nextStep pushedIds tracker entry.1 entry.2).2).map accountOf =
        (closed ++ new).map Entry.account := by simp [hout, hacc]
    have hrep' : (ledger.stepLane ok nextStep pushedIds entry.1 entry.2).reported = before ++ (closed ++ new) := by
      rw [hnew, hrep, List.append_assoc]
    exact ih (fun e he => hl e (List.mem_cons_of_mem _ he)) hstep hout' hrep'

end Tracks

/-! ## Every number is in one place -/

namespace Ledger

/-- The entries of a ledger, wherever they are. -/
def entries (n : Nat) (ledger : Ledger Id R) : Multiset (Entry Id R) :=
  ↑ledger.reported + ↑ledger.dropped + ↑ledger.interrupted + ↑((List.range n).filterMap ledger.running)

/-- Each started episode has exactly one entry. -/
def Balanced (n : Nat) (ledger : Ledger Id R) : Prop :=
  (ledger.entries n).map Entry.number = Multiset.range ledger.started

variable {n : Nat} {ledger : Ledger Id R}

theorem balanced_empty : Balanced n (Ledger.empty : Ledger Id R) := by
  simp [Balanced, entries, Ledger.empty]

theorem entries_start {lane : Nat} (hl : lane < n) (seed : Option Int) (id : Id) :
    (ledger.start lane seed id).entries n =
      { number := ledger.started, lane, id, seed, rewards := [] } ::ₘ ledger.entries n := by
  have hset := filterMap_set_perm ledger.running List.nodup_range
    { number := ledger.started, lane, id, seed, rewards := [] } (List.mem_range.2 hl)
  have hrows := Multiset.coe_eq_coe.2 hset
  rw [← Multiset.coe_add, ← Multiset.cons_coe] at hrows
  simp only [entries, Ledger.start, ← Multiset.coe_add]
  rw [← add_assoc, add_assoc _ (Multiset.ofList (Option.toList _)), hrows, Multiset.add_cons]

theorem Balanced.of_entries {ledger' : Ledger Id R} (h : ledger.Balanced n)
    (hs : ledger'.started = ledger.started)
    (he : (ledger'.entries n).map Entry.number = (ledger.entries n).map Entry.number) : ledger'.Balanced n := by
  unfold Balanced
  rw [he, h, hs]

theorem Balanced.start (h : ledger.Balanced n) {lane : Nat} (hl : lane < n) (seed : Option Int) (id : Id) :
    (ledger.start lane seed id).Balanced n := by
  unfold Balanced at h ⊢
  rw [entries_start hl, Multiset.map_cons, h]
  exact (Multiset.range_succ ledger.started).symm

theorem entries_drain : ledger.drain.entries n = ledger.entries n := by
  have hsplit := List.take_append_drop (ledger.interrupted.length - maxInterruptedEpisodes) ledger.interrupted
  have hsum : (↑ledger.interrupted : Multiset (Entry Id R)) =
      ↑(ledger.interrupted.take (ledger.interrupted.length - maxInterruptedEpisodes)) +
        ↑(ledger.interrupted.drop (ledger.interrupted.length - maxInterruptedEpisodes)) := by
    rw [Multiset.coe_add, hsplit]
  simp only [entries, drain, ← Multiset.coe_add, Multiset.coe_nil, add_zero]
  rw [hsum]
  abel

theorem Balanced.stepLane (h : ledger.Balanced n) (response : StepResponse Id R) (nextStep : Bool)
    (pushedIds : List Id) {lane : Nat} (hl : lane < n) (pos : Nat) :
    (ledger.stepLane response nextStep pushedIds lane pos).Balanced n := by
  unfold Ledger.stepLane
  cases hr : ledger.running lane with
  | some entry =>
    dsimp only
    split
    · refine h.of_entries rfl ?_
      have hclear := Multiset.coe_eq_coe.2
        (filterMap_clear_perm ledger.running List.nodup_range (List.mem_range.2 hl) hr)
      have hnum := congrArg (Multiset.map Entry.number) hclear
      rw [← Multiset.cons_coe, Multiset.map_cons, ← Multiset.singleton_add] at hnum
      simp only [entries, ← Multiset.coe_add, Multiset.map_add, Multiset.coe_singleton, Multiset.map_singleton, hnum]
      abel
    · refine h.of_entries rfl ?_
      have hset := Multiset.coe_eq_coe.2 (filterMap_set_perm ledger.running List.nodup_range
        { entry with rewards := entry.rewards ++ [response.rewards[pos]?.getD 0] } (List.mem_range.2 hl))
      rw [hr, Option.toList_some, List.singleton_append, ← Multiset.cons_coe, ← Multiset.cons_coe] at hset
      have hnum := congrArg (Multiset.map Entry.number) hset
      rw [Multiset.map_cons, Multiset.map_cons] at hnum
      simp only [entries, Multiset.map_add]
      rw [(Multiset.cons_inj_right _).1 hnum]
  | none =>
    dsimp only
    split
    · exact h.start hl none _
    · exact h

theorem entries_close : (ledger.close n).entries n = ledger.entries n := by
  rw [← @entries_drain _ _ _ _ _ _ _ ledger]
  have hnone : (List.range n).filterMap (fun _ => (none : Option (Entry Id R))) = [] := by simp
  simp only [entries, close, ← Multiset.coe_add, hnone, Multiset.coe_nil, add_zero, drain]
  abel

theorem Balanced.record {cfg : ServerConfig} (h : ledger.Balanced cfg.numEnvs) (request : JoinRequest Id R)
    (response : JoinResponse Id R)
    (hv : ∀ lanes, (∃ q, request = .reset q ∧ lanes = q.envIndices) ∨ (∃ q, request = .step q ∧ lanes = q.envIndices) →
      response.isError = false → ValidLanes cfg lanes) :
    (ledger.record cfg (request, response)).Balanced cfg.numEnvs := by
  have hin : ∀ {lanes : List Nat}, ValidLanes cfg lanes →
      ∀ entry ∈ (coveredLanes cfg lanes).zipIdx, entry.1 < cfg.numEnvs := by
    intro lanes hlanes entry he
    exact hlanes.2 _ (List.fst_mem_of_mem_zipIdx he)
  unfold Ledger.record
  split
  · rename_i q ok heq
    cases heq
    have hv := hin (hv q.envIndices (.inl ⟨q, rfl, rfl⟩) rfl)
    generalize (coveredLanes cfg q.envIndices).zipIdx = lanes at hv
    induction lanes generalizing ledger with
    | nil => exact h
    | cons entry rest ih =>
      exact ih (h.start (hv entry (by simp)) _ _) (fun e he => hv e (List.mem_cons_of_mem _ he))
  · rename_i q ok heq
    cases heq
    have hv := hin (hv q.envIndices (.inr ⟨q, rfl, rfl⟩) rfl)
    have hd : ledger.drain.Balanced cfg.numEnvs := h.of_entries rfl (by rw [entries_drain])
    generalize (coveredLanes cfg q.envIndices).zipIdx = lanes at hv
    generalize ledger.drain = ledger at hd
    induction lanes generalizing ledger with
    | nil => exact hd
    | cons entry rest ih =>
      exact ih (fun e he => hv e (List.mem_cons_of_mem _ he)) _ (hd.stepLane _ _ _ (hv entry (by simp)) _)
  · exact h.of_entries rfl (by rw [entries_close])
  · exact h

end Ledger

/-! ## Sessions -/

/-- One request the server handles, with the environment's side of it. -/
structure Handled (Id R : Type) where
  now : Int
  answer : EnvAnswer Id R
  request : JoinRequest Id R

/-- The tracker and the requests with their replies, after handling `requests` in order. -/
def serve (cfg : ServerConfig) (requests : List (Handled Id R)) :
    EpisodeTracker Id R × List (JoinRequest Id R × JoinResponse Id R) :=
  requests.foldl (fun state handled =>
    let reply := handleEnvRequest cfg handled.now handled.answer state.1 handled.request
    (reply.2, state.2 ++ [(handled.request, reply.1)])) (.new, [])

/-- The ledger of a session's exchanges. -/
def ledgerOf (cfg : ServerConfig) (exchanges : List (JoinRequest Id R × JoinResponse Id R)) : Ledger Id R :=
  exchanges.foldl (Ledger.record cfg) .empty

/-- The episodes the replies of a session report, in order. -/
def reports (exchanges : List (JoinRequest Id R × JoinResponse Id R)) : List (EpisodeMetadata Id R) :=
  exchanges.flatMap (·.2.episodes)

/-- Handling one request: the tracker follows the ledger, which closes the
episodes the reply reports. -/
theorem Tracks.exchange {cfg : ServerConfig} {tracker : EpisodeTracker Id R} {ledger : Ledger Id R}
    (h : Tracks cfg.numEnvs tracker ledger) (handled : Handled Id R) :
    let reply := handleEnvRequest cfg handled.now handled.answer tracker handled.request
    Tracks cfg.numEnvs reply.2 (ledger.record cfg (handled.request, reply.1)) ∧
      ∃ closed, (ledger.record cfg (handled.request, reply.1)).reported = ledger.reported ++ closed ∧
        (reply.1.episodes.map accountOf).Perm (closed.map Entry.account) := by
  have hkeep : Tracks cfg.numEnvs tracker ledger ∧ ∃ closed, ledger.reported = ledger.reported ++ closed ∧
      (([] : List (EpisodeMetadata Id R)).map accountOf).Perm (closed.map Entry.account) :=
    ⟨h, [], by simp, .nil⟩
  obtain ⟨now, answer, request⟩ := handled
  cases request with
  | reset q =>
    rcases handleReset_cases cfg now answer tracker q with ⟨e, he⟩ | ⟨ok, hok, he⟩
    · simpa only [handleEnvRequest, he, Ledger.record, JoinResponse.episodes] using hkeep
    · simp only [handleEnvRequest, he, Ledger.record, JoinResponse.episodes]
      have hin : ∀ entry ∈ (coveredLanes cfg q.envIndices).zipIdx, entry.1 < cfg.numEnvs :=
        fun entry hm => (resetResult_ok hok).2.1.2 _ (List.fst_mem_of_mem_zipIdx hm)
      obtain ⟨ht, hr⟩ := h.startLanes now q.seeds q.episodeIds _ hin
      exact ⟨ht, [], by simpa using hr, .nil⟩
  | step q =>
    rcases handleStep_cases cfg now answer tracker q with ⟨e, he⟩ | ⟨ok, hok, -, he⟩
    · simpa only [handleEnvRequest, he, Ledger.record, JoinResponse.episodes] using hkeep
    · have hv := (stepResult_ok hok).2.1
      simp only [handleEnvRequest, he, Ledger.record, JoinResponse.episodes]
      have hin : ∀ entry ∈ (coveredLanes cfg q.envIndices).zipIdx, entry.1 < cfg.numEnvs :=
        fun entry hm => hv.2 _ (List.fst_mem_of_mem_zipIdx hm)
      obtain ⟨ht, closed, hrep, hacc⟩ := h.drained.stepLanes now ok (coveredLanes cfg q.envIndices).length
        (cfg.autoresetMode = .nextStep) q.episodeIds _ hin h.interrupted rfl
      exact ⟨ht, closed, hrep, .of_eq hacc⟩
  | render timeoutMs envIndices =>
    simp only [handleEnvRequest]
    split <;> simpa only [Ledger.record, JoinResponse.episodes] using hkeep
  | close reason =>
    simp only [handleEnvRequest, Ledger.record, JoinResponse.episodes]
    refine ⟨Tracks.completeAll now tracker ledger,
      latest ledger.interrupted ++ (List.range cfg.numEnvs).filterMap ledger.running,
      by simp [Ledger.close, Ledger.drain, latest], ?_⟩
    rw [EpisodeTracker.completeAll, List.map_append, List.map_append]
    refine .append (.of_eq h.interrupted) ?_
    have hkeys : ∀ lane ∈ tracker.active, lane ∈ List.range cfg.numEnvs := by
      intro lane hm
      obtain ⟨episode, ha⟩ := EpisodeTracker.mem_active.1 hm
      obtain ⟨entry, he, -⟩ := h.of_some ha
      exact List.mem_range.2 (h.lanes lane entry he)
    have hrows := (entries_perm_lookup tracker.active List.nodup_range hkeys).map
      (fun row => row.2.account)
    rw [List.map_map]
    refine hrows.trans (.of_eq ?_)
    rw [List.map_filterMap, List.map_filterMap]
    refine List.filterMap_congr (fun lane _ => ?_)
    rw [Option.map_map]
    cases ha : tracker.active.lookup lane with
    | none => rw [(h.of_none ha).1, Option.map_none, Option.map_none]
    | some episode =>
      obtain ⟨entry, he, hacc, -⟩ := h.of_some ha
      rw [he, Option.map_some, Option.map_some, ← hacc]
      rfl
  | configure pin =>
    simp only [handleEnvRequest]
    split <;> simpa only [Ledger.record, JoinResponse.episodes] using hkeep
  | empty => exact hkeep

theorem serve_append (cfg : ServerConfig) (requests : List (Handled Id R)) (handled : Handled Id R) :
    serve cfg (requests ++ [handled]) =
      ((handleEnvRequest cfg handled.now handled.answer (serve cfg requests).1 handled.request).2,
        (serve cfg requests).2 ++ [(handled.request,
          (handleEnvRequest cfg handled.now handled.answer (serve cfg requests).1 handled.request).1)]) := by
  simp [serve, List.foldl_append]

theorem ledgerOf_serve_append (cfg : ServerConfig) (requests : List (Handled Id R)) (handled : Handled Id R) :
    ledgerOf cfg (serve cfg (requests ++ [handled])).2 =
      (ledgerOf cfg (serve cfg requests).2).record cfg (handled.request,
        (handleEnvRequest cfg handled.now handled.answer (serve cfg requests).1 handled.request).1) := by
  simp [serve_append, ledgerOf, List.foldl_append]

/-- After any session the tracker follows the ledger, whose entries are in one place each. -/
theorem serve_tracks (cfg : ServerConfig) (requests : List (Handled Id R)) :
    Tracks cfg.numEnvs (serve cfg requests).1 (ledgerOf cfg (serve cfg requests).2) ∧
      (ledgerOf cfg (serve cfg requests).2).Balanced cfg.numEnvs := by
  induction requests using List.reverseRecOn with
  | nil => exact ⟨.new, Ledger.balanced_empty⟩
  | append_singleton requests handled ih =>
    obtain ⟨ht, hb⟩ := ih
    rw [ledgerOf_serve_append, serve_append]
    refine ⟨(ht.exchange handled).1, hb.record _ _ ?_⟩
    rintro lanes (⟨q, hq, rfl⟩ | ⟨q, hq, rfl⟩) herr
    · rw [hq] at herr
      rcases handleReset_cases cfg handled.now handled.answer (serve cfg requests).1 q with ⟨e, he⟩ | ⟨ok, hok, -⟩
      · simp [handleEnvRequest, he, JoinResponse.isError] at herr
      · exact (resetResult_ok hok).2.1
    · rw [hq] at herr
      rcases handleStep_cases cfg handled.now handled.answer (serve cfg requests).1 q with ⟨e, he⟩ | ⟨ok, hok, -⟩
      · simp [handleEnvRequest, he, JoinResponse.isError] at herr
      · exact (stepResult_ok hok).2.1

namespace Ledger

variable {n : Nat} {ledger : Ledger Id R}

theorem Balanced.nodup (h : ledger.Balanced n) : ((ledger.reported ++ ledger.dropped).map Entry.number).Nodup := by
  have hall : ((ledger.entries n).map Entry.number).Nodup := by rw [h]; exact Multiset.nodup_range _
  have hle : (↑((ledger.reported ++ ledger.dropped).map Entry.number) : Multiset Nat) ≤
      (ledger.entries n).map Entry.number := by
    rw [← Multiset.map_coe, ← Multiset.coe_add]
    refine Multiset.map_le_map ?_
    simp only [entries, Multiset.coe_add, List.append_assoc, Multiset.coe_le]
    exact (List.sublist_append_left _ _).subperm.trans (by rw [List.append_assoc])
  exact Multiset.coe_nodup.1 (Multiset.nodup_of_le hle hall)

theorem stepLane_dropped (response : StepResponse Id R) (nextStep : Bool) (pushedIds : List Id) (lane pos : Nat) :
    (ledger.stepLane response nextStep pushedIds lane pos).dropped = ledger.dropped := by
  unfold Ledger.stepLane
  split
  · dsimp only; split <;> rfl
  · split <;> rfl

theorem record_dropped (cfg : ServerConfig) (exchange : JoinRequest Id R × JoinResponse Id R) :
    ∃ lost, (ledger.record cfg exchange).dropped = ledger.dropped ++ lost ∧
      (lost = [] ∨ lost = ledger.interrupted.take (ledger.interrupted.length - maxInterruptedEpisodes)) := by
  unfold Ledger.record
  split
  · refine ⟨[], ?_, .inl rfl⟩
    rw [List.append_nil]
    generalize (coveredLanes cfg _).zipIdx = lanes
    induction lanes generalizing ledger with
    | nil => rfl
    | cons entry rest ih => exact ih
  · refine ⟨_, ?_, .inr rfl⟩
    change _ = ledger.drain.dropped
    generalize (coveredLanes cfg _).zipIdx = lanes
    generalize ledger.drain = drained
    induction lanes generalizing drained with
    | nil => rfl
    | cons entry rest ih => exact (ih _).trans (stepLane_dropped ..)
  · exact ⟨_, rfl, .inr rfl⟩
  · exact ⟨[], by simp, .inl rfl⟩

end Ledger

theorem serve_reports (cfg : ServerConfig) (requests : List (Handled Id R)) :
    ((reports (serve cfg requests).2).map accountOf).Perm
      ((ledgerOf cfg (serve cfg requests).2).reported.map Entry.account) := by
  induction requests using List.reverseRecOn with
  | nil => exact .nil
  | append_singleton requests handled ih =>
    obtain ⟨-, closed, hreported, hepisodes⟩ := (serve_tracks cfg requests).1.exchange handled
    rw [ledgerOf_serve_append, hreported, serve_append, reports, List.flatMap_append, List.map_append, List.map_append]
    refine ih.append ?_
    simpa using hepisodes

end Rlmesh.Env
