import Rlmesh.Env.Server
import Rlmesh.Lib.Keyed
/-!
# What a request does to a lane

A client of the env server only ever asks one thing of the tracker: which
episode runs on a lane, or whether the lane owes an autoreset observation.
`EpisodeTracker.lane` is that view, `LaneView.step` what a successful step does
to it, and `handleReset_effect` and `handleStep_effect` say what a whole request
does to every lane.
-/
open Rlmesh.Wire Rlmesh.Lib

set_option linter.unusedSectionVars false

namespace Rlmesh.Env

variable {Id R : Type}

/-- A lane as a client of the server sees it. -/
inductive LaneView (Id : Type) where
  | active (id : Id)
  | pendingAutoreset
  | idle
  deriving DecidableEq

def EpisodeTracker.lane (tracker : EpisodeTracker Id R) (lane : Nat) : LaneView Id :=
  match tracker.activeEpisodeId lane with
  | some id => .active id
  | none => if lane ∈ tracker.pendingAutoreset then .pendingAutoreset else .idle

/-- One successful step of a lane that `ends` on it or not; `pushed` is the id
the request carries for the lane. -/
def LaneView.step (ends nextStep : Bool) (pushed : Id) : LaneView Id → LaneView Id
  | .active id => if ends then (if nextStep then .pendingAutoreset else .idle) else .active id
  | .pendingAutoreset => .active pushed
  | .idle => .idle

/-- The lane at a position of a step response ends on it. -/
def laneEnds (response : StepResponse Id R) (pos : Nat) : Bool :=
  laneBit response.terminatedMask pos || laneBit response.truncatedMask pos

/-- What the tracker holds for a lane: its running episode, and whether the lane is owed a roll. -/
def EpisodeTracker.slot (tracker : EpisodeTracker Id R) (lane : Nat) : Option (Episode Id R) × Bool :=
  (tracker.active.lookup lane, lane ∈ tracker.pendingAutoreset)

/-- A slot as a client sees it. -/
def LaneView.ofSlot : Option (Episode Id R) × Bool → LaneView Id
  | (some episode, _) => .active episode.id
  | (none, true) => .pendingAutoreset
  | (none, false) => .idle

/-- An episode is filed under its own lane, which is owed no roll. -/
def SlotFits (lane : Nat) : Option (Episode Id R) × Bool → Prop
  | (some episode, owed) => owed = false ∧ episode.envIndex = lane
  | (none, _) => True

namespace EpisodeTracker

/-- What every session keeps true of its tracker: no lane is active and owed a
roll at once, an episode is filed under its own lane, and a lane whose
interrupted episode is still to be reported is running another one. -/
structure WellFormed (tracker : EpisodeTracker Id R) : Prop where
  apart : ∀ lane, lane ∈ tracker.active → lane ∉ tracker.pendingAutoreset
  filed : ∀ lane episode, tracker.active.lookup lane = some episode → episode.envIndex = lane
  restarted : ∀ metadata ∈ tracker.interrupted, metadata.envIndex ∈ tracker.active

variable {tracker : EpisodeTracker Id R} {lane : Nat}

theorem lane_eq_ofSlot (tracker : EpisodeTracker Id R) (lane : Nat) : tracker.lane lane = .ofSlot (tracker.slot lane) := by
  unfold EpisodeTracker.lane activeEpisodeId slot
  cases tracker.active.lookup lane with
  | some episode => rfl
  | none => by_cases hp : lane ∈ tracker.pendingAutoreset <;> simp [hp, LaneView.ofSlot]

theorem lane_active (tracker : EpisodeTracker Id R) (lane : Nat) (id : Id) :
    tracker.lane lane = .active id ↔ ∃ episode, tracker.active.lookup lane = some episode ∧ episode.id = id := by
  unfold EpisodeTracker.lane activeEpisodeId
  cases tracker.active.lookup lane with
  | some episode => simp
  | none =>
    simp only [Option.map_none, reduceCtorEq, false_and, exists_false, iff_false]
    split <;> simp

theorem lane_of_lookup {episode : Episode Id R} (ha : tracker.active.lookup lane = some episode) :
    tracker.lane lane = .active episode.id := by
  simp [EpisodeTracker.lane, activeEpisodeId, ha]

theorem mem_active {lane : Nat} : lane ∈ tracker.active ↔ ∃ episode, tracker.active.lookup lane = some episode := by
  rw [← AList.lookup_isSome, Option.isSome_iff_exists]

theorem WellFormed.slot (h : tracker.WellFormed) (lane : Nat) : SlotFits lane (tracker.slot lane) := by
  unfold EpisodeTracker.slot
  cases ha : tracker.active.lookup lane with
  | none => trivial
  | some episode => exact ⟨decide_eq_false (h.apart lane (mem_active.2 ⟨episode, ha⟩)), h.filed lane episode ha⟩

theorem wellFormed_of_slots (h : ∀ lane, SlotFits lane (tracker.slot lane))
    (hrestarted : ∀ metadata ∈ tracker.interrupted, metadata.envIndex ∈ tracker.active) : tracker.WellFormed := by
  have hsome : ∀ lane episode, tracker.active.lookup lane = some episode →
      decide (lane ∈ tracker.pendingAutoreset) = false ∧ episode.envIndex = lane := by
    intro lane episode ha
    have hlane := h lane
    rwa [EpisodeTracker.slot, ha] at hlane
  refine ⟨fun lane hactive => ?_, fun lane episode ha => (hsome lane episode ha).2, hrestarted⟩
  obtain ⟨episode, ha⟩ := mem_active.1 hactive
  exact of_decide_eq_false (hsome lane episode ha).1

theorem wellFormed_new : (new : EpisodeTracker Id R).WellFormed where
  apart lane h := by simp [new] at h
  filed lane episode h := by simp [new] at h
  restarted m h := by simp [new] at h

theorem slot_startEpisode [Zero R] (tracker : EpisodeTracker Id R) (now : Int) (lane : Nat) (seed : Option Int)
    (id : Id) (l : Nat) :
    (tracker.startEpisode now lane seed id).slot l =
      if l = lane then (some (.new now lane seed id), false) else tracker.slot l := by
  unfold EpisodeTracker.slot
  rw [startEpisode_active, startEpisode_pending]
  by_cases hl : l = lane
  · subst hl
    simp
  · simp [hl, AList.lookup_insert_ne hl]

theorem mem_pushInterrupted {metadata m : EpisodeMetadata Id R}
    (h : m ∈ (tracker.pushInterrupted metadata).interrupted) : m ∈ tracker.interrupted ∨ m = metadata := by
  unfold pushInterrupted at h
  split at h <;> simp only [List.mem_append, List.mem_singleton] at h
  · exact h.imp_left List.mem_of_mem_tail
  · exact h

theorem WellFormed.startEpisode [Zero R] (h : tracker.WellFormed) (now : Int) (lane : Nat) (seed : Option Int)
    (id : Id) : (tracker.startEpisode now lane seed id).WellFormed := by
  refine wellFormed_of_slots (fun l => ?_) (fun m hm => ?_)
  · rw [slot_startEpisode]
    split
    · rename_i hl
      exact ⟨rfl, hl.symm⟩
    · exact h.slot l
  · rw [startEpisode_active, AList.mem_insert]
    rw [startEpisode_interrupted] at hm
    split at hm
    · rename_i old hold
      rcases mem_pushInterrupted hm with hm | rfl
      · exact .inr (h.restarted m hm)
      · exact .inl (h.filed lane old hold)
    · exact .inr (h.restarted m hm)

end EpisodeTracker

/-! ## One lane of a step -/

section Step

variable [Zero R] [Add R] [Inhabited Id]

/-- What a step reports for a lane: its episode, when it ends on the step. -/
def laneReport (now : Int) (ok : StepResponse Id R) (width : Nat) (tracker : EpisodeTracker Id R)
    (entry : Nat × Nat) : Option (EpisodeMetadata Id R) :=
  match tracker.active.lookup entry.1 with
  | some episode =>
    if laneEnds ok entry.2 then
      some ((episode.recordStep (ok.rewards[entry.2]?.getD 0)).complete now (laneBit ok.terminatedMask entry.2)
        (laneBit ok.truncatedMask entry.2) (laneFinalInfo ok.infos entry.2 width))
    else none
  | none => none

/-- What one lane of a step does to its slot: the reward is booked on the running
episode, which its terminal flags end; an owed lane rolls. -/
def stepSlot (now : Int) (ok : StepResponse Id R) (nextStep : Bool) (pushedIds : List Id) (lane pos : Nat) :
    Option (Episode Id R) × Bool → Option (Episode Id R) × Bool
  | (some episode, owed) =>
    if laneEnds ok pos then (none, nextStep || owed)
    else (some (episode.recordStep (ok.rewards[pos]?.getD 0)), owed)
  | (none, true) => (some (.new now lane none (pushedIds[pos]?.getD default)), false)
  | (none, false) => (none, false)

variable {tracker : EpisodeTracker Id R} {lane : Nat}

theorem laneReport_some {now : Int} {ok : StepResponse Id R} {width : Nat} {entry : Nat × Nat}
    {metadata : EpisodeMetadata Id R} (hwf : tracker.WellFormed)
    (h : laneReport now ok width tracker entry = some metadata) :
    metadata.envIndex = entry.1 ∧ laneEnds ok entry.2 = true ∧
      tracker.lane entry.1 = .active metadata.episodeId := by
  unfold laneReport at h
  cases ha : tracker.active.lookup entry.1 with
  | none => rw [ha] at h; cases h
  | some episode =>
    rw [ha] at h
    dsimp only at h
    split at h
    · rename_i hends
      rw [Option.some.injEq] at h
      subst h
      have hfiled := hwf.filed _ _ ha
      have hlane := EpisodeTracker.lane_of_lookup ha
      exact ⟨hfiled, hends, hlane⟩
    · cases h

variable (now : Int) (ok : StepResponse Id R) (width : Nat) (nextStep : Bool) (pushedIds : List Id)

/-- An active lane goes on with its step recorded, or its episode ends. -/
theorem applyLane_active {episode : Episode Id R} (pos : Nat) (ha : tracker.active.lookup lane = some episode) :
    ((applyLane now ok width nextStep pushedIds tracker lane pos).1.active =
        if laneEnds ok pos then tracker.active.erase lane
        else tracker.active.insert lane (episode.recordStep (ok.rewards[pos]?.getD 0))) ∧
      ((applyLane now ok width nextStep pushedIds tracker lane pos).1.pendingAutoreset =
        if laneEnds ok pos && nextStep then insert lane tracker.pendingAutoreset else tracker.pendingAutoreset) ∧
      (applyLane now ok width nextStep pushedIds tracker lane pos).1.interrupted = tracker.interrupted := by
  have hstate := (tracker.laneState_active lane).2 ⟨episode, ha⟩
  have herase : ∀ stepped : Episode Id R,
      (tracker.active.insert lane stepped).erase lane = tracker.active.erase lane := by
    intro stepped
    apply AList.ext
    simp [AList.insert, AList.erase, List.kinsert, List.kerase]
  simp only [applyLane, hstate, EpisodeTracker.recordStep, ha, EpisodeTracker.completeEpisode, AList.lookup_insert]
  cases hends : laneEnds ok pos with
  | true =>
    rw [laneEnds] at hends
    cases nextStep <;> simp [hends, herase, EpisodeTracker.expectAutoreset]
  | false =>
    rw [laneEnds] at hends
    simp [hends]

theorem applyLane_pending (pos : Nat) (h : tracker.laneState lane = .pendingAutoreset) :
    (applyLane now ok width nextStep pushedIds tracker lane pos).1 =
      tracker.startEpisode now lane none (pushedIds[pos]?.getD default) := by
  simp only [applyLane, h]

theorem applyLane_idle (pos : Nat) (h : tracker.laneState lane = .idle) :
    (applyLane now ok width nextStep pushedIds tracker lane pos).1 = tracker := by
  simp only [applyLane, h]

theorem applyLane_report (tracker : EpisodeTracker Id R) (entry : Nat × Nat) :
    (applyLane now ok width nextStep pushedIds tracker entry.1 entry.2).2 =
      (laneReport now ok width tracker entry).toList := by
  unfold laneReport
  cases ha : tracker.active.lookup entry.1 with
  | some episode =>
    have hstate := (tracker.laneState_active entry.1).2 ⟨episode, ha⟩
    simp only [applyLane, hstate, EpisodeTracker.recordStep, ha, EpisodeTracker.completeEpisode,
      AList.lookup_insert]
    cases hends : laneEnds ok entry.2 with
    | true => rw [laneEnds] at hends; simp only [hends, if_true]
    | false => rw [laneEnds] at hends; simp [hends]
  | none =>
    unfold applyLane
    cases hstate : tracker.laneState entry.1 with
    | active =>
      obtain ⟨episode, he⟩ := (tracker.laneState_active entry.1).1 hstate
      rw [he] at ha; cases ha
    | pendingAutoreset => rfl
    | idle => rfl

theorem slot_applyLane (tracker : EpisodeTracker Id R) (lane pos l : Nat) :
    (applyLane now ok width nextStep pushedIds tracker lane pos).1.slot l =
      if l = lane then stepSlot now ok nextStep pushedIds lane pos (tracker.slot l) else tracker.slot l := by
  cases ha : tracker.active.lookup lane with
  | some episode =>
    obtain ⟨hactive, hpending, -⟩ := applyLane_active now ok width nextStep pushedIds pos ha
    unfold EpisodeTracker.slot
    rw [hactive, hpending]
    by_cases hl : l = lane
    · subst hl
      rw [if_pos rfl, ha, stepSlot]
      cases hends : laneEnds ok pos with
      | true => cases nextStep <;> simp
      | false => simp
    · rw [if_neg hl]
      cases hends : laneEnds ok pos with
      | true => cases nextStep <;> simp [hl, AList.lookup_erase_ne hl]
      | false => simp [AList.lookup_insert_ne hl]
  | none =>
    by_cases hp : lane ∈ tracker.pendingAutoreset
    · rw [applyLane_pending _ _ _ _ _ _ ((tracker.laneState_pending lane).2 ⟨ha, hp⟩),
        EpisodeTracker.slot_startEpisode]
      by_cases hl : l = lane
      · subst hl
        simp [EpisodeTracker.slot, ha, hp, stepSlot]
      · rw [if_neg hl, if_neg hl]
    · rw [applyLane_idle _ _ _ _ _ _ ((tracker.laneState_idle lane).2 ⟨ha, hp⟩)]
      by_cases hl : l = lane
      · subst hl
        simp [EpisodeTracker.slot, ha, hp, stepSlot]
      · rw [if_neg hl]

/-- A step buffers no interrupted episode: a roll replaces none. -/
theorem interrupted_applyLane (tracker : EpisodeTracker Id R) (lane pos : Nat) :
    (applyLane now ok width nextStep pushedIds tracker lane pos).1.interrupted = tracker.interrupted := by
  cases ha : tracker.active.lookup lane with
  | some episode => exact (applyLane_active now ok width nextStep pushedIds pos ha).2.2
  | none =>
    by_cases hp : lane ∈ tracker.pendingAutoreset
    · rw [applyLane_pending _ _ _ _ _ _ ((tracker.laneState_pending lane).2 ⟨ha, hp⟩),
        EpisodeTracker.startEpisode_interrupted, ha]
    · rw [applyLane_idle _ _ _ _ _ _ ((tracker.laneState_idle lane).2 ⟨ha, hp⟩)]

theorem laneReport_applyLane (tracker : EpisodeTracker Id R) (pos : Nat) {entry : Nat × Nat} (hne : entry.1 ≠ lane) :
    laneReport now ok width (applyLane now ok width nextStep pushedIds tracker lane pos).1 entry =
      laneReport now ok width tracker entry := by
  have hslot := slot_applyLane now ok width nextStep pushedIds tracker lane pos entry.1
  rw [if_neg hne] at hslot
  unfold laneReport
  rw [show (applyLane now ok width nextStep pushedIds tracker lane pos).1.active.lookup entry.1 =
    tracker.active.lookup entry.1 from congrArg Prod.fst hslot]

/-- A slot that fits steps as the client sees it, and goes on fitting. -/
theorem stepSlot_fits {slot : Option (Episode Id R) × Bool} (h : SlotFits lane slot) (pos : Nat) :
    SlotFits lane (stepSlot now ok nextStep pushedIds lane pos slot) ∧
      LaneView.ofSlot (stepSlot now ok nextStep pushedIds lane pos slot) =
        (LaneView.ofSlot slot).step (laneEnds ok pos) nextStep (pushedIds[pos]?.getD default) := by
  obtain ⟨episode, owed⟩ := slot
  cases episode with
  | some episode =>
    obtain ⟨rfl, hfiled⟩ := h
    unfold stepSlot LaneView.ofSlot LaneView.step
    cases laneEnds ok pos with
    | true => cases nextStep <;> exact ⟨trivial, rfl⟩
    | false => exact ⟨⟨rfl, hfiled⟩, rfl⟩
  | none =>
    cases owed with
    | true => exact ⟨⟨rfl, rfl⟩, rfl⟩
    | false => exact ⟨trivial, rfl⟩

end Step

/-! ## A whole request -/

section Request

variable [Zero R] [Add R] [BEq R] [Inhabited Id]

theorem coveredLanes_zipIdx_map (cfg : ServerConfig) (envIndices : List Nat) :
    (coveredLanes cfg envIndices).zipIdx.map Prod.fst = coveredLanes cfg envIndices := List.zipIdx_map_fst _ _

/-- The loop of `startLanes`. -/
def startLoop (now : Int) (seeds : List Int) (pushedIds : List Id) :
    KeyedLoop (EpisodeTracker Id R) Nat Nat (Option (Episode Id R) × Bool) where
  body tracker entry := tracker.startEpisode now entry.1 seeds[entry.2]? (pushedIds[entry.2]?.getD default)
  view := EpisodeTracker.slot
  change lane pos _ := (some (.new now lane seeds[pos]? (pushedIds[pos]?.getD default)), false)
  inv _ := True
  keeps _ _ _ := trivial
  changes tracker _ _ lane := tracker.slot_startEpisode _ _ _ _ lane

/-- The loop of `applyStepToTracker`, over the tracker and the reports so far. -/
def stepLoop (now : Int) (ok : StepResponse Id R) (width : Nat) (nextStep : Bool) (pushedIds : List Id) :
    KeyedLoop (EpisodeTracker Id R × List (EpisodeMetadata Id R)) Nat Nat (Option (Episode Id R) × Bool) where
  body acc entry :=
    ((applyLane now ok width nextStep pushedIds acc.1 entry.1 entry.2).1,
      acc.2 ++ (applyLane now ok width nextStep pushedIds acc.1 entry.1 entry.2).2)
  view acc := acc.1.slot
  change lane pos := stepSlot now ok nextStep pushedIds lane pos
  inv acc := acc.1.interrupted = []
  keeps acc entry h := (interrupted_applyLane now ok width nextStep pushedIds acc.1 entry.1 entry.2).trans h
  changes acc entry _ lane := slot_applyLane now ok width nextStep pushedIds acc.1 entry.1 entry.2 lane

variable {tracker : EpisodeTracker Id R}

/-- The episodes a step reports: those resets interrupted, then those that end on it. -/
def stepReports (cfg : ServerConfig) (now : Int) (request : StepRequest Id) (ok : StepResponse Id R)
    (tracker : EpisodeTracker Id R) : List (EpisodeMetadata Id R) :=
  tracker.interrupted ++ (coveredLanes cfg request.envIndices).zipIdx.filterMap
    (laneReport now ok (coveredLanes cfg request.envIndices).length tracker)

theorem stepLoop_reports (now : Int) (ok : StepResponse Id R) (width : Nat) (nextStep : Bool)
    (pushedIds : List Id) (entries : List (Nat × Nat)) (hn : (entries.map Prod.fst).Nodup)
    (tracker : EpisodeTracker Id R) (reported : List (EpisodeMetadata Id R)) :
    (entries.foldl (stepLoop now ok width nextStep pushedIds).body (tracker, reported)).2 =
      reported ++ entries.filterMap (laneReport now ok width tracker) := by
  induction entries generalizing tracker reported with
  | nil => simp
  | cons entry rest ih =>
    rw [List.map_cons, List.nodup_cons] at hn
    rw [List.foldl_cons]
    change (rest.foldl _ ((applyLane now ok width nextStep pushedIds tracker entry.1 entry.2).1,
      reported ++ (applyLane now ok width nextStep pushedIds tracker entry.1 entry.2).2)).2 = _
    rw [ih hn.2, applyLane_report]
    have hrest : rest.filterMap (laneReport now ok width
        (applyLane now ok width nextStep pushedIds tracker entry.1 entry.2).1) =
        rest.filterMap (laneReport now ok width tracker) := by
      refine List.filterMap_congr (fun other hother => laneReport_applyLane now ok width nextStep pushedIds tracker _ ?_)
      intro heq
      exact hn.1 (heq ▸ List.mem_map_of_mem hother)
    rw [hrest, List.append_assoc, List.filterMap_cons]
    cases laneReport now ok width tracker entry <;> rfl

/-- The lane at every position of a successful reset runs the episode of that
position; the other lanes keep what they had. -/
theorem handleReset_slots {cfg : ServerConfig} {now : Int} {answer : EnvAnswer Id R} {tracker' : EpisodeTracker Id R}
    {request : ResetRequest Id R} {ok : ResetResponse R}
    (h : handleReset cfg now answer tracker request = (.reset ok, tracker')) :
    resetResult cfg answer request = .ok ok ∧
    (∀ lane pos, (lane, pos) ∈ (coveredLanes cfg request.envIndices).zipIdx → tracker'.slot lane =
      (some (.new now lane request.seeds[pos]? (request.episodeIds[pos]?.getD default)), false)) ∧
    ∀ lane ∉ coveredLanes cfg request.envIndices, tracker'.slot lane = tracker.slot lane := by
  rcases handleReset_cases cfg now answer tracker request with ⟨e, he⟩ | ⟨ok', hok, heq⟩
  · rw [he] at h
    cases h
  rw [heq] at h
  cases h
  have hvalid := (resetResult_ok hok).2.1
  have hkeys := coveredLanes_zipIdx_map cfg request.envIndices
  let loop := startLoop (R := R) now request.seeds request.episodeIds
  refine ⟨hok, fun lane pos hmem => ?_, fun lane hlane => ?_⟩
  · exact loop.view_of_mem trivial (by rw [hkeys]; exact hvalid.1) hmem
  · exact loop.view_of_notMem trivial (by rwa [hkeys])

/-- The lane at every position of a successful step goes through `stepSlot` with
that position's row, and reports by it; the other lanes keep what they had. -/
theorem handleStep_slots {cfg : ServerConfig} {now : Int} {answer : EnvAnswer Id R} {tracker' : EpisodeTracker Id R}
    {request : StepRequest Id} {response : StepResponse Id R}
    (h : handleStep cfg now answer tracker request = (.step response, tracker')) :
    ∃ ok, stepResult cfg answer request = .ok ok ∧
      response = { ok with completedEpisodes := stepReports cfg now request ok tracker } ∧
      (∀ lane pos, (lane, pos) ∈ (coveredLanes cfg request.envIndices).zipIdx → tracker'.slot lane =
        stepSlot now ok (cfg.autoresetMode = .nextStep) request.episodeIds lane pos (tracker.slot lane)) ∧
      (∀ lane ∉ coveredLanes cfg request.envIndices, tracker'.slot lane = tracker.slot lane) ∧
      tracker'.interrupted = [] := by
  rcases handleStep_cases cfg now answer tracker request with ⟨e, he⟩ | ⟨ok, hok, -, heq⟩
  · rw [he] at h
    cases h
  rw [heq] at h
  have hkeys := coveredLanes_zipIdx_map cfg request.envIndices
  have hnodup : ((coveredLanes cfg request.envIndices).zipIdx.map Prod.fst).Nodup := by
    rw [hkeys]; exact (stepResult_ok hok).2.1.1
  have hreports := stepLoop_reports now ok (coveredLanes cfg request.envIndices).length
    (cfg.autoresetMode = .nextStep) request.episodeIds _ hnodup tracker.takeInterrupted.2 tracker.takeInterrupted.1
  let loop := stepLoop now ok (coveredLanes cfg request.envIndices).length (cfg.autoresetMode = .nextStep)
    request.episodeIds
  let drained := (tracker.takeInterrupted.2, tracker.takeInterrupted.1)
  cases h
  refine ⟨ok, hok, congrArg (fun reported => { ok with completedEpisodes := reported }) hreports,
    fun lane pos hmem => ?_, fun lane hlane => ?_, loop.foldl_inv (s := drained) _ rfl⟩
  · exact loop.view_of_mem (s := drained) rfl hnodup hmem
  · exact loop.view_of_notMem (s := drained) rfl (by rwa [hkeys])

/-! ## As a client sees it -/

/-- A successful reset puts the pushed id on every lane it covers. -/
structure ResetEffect (cfg : ServerConfig) (request : ResetRequest Id R) (tracker tracker' : EpisodeTracker Id R) :
    Prop where
  valid : ValidLanes cfg request.envIndices
  wellFormed : tracker'.WellFormed
  covered : ∀ lane pos, (lane, pos) ∈ (coveredLanes cfg request.envIndices).zipIdx →
    tracker'.lane lane = .active (request.episodeIds[pos]?.getD default)
  others : ∀ lane ∉ coveredLanes cfg request.envIndices, tracker'.lane lane = tracker.lane lane

theorem handleReset_effect (cfg : ServerConfig) (now : Int) (answer : EnvAnswer Id R) (hwf : tracker.WellFormed)
    (request : ResetRequest Id R) :
    (∃ e, handleReset cfg now answer tracker request = (.error e, tracker)) ∨
    (∃ ok tracker', handleReset cfg now answer tracker request = (.reset ok, tracker') ∧
      ResetEffect cfg request tracker tracker') := by
  refine (handleReset_cases cfg now answer tracker request).imp_right ?_
  rintro ⟨ok, hok, heq⟩
  obtain ⟨-, hcovered, hothers⟩ := handleReset_slots heq
  refine ⟨ok, _, heq, (resetResult_ok hok).2.1, List.foldlRecOn _ _ hwf (fun _ h _ _ => h.startEpisode _ _ _ _),
    fun lane pos hmem => ?_, fun lane hlane => ?_⟩
  · rw [EpisodeTracker.lane_eq_ofSlot, hcovered lane pos hmem]
    rfl
  · rw [EpisodeTracker.lane_eq_ofSlot, hothers lane hlane, EpisodeTracker.lane_eq_ofSlot]

/-- A successful step advances every lane it covers. -/
structure StepEffect (cfg : ServerConfig) (now : Int) (request : StepRequest Id) (ok response : StepResponse Id R)
    (tracker tracker' : EpisodeTracker Id R) : Prop where
  valid : ValidLanes cfg request.envIndices
  allowed : validateStepLanes ok (coveredLanes cfg request.envIndices) (cfg.autoresetMode = .nextStep) tracker = none
  wellFormed : tracker'.WellFormed
  drained : tracker'.interrupted = []
  covered : ∀ lane pos, (lane, pos) ∈ (coveredLanes cfg request.envIndices).zipIdx →
    tracker'.lane lane = (tracker.lane lane).step (laneEnds ok pos) (cfg.autoresetMode = .nextStep)
      (request.episodeIds[pos]?.getD default)
  others : ∀ lane ∉ coveredLanes cfg request.envIndices, tracker'.lane lane = tracker.lane lane
  response : response = { ok with completedEpisodes := stepReports cfg now request ok tracker }

theorem handleStep_effect (cfg : ServerConfig) (now : Int) (answer : EnvAnswer Id R) (hwf : tracker.WellFormed)
    (request : StepRequest Id) :
    (∃ e, handleStep cfg now answer tracker request = (.error e, tracker)) ∨
    (∃ ok response tracker', stepResult cfg answer request = .ok ok ∧
      handleStep cfg now answer tracker request = (.step response, tracker') ∧
      StepEffect cfg now request ok response tracker tracker') := by
  refine (handleStep_cases cfg now answer tracker request).imp_right ?_
  rintro ⟨ok, hok, hallowed, heq⟩
  obtain ⟨ok', hok', hresponse, hcovered, hothers, hdrained⟩ := handleStep_slots heq
  cases hok.symm.trans hok'
  have hfits := fun lane pos => stepSlot_fits now ok (decide (cfg.autoresetMode = .nextStep)) request.episodeIds
    (hwf.slot lane) pos
  refine ⟨ok, _, _, hok, heq, (stepResult_ok hok).2.1, hallowed,
    EpisodeTracker.wellFormed_of_slots (fun lane => ?_) (fun m hm => ?_), hdrained, fun lane pos hmem => ?_,
    fun lane hlane => ?_, hresponse⟩
  · by_cases hlane : lane ∈ coveredLanes cfg request.envIndices
    · obtain ⟨pos, hpos⟩ := List.mem_iff_getElem?.1 hlane
      rw [hcovered lane pos (List.mk_mem_zipIdx_iff_getElem?.2 hpos)]
      exact (hfits lane pos).1
    · rw [hothers lane hlane]
      exact hwf.slot lane
  · rw [hdrained] at hm
    cases hm
  · rw [EpisodeTracker.lane_eq_ofSlot, hcovered lane pos hmem, EpisodeTracker.lane_eq_ofSlot]
    exact (hfits lane pos).2
  · rw [EpisodeTracker.lane_eq_ofSlot, hothers lane hlane, EpisodeTracker.lane_eq_ofSlot]

end Request

end Rlmesh.Env
