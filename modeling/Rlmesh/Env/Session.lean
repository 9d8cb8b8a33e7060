import Rlmesh.Env.Client
/-!
# Client and server agree on the lanes' episodes

A client's session: it calls `reset` and `step`, the server answers each
request before the next is sent, and both sides keep their own account of the
episodes. A non-recoverable error ends the session.

The two accounts agree as long as no reset that the server refuses covers a
running lane, and, under NEXT_STEP, every interrupted episode a step reports
belongs to a lane that ends on that step. Neither is checked by the code: a
reset re-mints its lanes' ids before it is sent, and a step re-mints the ids of
all the lanes its reply reports.
-/
open Rlmesh.Wire Rlmesh.Lib

set_option linter.unusedSectionVars false

namespace Rlmesh.Env

/-- Both ends of a session. -/
structure Session (Id R : Type) where
  client : EnvClientCore Id
  tracker : EpisodeTracker Id R

inductive Call (V R : Type) where
  | reset (req : VectorResetRequest R)
  | step (req : VectorStepRequest V)

/-- A call, with the clock and the env's answer when the server handles it. -/
structure Exchange (V Id R : Type) where
  call : Call V R
  now : Int
  answer : EnvAnswer Id R

/-- The reply ends the session. -/
def endsSession {Id R : Type} : JoinResponse Id R → Bool
  | .error e => !e.isRecoverable
  | _ => false

variable {V Id R : Type} [Zero R] [Add R] [BEq R] [Inhabited Id]
  (minter : Minter Id) (codec : Codec V) (cfg : ServerConfig)

/-- One call and its answer. A call the client refuses by itself sends nothing. -/
def exchange (s : Session Id R) (e : Exchange V Id R) : Option (Session Id R) :=
  match e.call with
  | .reset req =>
    match s.client.reset minter req with
    | .error _ => some s
    | .ok (client, request) =>
      let (reply, tracker) := handleEnvRequest cfg e.now e.answer s.tracker (.reset request)
      if endsSession reply then none else some { client, tracker }
  | .step req =>
    match s.client.step codec req with
    | .error _ => some s
    | .ok request =>
      let (reply, tracker) := handleEnvRequest cfg e.now e.answer s.tracker (.step request)
      if endsSession reply then none else some { client := (s.client.onStepReply minter codec reply).2, tracker }

/-- The sessions of a client connected to the endpoint. -/
def sessions : System (Session Id R) (Exchange V Id R) where
  init := { client := .connect cfg.numEnvs cfg.autoresetMode "the env client", tracker := .new }
  step := exchange minter codec cfg

/-- Under NEXT_STEP a step's interrupted episodes are of lanes that end on it. -/
def EchoesEnd (tracker : EpisodeTracker Id R) : JoinResponse Id R → Prop
  | .step response =>
    cfg.autoresetMode = .nextStep →
      cfg.numEnvs ≤ 2 ^ 31 ∧ ∀ metadata ∈ tracker.interrupted, laneEnds response metadata.envIndex = true
  | _ => True

/-- The exchange meets no refused reset of a running lane and no echo of a lane
that goes on. -/
def Quiet (s : Session Id R) (e : Exchange V Id R) : Prop :=
  match e.call with
  | .reset req =>
    match s.client.reset minter req with
    | .error _ => True
    | .ok (_, request) =>
      (handleEnvRequest cfg e.now e.answer s.tracker (.reset request)).1.isError = true →
        ∀ lane ∈ coveredLanes cfg request.envIndices, lane ∉ s.tracker.active
  | .step req =>
    match s.client.step codec req with
    | .error _ => True
    | .ok request => EchoesEnd cfg s.tracker (handleEnvRequest cfg e.now e.answer s.tracker (.step request)).1

instance (tracker : EpisodeTracker Id R) (reply : JoinResponse Id R) : Decidable (EchoesEnd cfg tracker reply) := by
  unfold EchoesEnd
  split <;> infer_instance

instance (s : Session Id R) (e : Exchange V Id R) : Decidable (Quiet minter codec cfg s e) := by
  unfold Quiet
  split <;> split <;> infer_instance

/-- The two sides agree: the client holds the id of every running episode. -/
structure Agree (s : Session Id R) : Prop where
  wellFormed : s.tracker.WellFormed
  numEnvs : s.client.numEnvs = cfg.numEnvs
  autoresetMode : s.client.autoresetMode = cfg.autoresetMode
  width : s.client.episodeIds.length = cfg.numEnvs
  ids : ∀ lane id, s.tracker.lane lane = .active id → s.client.episodeIds[lane]? = some id

variable {cfg} {s : Session Id R}

theorem Agree.lane_lt (h : Agree cfg s) {lane : Nat} {id : Id} (ha : s.tracker.lane lane = .active id) :
    lane < cfg.numEnvs := by
  rw [← h.width]
  exact (List.getElem?_eq_some_iff.1 (h.ids lane id ha)).1

theorem Agree.active_lt (h : Agree cfg s) {lane : Nat} (ha : lane ∈ s.tracker.active) : lane < cfg.numEnvs := by
  obtain ⟨episode, he⟩ := Option.isSome_iff_exists.1 (AList.lookup_isSome.2 ha)
  exact h.lane_lt (EpisodeTracker.lane_of_lookup he)

theorem mem_active_of_lane {tracker : EpisodeTracker Id R} {lane : Nat} {id : Id}
    (h : tracker.lane lane = .active id) : lane ∈ tracker.active := by
  obtain ⟨episode, he, -⟩ := (tracker.lane_active lane id).1 h
  exact AList.lookup_isSome.1 (by rw [he]; rfl)

/-- A reset keeps the agreement unless it is refused on a running lane. -/
theorem Agree.reset (h : Agree cfg s) (now : Int) (answer : EnvAnswer Id R) (seeds : List Int)
    (options : Option (MetaMap R)) (envIndices : List Nat) (timeout : Option Nat)
    (hq : (handleReset cfg now answer s.tracker
        (s.client.resetLanes minter seeds options envIndices timeout).2).1.isError = true →
      ∀ lane ∈ coveredLanes cfg envIndices, lane ∉ s.tracker.active) :
    Agree cfg {
      client := (s.client.resetLanes minter seeds options envIndices timeout).1
      tracker := (handleReset cfg now answer s.tracker
        (s.client.resetLanes minter seeds options envIndices timeout).2).2 } := by
  obtain ⟨hwidth, hcovered, hothers⟩ :=
    EnvClientCore.resetLanes_ids minter h.numEnvs h.width seeds options envIndices timeout
  rcases handleReset_effect cfg now answer h.wellFormed
    (s.client.resetLanes minter seeds options envIndices timeout).2 with ⟨e, he⟩ | ⟨ok, tracker', he, heff⟩
  · rw [he] at hq ⊢
    refine ⟨h.wellFormed, h.numEnvs, h.autoresetMode, hwidth, ?_⟩
    intro lane id ha
    have hnot : lane ∉ coveredLanes cfg envIndices := fun hm => hq rfl lane hm (mem_active_of_lane ha)
    exact (hothers lane hnot (h.lane_lt ha)).trans (h.ids lane id ha)
  · rw [he]
    refine ⟨heff.wellFormed, h.numEnvs, h.autoresetMode, hwidth, ?_⟩
    intro lane id ha
    by_cases hm : lane ∈ coveredLanes cfg envIndices
    · obtain ⟨pos, hpos⟩ := List.getElem?_of_mem hm
      have hmem : (lane, pos) ∈ (coveredLanes cfg envIndices).zipIdx := List.mem_zipIdx_iff_getElem?.2 hpos
      have hlane := heff.covered lane pos hmem
      rw [ha, LaneView.active.injEq] at hlane
      rw [hlane]
      exact hcovered heff.valid lane pos hmem
    · have hold := (heff.others lane hm).symm.trans ha
      exact (hothers lane hm (h.lane_lt hold)).trans (h.ids lane id hold)

theorem mem_coveredLanes_nil {lane : Nat} (hl : lane < cfg.numEnvs) :
    (lane, lane) ∈ (coveredLanes cfg []).zipIdx := by
  rw [List.mem_zipIdx_iff_getElem?]
  exact List.getElem?_range hl

variable {now : Int} {request : StepRequest Id} {ok response : StepResponse Id R} {tracker' : EpisodeTracker Id R}

/-- Before the client processes a step's reply, its ids are those of the lanes
that are running after it. -/
theorem Agree.stepped (h : Agree cfg s) (hall : request.envIndices = []) (hids : request.episodeIds = s.client.episodeIds)
    (heff : StepEffect cfg now request ok response s.tracker tracker') (lane : Nat) (id : Id)
    (ha : tracker'.lane lane = .active id) : s.client.episodeIds[lane]? = some id := by
  by_cases hl : lane < cfg.numEnvs
  · have hlane := heff.covered lane lane (by rw [hall]; exact mem_coveredLanes_nil hl)
    rw [ha, hids] at hlane
    cases hview : s.tracker.lane lane with
    | active old =>
      rw [hview, LaneView.step] at hlane
      split at hlane
      · split at hlane <;> cases hlane
      · cases hlane
        exact h.ids lane id hview
    | pendingAutoreset =>
      rw [hview, LaneView.step, LaneView.active.injEq] at hlane
      have hlt : lane < s.client.episodeIds.length := by rw [h.width]; exact hl
      rw [hlane, List.getElem?_eq_getElem hlt, Option.getD_some]
    | idle => rw [hview] at hlane; cases hlane
  · -- A lane past the width is not covered, so it ran before; no such lane does.
    have hnot : lane ∉ coveredLanes cfg request.envIndices := fun hm => hl (heff.valid.2 lane hm)
    exact h.ids lane id ((heff.others lane hnot).symm.trans ha)

theorem not_active_of_ends (hall : request.envIndices = [])
    (heff : StepEffect cfg now request ok response s.tracker tracker') {lane : Nat} (hl : lane < cfg.numEnvs)
    (hactive : lane ∈ s.tracker.active) (hends : laneEnds ok lane = true) (id : Id) :
    tracker'.lane lane ≠ .active id := by
  intro ha
  obtain ⟨episode, he⟩ := Option.isSome_iff_exists.1 (AList.lookup_isSome.2 hactive)
  have hlane := heff.covered lane lane (by rw [hall]; exact mem_coveredLanes_nil hl)
  rw [ha, EpisodeTracker.lane_of_lookup he, LaneView.step, if_pos hends] at hlane
  split at hlane <;> cases hlane

/-- The episodes that end on a step are reported under the ids that ran there. -/
theorem mem_stepReports (hwf : s.tracker.WellFormed) (hall : request.envIndices = [])
    {metadata : EpisodeMetadata Id R}
    (hm : metadata ∈ (coveredLanes cfg request.envIndices).zipIdx.filterMap
      (laneReport now ok (coveredLanes cfg request.envIndices).length s.tracker)) :
    metadata.envIndex < cfg.numEnvs ∧ laneEnds ok metadata.envIndex = true ∧
      s.tracker.lane metadata.envIndex = .active metadata.episodeId := by
  obtain ⟨⟨lane, pos⟩, hmem, hr⟩ := List.mem_filterMap.1 hm
  obtain ⟨hlane, hends, hview⟩ := laneReport_some hwf hr
  rw [hall] at hmem
  obtain ⟨hpos, heq⟩ := List.getElem?_eq_some_iff.1 (List.mem_zipIdx_iff_getElem?.1 hmem)
  have hrange : pos = lane := by simpa [coveredLanes] using heq
  have hlt : pos < cfg.numEnvs := by simpa [coveredLanes] using hpos
  dsimp only at hlane hends hview
  subst hrange
  rw [hlane]
  exact ⟨hlt, hends, hview⟩

/-- A step keeps the agreement unless, under NEXT_STEP, it reports an
interrupted episode of a lane that goes on. -/
theorem Agree.step (codec : Codec V) (h : Agree cfg s) (hall : request.envIndices = [])
    (hids : request.episodeIds = s.client.episodeIds)
    (heff : StepEffect cfg now request ok response s.tracker tracker')
    (hq : EchoesEnd cfg s.tracker (.step response)) :
    Agree cfg { client := (s.client.onStepReply minter codec (.step response)).2, tracker := tracker' } := by
  obtain ⟨hnum, hmode, hlen, hkeep⟩ := s.client.onStepReply_ids minter codec (.step response)
  refine ⟨heff.wellFormed, hnum.trans h.numEnvs, hmode.trans h.autoresetMode, hlen.trans h.width, ?_⟩
  intro lane id ha
  refine (hkeep lane ?_).trans (h.stepped hall hids heff lane id ha)
  intro hnext metadata hmem hclamp
  obtain ⟨hfits, hechoes⟩ := hq (h.autoresetMode ▸ hnext)
  -- Every reported lane was running and ends on the step, so it is not `lane`.
  have hreported : metadata.envIndex < cfg.numEnvs ∧ metadata.envIndex ∈ s.tracker.active ∧
      laneEnds ok metadata.envIndex = true := by
    rw [heff.response] at hmem hechoes
    rcases List.mem_append.1 hmem with hmem | hmem
    · have hactive := h.wellFormed.restarted metadata hmem
      exact ⟨h.active_lt hactive, hactive, hechoes metadata hmem⟩
    · obtain ⟨hlt, hends, hview⟩ := mem_stepReports h.wellFormed hall hmem
      exact ⟨hlt, mem_active_of_lane hview, hends⟩
  have hlane : metadata.envIndex = lane := by omega
  obtain ⟨hlt, hactive, hends⟩ := hreported
  rw [hlane] at hlt hactive hends
  exact not_active_of_ends hall heff hlt hactive hends id ha

theorem agree_init : Agree cfg (sessions minter codec cfg : System (Session Id R) (Exchange V Id R)).init where
  wellFormed := EpisodeTracker.wellFormed_new
  numEnvs := rfl
  autoresetMode := rfl
  width := List.length_replicate
  ids lane id ha := by cases ha

theorem agree_exchange {e : Exchange V Id R} {s' : Session Id R} (h : Agree cfg s) (hq : Quiet minter codec cfg s e)
    (hs : exchange minter codec cfg s e = some s') : Agree cfg s' := by
  unfold exchange at hs
  unfold Quiet at hq
  cases hc : e.call with
  | reset req =>
    rw [hc] at hs hq
    dsimp only at hs hq
    cases hr : s.client.reset minter req with
    | error _ => rw [hr] at hs; cases hs; exact h
    | ok sent =>
      obtain ⟨client, request⟩ := sent
      rw [hr] at hs hq
      dsimp only at hs hq
      split at hs
      · cases hs
      · cases hs
        obtain ⟨envIndices, hlanes⟩ := EnvClientCore.reset_ok minter hr
        obtain ⟨rfl, rfl⟩ := Prod.mk.inj hlanes
        exact h.reset minter e.now e.answer req.seeds req.options envIndices _ hq
  | step req =>
    rw [hc] at hs hq
    dsimp only at hs hq
    cases hr : s.client.step codec req with
    | error _ => rw [hr] at hs; cases hs; exact h
    | ok request =>
      rw [hr] at hs hq
      obtain ⟨hall, hids⟩ := EnvClientCore.step_ok hr
      dsimp only at hs hq
      split at hs
      · cases hs
      · cases hs
        rcases handleStep_effect cfg e.now e.answer h.wellFormed request with
          ⟨err, he⟩ | ⟨ok, response, tracker', -, he, heff⟩
        · simp only [handleEnvRequest, he]
          exact ⟨h.wellFormed, h.numEnvs, h.autoresetMode, h.width, h.ids⟩
        · simp only [handleEnvRequest, he] at hq ⊢
          exact h.step minter codec hall hids heff hq

theorem reach_agree (hr : (sessions minter codec cfg).Reach (Quiet minter codec cfg) s) : Agree cfg s :=
  hr.inv (Agree cfg) (agree_init minter codec) (fun _ _ _ h hq hs => agree_exchange minter codec h hq hs)

/-- In a session whose exchanges are all quiet, the client holds the id of every
episode the server is running, and a step that ends an episode reports it under
the id the client sent the step with. -/
theorem client_holds_active_ids (hr : (sessions minter codec cfg).Reach (Quiet minter codec cfg) s) :
    (∀ lane id, s.tracker.lane lane = .active id → s.client.episodeIds[lane]? = some id) ∧
    (∀ (req : VectorStepRequest V) (now : Int) (answer : EnvAnswer Id R) (request : StepRequest Id)
      (response : StepResponse Id R) (tracker' : EpisodeTracker Id R),
      s.client.step codec req = .ok request →
      handleEnvRequest cfg now answer s.tracker (.step request) = (.step response, tracker') →
      ∃ ended, response.completedEpisodes = s.tracker.interrupted ++ ended ∧
        ∀ metadata ∈ ended, laneEnds response metadata.envIndex = true ∧
          s.client.episodeIds[metadata.envIndex]? = some metadata.episodeId) := by
  have hagree := reach_agree minter codec hr
  refine ⟨hagree.ids, ?_⟩
  intro req now answer request response tracker' hreq hreply
  obtain ⟨hall, -⟩ := EnvClientCore.step_ok hreq
  rcases handleStep_effect cfg now answer hagree.wellFormed request with ⟨err, he⟩ | ⟨ok, sent, after, -, he, heff⟩
  · simp only [handleEnvRequest, he] at hreply
    cases hreply
  · simp only [handleEnvRequest, he] at hreply
    cases hreply
    have hresponse := heff.response
    refine ⟨_, by rw [hresponse]; rfl, ?_⟩
    intro metadata hmem
    obtain ⟨-, hends, hview⟩ := mem_stepReports hagree.wellFormed hall hmem
    refine ⟨?_, hagree.ids _ _ hview⟩
    rw [hresponse]
    exact hends

/-! ## Sessions of one NEXT_STEP lane -/

/-- A one-lane NEXT_STEP endpoint. -/
def oneLane : ServerConfig where
  numEnvs := 1
  autoresetMode := .nextStep
  supportsLanes := false
  retainsEdition _ := true
  supportedEditions := []

/-- Values without content. -/
def unitCodec : Codec Unit where
  encode _ := .ok []
  decode _ numEnvs := .ok (List.replicate numEnvs ())

/-- An env that answers everything; its lane ends on a step when `ends`. -/
def answering (ends : Bool) : EnvAnswer Nat Int where
  late := false
  reset := .ok { observation := none, infos := none }
  step := .ok {
    observation := none, rewards := [0], terminatedMask := [if ends then 1 else 0], truncatedMask := [0]
    infos := none, completedEpisodes := [], envIndices := [] }
  render := .ok { frame := none }

def resetCall : Exchange Unit Nat Int :=
  { call := .reset { seeds := [], options := none, timeoutMs := 0, envIndices := [] }, now := 0
    answer := answering false }

def stepCall (ends : Bool) : Exchange Unit Nat Int :=
  { call := .step { actions := [()], timeoutMs := 0 }, now := 0, answer := answering ends }

/-- Reset, reset again and step: the step reports the first, interrupted
episode, and the client gives the running lane a third id the server does not know. -/
theorem client_loses_active_id :
    ¬ ∀ s, (sessions Minter.nat unitCodec oneLane : System (Session Nat Int) (Exchange Unit Nat Int)).Reach
        (fun _ _ => True) s →
      ∀ lane id, s.tracker.lane lane = .active id → s.client.episodeIds[lane]? = some id := by
  intro h
  obtain ⟨s, hr, hs⟩ := (sessions Minter.nat unitCodec oneLane).exists_reach_of_runFrom (fun _ _ => True)
    (fun s : Session Nat Int => decide (s.tracker.lane 0 = .active 2 ∧ s.client.episodeIds = [3]))
    [resetCall, resetCall, stepCall false] (by decide) (by decide)
  obtain ⟨hlane, hids⟩ := of_decide_eq_true hs
  have hheld := h s hr 0 2 hlane
  rw [hids] at hheld
  cases hheld

/-- Reset, a step that ends the episode, and the step that rolls the lane. -/
theorem client_holds_rolled_id : ∃ s : Session Nat Int, s.tracker.lane 0 = .active 2 ∧
    s.client.episodeIds[0]? = some 2 := by
  obtain ⟨s, hr, hs⟩ := (sessions Minter.nat unitCodec oneLane).exists_reach_of_runFrom
    (Quiet Minter.nat unitCodec oneLane)
    (fun s : Session Nat Int => decide (s.tracker.lane 0 = .active 2))
    [resetCall, stepCall true, stepCall false] (by decide) (by decide)
  have hlane := of_decide_eq_true hs
  exact ⟨s, hlane, (client_holds_active_ids Minter.nat unitCodec hr).1 0 2 hlane⟩

end Rlmesh.Env
