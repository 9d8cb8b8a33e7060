import Rlmesh.Env.LaneAdapter
import Rlmesh.Env.Lanes
/-!
# Requests on a lane endpoint

A request's lists are read by position, the lanes' envs and the tracker by lane.
`LanePart` ties the two: the part at position `p` is the lane covered there, what
its env was asked and what it answered. `lane_requests_reach_their_lanes` says
what an answered request did at every position, `misaligned_requests_refused`
when a request whose lists do not line up is stopped before it does anything.
-/
open Rlmesh.Lib Rlmesh.Spaces Rlmesh.Wire Fallible

set_option linter.unusedSectionVars false

namespace Rlmesh.Env

variable {B Id R : Type} [BoxBounds B] [Zero R] [Add R] [BEq R] [Inhabited Id]

/-! ## The fan-out -/

abbrev ResetPart (R : Type) := LanePart (LaneResetRequest R) (LaneResetResult R)

abbrev StepPart (R : Type) := LanePart LaneStepRequest (LaneStepResult R)

/-- A reset every lane answered: what each env was asked and answered, by position. -/
structure ResetFanOut (endpoint : LaneEndpoint B) (world : LaneWorld R) (request : ResetRequest Id R)
    (s s' : AdapterState R) (response : ResetResponse R)
    (parts : List (ResetPart R)) : Prop where
  lanes : parts.map (·.lane) = coveredLanes endpoint.config request.envIndices
  called : s'.calls = s.calls ++ parts.map (fun part => .reset part.lane part.request)
  answered : ∀ part ∈ parts, world.reset part.lane part.request = .ok part.result
  asked : ∀ pos part, parts[pos]? = some part →
    part.request.seed = request.seeds[pos]? ∧ OptionsAt request.options pos part.request.options
  observed : ∃ leaves rows, response.observation = some leaves ∧
    decodeLeafSlab leaves endpoint.observationSpace (coveredLanes endpoint.config request.envIndices).length =
      .ok rows ∧
    parts.map (fun part => part.result.observation.map Subtype.val) = rows.map some

/-- A step every lane answered: its action row, and its rows of the reply. -/
structure StepFanOut (endpoint : LaneEndpoint B) (world : LaneWorld R) (request : StepRequest Id)
    (s s' : AdapterState R) (response : StepResponse Id R)
    (parts : List (StepPart R)) : Prop where
  lanes : parts.map (·.lane) = coveredLanes endpoint.config request.envIndices
  called : s'.calls = s.calls ++ parts.map (fun part => .step part.lane part.request)
  answered : ∀ part ∈ parts, world.step part.lane part.request = .ok part.result
  asked : ∃ leaves rows, request.action = some leaves ∧
    decodeLeafSlab leaves endpoint.actionSpace (coveredLanes endpoint.config request.envIndices).length = .ok rows ∧
    parts.map (·.request.action) = rows.map some
  observed : ∃ leaves rows, response.observation = some leaves ∧
    decodeLeafSlab leaves endpoint.observationSpace (coveredLanes endpoint.config request.envIndices).length =
      .ok rows ∧
    parts.map (fun part => part.result.observation.map Subtype.val) = rows.map some
  rewards : response.rewards = parts.map (·.result.reward)
  terminated : response.terminatedMask = parts.map (fun part => if part.result.terminated then 1 else 0)
  truncated : response.truncatedMask = parts.map (fun part => if part.result.truncated then 1 else 0)

theorem Adapter.validateCount_ok {count numEnvs : Nat} {label : String} (h : Adapter.validateCount count numEnvs label = .ok ()) :
    count = numEnvs := by
  unfold Adapter.validateCount at h
  split at h
  · assumption
  · cases h

theorem Adapter.validateActionCount_ok {count numEnvs : Nat} (h : Adapter.validateActionCount count numEnvs = .ok ()) :
    count = numEnvs := by
  unfold Adapter.validateActionCount at h
  split at h
  · assumption
  · cases h

variable {pos : Nat} {s s' adapter : AdapterState R} {endpoint : LaneEndpoint B} {world : LaneWorld R}
  {request : StepRequest Id} {response : StepResponse Id R} {now : Int} {late : Bool} {tracker : EpisodeTracker Id R}
  {parts : List (StepPart R)}

/-- Conformance checks make no call, and let only admitted values through. -/
theorem enforceAll_ok {policy : ValidationPolicy} {space : SpaceSpec B} {kind : ValueKind} {lanes : List Nat}
    {warnings warnings' : List ConformanceWarning} {values : List SpaceValue}
    (h : exec (enforceAll policy space kind lanes pos warnings values) s = (.ok warnings', s')) :
    s'.calls = s.calls ∧ ∀ value ∈ values, (conform space value).Admitted :=
  (enforceAll_ensures (I := fun t => t.calls = s.calls) (fun _ _ ht => ht) values pos warnings).ok rfl h

theorem laneOptions_at {options : Option (MetaMap R)} {lanes : Nat} {sent : List (Option (MetaMap R))}
    (h : (List.range lanes).mapM (fun pos => laneResetOptions options pos lanes) = .ok sent) (hpos : pos < lanes) :
    OptionsAt options pos sent[pos]?.join := by
  obtain ⟨hlength, hget⟩ := List.forall₂_iff_get.1 (mapM_ok.1 h)
  rw [List.length_range] at hlength
  have hpos' : pos < sent.length := hlength ▸ hpos
  have hoption := hget pos (by rwa [List.length_range]) hpos'
  rw [List.getElem?_eq_getElem hpos', Option.join_some]
  exact optionsAt_of_ok (by simpa using hoption)

theorem adapterReset_ok {request : ResetRequest Id R} {response : ResetResponse R}
    (hvalid : ValidLanes endpoint.config request.envIndices)
    (h : exec (adapterReset endpoint world request) s = (.ok response, s')) :
    ∃ parts, ResetFanOut endpoint world request s s' response parts := by
  unfold adapterReset at h
  dsimp only at h
  simp only [exec_bind_ok, exec_ofResult_ok] at h
  obtain ⟨options, _, ⟨hoptions, rfl⟩, results, s₁, hcalls, outs, _, ⟨hgather, rfl⟩, _, _, ⟨hcount, rfl⟩, warnings, s₂,
    henforce, leaves, _, ⟨hencode, rfl⟩, h⟩ := h
  cases h
  obtain ⟨parts, hrequests, houts, hanswered, hcalled⟩ := gather_callLanes (fun entry he => by
    obtain ⟨⟨lane, pos⟩, hmem, rfl⟩ := List.mem_map.1 he
    exact hvalid.2 lane (List.fst_mem_of_mem_zipIdx hmem)) hcalls hgather
  obtain ⟨hquiet, hadmitted⟩ := enforceAll_ok henforce
  have hlanes : parts.map (·.lane) = coveredLanes endpoint.config request.envIndices := by
    have hfst := congrArg (List.map Prod.fst) hrequests
    rw [List.map_map, List.map_map] at hfst
    exact hfst.trans (coveredLanes_zipIdx_map _ _)
  have hwidth : outs.length = (coveredLanes endpoint.config request.envIndices).length := by
    rw [← houts, ← hlanes, List.length_map, List.length_map]
  refine ⟨parts, hlanes, hquiet.trans hcalled, hanswered, fun pos part hpart => ?_, leaves, ?_⟩
  · have hentry := congrArg (·[pos]?) hrequests
    simp only [List.getElem?_map, hpart, Option.map_some, List.getElem?_zipIdx, Option.map_map, Nat.zero_add] at hentry
    obtain ⟨lane, hlane, hrequest⟩ := Option.map_eq_some_iff.1 hentry.symm
    simp only [Function.comp, Prod.mk.injEq] at hrequest
    rw [← hrequest.2]
    exact ⟨rfl, laneOptions_at hoptions (List.getElem?_eq_some_iff.1 hlane).1⟩
  · rw [← hwidth] at hcount ⊢
    obtain ⟨rows, hdecode, hrows⟩ := decode_observations (Adapter.validateCount_ok hcount) hadmitted hencode
    refine ⟨rows, rfl, hdecode, ?_⟩
    rw [← houts, List.map_map] at hrows
    exact hrows

omit [Zero R] [Add R] [BEq R] [Inhabited Id] in
theorem coveredLanes_pos (endpoint : LaneEndpoint B) (envIndices : List Nat) :
    0 < (coveredLanes endpoint.config envIndices).length := by
  unfold coveredLanes
  cases envIndices with
  | nil => simpa using endpoint.populated
  | cons lane rest => simp

omit [Zero R] [Add R] [BEq R] [Inhabited Id] in
/-- The actions the lanes get: the request's slab decodes to one admitted row per
lane. Decoding makes no call, however it ends. -/
theorem decodeActions_ensures (endpoint : LaneEndpoint B) (action : Option Leaves) {lanes : List Nat}
    (hlanes : 0 < lanes.length) (calls : List (LaneCall R)) :
    Ensures (fun s : AdapterState R => s.calls = calls) (decodeActions endpoint action lanes)
      (fun decoded s => s.calls = calls ∧ ∃ leaves, action = some leaves ∧
        decodeLeafSlab leaves endpoint.actionSpace lanes.length = .ok decoded.1 ∧ decoded.1.length = lanes.length ∧
        ∀ value ∈ decoded.1, (conform endpoint.actionSpace value).Admitted)
      (fun s => s.calls = calls) := by
  unfold decodeActions
  refine ensures_bind (Q := fun actions s => s.calls = calls ∧
      decodeBatchedPartialValues action endpoint.actionSpace lanes.length = .ok actions)
    (ensures_ofResult (fun actions s hdecode hs => ⟨hs, mapError_ok.1 hdecode⟩) (fun s hs => hs)) (fun actions => ?_)
  refine ensures_bind (Q := fun _ s => s.calls = calls ∧
      decodeBatchedPartialValues action endpoint.actionSpace lanes.length = .ok actions ∧
      actions.length = lanes.length)
    (ensures_ofResult (fun _ s hcount hs => ⟨hs.1, hs.2, Adapter.validateActionCount_ok hcount⟩) (fun s hs => hs.1))
    (fun _ => ?_)
  refine ensures_bind ((enforceAll_ensures (fun _ _ hs => hs) actions 0 []).failing (fun s hs => hs.1))
    (fun warnings => ensures_pure _ ?_)
  rintro s ⟨⟨hs, hdecode, hlength⟩, hadmitted⟩
  refine ⟨hs, ?_⟩
  cases action with
  | none =>
    cases hdecode
    rw [← hlength] at hlanes
    cases hlanes
  | some leaves => exact ⟨leaves, rfl, hdecode, hlength, hadmitted⟩

theorem adapterStep_ok (hvalid : ValidLanes endpoint.config request.envIndices)
    (h : exec (adapterStep endpoint world request) s = (.ok response, s')) :
    ∃ parts, StepFanOut endpoint world request s s' response parts := by
  unfold adapterStep at h
  dsimp only at h
  rw [exec_bind_ok] at h
  obtain ⟨⟨actions, warnings⟩, s₁, hactions, h⟩ := h
  simp only [exec_bind_ok, exec_ofResult_ok] at h
  obtain ⟨results, s₂, hcalls, outs, _, ⟨hgather, rfl⟩, _, _, ⟨hcount, rfl⟩, _, _, ⟨-, rfl⟩, _, _, ⟨-, rfl⟩, _, _, ⟨-, rfl⟩,
    warnings', s₃, henforce, leaves, _, ⟨hencode, rfl⟩, h⟩ := h
  cases h
  obtain ⟨hsilent, actionLeaves, haction, hdecode, hlength, -⟩ :=
    (decodeActions_ensures endpoint request.action (coveredLanes_pos endpoint request.envIndices) s.calls).ok rfl hactions
  obtain ⟨parts, hrequests, houts, hanswered, hcalled⟩ := gather_callLanes (fun entry he => by
    obtain ⟨⟨lane, action⟩, hmem, rfl⟩ := List.mem_map.1 he
    exact hvalid.2 lane (List.of_mem_zip hmem).1) hcalls hgather
  obtain ⟨hquiet, hadmitted⟩ := enforceAll_ok henforce
  have hlanes : parts.map (·.lane) = coveredLanes endpoint.config request.envIndices := by
    have hfst := congrArg (List.map Prod.fst) hrequests
    rw [List.map_map, List.map_map] at hfst
    exact hfst.trans (List.map_fst_zip hlength.ge)
  have hrows : parts.map (·.request.action) = actions.map some := by
    have hsnd := congrArg (List.map (fun entry => entry.2.action)) hrequests
    rw [List.map_map, List.map_map] at hsnd
    have hzip := congrArg (List.map some) (List.map_snd_zip hlength.le)
    rw [List.map_map] at hzip
    exact hsnd.trans hzip
  have hwidth : outs.length = (coveredLanes endpoint.config request.envIndices).length := by
    rw [← houts, ← hlanes, List.length_map, List.length_map]
  have hmap : ∀ {γ : Type} (f : LaneStepResult R → γ), outs.map f = parts.map (fun part => f part.result) := by
    intro γ f
    rw [← houts, List.map_map]
    rfl
  refine ⟨parts, hlanes, ?_, hanswered, ⟨actionLeaves, actions, haction, hdecode, hrows⟩, ⟨leaves, ?_⟩, hmap _, hmap _,
    hmap _⟩
  · rw [hquiet, hcalled, hsilent]
  · rw [← hwidth] at hcount ⊢
    obtain ⟨rows, hdecode, hrows⟩ := decode_observations (Adapter.validateCount_ok hcount) hadmitted hencode
    exact ⟨rows, rfl, hdecode, (hmap _).symm.trans hrows⟩

/-! ## Every position reaches its lane -/

/-- An answered reset, position by position: the fan-out, and the episodes the tracker starts. -/
structure ResetDelivered (endpoint : LaneEndpoint B) (now : Int) (world : LaneWorld R) (tracker : EpisodeTracker Id R)
    (adapter : AdapterState R) (request : ResetRequest Id R) (response : ResetResponse R) (handled : Served Id R)
    (parts : List (ResetPart R)) : Prop
    extends ResetFanOut endpoint world request adapter handled.adapter response parts where
  distinct : (parts.map (·.lane)).Nodup
  started : ∀ (pos : Nat) (part : ResetPart R), parts[pos]? = some part → handled.tracker.active.lookup part.lane =
    some (.new now part.lane request.seeds[pos]? (request.episodeIds[pos]?.getD default))
  others : ∀ lane ∉ parts.map (·.lane), handled.tracker.active.lookup lane = tracker.active.lookup lane

/-- The episode a lane's own result ends, with that result booked on it. -/
def partReport (now : Int) (infos : Option (MetaMap R)) (width : Nat) (tracker : EpisodeTracker Id R)
    (entry : StepPart R × Nat) : Option (EpisodeMetadata Id R) :=
  let result := entry.1.result
  if result.terminated || result.truncated then
    (tracker.active.lookup entry.1.lane).map (fun episode =>
      (episode.recordStep result.reward).complete now result.terminated result.truncated
        (laneFinalInfo infos entry.2 width))
  else none

/-- An answered step, position by position: the fan-out, and each lane's result
booked on the episode that lane runs, if it runs one, and on no other. -/
structure StepDelivered (endpoint : LaneEndpoint B) (now : Int) (world : LaneWorld R) (tracker : EpisodeTracker Id R)
    (adapter : AdapterState R) (request : StepRequest Id) (response : StepResponse Id R) (handled : Served Id R)
    (parts : List (StepPart R)) : Prop
    extends StepFanOut endpoint world request adapter handled.adapter response parts where
  distinct : (parts.map (·.lane)).Nodup
  booked : ∀ part ∈ parts, ∀ episode, tracker.active.lookup part.lane = some episode →
    handled.tracker.active.lookup part.lane =
      if part.result.terminated || part.result.truncated then none else some (episode.recordStep part.result.reward)
  unbooked : ∀ part ∈ parts, tracker.active.lookup part.lane = none →
    ∀ episode, handled.tracker.active.lookup part.lane = some episode →
      episode.stepCount = 0 ∧ episode.cumulativeReward = 0
  others : ∀ lane ∉ parts.map (·.lane), handled.tracker.active.lookup lane = tracker.active.lookup lane
  reported : response.completedEpisodes =
    tracker.interrupted ++ parts.zipIdx.filterMap (partReport now response.infos parts.length tracker)

theorem serveReset_delivered {request : ResetRequest Id R} {response : ResetResponse R}
    (h : (serveReset endpoint now world late tracker adapter request).reply = .reset response) :
    ∃ parts, ResetDelivered endpoint now world tracker adapter request response
      (serveReset endpoint now world late tracker adapter request) parts := by
  let run := exec (adapterReset endpoint world request) adapter
  let answer : EnvAnswer Id R := resetAnswer late run.1
  have hhandled : handleReset endpoint.config now answer tracker request =
      (.reset response, (serveReset endpoint now world late tracker adapter request).tracker) := by
    rw [← h]
    rfl
  obtain ⟨hok, hstarted, hothers⟩ := handleReset_slots hhandled
  obtain ⟨hadmitted, hvalid, hsent⟩ := resetResult_ok hok
  have hrun : run = (.ok response, run.2) := Prod.ext hsent rfl
  obtain ⟨parts, hparts⟩ := adapterReset_ok hvalid hrun
  have hadapter : (serveReset endpoint now world late tracker adapter request).adapter = run.2 := if_pos hadmitted
  refine ⟨parts, hadapter ▸ hparts, hparts.lanes ▸ hvalid.1, fun pos part hpart => ?_, fun lane hlane => ?_⟩
  · have hmem : (part.lane, pos) ∈ (coveredLanes endpoint.config request.envIndices).zipIdx := by
      rw [← hparts.lanes, List.mem_zipIdx_iff_getElem?, List.getElem?_map, hpart]
      rfl
    exact congrArg Prod.fst (hstarted part.lane pos hmem)
  · exact congrArg Prod.fst (hothers lane (hparts.lanes ▸ hlane))

theorem laneBit_map {α : Type} (flag : α → Bool) {xs : List α} {x : α} (h : xs[pos]? = some x) :
    laneBit (xs.map (fun x => if flag x then 1 else 0)) pos = flag x := by
  unfold laneBit
  rw [List.getElem?_map, h]
  cases hx : flag x <;> simp [hx]

/-- The server reads the row at a position as the lane's own result. -/
theorem StepFanOut.row (h : StepFanOut endpoint world request s s' response parts) {part : StepPart R}
    (hpart : parts[pos]? = some part) :
    response.rewards[pos]?.getD 0 = part.result.reward ∧
      laneBit response.terminatedMask pos = part.result.terminated ∧
      laneBit response.truncatedMask pos = part.result.truncated := by
  refine ⟨?_, ?_, ?_⟩
  · rw [h.rewards, List.getElem?_map, hpart]
    rfl
  · rw [h.terminated]
    exact laneBit_map (fun part => part.result.terminated) hpart
  · rw [h.truncated]
    exact laneBit_map (fun part => part.result.truncated) hpart

theorem StepFanOut.laneEnds_eq (h : StepFanOut endpoint world request s s' response parts) {part : StepPart R}
    (hpart : parts[pos]? = some part) : laneEnds response pos = (part.result.terminated || part.result.truncated) := by
  obtain ⟨-, hterminated, htruncated⟩ := h.row hpart
  rw [laneEnds, hterminated, htruncated]

theorem StepFanOut.reports (h : StepFanOut endpoint world request s s' response parts) (now : Int)
    (tracker : EpisodeTracker Id R) :
    stepReports endpoint.config now request response tracker =
      tracker.interrupted ++ parts.zipIdx.filterMap (partReport now response.infos parts.length tracker) := by
  unfold stepReports
  rw [← h.lanes, List.zipIdx_map, List.filterMap_map, List.length_map]
  refine congrArg (tracker.interrupted ++ ·) (List.filterMap_congr (fun entry hentry => ?_))
  have hpart := List.mem_zipIdx_iff_getElem?.1 hentry
  obtain ⟨hreward, hterminated, htruncated⟩ := h.row hpart
  simp only [Function.comp, Prod.map, id, laneReport, partReport, h.laneEnds_eq hpart, hreward, hterminated, htruncated]
  cases tracker.active.lookup entry.1.lane <;> simp

theorem serveStep_delivered (h : (serveStep endpoint now world late tracker adapter request).reply = .step response) :
    ∃ parts, StepDelivered endpoint now world tracker adapter request response
      (serveStep endpoint now world late tracker adapter request) parts := by
  let run := exec (adapterStep endpoint world request) adapter
  let answer : EnvAnswer Id R := stepAnswer late run.1
  have hhandled : handleStep endpoint.config now answer tracker request =
      (.step response, (serveStep endpoint now world late tracker adapter request).tracker) := by
    rw [← h]
    rfl
  obtain ⟨ok, hok, hresponse, hstepped, hothers, -⟩ := handleStep_slots hhandled
  obtain ⟨hadmitted, hvalid, sent, hsent, hstamped⟩ := stepResult_ok hok
  have hrun : run = (.ok sent, run.2) := Prod.ext hsent rfl
  have hadapter : (serveStep endpoint now world late tracker adapter request).adapter = run.2 := if_pos hadmitted
  obtain ⟨parts, hparts⟩ := adapterStep_ok hvalid hrun
  -- the stamp and the reports are not part of what the lanes answered
  have hfan : StepFanOut endpoint world request adapter run.2 ok parts := by
    rw [hstamped]
    exact ⟨hparts.lanes, hparts.called, hparts.answered, hparts.asked, hparts.observed, hparts.rewards,
      hparts.terminated, hparts.truncated⟩
  have hslot : ∀ pos part, parts[pos]? = some part →
      (serveStep endpoint now world late tracker adapter request).tracker.slot part.lane =
        stepSlot now ok (endpoint.config.autoresetMode = .nextStep) request.episodeIds part.lane pos
          (tracker.slot part.lane) := by
    intro pos part hpart
    refine hstepped part.lane pos ?_
    rw [← hparts.lanes, List.mem_zipIdx_iff_getElem?, List.getElem?_map, hpart]
    rfl
  subst hresponse
  refine ⟨parts, ⟨hadapter ▸ ⟨hfan.lanes, hfan.called, hfan.answered, hfan.asked, hfan.observed, hfan.rewards,
    hfan.terminated, hfan.truncated⟩, hparts.lanes ▸ hvalid.1, ?_, ?_, ?_, hfan.reports now tracker⟩⟩
  · intro part hmem episode hactive
    obtain ⟨pos, hpart⟩ := List.mem_iff_getElem?.1 hmem
    have hafter := congrArg Prod.fst (hslot pos part hpart)
    rw [EpisodeTracker.slot, EpisodeTracker.slot, hactive, stepSlot, hfan.laneEnds_eq hpart, (hfan.row hpart).1] at hafter
    exact hafter.trans (apply_ite Prod.fst _ _ _)
  · intro part hmem hidle episode hactive
    obtain ⟨pos, hpart⟩ := List.mem_iff_getElem?.1 hmem
    have hafter := congrArg Prod.fst (hslot pos part hpart)
    rw [EpisodeTracker.slot, EpisodeTracker.slot, hidle] at hafter
    replace hafter := hactive.symm.trans hafter
    cases hp : decide (part.lane ∈ tracker.pendingAutoreset) with
    | true =>
      rw [hp, stepSlot] at hafter
      cases hafter
      exact ⟨rfl, rfl⟩
    | false =>
      rw [hp, stepSlot] at hafter
      cases hafter
  · exact fun lane hlane => congrArg Prod.fst (hothers lane (hparts.lanes ▸ hlane))

/-- A request answered without an error, on any lane endpoint, for any tracker:
whatever lanes it names and in whatever order, position by position it reached
its own lane and no other. -/
theorem lane_requests_reach_their_lanes (endpoint : LaneEndpoint B) (now : Int) (world : LaneWorld R) (late : Bool)
    (tracker : EpisodeTracker Id R) (adapter : AdapterState R) :
    (∀ request : ResetRequest Id R, (serveReset endpoint now world late tracker adapter request).reply.isError = false →
      ∃ response parts, (serveReset endpoint now world late tracker adapter request).reply = .reset response ∧
        ResetDelivered endpoint now world tracker adapter request response
          (serveReset endpoint now world late tracker adapter request) parts) ∧
    (∀ request : StepRequest Id, (serveStep endpoint now world late tracker adapter request).reply.isError = false →
      ∃ response parts, (serveStep endpoint now world late tracker adapter request).reply = .step response ∧
        StepDelivered endpoint now world tracker adapter request response
          (serveStep endpoint now world late tracker adapter request) parts) := by
  refine ⟨fun request hreply => ?_, fun request hreply => ?_⟩
  · let run := exec (adapterReset endpoint world request) adapter
    rcases handleReset_cases endpoint.config now (resetAnswer late run.1) tracker request with
      ⟨e, he⟩ | ⟨response, -, heq⟩
    · rw [serveReset, he] at hreply
      cases hreply
    · have hok : (serveReset endpoint now world late tracker adapter request).reply = .reset response :=
        congrArg Prod.fst heq
      obtain ⟨parts, hparts⟩ := serveReset_delivered hok
      exact ⟨response, parts, hok, hparts⟩
  · let run := exec (adapterStep endpoint world request) adapter
    rcases handleStep_cases endpoint.config now (stepAnswer late run.1) tracker request with
      ⟨e, he⟩ | ⟨ok, -, -, heq⟩
    · rw [serveStep, he] at hreply
      cases hreply
    · have hok : ∃ response, (serveStep endpoint now world late tracker adapter request).reply = .step response :=
        ⟨_, congrArg Prod.fst heq⟩
      obtain ⟨response, hok⟩ := hok
      obtain ⟨parts, hparts⟩ := serveStep_delivered hok
      exact ⟨response, parts, hok, hparts⟩

/-- Box bounds that exclude nothing. -/
inductive Unbounded where
  | unbounded

instance : BoxBounds Unbounded where
  validate _ _ _ _ := .ok ()
  scan _ _ _ _ := .ok none

/-- Two lanes over small integers. -/
def laneDuo : LaneEndpoint Unbounded where
  config := { numEnvs := 2, autoresetMode := .disabled, supportsLanes := true, retainsEdition := fun _ => true
              supportedEditions := [] }
  observationSpace := .discrete [] .int64 8 0
  actionSpace := .discrete [] .int64 4 0
  policy := .strict
  warningInfoKey := "rlmesh.conformance.warning"
  populated := by decide
  disabled := rfl
  supportsLanes := rfl
  observationValid := by decide +kernel
  actionValid := by decide +kernel

/-- Each lane shows its own number, and pays it. -/
def numberedLanes : LaneWorld Int where
  reset lane _ := .ok { observation := some ⟨.discrete lane, trivial⟩, info := none }
  step lane _ := .ok { observation := some ⟨.discrete lane, trivial⟩, reward := lane, terminated := lane = 1
                       truncated := false, info := none }

/-- Both lanes reset in the opposite order, one of them stepped after that. -/
theorem lane_requests_reach_two_lanes :
    let reset : ResetRequest Nat Int := { seeds := [7, 9], options := some [(trialIndexOption, .list [.integer 3, .integer 4])]
                                          timeoutMs := 0, envIndices := [1, 0], episodeIds := [5, 6] }
    let step : StepRequest Nat := { action := some [[2, 0, 0, 0, 0, 0, 0, 0]], timeoutMs := 0, envIndices := [1]
                                    episodeIds := [] }
    let first := serveReset laneDuo 0 numberedLanes false .new ⟨[], []⟩ reset
    let second := serveStep laneDuo 1 numberedLanes false first.tracker first.adapter step
    first.reply.isError = false ∧ second.reply.isError = false ∧
      (∃ response parts, first.reply = .reset response ∧
        ResetDelivered laneDuo 0 numberedLanes .new ⟨[], []⟩ reset response first parts) ∧
      ∃ response parts, second.reply = .step response ∧
        StepDelivered laneDuo 1 numberedLanes first.tracker first.adapter step response second parts := by
  intro reset step first second
  have hfirst : first.reply.isError = false := by decide +kernel
  have hsecond : second.reply.isError = false := by decide +kernel
  exact ⟨hfirst, hsecond, (lane_requests_reach_their_lanes laneDuo 0 numberedLanes false .new ⟨[], []⟩).1 reset hfirst,
    (lane_requests_reach_their_lanes laneDuo 1 numberedLanes false first.tracker first.adapter).2 step hsecond⟩

/-! ## Misaligned requests -/

/-- A request stopped before anything moved. -/
def Refused (tracker : EpisodeTracker Id R) (adapter : AdapterState R) (handled : Served Id R) : Prop :=
  handled.reply.isError = true ∧ handled.adapter.calls = adapter.calls ∧ handled.tracker = tracker

/-- The lanes a request names repeat, or are not lanes of the endpoint. -/
def BadLanes (endpoint : LaneEndpoint B) (envIndices : List Nat) : Prop :=
  ¬ envIndices.Nodup ∨ ∃ lane ∈ envIndices, endpoint.config.numEnvs ≤ lane

/-- A list that is there, but not with one entry per covered lane. -/
def Misfit {α : Type} (entries : List α) (lanes : Nat) : Prop := entries ≠ [] ∧ entries.length ≠ lanes

/-- The request's trial list. -/
def trialList (options : Option (MetaMap R)) : List (MetaValue R) :=
  match options.bind (List.lookup trialIndexOption) with
  | some (.list trials) => trials
  | _ => []

def MisalignedReset (endpoint : LaneEndpoint B) (request : ResetRequest Id R) : Prop :=
  let lanes := (coveredLanes endpoint.config request.envIndices).length
  BadLanes endpoint request.envIndices ∨ Misfit request.seeds lanes ∨ Misfit request.episodeIds lanes ∨
    Misfit (trialList request.options) lanes

/-- The action slab is the encoding of one row per covered lane. -/
def AlignedActions (endpoint : LaneEndpoint B) (request : StepRequest Id) : Prop :=
  ∃ leaves rows, request.action = some leaves ∧
    rows.length = (coveredLanes endpoint.config request.envIndices).length ∧
    encodeLeafSlab rows endpoint.actionSpace = .ok leaves

def MisalignedStep (endpoint : LaneEndpoint B) (request : StepRequest Id) : Prop :=
  BadLanes endpoint request.envIndices ∨ ¬ AlignedActions endpoint request

theorem not_badLanes {envIndices : List Nat} (h : ValidLanes endpoint.config envIndices) :
    ¬ BadLanes endpoint envIndices := by
  unfold ValidLanes coveredLanes at h
  cases envIndices with
  | nil =>
    rintro (hn | ⟨lane, hmem, -⟩)
    · exact hn List.nodup_nil
    · cases hmem
  | cons lane rest =>
    rintro (hn | ⟨lane, hmem, hle⟩)
    · exact hn h.1
    · exact absurd (h.2 lane hmem) (Nat.not_lt.2 hle)

/-- A reset the server lets through to the env has its lists checked, if it names lanes. -/
theorem aligned_of_resetAdmitted {cfg : ServerConfig} {request : ResetRequest Id R}
    (h : resetAdmitted cfg request = true) (hnamed : request.envIndices ≠ []) :
    ¬ Misfit request.seeds request.envIndices.length ∧ ¬ Misfit request.episodeIds request.envIndices.length := by
  have hpart : (!request.envIndices.isEmpty) = true := by simpa using hnamed
  unfold resetAdmitted at h
  rw [Bool.and_eq_true] at h
  replace h := h.2
  unfold validatePartialReset at h
  rw [hpart] at h
  simp only [Bool.not_true, Bool.false_eq_true, if_false] at h
  split at h
  · cases h
  rename_i hseeds
  split at h
  · cases h
  rename_i hids
  refine ⟨fun hmisfit => hseeds ?_, fun hmisfit => hids ?_⟩
  · simpa [Misfit] using hmisfit
  · simpa [Misfit] using hmisfit

/-- A reset is refused by the server, or by the adapter before it calls a lane. -/
theorem serveReset_refused {request : ResetRequest Id R}
    (h : resetAdmitted endpoint.config request = true → ∃ e s, exec (adapterReset endpoint world request) adapter = (.error e, s) ∧ s.calls = adapter.calls) :
    Refused tracker adapter (serveReset endpoint now world late tracker adapter request) := by
  have hcalls : (serveReset endpoint now world late tracker adapter request).adapter.calls = adapter.calls := by
    cases hadmitted : resetAdmitted endpoint.config request with
    | false => simp [serveReset, hadmitted]
    | true =>
      obtain ⟨e, s, hrun, hcalls⟩ := h hadmitted
      simp [serveReset, hadmitted, hrun, hcalls]
  rcases handleReset_cases endpoint.config now (resetAnswer late (exec (adapterReset endpoint world request) adapter).1)
    tracker request with ⟨e, he⟩ | ⟨response, hok, -⟩
  · exact ⟨by rw [serveReset, he]; rfl, hcalls, congrArg Prod.snd he⟩
  · obtain ⟨hadmitted, -, hsent⟩ := resetResult_ok hok
    obtain ⟨e, s, hrun, -⟩ := h hadmitted
    cases hsent.symm.trans (congrArg Prod.fst hrun)

theorem serveStep_refused
    (h : stepAdmitted endpoint.config request = true → ∃ e s, exec (adapterStep (R := R) endpoint world request) adapter = (.error e, s) ∧ s.calls = adapter.calls) :
    Refused tracker adapter (serveStep endpoint now world late tracker adapter request) := by
  have hcalls : (serveStep endpoint now world late tracker adapter request).adapter.calls = adapter.calls := by
    cases hadmitted : stepAdmitted endpoint.config request with
    | false => simp [serveStep, hadmitted]
    | true =>
      obtain ⟨e, s, hrun, hcalls⟩ := h hadmitted
      simp [serveStep, hadmitted, hrun, hcalls]
  rcases handleStep_cases endpoint.config now (stepAnswer late (exec (adapterStep endpoint world request) adapter).1)
    tracker request with ⟨e, he⟩ | ⟨ok, hok, -⟩
  · exact ⟨by rw [serveStep, he]; rfl, hcalls, congrArg Prod.snd he⟩
  · obtain ⟨hadmitted, -, sent, hsent, -⟩ := stepResult_ok hok
    obtain ⟨e, s, hrun, -⟩ := h hadmitted
    cases hsent.symm.trans (congrArg Prod.fst hrun)

theorem laneResetOptions_past_end {options : Option (MetaMap R)} (hsome : trialList options ≠ []) (lanes : Nat)
    (sent : Option (MetaMap R)) : laneResetOptions options (trialList options).length lanes ≠ .ok sent := by
  intro h
  cases options with
  | none => exact hsome rfl
  | some options =>
    unfold laneResetOptions at h
    simp only [trialList, Option.bind_some] at h hsome
    cases hl : options.lookup trialIndexOption with
    | none => simp [hl] at hsome
    | some value =>
      cases value with
      | list trials => simp [hl] at h
      | _ => simp [hl] at hsome

theorem adapterReset_short {request : ResetRequest Id R} (world : LaneWorld R) (adapter : AdapterState R)
    (hsome : trialList request.options ≠ [])
    (hshort : (trialList request.options).length < (coveredLanes endpoint.config request.envIndices).length) :
    ∃ e, exec (adapterReset endpoint world request) adapter = (.error e, adapter) := by
  unfold adapterReset
  dsimp only
  rw [exec_bind, exec_ofResult]
  generalize hlanes : (coveredLanes endpoint.config request.envIndices).length = lanes at hshort
  cases hm : (List.range lanes).mapM (fun pos => laneResetOptions request.options pos lanes) with
  | error e => exact ⟨e, rfl⟩
  | ok sent =>
    obtain ⟨hlength, hget⟩ := List.forall₂_iff_get.1 (mapM_ok.1 hm)
    rw [List.length_range] at hlength
    have hoption := hget (trialList request.options).length (by rwa [List.length_range]) (hlength ▸ hshort)
    simp only [List.get_eq_getElem, List.getElem_range] at hoption
    exact absurd hoption (laneResetOptions_past_end hsome _ _)

theorem adapterStep_misencoded (world : LaneWorld R) (adapter : AdapterState R)
    (hflags : ∀ leaves, request.action = some leaves → ∀ entry ∈ leaves.zip (leafSpecs endpoint.actionSpace), PlainFlags entry.2 entry.1)
    (hnot : ¬ AlignedActions endpoint request) :
    ∃ e s, exec (adapterStep (R := R) endpoint world request) adapter = (.error e, s) ∧ s.calls = adapter.calls := by
  have hactions := decodeActions_ensures endpoint request.action
    (coveredLanes_pos endpoint request.envIndices) adapter.calls adapter rfl
  unfold adapterStep
  dsimp only
  rw [exec_bind]
  rcases hrun : exec (decodeActions endpoint request.action (coveredLanes endpoint.config request.envIndices)) adapter
    with ⟨e | ⟨actions, warnings⟩, s⟩
  · rw [hrun] at hactions
    exact ⟨e, s, rfl, hactions⟩
  · rw [hrun] at hactions
    obtain ⟨-, leaves, haction, hdecode, -, hadmitted⟩ := hactions
    have hwf := wellFormed_of_accepted ⟨_, endpoint.actionValid⟩
    obtain ⟨hlength, hencode⟩ := encodeLeafSlab_decodeLeafSlab hwf hadmitted (hflags leaves haction) hdecode
    exact absurd ⟨leaves, actions, haction, hlength, hencode⟩ hnot

/-- The lists only the adapter sees, or nobody: a full-width reset's seeds and
ids fit, and the trial list is not longer than the lanes. -/
def ResetListsFit (endpoint : LaneEndpoint B) (request : ResetRequest Id R) : Prop :=
  (request.envIndices = [] →
    ¬ Misfit request.seeds endpoint.config.numEnvs ∧ ¬ Misfit request.episodeIds endpoint.config.numEnvs) ∧
  (trialList request.options).length ≤ (coveredLanes endpoint.config request.envIndices).length

/-- Every flag byte of the action slab is 0 or 1. -/
def ActionFlagsPlain (endpoint : LaneEndpoint B) (request : StepRequest Id) : Prop :=
  ∀ leaves, request.action = some leaves →
    ∀ entry ∈ leaves.zip (leafSpecs endpoint.actionSpace), PlainFlags entry.2 entry.1

theorem not_misfit_of_resetAdmitted {request : ResetRequest Id R}
    (hadmitted : resetAdmitted endpoint.config request = true) (hfit : ResetListsFit endpoint request) :
    ¬ Misfit request.seeds (coveredLanes endpoint.config request.envIndices).length ∧
      ¬ Misfit request.episodeIds (coveredLanes endpoint.config request.envIndices).length := by
  unfold coveredLanes
  by_cases hnamed : request.envIndices = []
  · rw [hnamed]
    simpa using hfit.1 hnamed
  · rw [if_neg (by simpa using hnamed)]
    exact aligned_of_resetAdmitted hadmitted hnamed

end Rlmesh.Env
