import Rlmesh.Adapters.Stateful
/-!
# The served adapter engine (`rlmesh/src/model/engine.rs`)

An endpoint serves the routes of several envs with one model. Each route with an
adapter keeps its own buffers and publishes what its windows will hold into an
endpoint-wide total, which a predict that opens windows for new episodes is
admitted against. Every predict assembles its lanes' inputs, calls one of the
model's corners and turns the chunks that come back into env actions.

The model's functions are deterministic. Requests are served one at a time; only
the groups of one grouped predict may be assembled side by side, in the order a
schedule gives. Timings and the held bytes that are only reported are left out.
-/
open Rlmesh.Lib Rlmesh.Adapters

namespace Rlmesh.Engine

/-- The largest `u64`. -/
def u64Max : Nat := 2 ^ 64 - 1

def saturatingAdd (a b : Nat) : Nat := min (a + b) u64Max

def saturatingMul (a b : Nat) : Nat := min (a * b) u64Max

def wrappingAdd (a b : Nat) : Nat := (a + b) % 2 ^ 64

def wrappingSub (a b : Nat) : Nat := (a + 2 ^ 64 - b) % 2 ^ 64

/-! ## Requests -/

structure EpisodeInfo where
  episodeId : String
  seed : Option Int
  envId : String
  deriving DecidableEq

/-- A replayed env step: what its observation decodes to, and its rows' episodes. -/
structure HistoryFrame (V : Values) where
  lanes : Except EngineError (List V.Lane)
  episodes : List EpisodeInfo
  step : Int

/-- A predict request, by what its observation decodes to. -/
structure ModelObservation (V : Values) where
  envId : String
  episodes : List EpisodeInfo
  numEnvs : Nat
  /-- `ensure_decodable`. -/
  decodable : Except EngineError Unit
  /-- `decoded_lanes`, which decodes `num_envs` rows. -/
  lanes : Except EngineError (List V.Lane)
  laneCount : ∀ decoded, lanes = .ok decoded → decoded.length = numEnvs
  history : List (HistoryFrame V)
  step : Option Int

/-- An action per lane, and the actions of the steps after this one. -/
structure PredictFrames (V : Values) where
  actions : List V.Action
  replay : List (List V.Action)

/-- The model's functions, and the process's warning handler. -/
structure PredictFn (V : Values) where
  predict : V.Value → Option EpisodeInfo → Except EngineError V.Value
  predictChunk : V.Value → Nat → Option EpisodeInfo → Except EngineError (Option V.Value)
  hasChunk : Bool
  predictBatch : List V.Value → List EpisodeInfo → Except EngineError (List V.Value)
  hasBatch : Bool
  predictChunkBatch : List V.Value → Nat → List EpisodeInfo → Except EngineError (List V.Value)
  hasChunkBatch : Bool
  predictSpecLessChunked : ModelObservation V → Nat → Except EngineError (PredictFrames V)
  allowFusion : Bool
  nativeChunk : Option Nat
  /-- `warnings::warn` with the process's handler. -/
  warn : String → Except EngineError Unit

/-! ## Routes -/

structure RouteConfig (V : Values) where
  adapter : ResolvedAdapter V
  /-- `space_value_to_obs_map` at the observation space and the keys the plans read. -/
  obsMap : V.Lane → Except ApplyError V.Obs
  executionHorizon : Nat
  deliversHistory : Bool

/-- A configured route; `published` is its share of the endpoint's total. -/
structure RouteEntry (V : Values) where
  config : RouteConfig V
  buffers : FrameBuffers V
  published : Nat
  laneBytes : Nat
  historyLimit : Nat

variable {V : Values}

/-- `publish_held`: the route's share, and the total with it. -/
def publishHeld (entry : RouteEntry V) (projected : Nat) : RouteEntry V × Nat :=
  let now := saturatingMul entry.buffers.episodes entry.laneBytes
  ({ entry with published := now }, wrappingAdd projected (wrappingSub now entry.published))

/-- Bytes one lane's windows hold once full. -/
def laneWindowBytes (adapter : ResolvedAdapter V) : Nat :=
  (adapter.stacked.map (fun window => saturatingMul window.span window.frameBytes)).sum % 2 ^ 64

def frameHistoryLimitEnv : String := "RLMESH_FRAME_HISTORY_LIMIT_BYTES"

def checkHistoryBudget (numEnvs perLane limit : Nat) : Except EngineError Unit :=
  let projected := saturatingMul perLane numEnvs
  if limit < projected then
    .error (.model s!"frame windows would hold {projected} bytes across {numEnvs} lane(s) ({perLane} per lane), above the {limit}-byte budget: shrink stack/size, or raise {frameHistoryLimitEnv}")
  else .ok ()

/-- The rows of a request that name an episode the route does not hold. -/
def freshLanes (entry : RouteEntry V) (episodes : List EpisodeInfo) : Nat :=
  (episodes.filter (fun episode => episode.episodeId ≠ "" && !entry.buffers.holds episode.episodeId)).length

/-- Refuse a predict whose fresh lanes would take the endpoint's windows over the budget. -/
def admitFreshLanes (entry : RouteEntry V) (endpoint : Nat) (episodes : List EpisodeInfo) : Except EngineError Unit :=
  if entry.laneBytes = 0 then .ok ()
  else
    let fresh := freshLanes entry episodes
    if fresh = 0 then .ok ()
    else
      let others := endpoint - entry.published
      let route := saturatingMul (saturatingAdd entry.buffers.episodes fresh) entry.laneBytes
      let projected := saturatingAdd others route
      if entry.historyLimit < projected then
        .error (.model s!"frame windows would hold {projected} bytes across this endpoint's live lanes ({fresh} new on this route at {entry.laneBytes} per lane, {others} projected by other routes), above the {entry.historyLimit}-byte budget: run fewer lanes or routes per model endpoint, shrink stack/size, or raise {frameHistoryLimitEnv}")
      else .ok ()

/-! ## Assembly -/

/-- One row of a history frame. -/
def ingestRow (config : RouteConfig V) (step : Int) (row : V.Lane × EpisodeInfo) :
    Fallible (FrameBuffers V) EngineError Unit :=
  let id := row.2.episodeId
  if id = "" then throw (.model s!"history row at step {step} has a lane with no episode_id")
  else do
    (onEpisode id (·.advanceStep id step)).mapError fromApply
    let raw ← .ofResult ((config.obsMap row.1).mapError fromApply)
    (observeObs config.adapter raw id).mapError fromApply

def ingestFrame (config : RouteConfig V) (frame : HistoryFrame V) : Fallible (FrameBuffers V) EngineError Unit := do
  let lanes ← .ofResult frame.lanes
  if lanes.length ≠ frame.episodes.length then
    throw (.model s!"history row at step {frame.step} decoded to {lanes.length} lanes for {frame.episodes.length} episode rows")
  else do
    let _ ← (lanes.zip frame.episodes).mapM (ingestRow config frame.step)

/-- Advance the windows through the replayed steps, oldest first. -/
def ingestHistory (config : RouteConfig V) (observation : ModelObservation V) :
    Fallible (FrameBuffers V) EngineError Unit := do
  let _ ← observation.history.mapM (ingestFrame config)

/-- The step a request is stamped with, once its history is ingested; only a
route that negotiated history has one. -/
def stampedStep (config : RouteConfig V) (observation : ModelObservation V) :
    Fallible (FrameBuffers V) EngineError (Option Int) :=
  if config.deliversHistory then do
    ingestHistory config observation
    match observation.step with
    | some step => pure (some step)
    | none => throw (.model "predict request carries no step but this route negotiated observation history; stamp every request and history row with the producer's env-step counter")
  else if observation.history.isEmpty then pure none
  else throw (.model "predict request carries observation history rows but this route did not negotiate history (ResolveAdapterResponse.history was unset): send rows only to a route that asked for them")

def laneEpisode (observation : ModelObservation V) (index : Nat) : Except EngineError String :=
  match (observation.episodes[index]?.map (·.episodeId)).filter (· ≠ "") with
  | some id => .ok id
  | none => .error (.model s!"predict request lane {index} has no episode_id (num_envs={observation.numEnvs}, episodes={observation.episodes.length}); every lane must carry a non-empty episode_id")

/-- The step a lane is assembled at; an unstamped route that reads its previous
action counts the episode's predicts itself. -/
def laneStep (stamped : Option Int) (id : String) : Fallible (FrameBuffers V) EngineError Int := do
  let buffers ← get
  return stamped.getD (buffers.nextStep id)

def countStep (config : RouteConfig V) (stamped : Option Int) (id : String) (step : Int) :
    Fallible (FrameBuffers V) EngineError Unit :=
  if stamped.isSome || config.adapter.readsPreviousAction then
    (onEpisode id (·.advanceStep id step)).mapError fromApply
  else pure ()

def assembleLane (config : RouteConfig V) (observation : ModelObservation V) (stamped : Option Int)
    (lane : V.Lane × Nat) : Fallible (FrameBuffers V) EngineError V.Value := do
  let id ← .ofResult (laneEpisode observation lane.2)
  let step ← laneStep stamped id
  countStep config stamped id step
  let raw ← .ofResult ((config.obsMap lane.1).mapError fromApply)
  (assembleObs config.adapter raw id step).mapError fromApply

/-- `assemble_route_inputs_inner`. -/
def assembleInputs (config : RouteConfig V) (observation : ModelObservation V) :
    Fallible (FrameBuffers V) EngineError (List V.Value) := do
  .ofResult observation.decodable
  let stamped ← stampedStep config observation
  let decoded ← .ofResult observation.lanes
  decoded.zipIdx.mapM (assembleLane config observation stamped)

/-- Run a computation on the route's buffers and publish what they hold then. -/
def publishing {α : Type} (m : RouteConfig V → Fallible (FrameBuffers V) EngineError α) :
    Fallible (RouteEntry V × Nat) EngineError α :=
  .ofFun fun s =>
    let ran := (m s.1.config).exec s.1.buffers
    (ran.1, publishHeld { s.1 with buffers := ran.2 } s.2)

/-- Assemble a request that was admitted. -/
def seedInputs (observation : ModelObservation V) : Fallible (RouteEntry V × Nat) EngineError (List V.Value) :=
  publishing (assembleInputs · observation)

def assembleRouteInputs (observation : ModelObservation V) :
    Fallible (RouteEntry V × Nat) EngineError (List V.Value) := do
  let s ← get
  .ofResult (admitFreshLanes s.1 s.2 observation.episodes)
  seedInputs observation

/-! ## Corners -/

/-- The once-key of a lane's short-chunk warning. -/
def warnKey : Option EpisodeInfo → String
  | some episode => if episode.episodeId ≠ "" then episode.episodeId else s!"route:{episode.envId}"
  | none => "route:"

def shortChunkText (frames horizon : Nat) : String :=
  s!"the model returned {frames} actions for execution_horizon={horizon}; replaying what there is and re-planning early. Declare Model.native_chunk so the horizon can be validated up front."

/-- The check a lane's chunk is held to: the declared length, or a warning once
per key for one shorter than the horizon. The state is the keys warned for. -/
def checkChunk (predict : PredictFn V) (frames : List V.Value) (horizon : Nat) (key : String) :
    Fallible (List String) EngineError Unit :=
  match predict.nativeChunk with
  | some native =>
    if frames.length ≠ native then
      throw (.invalidArgument s!"model declares native_chunk={native} but its chunk corner returned {frames.length} frames at execution_horizon={horizon}: return the WHOLE native chunk and let the runtime execute its prefix (do not slice to the horizon), or drop the declaration")
    else pure ()
  | none =>
    .ofFun fun warned =>
      if frames.length < horizon ∧ key ∉ warned then (predict.warn (shortChunkText frames.length horizon), key :: warned)
      else (.ok (), warned)

def takePrefix (predict : PredictFn V) (frames : List V.Value) (horizon : Nat) (key : String) :
    Fallible (List String) EngineError (List V.Value) := do
  checkChunk predict frames horizon key
  if frames.isEmpty && decide (1 < horizon) then
    throw (.invalidArgument "a chunked model (execute_horizon>1) returned an empty action chunk")
  else pure (frames.take horizon)

/-- One lane's frames from the chunk the model returned for it. -/
def chunkFrames (predict : PredictFn V) (horizon : Nat) (chunk : V.Value) (episode : Option EpisodeInfo) :
    Fallible (List String) EngineError (List V.Value) := do
  let frames ← .ofResult ((V.splitChunk chunk).mapError fromApply)
  takePrefix predict frames horizon (warnKey episode)

/-- The per-lane chunk corner. -/
def laneChunk (predict : PredictFn V) (horizon : Nat) (input : V.Value) (episode : Option EpisodeInfo) :
    Fallible (List String) EngineError (List V.Value) := do
  match ← .ofResult (predict.predictChunk input horizon episode) with
  | some chunk => chunkFrames predict horizon chunk episode
  | none => throw (.model "model reports a chunk corner (has_chunk) but predict_chunk returned None")

/-- A batched corner's answers, one per lane. -/
def rowsOf (corner what : String) (answers : Except EngineError (List V.Value)) (numEnvs : Nat) :
    Except EngineError (List V.Value) := do
  let rows ← answers
  if rows.length ≠ numEnvs then .error (.model s!"{corner} returned {rows.length} {what} for {numEnvs} lanes")
  else .ok rows

/-- Dispatch to the most specific corner, each lane's chunk cut to the horizon. -/
def dispatchCorners (predict : PredictFn V) (inputs : List V.Value) (episodes : List EpisodeInfo)
    (horizon numEnvs : Nat) : Fallible (List String) EngineError (List (List V.Value)) :=
  if episodes.length ≠ numEnvs then
    throw (.model s!"predict carries {episodes.length} episode rows for {numEnvs} lanes; episode identity is row-aligned with the observation")
  else if 1 < horizon ∧ predict.hasChunkBatch then do
    let chunks ← .ofResult (rowsOf (V := V) "predict_chunk_batch" "chunks" (predict.predictChunkBatch inputs horizon episodes) numEnvs)
    chunks.zipIdx.mapM (fun lane => chunkFrames predict horizon lane.1 episodes[lane.2]?)
  else if 1 < horizon ∧ predict.hasChunk then
    inputs.zipIdx.mapM (fun lane => laneChunk predict horizon lane.1 episodes[lane.2]?)
  else if predict.hasBatch then do
    let actions ← .ofResult (rowsOf (V := V) "predict_batch" "actions" (predict.predictBatch inputs episodes) numEnvs)
    return actions.map (fun action => [action])
  else
    inputs.zipIdx.mapM (fun lane => do return [← .ofResult (predict.predict lane.1 episodes[lane.2]?)])

def inputsSummary (inputs : List V.Value) : String :=
  match inputs with
  | first :: _ => s!"adapter-assembled model input (per lane): {V.valueSummary first}; lanes: {inputs.length}"
  | [] => "adapter-assembled model input: (no lanes)"

def annotatePredictError (summary : String) : EngineError → EngineError
  | .model message => .model s!"{message}\n{summary}"
  | .internal message => .internal s!"{message}\n{summary}"
  | error => error

def dispatchRouteCorners (predict : PredictFn V) (inputs : List V.Value) (episodes : List EpisodeInfo)
    (horizon numEnvs : Nat) : Fallible (List String) EngineError (List (List V.Value)) :=
  (dispatchCorners predict inputs episodes horizon numEnvs).mapError (annotatePredictError (inputsSummary inputs))

/-- A bucket of groups may fuse into one batched call: it is the corner a direct predict picks. -/
def bucketFuses (predict : PredictFn V) (horizon : Nat) : Bool :=
  if 1 < horizon then predict.hasChunkBatch || (!predict.hasChunk && predict.hasBatch) else predict.hasBatch

/-! ## Frames -/

/-- One lane's actions: the first and the ones after it, each recorded under the step it executes at. -/
def finishLane (config : RouteConfig V) (episodes : List EpisodeInfo) (lane : List V.Value × Nat) :
    Fallible (FrameBuffers V) EngineError (V.Action × List V.Action) := do
  let id := episodes[lane.2]?.elim "" (·.episodeId)
  let buffers ← get
  let start := buffers.chunkStart id
  let applied ← Fallible.mapError fromApply
    (lane.1.zipIdx.mapM (fun frame => applyActions config.adapter frame.1 id (start + frame.2)))
  match applied with
  | first :: rest => pure (first, rest)
  | [] => throw (.invalidArgument "a chunked model returned an empty action chunk")

/-- Frame 0 of every lane, and the later frames by step, as many as the shortest lane has. -/
def transposed (lanes : List (V.Action × List V.Action)) : PredictFrames V :=
  let replayLen := (lanes.map (·.2.length)).min?.getD 0
  { actions := lanes.map (·.1)
    replay := (List.range replayLen).map (fun step => lanes.filterMap (·.2[step]?)) }

/-- `finish_route_frames_inner`. -/
def finishFrames (config : RouteConfig V) (laneRawSteps : List (List V.Value)) (episodes : List EpisodeInfo) :
    Fallible (FrameBuffers V) EngineError (PredictFrames V) := do
  let lanes ← laneRawSteps.zipIdx.mapM (finishLane config episodes)
  return transposed lanes

def finishRouteFrames (laneRawSteps : List (List V.Value)) (episodes : List EpisodeInfo) :
    Fallible (RouteEntry V × Nat) EngineError (PredictFrames V) :=
  publishing (finishFrames · laneRawSteps episodes)

/-! ## The endpoint -/

/-- The cells the routes of an endpoint share: the total of what their windows
will hold, and the keys short chunks were warned for. -/
structure Cells where
  projected : Nat
  warned : List String
  deriving DecidableEq

/-- Run a computation on a route and the endpoint's total. -/
def onHeld {α : Type} (m : Fallible (RouteEntry V × Nat) EngineError α) :
    Fallible (RouteEntry V × Cells) EngineError α :=
  .zoom (fun s => (s.1, s.2.projected)) (fun s held => (held.1, { s.2 with projected := held.2 })) m.exec

/-- Run a computation on the endpoint's warnings. -/
def onWarned {α : Type} (m : Fallible (List String) EngineError α) : Fallible (RouteEntry V × Cells) EngineError α :=
  .zoom (fun s => s.2.warned) (fun s warned => (s.1, { s.2 with warned })) m.exec

def predictRoute (predict : PredictFn V) (observation : ModelObservation V) :
    Fallible (RouteEntry V × Cells) EngineError (PredictFrames V) := do
  let inputs ← onHeld (assembleRouteInputs observation)
  let s ← get
  let laneRawSteps ← onWarned (dispatchRouteCorners predict inputs observation.episodes
    s.1.config.executionHorizon observation.numEnvs)
  onHeld (finishRouteFrames laneRawSteps observation.episodes)

/-- An endpoint: its routes by env, the horizons pinned for envs without an
adapter, the shared cells, and the budget. -/
structure Endpoint (V : Values) where
  routes : AList (fun _ : String => RouteEntry V)
  specLessHorizons : AList (fun _ : String => Nat)
  cells : Cells
  historyLimit : Nat

namespace Endpoint

def fresh (limit : Nat) : Endpoint V :=
  { routes := ∅, specLessHorizons := ∅, cells := { projected := 0, warned := [] }, historyLimit := limit }

variable (endpoint : Endpoint V)

def specLessHorizon (envId : String) : Nat := (endpoint.specLessHorizons.lookup envId).getD 1

def setRoute (envId : String) (s : RouteEntry V × Cells) : Endpoint V :=
  { endpoint with routes := endpoint.routes.insert envId s.1, cells := s.2 }

/-- Drop a route; its share leaves the total. -/
def dropRoute (envId : String) : Endpoint V :=
  match endpoint.routes.lookup envId with
  | none => endpoint
  | some entry =>
    { endpoint with
      routes := endpoint.routes.erase envId
      cells := { endpoint.cells with projected := wrappingSub endpoint.cells.projected entry.published } }

end Endpoint

/-- Run a computation on an env's route, if it has one. -/
def onRoute {α : Type} (envId : String) (absent : Endpoint V → Except EngineError α)
    (m : Fallible (RouteEntry V × Cells) EngineError α) : Fallible (Endpoint V) EngineError α :=
  .ofFun fun endpoint =>
    match endpoint.routes.lookup envId with
    | some entry => ((m.exec (entry, endpoint.cells)).1, endpoint.setRoute envId (m.exec (entry, endpoint.cells)).2)
    | none => (absent endpoint, endpoint)

def predictChunked (predict : PredictFn V) (observation : ModelObservation V) :
    Fallible (Endpoint V) EngineError (PredictFrames V) :=
  onRoute observation.envId
    (fun endpoint => predict.predictSpecLessChunked observation (endpoint.specLessHorizon observation.envId))
    (predictRoute predict observation)

end Rlmesh.Engine
