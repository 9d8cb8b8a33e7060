import Rlmesh.Lib.Runs
import Rlmesh.Model.Engine
/-!
# Grouped predicts and route setup (`AdaptedModelHandler`, `AdaptedRouteSetup`)

A grouped predict first assembles every group. Groups of distinct routes without
custom transforms are assembled side by side, so that a group may be admitted
before or after another has published its windows: a `Mark` is one of the two
points at which a group meets the endpoint's total, and a schedule is the order
of the marks of a request. The assembled groups are bucketed by horizon and each
bucket is answered by one batched call where a direct predict would make the
same one.

Groups that were assembled side by side are finished side by side as well. Each
works on its own route and only adds its change to the total, so the order does
not matter and the model takes them one by one.
-/
open Rlmesh.Lib Rlmesh.Adapters

namespace Rlmesh.Engine

variable {V : Values}

/-! ## Staging -/

/-- A point of a grouped predict at which group `index` reads or moves the total. -/
inductive Mark where
  | admits (index : Nat)
  | seed (index : Nat)
  deriving DecidableEq

def Mark.index : Mark → Nat
  | .admits index | .seed index => index

/-- How far a group with an adapter has come. -/
inductive Stage (V : Values) where
  | admitted
  | refused (error : EngineError)
  | assembled (result : Except EngineError (List V.Value))

structure Staging (V : Values) where
  endpoint : Endpoint V
  stages : Nat → Option (Stage V)

/-- The verdict of the budget on a group. -/
def verdict (entry : RouteEntry V) (projected : Nat) (observation : ModelObservation V) : Stage V :=
  match admitFreshLanes entry projected observation.episodes with
  | .ok _ => .admitted
  | .error error => .refused error

/-- Assemble an admitted group on its route. -/
def seedRoute (observation : ModelObservation V) : Fallible (Endpoint V) EngineError (List V.Value) :=
  onRoute observation.envId (fun _ => .error (.internal "no route")) (onHeld (seedInputs observation))

def stageMark (observations : List (ModelObservation V)) (staging : Staging V) : Mark → Staging V
  | .admits index =>
    match observations[index]? with
    | none => staging
    | some observation =>
      match staging.endpoint.routes.lookup observation.envId with
      | none => staging
      | some entry =>
        { staging with
          stages := Function.update staging.stages index
            (some (verdict entry staging.endpoint.cells.projected observation)) }
  | .seed index =>
    match observations[index]?, staging.stages index with
    | some observation, some .admitted =>
      let seeded := (seedRoute observation).exec staging.endpoint
      { endpoint := seeded.2, stages := Function.update staging.stages index (some (.assembled seeded.1)) }
    | _, _ => staging

def stageAll (observations : List (ModelObservation V)) (endpoint : Endpoint V) (marks : List Mark) : Staging V :=
  marks.foldl (stageMark observations) { endpoint, stages := fun _ => none }

/-- The groups one after the other. -/
def inOrder (count : Nat) : List Mark := (List.range count).flatMap (fun index => [.admits index, .seed index])

/-- Every group is admitted and then assembled, in any interleaving. -/
def Interleaving (count : Nat) (marks : List Mark) : Prop :=
  ∀ index, marks.filter (fun mark => mark.index = index) = if index < count then [.admits index, .seed index] else []

/-- `assembles_in_parallel`: several routes, each named once, none with a custom transform. -/
def assemblesInParallel (endpoint : Endpoint V) (observations : List (ModelObservation V)) : Bool :=
  let routed := observations.filterMap (fun observation =>
    (endpoint.routes.lookup observation.envId).map (fun entry => (observation.envId, entry)))
  decide (routed.map (·.1)).Nodup && routed.all (fun route => !route.2.config.adapter.hasCustoms) &&
    decide (1 < routed.length)

/-- The orders a grouped predict may be staged in. -/
def Scheduled (endpoint : Endpoint V) (observations : List (ModelObservation V)) (marks : List Mark) : Prop :=
  Interleaving observations.length marks ∧
    (assemblesInParallel endpoint observations = false → marks = inOrder observations.length)

/-! ## Buckets -/

/-- A group whose inputs are assembled. -/
structure Prepared (V : Values) where
  index : Nat
  inputs : List V.Value
  episodes : List EpisodeInfo
  envId : String
  horizon : Nat
  numEnvs : Nat

/-- The groups that were assembled, in request order. -/
def preparedGroups (staging : Staging V) (observations : List (ModelObservation V)) : List (Prepared V) :=
  observations.zipIdx.filterMap (fun group =>
    match staging.endpoint.routes.lookup group.1.envId, staging.stages group.2 with
    | some entry, some (.assembled (.ok inputs)) => some
      { index := group.2, inputs, episodes := group.1.episodes, envId := group.1.envId
        horizon := max entry.config.executionHorizon 1, numEnvs := group.1.numEnvs }
    | _, _ => none)

/-- The groups by horizon, shortest first. -/
def bucketed (groups : List (Prepared V)) : List (Nat × List (Prepared V)) := groupByKey (·.horizon) groups

/-- A group's answer, with the group's position in the request. -/
abbrev Answer (V : Values) := Nat × Except EngineError (PredictFrames V)

/-- Serve items one after the other. -/
def inTurn {α β σ : Type} (serve : α → σ → β × σ) : List α → σ → List β × σ
  | [], s => ([], s)
  | item :: rest, s =>
    let first := serve item s
    let others := inTurn serve rest first.2
    (first.1 :: others.1, others.2)

/-- Turn a group's frames into actions on its route. -/
def finishGroup (group : Prepared V) (frames : List (List V.Value)) : Fallible (Endpoint V) EngineError (PredictFrames V) :=
  onRoute group.envId (fun _ => .error (.internal "no route")) (onHeld (finishRouteFrames frames group.episodes))

/-- Run a computation on the endpoint's warnings. -/
def warning {α : Type} (m : Fallible (List String) EngineError α) : Fallible (Endpoint V) EngineError α :=
  .zoom (·.cells.warned) (fun endpoint warned => { endpoint with cells := { endpoint.cells with warned } }) m.exec

/-- A group's answer, given by what serving it returns. -/
def answering (group : Prepared V) (m : Fallible (Endpoint V) EngineError (PredictFrames V)) (endpoint : Endpoint V) :
    Answer V × Endpoint V :=
  ((group.index, (m.exec endpoint).1), (m.exec endpoint).2)

/-- Cut the lanes of a fused call into its groups. -/
def splitLanes : List (Prepared V) → List (List V.Value) → List (Prepared V × List (List V.Value))
  | [], _ => []
  | group :: rest, frames =>
    (group, frames.take group.inputs.length) :: splitLanes rest (frames.drop group.inputs.length)

/-- The one call of a fused bucket. -/
def fusedCall (predict : PredictFn V) (horizon : Nat) (groups : List (Prepared V)) :
    Fallible (List String) EngineError (List (List V.Value)) :=
  let flat := groups.flatMap (·.inputs)
  let flatEpisodes := groups.flatMap (·.episodes)
  if flatEpisodes.length = flat.length then dispatchCorners predict flat flatEpisodes horizon flat.length
  else throw (.internal s!"fused predict concatenated {flatEpisodes.length} episode rows for {flat.length} lanes")

def serveFused (predict : PredictFn V) (horizon : Nat) (groups : List (Prepared V)) (endpoint : Endpoint V) :
    List (Answer V) × Endpoint V :=
  let called := (warning (fusedCall predict horizon groups)).exec endpoint
  match called.1 with
  | .ok frames => inTurn (fun group => answering group.1 (finishGroup group.1 group.2)) (splitLanes groups frames) called.2
  | .error error =>
    (groups.map (fun group => (group.index, .error (annotatePredictError (inputsSummary group.inputs) error))), called.2)

/-- A group served as a direct predict serves it. -/
def serveGroup (predict : PredictFn V) (horizon : Nat) (group : Prepared V) :
    Fallible (Endpoint V) EngineError (PredictFrames V) := do
  let frames ← warning (dispatchRouteCorners predict group.inputs group.episodes horizon group.numEnvs)
  finishGroup group frames

def serveBucket (predict : PredictFn V) (bucket : Nat × List (Prepared V)) (endpoint : Endpoint V) :
    List (Answer V) × Endpoint V :=
  if bucketFuses predict bucket.1 then serveFused predict bucket.1 bucket.2 endpoint
  else inTurn (fun group => answering group (serveGroup predict bucket.1 group)) bucket.2 endpoint

/-! ## Grouped predicts -/

/-- The answer of a group that no bucket serves: one without an adapter, or one whose assembly failed. -/
def stagedAnswer (predict : PredictFn V) (staging : Staging V) (observation : ModelObservation V) (index : Nat) :
    Option (Except EngineError (PredictFrames V)) :=
  match staging.endpoint.routes.lookup observation.envId with
  | none => some (predict.predictSpecLessChunked observation (staging.endpoint.specLessHorizon observation.envId))
  | some _ =>
    match staging.stages index with
    | some (.refused error) | some (.assembled (.error error)) => some (.error error)
    | _ => none

def predictGroupedFused (predict : PredictFn V) (marks : List Mark) (observations : List (ModelObservation V))
    (endpoint : Endpoint V) : List (Except EngineError (PredictFrames V)) × Endpoint V :=
  let staging := stageAll observations endpoint marks
  let served := inTurn (serveBucket predict) (bucketed (preparedGroups staging observations)) staging.endpoint
  (observations.zipIdx.map (fun group =>
    ((stagedAnswer predict staging group.1 group.2).or (served.1.flatten.lookup group.2)).getD
      (.error (.internal "grouped predict left a prepared group unserved"))), served.2)

/-- Groups fuse only where the model allows it and has a batched corner. -/
def PredictFn.fusable (predict : PredictFn V) : Bool := predict.allowFusion && (predict.hasChunkBatch || predict.hasBatch)

/-- `predict_grouped`, staged in the order of `marks` when it fuses. -/
def predictGrouped (predict : PredictFn V) (marks : List Mark) (observations : List (ModelObservation V))
    (endpoint : Endpoint V) : List (Except EngineError (PredictFrames V)) × Endpoint V :=
  if observations.length ≤ 1 || !predict.fusable then
    inTurn (fun observation => (predictChunked predict observation).exec) observations endpoint
  else predictGroupedFused predict marks observations endpoint

/-! ## Route setup -/

def maxExecutionHorizon : Nat := 1024

def checkHorizonDoors (predict : PredictFn V) (executionHorizon : Nat) : Except EngineError Unit :=
  if maxExecutionHorizon < executionHorizon then
    .error (.model s!"runtime pinned execution_horizon={executionHorizon}, over the {maxExecutionHorizon} bound")
  else
    match predict.nativeChunk with
    | none => .ok ()
    | some native =>
      if !predict.hasChunk && !predict.hasChunkBatch then
        .error (.model s!"model declares native_chunk={native} but defines no chunk corner (predict_chunk / predict_chunk_batch); drop the declaration or add the corner")
      else if native < executionHorizon then
        .error (.model s!"runtime pinned execution_horizon={executionHorizon} but the model declares native_chunk={native}: it cannot produce that many actions per predict. Lower the horizon to at most {native}")
      else .ok ()

/-- A resolve request, with what the resolver makes of it: the adapter and the
lanes' decoding, or nothing for a route without one. -/
structure ResolveRequest (V : Values) where
  envId : String
  numEnvs : Nat
  resolved : Except EngineError (Option (ResolvedAdapter V × (V.Lane → Except ApplyError V.Obs)))
  executionHorizon : Nat
  deliversHistory : Bool

structure RouteNeeds where
  nativeChunk : Option Nat
  history : Option (List String)

/-- What a route that needs every env step is refused for. -/
def historyNeed (adapter : ResolvedAdapter V) : String :=
  match insertAll (adapter.stacked.map (fun entry => (entry.key, entry.depth))) [] with
  | (key, depth) :: _ => s!"frame-stacking (input '{key}' stack={depth})"
  | [] =>
    let key := adapter.historyKeys.headD ""
    s!"a previous-action part (input '{key}')"

/-- The keys a route wants history for, if it is to get any. -/
def negotiateHistory (limit : Nat) (request : ResolveRequest V) (adapter : ResolvedAdapter V) :
    Except EngineError (Option (List String)) :=
  if adapter.historyKeys.isEmpty then .ok none
  else do
    checkHistoryBudget (max request.numEnvs 1) (laneWindowBytes adapter) limit
    if request.deliversHistory then .ok (some adapter.historyKeys)
    else if 1 < request.executionHorizon then
      .error (.model s!"{historyNeed adapter} needs every env step, but the runtime did not offer observation history (delivers_history) at execution_horizon={request.executionHorizon}: the window would hold only decision-point frames. Use a runtime that delivers history, stack=1 (or no Previous part), or execution_horizon=1.")
    else .ok none

/-- A route freshly resolved. -/
def freshEntry (limit : Nat) (request : ResolveRequest V)
    (route : ResolvedAdapter V × (V.Lane → Except ApplyError V.Obs)) (history : Option (List String)) : RouteEntry V :=
  { config :=
      { adapter := route.1, obsMap := route.2, executionHorizon := max request.executionHorizon 1
        deliversHistory := history.isSome }
    buffers := {}
    published := 0
    laneBytes := laneWindowBytes route.1
    historyLimit := limit }

/-- The horizon pinned for an env without an adapter. -/
def Endpoint.pinHorizon (endpoint : Endpoint V) (envId : String) (horizon : Nat) : Endpoint V :=
  { endpoint with
    specLessHorizons :=
      if 1 < horizon then endpoint.specLessHorizons.insert envId horizon else endpoint.specLessHorizons.erase envId }

/-- Put a fresh route in place of the env's old one. -/
def Endpoint.replaceRoute (endpoint : Endpoint V) (envId : String) (entry : RouteEntry V) : Endpoint V :=
  (endpoint.dropRoute envId).setRoute envId (entry, (endpoint.dropRoute envId).cells)

def resolveAdapter (predict : PredictFn V) (request : ResolveRequest V) :
    Fallible (Endpoint V) EngineError RouteNeeds := do
  .ofResult (checkHorizonDoors predict request.executionHorizon)
  match ← .ofResult request.resolved with
  | none => do
    modify (·.pinHorizon request.envId (max request.executionHorizon 1))
    return { nativeChunk := predict.nativeChunk, history := none }
  | some route => do
    let endpoint ← get
    let history ← .ofResult (negotiateHistory endpoint.historyLimit request route.1)
    modify (·.replaceRoute request.envId (freshEntry endpoint.historyLimit request route history))
    return { nativeChunk := predict.nativeChunk, history }

/-- The buffers without some episodes; no names at all stand for every one. -/
def evicted (buffers : FrameBuffers V) (episodeIds : List String) : FrameBuffers V :=
  if episodeIds.isEmpty then {} else episodeIds.foldl FrameBuffers.evict buffers

/-- Change a route's buffers and publish what they hold then. -/
def republish (change : FrameBuffers V → FrameBuffers V) (s : RouteEntry V × Cells) : RouteEntry V × Cells :=
  let held := publishHeld { s.1 with buffers := change s.1.buffers } s.2.projected
  (held.1, { s.2 with projected := held.2 })

/-- Change the buffers of an env's route, if it has one. -/
def Endpoint.onBuffers (endpoint : Endpoint V) (envId : String) (change : FrameBuffers V → FrameBuffers V) :
    Endpoint V :=
  match endpoint.routes.lookup envId with
  | some entry => endpoint.setRoute envId (republish change (entry, endpoint.cells))
  | none => endpoint

/-- `reset_adapter`: the ended episodes leave the route's buffers, and may be warned for again. -/
def Endpoint.resetAdapter (endpoint : Endpoint V) (envId : String) (episodeIds : List String) : Endpoint V :=
  let endpoint := endpoint.onBuffers envId (evicted · episodeIds)
  { endpoint with cells := { endpoint.cells with warned := endpoint.cells.warned.filter (· ∉ episodeIds) } }

def Endpoint.releaseAdapter (endpoint : Endpoint V) (envId : String) : Endpoint V :=
  let endpoint := endpoint.dropRoute envId
  { endpoint with specLessHorizons := endpoint.specLessHorizons.erase envId }

/-- `on_close`: every route's buffers are cleared. -/
def Endpoint.close (endpoint : Endpoint V) : Endpoint V :=
  endpoint.routes.keys.foldl (fun endpoint envId => endpoint.onBuffers envId (fun _ => {})) endpoint

/-! ## Runs -/

/-- The requests an endpoint serves. The model may answer each as it likes, so a
request carries the model that answers it. -/
inductive Request (V : Values) where
  | resolve (model : PredictFn V) (request : ResolveRequest V)
  | predict (model : PredictFn V) (observation : ModelObservation V)
  | grouped (model : PredictFn V) (observations : List (ModelObservation V)) (marks : List Mark)
  | reset (envId : String) (episodeIds : List String)
  | release (envId : String)
  | close

/-- The endpoint after a request. -/
def Endpoint.serve (endpoint : Endpoint V) : Request V → Endpoint V
  | .resolve model request => ((resolveAdapter model request).exec endpoint).2
  | .predict model observation => ((predictChunked model observation).exec endpoint).2
  | .grouped model observations marks => (predictGrouped model marks observations endpoint).2
  | .reset envId episodeIds => endpoint.resetAdapter envId episodeIds
  | .release envId => endpoint.releaseAdapter envId
  | .close => endpoint.close

/-- An endpoint under a budget, serving one request at a time. -/
def served (limit : Nat) : System (Endpoint V) (Request V) :=
  { init := .fresh limit, step := fun endpoint request => some (endpoint.serve request) }

/-- The orders of a grouped predict are those it may be staged in. -/
def Possible (endpoint : Endpoint V) : Request V → Prop
  | .grouped _ observations marks => Scheduled endpoint observations marks
  | _ => True

end Rlmesh.Engine
