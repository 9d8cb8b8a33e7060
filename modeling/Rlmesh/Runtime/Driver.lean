import Rlmesh.Runtime.Group
/-!
# The driver's transitions (`rlmesh-runtime/src/driver.rs`)

Each function is one function of `RuntimeDriver`, over the route's bookkeeping,
its groups, the predicts in flight and the queued evictions. A transition that
can fail returns the state it leaves behind with the error. The logs of hook
events and of messages to the model are kept in order; which group each id was
minted for is recorded as well, the `n`-th minted id being `minter.id n`.

What the hooks' transforms and the relay policy make of a payload is an input.
-/
open Rlmesh.Wire

namespace Rlmesh.Runtime

/-- What a driver is built with. -/
structure DriverConfig (Id R : Type) [Inhabited Id] where
  spec : RuntimeSessionSpec R
  minter : Minter Id
  prefetchLead : Nat
  /-- The model negotiated observation history. -/
  deliverHistory : Bool
  fusesPredicts : Bool

/-- What the model is sent. -/
inductive ModelMessage (Id : Type) where
  | predict (gid : Nat) (request : PredictRequest Id)
  | resetAdapter (request : ResetAdapterRequest Id)

structure Driver (Id R : Type) where
  route : RouteState Id R
  groups : Nat → Group Id R
  /-- The predict calls in flight, each with the groups' requests it carries. -/
  predicts : List (List (Nat × PredictRequest Id))
  pendingEvictions : List Id
  heldEvictions : List (Nat × Id)
  mintedFor : List Nat
  events : List (HookEvent Id R)
  wire : List (ModelMessage Id)

/-- A transition's result: the state it leaves, and the error it failed with. -/
abbrev Outcome (Id R : Type) := Driver Id R × Option RuntimeError

/-- A hook transform's result, after the relay policy. -/
abbrev Transformed := Except RuntimeError (Option Leaves)

/-- The current ids of a group's lanes, rolling lanes taking their next ids. -/
def episodeIdsWithRoll {Id : Type} (ids : List Id) (lanes : List Nat) (pendingRoll : List (Nat × Id)) : List Id :=
  pendingRoll.foldl (fun ids entry => match lanes.idxOf? entry.1 with
    | some position => ids.set position entry.2
    | none => ids) ids

variable {Id R : Type} [DecidableEq Id] [Inhabited Id] [Zero R] [Add R] [BEq R]

namespace Driver

def new (now : Int) : Driver Id R :=
  { route := .new now, groups := fun _ => .new, predicts := [], pendingEvictions := [], heldEvictions := []
    mintedFor := [], events := [], wire := [] }

def updateGroup (gid : Nat) (f : Group Id R → Group Id R) (d : Driver Id R) : Driver Id R :=
  { d with groups := Function.update d.groups gid (f (d.groups gid)) }

def emit (events : List (HookEvent Id R)) (d : Driver Id R) : Driver Id R :=
  { d with events := d.events ++ events }

end Driver

namespace DriverConfig

variable (cfg : DriverConfig Id R)

def mintIds (gid count : Nat) (d : Driver Id R) : List Id × Driver Id R :=
  ((List.range' d.mintedFor.length count).map cfg.minter.id,
    { d with mintedFor := d.mintedFor ++ List.replicate count gid })

/-- The lane stamped on a group's events: one lane of a lane endpoint. -/
def contextLane (gid : Nat) : Option Nat := if cfg.spec.laneGroup then (cfg.spec.lanes gid).head? else none

/-! ## Evictions -/

/-- Queue the ended lanes' ids for eviction: held while the group has a predict
in flight, else sent on the next turn. -/
def queueEvictions (gid : Nat) (envIndices : List Nat) (d : Driver Id R) : Driver Id R :=
  let (ids, route) := d.route.endEpisodesAt cfg.spec envIndices
  if (d.groups gid).predict.isInFlight then
    { d with route, heldEvictions := d.heldEvictions ++ ids.map (fun id => (gid, id)) }
  else { d with route, pendingEvictions := d.pendingEvictions ++ ids }

/-- Send the queued evictions. What the model answers changes nothing. -/
def flushEvictions (d : Driver Id R) : Driver Id R :=
  if d.pendingEvictions.isEmpty then d
  else
    let (request, route) := d.route.resetAdapterRequest cfg.spec d.pendingEvictions
    { d with route, pendingEvictions := [], wire := d.wire ++ [.resetAdapter request] }

/-! ## Resets -/

/-- Reset seeds for the episodes a group starts at `slots`: the explicit seeds
when they cover all of them, else derived from the base seed, else none. -/
def seedsFor (gid resetGeneration : Nat) (slots : List Nat) : List Int :=
  if !cfg.spec.episodeSeeds.isEmpty then
    let seeds := slots.map (fun slot => cfg.spec.episodeSeeds[slot]?)
    if seeds.all Option.isSome then seeds.filterMap id else []
  else match cfg.spec.baseSeed with
    | none => []
    | some baseSeed =>
      if cfg.spec.laneGroup then
        slots.map (fun slot => deterministicResetSeed baseSeed cfg.spec.sessionId slot 0)
      else
        (cfg.spec.lanes gid).map (fun lane =>
          deterministicResetSeed baseSeed cfg.spec.sessionId resetGeneration lane)

/-- The slots a reset of the group claims. -/
def claimForReset (gid : Nat) (route : RouteState Id R) : List Nat × RouteState Id R :=
  if cfg.spec.laneGroup then
    let (slots, route) := route.claimSlots cfg.spec (cfg.spec.lanes gid).length true
    (slots.getD [], route)
  else route.claimSlotsUpto cfg.spec (cfg.spec.lanes gid).length

/-- The trial ordinals of the lanes a reset restarts; none under NEXT_STEP. -/
def plannedTrialIndices (lanes : Nat) (route : RouteState Id R) : List Nat × RouteState Id R :=
  if cfg.spec.driverOwnsResets then route.claimTrialIndices cfg.spec.trialBase lanes else ([], route)

/-- The bookkeeping of the episodes a reset starts: the surplus ones, their
seeds and their trials. -/
def noteEpisodes (ids : List Id) (slots : List Nat) (seeds : List Int) (route : RouteState Id R) :
    List Nat × RouteState Id R :=
  let route := (ids.drop slots.length).foldl RouteState.markSurplus route
  let route := route.noteEpisodeSeeds ids seeds
  let (trials, route) := cfg.plannedTrialIndices ids.length route
  (trials, route.noteEpisodeTrials ids trials)

def resetRequest (gid : Nat) (ids : List Id) (seeds : List Int) (trials : List Nat) : ResetRequest Id R :=
  { seeds
    options := cfg.spec.resetOptionsFor editionDefaults.trialIndexOptionKey trials
    timeoutMs := cfg.spec.envResetTimeoutMs
    envIndices := cfg.spec.envIndices gid
    episodeIds := ids }

/-- Put a reset of every lane of the group in flight, or retire the group when
no slot is left. -/
def beginReset (gid : Nat) (initial : Bool) (d : Driver Id R) : Driver Id R :=
  let (slots, route) := cfg.claimForReset gid d.route
  if slots.isEmpty then { d with route }.updateGroup gid Group.retire
  else
    let generation := (d.groups gid).resetGeneration + if initial then 0 else 1
    let seeds := cfg.seedsFor gid generation slots
    let (ids, d) := cfg.mintIds gid (cfg.spec.lanes gid).length d
    let (trials, route) := cfg.noteEpisodes ids slots seeds route
    { d with route }.updateGroup gid (fun group =>
      { group with resetGeneration := generation }.resetting initial (cfg.resetRequest gid ids seeds trials) ids slots)

/-! ## Dispatch -/

def actionEvent (gid : Nat) (frame : Frame Id) (route : RouteState Id R) : ActionReceivedEvent Id :=
  let snapshot := route.snapshotAt (cfg.spec.lanes gid)
  { lane := cfg.contextLane gid
    episodeId := snapshot.episodeId
    episodeRecordId := snapshot.episodeRecordId
    episodeIds := snapshot.episodeIds
    episodeRecordIds := snapshot.episodeRecordIds
    step := snapshot.step + 1
    envIndex := snapshot.envIndex
    action := some frame.leaves
    rawAction := some frame.leaves }

def stepRequest (gid : Nat) (action : Option Leaves) (d : Driver Id R) : StepRequest Id :=
  { action
    timeoutMs := cfg.spec.envStepTimeoutMs
    envIndices := cfg.spec.envIndices gid
    episodeIds := episodeIdsWithRoll (d.route.episodeIdsAt (cfg.spec.lanes gid)) (cfg.spec.lanes gid)
      (d.groups gid).pendingRoll }

/-- Put a step in flight for the group, if it is ready and has a frame. -/
def dispatchStep (gid : Nat) (transformed : Transformed) (d : Driver Id R) : Outcome Id R :=
  if (d.groups gid).phase = .ready then
    match (d.groups gid).takeFrame cfg.prefetchLead cfg.deliverHistory with
    | (none, group) => (d.updateGroup gid (fun _ => group), none)
    | (some frame, group) =>
      let event := cfg.actionEvent gid frame d.route
      let d := (d.updateGroup gid (fun _ => group)).emit [.transformAction event]
      match transformed with
      | .error e => (d, some e)
      | .ok action =>
        let request := cfg.stepRequest gid action d
        ((d.emit [.actionReceived { event with action }]).updateGroup gid (Group.stepping frame request), none)
  else (d, none)

def dispatchSteps (transformed : Nat → Transformed) : List Nat → Driver Id R → Outcome Id R
  | [], d => (d, none)
  | gid :: rest, d =>
    match cfg.dispatchStep gid (transformed gid) d with
    | (d, some e) => (d, some e)
    | (d, none) => dispatchSteps transformed rest d

/-- Put one group's wanted request in flight; `none` when it wants nothing. -/
def sendPredict (gid : Nat) (d : Driver Id R) : Option (PredictRequest Id × Driver Id R) :=
  match (d.groups gid).predict with
  | .wanted msg => some (msg,
      { d with
        route := d.route.markPredicted (cfg.spec.lanes gid)
        groups := Function.update d.groups gid { d.groups gid with predict := .inFlight false }
        wire := d.wire ++ [.predict gid msg] })
  | _ => none

/-- The requests of the chosen groups, put in flight in order. -/
def sendPredicts : List Nat → Driver Id R → Option (List (Nat × PredictRequest Id) × Driver Id R)
  | [], d => some ([], d)
  | gid :: rest, d =>
    match cfg.sendPredict gid d with
    | none => none
    | some (msg, d) =>
      match sendPredicts rest d with
      | none => none
      | some (requests, d) => some ((gid, msg) :: requests, d)

/-- Put the groups waiting for a prediction in flight, per the scheduler's plan:
one grouped predict for a model that fuses them, one each otherwise. -/
def dispatchPredict (plan : List Nat) (force : Bool) (d : Driver Id R) : Outcome Id R :=
  if cfg.fusesPredicts && !d.predicts.isEmpty then (d, none)
  else
    let waiting := (List.range cfg.spec.groupCount).filter (fun gid => (d.groups gid).predict.isWanted)
    let planned := plan.filter (fun gid => decide (gid ∈ waiting))
    -- An empty plan waits for the next event, unless there is none to wait for.
    let chosen := if planned.isEmpty && force then waiting else planned
    if chosen.isEmpty then (d, none)
    else match cfg.sendPredicts chosen d with
      | none => (d, some .panicked)
      | some (requests, sent) =>
        ({ sent with predicts := sent.predicts ++ if cfg.fusesPredicts then [requests] else requests.map ([·]) }, none)

/-! ## Predictions -/

/-- Apply one request's prediction, and release the evictions held behind it. -/
def land (gid : Nat) (request : PredictRequest Id) (result : Except RuntimeError PredictResponse) (d : Driver Id R) :
    Outcome Id R :=
  match result with
  | .error e => (d, some e)
  | .ok response =>
    if response.context ≠ request.context then
      (d, some (.modelRouteMismatch cfg.spec.modelComponentId (request.context.map (·.requestId))))
    else if response.actions.isEmpty then (d, some (.protocol (.noActions cfg.spec.modelComponentId)))
    else
      let frames := response.actions.map (fun leaves => { leaves, origin := request })
      ({ d.updateGroup gid (Group.landed cfg.deliverHistory frames) with
          pendingEvictions := d.pendingEvictions ++ (d.heldEvictions.filter (fun held => held.1 = gid)).map (·.2)
          heldEvictions := d.heldEvictions.filter (fun held => held.1 ≠ gid) }, none)

def landAll : List ((Nat × PredictRequest Id) × Except RuntimeError PredictResponse) → Driver Id R → Outcome Id R
  | [], d => (d, none)
  | (request, result) :: rest, d =>
    match cfg.land request.1 request.2 result d with
    | (d, some e) => (d, some e)
    | (d, none) => landAll rest d

/-- Apply a finished predict call. -/
def onPredictOutcome (requests : List (Nat × PredictRequest Id))
    (result : Except RuntimeError (List (Except RuntimeError PredictResponse))) (d : Driver Id R) : Outcome Id R :=
  match result with
  | .error e => (d, some e)
  | .ok results =>
    if results.length ≠ requests.length then
      (d, some (.protocol (.answered cfg.spec.modelComponentId results.length requests.length)))
    else cfg.landAll (requests.zip results) d

/-! ## Observations -/

def observationEvent (gid : Nat) (isReset : Bool) (observation : Option Leaves) (infos : Option (MetaMap R))
    (route : RouteState Id R) : ObservationEmittedEvent Id R :=
  let snapshot := route.snapshotAt (cfg.spec.lanes gid)
  { lane := cfg.contextLane gid
    episodeId := snapshot.episodeId
    episodeRecordId := snapshot.episodeRecordId
    episodeIds := snapshot.episodeIds
    episodeRecordIds := snapshot.episodeRecordIds
    step := snapshot.step
    envIndex := snapshot.envIndex
    isReset
    numEnvs := (cfg.spec.lanes gid).length
    observation
    rawObservation := observation
    infos }

/-- Hand a group its next observation: build the request, run the transform,
emit it, and predict from it unless frames still cover the next step. -/
def observe (gid : Nat) (observation : Option Leaves) (infos : Option (MetaMap R)) (phase : RequestPhase)
    (isReset : Bool) (transformed : Transformed) (d : Driver Id R) : Outcome Id R :=
  let (msg, route) := d.route.predictRequestAt cfg.spec (cfg.spec.lanes gid) observation phase
  let event := cfg.observationEvent gid isReset observation infos route
  let d := { d with route }.emit [.transformObservation event]
  match transformed with
  | .error e => (d, some e)
  | .ok transformed =>
    let d := d.emit [.observationEmitted { event with observation := transformed }]
    match (d.groups gid).observe cfg.deliverHistory { msg with observation := transformed } with
    | none => (d, some (.protocol (.backlog cfg.spec.envId (d.groups gid).history.length)))
    | some group => (d.updateGroup gid (fun _ => group), none)

/-- The `episode_started` events of the scored episodes among `started`. -/
def startedEvents (gid : Nat) (started : List (StartedEpisode Id)) (route : RouteState Id R) :
    List (HookEvent Id R) :=
  (started.filter (fun episode => !route.surplus episode.episodeId)).map (fun episode => .episodeStarted {
    lane := cfg.contextLane gid
    episodeId := episode.episodeId
    episodeRecordId := episode.record.recordId
    episodeIndex := episode.record.index
    envIndex := episode.record.envIndex
    startedFromAutoReset := episode.record.startedFromAutoReset
    seed := route.seedByEpisode episode.episodeId
    trialIndex := route.trialByEpisode episode.episodeId })

/-- A reset came back: its episodes start, and its observation is the first. -/
def onReset (gid : Nat) (initial : Bool) (answer : Except RuntimeError (ResetResponse R)) (now : Int)
    (transformed : Transformed) (d : Driver Id R) : Outcome Id R :=
  let d := d.updateGroup gid (fun group => { group with op := none })
  match answer with
  | .error e => (d, some e)
  | .ok response =>
    match (d.groups gid).pendingStart with
    | none => (d, some .panicked)
    | some (ids, slots) =>
      let (started, route) := d.route.startEpisodesAt now (cfg.spec.lanes gid) ids (!initial) slots
      let d := { d with route }.updateGroup gid (fun group => { group with pendingStart := none })
      cfg.observe gid response.observation response.infos .resetObservation true transformed
        (d.emit (cfg.startedEvents gid started route))

/-! ## Steps -/

/-- The env-reported completions under ids their slots still hold. -/
def echoedCompletions (response : StepResponse Id R) (route : RouteState Id R) : List (EpisodeMetadata Id R) :=
  response.completedEpisodes.filter (fun metadata =>
    route.episodeIdAt cfg.spec metadata.envIndex = some metadata.episodeId)

/-- The step cap in force: the session's, else the edition's under driver-owned resets. -/
def stepCap : Option Int :=
  match cfg.spec.maxEpisodeSteps with
  | some cap => some cap
  | none => if cfg.spec.driverOwnsResets then some editionDefaults.defaultMaxEpisodeSteps else none

/-- The truncation of a lane at a cap, unless the env completed it. -/
def cappedLane (now : Int) (envDone : List Nat) (infos : Option (MetaMap R)) (width : Nat)
    (route : RouteState Id R) (entry : Nat × Nat) : Option (EpisodeMetadata Id R) :=
  let slot := route.slots entry.1
  match slot.episode with
  | none => none
  | some episode =>
    let stepsCapped := cfg.stepCap.any (fun cap => decide (cap ≤ slot.step))
    let timeCapped := cfg.spec.maxEpisodeSeconds.any (fun cap => cap.reached (max (now - slot.startedAtNs) 0))
    if entry.1 ∈ envDone then none
    else if stepsCapped || timeCapped then some {
      episodeId := episode.episodeId
      seed := none
      envIndex := entry.1
      stepCount := slot.step
      cumulativeReward := slot.cumulativeReward
      terminated := false
      truncated := true
      startTimestampNs := slot.startedAtNs
      endTimestampNs := now
      finalInfo := laneFinalInfo infos entry.2 width }
    else none

/-- Runtime-truncated completions for the group's lanes at a cap this step. -/
def cappedCompletions (now : Int) (gid : Nat) (envCompleted : List (EpisodeMetadata Id R))
    (infos : Option (MetaMap R)) (route : RouteState Id R) : List (EpisodeMetadata Id R) :=
  (cfg.spec.lanes gid).zipIdx.filterMap
    (cfg.cappedLane now (envCompleted.map (·.envIndex)) infos (cfg.spec.lanes gid).length route)

/-- The episodes that complete on a step: reported by the env, or capped. -/
def completions (now : Int) (gid : Nat) (response : StepResponse Id R) (route : RouteState Id R) :
    List (EpisodeMetadata Id R) :=
  let echoed := cfg.echoedCompletions response route
  echoed ++ cfg.cappedCompletions now gid echoed response.infos route

def stepEvent (gid : Nat) (response : StepResponse Id R) (completed : List (EpisodeMetadata Id R))
    (pendingRoll : List (Nat × Id)) (route : RouteState Id R) : StepCompletedEvent Id R :=
  let lanes := cfg.spec.lanes gid
  let snapshot := route.snapshotAt lanes
  let flags := fun (ended : EpisodeMetadata Id R → Bool) => (route.episodeIdsAt lanes).map (fun id =>
    completed.any (fun metadata => decide (metadata.episodeId = id) && ended metadata))
  { lane := cfg.contextLane gid
    episodeId := snapshot.episodeId
    episodeRecordId := snapshot.episodeRecordId
    step := snapshot.step
    envIndex := snapshot.envIndex
    rewards := response.rewards
    infos := if pendingRoll.isEmpty then response.infos else none
    terminated := flags (·.terminated)
    truncated := flags (·.truncated)
    autoresetRoll := lanes.map (fun lane => decide (lane ∈ pendingRoll.map Prod.fst)) }

/-- A slot for each rolling lane, as far as the budget goes. -/
def claimRolls (lanes : List Nat) (rolling : List Nat) (route : RouteState Id R) :
    List (Option Nat) × RouteState Id R :=
  lanes.foldl (fun acc lane =>
    if lane ∈ rolling then
      let (claimed, route) := acc.2.claimSlots cfg.spec 1 true
      (acc.1 ++ [claimed.bind List.head?], route)
    else (acc.1 ++ [none], acc.2)) ([], route)

/-- Rolled lanes the budget no longer covers run surplus. -/
def markRolledSurplus (lanes : List Nat) (rolling : List Nat) (rollIds : List Id) (slots : List (Option Nat))
    (route : RouteState Id R) : RouteState Id R :=
  ((lanes.zip rollIds).zip slots).foldl (fun route entry =>
    if entry.1.1 ∈ rolling ∧ entry.2 = none then route.markSurplus entry.1.2 else route) route

/-- Follow the autoreset roll the env just performed with the ids pushed down:
the ended ids' completions and evictions go out, and the slots move on. -/
def roll (gid : Nat) (now : Int) (d : Driver Id R) : Driver Id R :=
  let lanes := cfg.spec.lanes gid
  let pendingRoll := (d.groups gid).pendingRoll
  let rolling := pendingRoll.map Prod.fst
  let d := d.emit ((d.groups gid).pendingCompleted.map HookEvent.episodeCompleted)
  let d := d.updateGroup gid (fun group => { group with pendingCompleted := [], pendingRoll := [] })
  let d := cfg.queueEvictions gid rolling d
  let rollIds := episodeIdsWithRoll (d.route.episodeIdsAt lanes) lanes pendingRoll
  let (slots, route) := cfg.claimRolls lanes rolling d.route
  let route := markRolledSurplus lanes rolling rollIds slots route
  let (started, route) := route.observeEpisodeIdsAt now lanes rollIds slots
  { d with route }.emit (cfg.startedEvents gid started route)

/-- Complete one episode: count it, summarise it (bounded runs only) and build
its event. Surplus episodes are passed over. -/
def completeEpisode (gid : Nat) (acc : List (EpisodeCompletedEvent Id R) × RouteState Id R)
    (metadata : EpisodeMetadata Id R) : List (EpisodeCompletedEvent Id R) × RouteState Id R :=
  if acc.2.surplus metadata.episodeId then acc
  else
    let (record, route) := acc.2.completeEpisode metadata.episodeId
    let episodeIndex := (record.map (·.index)).getD 0
    let seed := route.seedByEpisode metadata.episodeId
    let trialIndex := route.trialByEpisode metadata.episodeId
    let durationMs := max (metadata.endTimestampNs - metadata.startTimestampNs) 0 / 1000000
    let success := successFromFinalInfo editionDefaults.successInfoKeys metadata.finalInfo
    let route := if cfg.spec.maxEpisodes.isSome then route.recordEpisodeSummary {
        episodeIndex, envIndex := metadata.envIndex, seed, trialIndex, stepCount := metadata.stepCount
        cumulativeReward := metadata.cumulativeReward, terminated := metadata.terminated
        truncated := metadata.truncated, durationMs, success }
      else route
    (acc.1 ++ [{
        lane := cfg.contextLane gid, episodeId := metadata.episodeId
        episodeRecordId := (record.map (·.recordId)).getD .empty
        episodeIndex, envIndex := metadata.envIndex, stepCount := metadata.stepCount
        cumulativeReward := metadata.cumulativeReward, terminated := metadata.terminated
        truncated := metadata.truncated, durationMs, finalInfo := metadata.finalInfo, success, seed, trialIndex }],
      route)

def completeEpisodes (gid : Nat) (completed : List (EpisodeMetadata Id R)) (route : RouteState Id R) :
    List (EpisodeCompletedEvent Id R) × RouteState Id R :=
  completed.foldl (cfg.completeEpisode gid) ([], route)

/-- Complete the step's episodes. Under driver-owned resets their events and
evictions go out at once; under NEXT_STEP the events wait for the roll. -/
def complete (gid : Nat) (completed : List (EpisodeMetadata Id R)) (d : Driver Id R) : Driver Id R :=
  let (events, route) := cfg.completeEpisodes gid completed d.route
  let d := { d with route }
  if cfg.spec.driverOwnsResets then
    cfg.queueEvictions gid (completed.map (·.envIndex)) (d.emit (events.map HookEvent.episodeCompleted))
  else d.updateGroup gid (fun group => { group with pendingCompleted := group.pendingCompleted ++ events })

/-- Mint the next id of each completed lane that does not have one yet. -/
def mintRolls (gid : Nat) (lanes : List Nat) (d : Driver Id R) : Driver Id R :=
  lanes.foldl (fun d lane =>
    if lane ∈ (d.groups gid).pendingRoll.map Prod.fst then d
    else
      let id := cfg.minter.id d.mintedFor.length
      { d with mintedFor := d.mintedFor ++ [gid] }.updateGroup gid (fun group =>
        { group with pendingRoll := group.pendingRoll ++ [(lane, id)] })) d

/-- Episodes of the group completed: flush what was planned, and stage the
rolls the env performs next when it owns the resets. -/
def flushCompleted (gid : Nat) (completed : List (EpisodeMetadata Id R)) (d : Driver Id R) : Driver Id R :=
  if completed.isEmpty then d
  else
    let d := d.updateGroup gid Group.flush
    if cfg.spec.driverOwnsResets then d else cfg.mintRolls gid (completed.map (·.envIndex)) d

/-- The group has nothing scored left to run. -/
def stops (gid : Nat) (route : RouteState Id R) : Bool :=
  let budgetSpent := cfg.spec.maxEpisodes.any (fun limit => decide (asI64 limit ≤ route.totalEpisodes))
  ((!cfg.spec.laneGroup || !cfg.spec.driverOwnsResets) && budgetSpent) || route.allSurplusAt (cfg.spec.lanes gid)

/-- The group never steps again: what waited for its roll goes out now. -/
def stop (gid : Nat) (d : Driver Id R) : Driver Id R :=
  let rolling := (d.groups gid).pendingRoll.map Prod.fst
  let d := d.emit ((d.groups gid).pendingCompleted.map HookEvent.episodeCompleted)
  let d := d.updateGroup gid (fun group => { group with pendingCompleted := [], pendingRoll := [] })
  (cfg.queueEvictions gid rolling d).updateGroup gid Group.retire

/-- Account for a step that came back: its lanes advance and its event goes out. -/
def account (gid : Nat) (response : StepResponse Id R) (completed : List (EpisodeMetadata Id R)) (d : Driver Id R) :
    Driver Id R :=
  let route := d.route.recordStepAt (cfg.spec.lanes gid) response.rewards
  ({ d with route }.updateGroup gid Group.stepped).emit
    [.stepCompleted (cfg.stepEvent gid response completed (d.groups gid).pendingRoll route)]

/-- The bookkeeping of a step, up to what the group does next. -/
def settle (gid : Nat) (response : StepResponse Id R) (completed : List (EpisodeMetadata Id R)) (now : Int)
    (d : Driver Id R) : Driver Id R :=
  let rolled := !(d.groups gid).pendingRoll.isEmpty
  let d := cfg.account gid response completed d
  let d := if rolled then cfg.roll gid now d else d
  cfg.flushCompleted gid completed (cfg.complete gid completed d)

/-- Apply one group's step: account for it, complete and (per autoreset mode)
restart its finished lanes, then observe the next observation. -/
def onStep (gid : Nat) (answer : Except RuntimeError (StepResponse Id R)) (now : Int) (transformed : Transformed)
    (d : Driver Id R) : Outcome Id R :=
  match answer with
  | .error e => (d.updateGroup gid (fun group => { group with op := none }), some e)
  | .ok response =>
    let rolled := !(d.groups gid).pendingRoll.isEmpty
    let completed := cfg.completions now gid response
      (d.route.recordStepAt (cfg.spec.lanes gid) response.rewards)
    let d := cfg.settle gid response completed now d
    if cfg.stops gid d.route then (cfg.stop gid d, none)
    else if cfg.spec.driverOwnsResets && !completed.isEmpty then (cfg.beginReset gid false d, none)
    else cfg.observe gid response.observation (if rolled then response.infos else none) .stepObservation false
      transformed d

end DriverConfig

end Rlmesh.Runtime
