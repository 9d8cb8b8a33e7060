import Rlmesh.Runtime.Route
/-!
# Hook events and errors (`rlmesh-runtime/src/hooks/events.rs`, `driver/error.rs`)

The payloads the driver hands to the session's hooks, with the session identity
left out of each, and the errors a run ends with. Spaces, telemetry snapshots,
log lines and latencies are left out.
-/
open Rlmesh.Wire

namespace Rlmesh.Runtime

structure EpisodeStartedEvent (Id : Type) where
  lane : Option Nat
  episodeId : Id
  episodeRecordId : RecordId
  episodeIndex : Int
  envIndex : Nat
  startedFromAutoReset : Bool
  seed : Option Int
  trialIndex : Option Nat

structure EpisodeCompletedEvent (Id R : Type) where
  lane : Option Nat
  episodeId : Id
  episodeRecordId : RecordId
  episodeIndex : Int
  envIndex : Nat
  stepCount : Int
  cumulativeReward : R
  terminated : Bool
  truncated : Bool
  durationMs : Int
  finalInfo : Option (MetaMap R)
  success : Option Bool
  seed : Option Int
  trialIndex : Option Nat

structure ActionReceivedEvent (Id : Type) where
  lane : Option Nat
  episodeId : Id
  episodeRecordId : RecordId
  episodeIds : List Id
  episodeRecordIds : List RecordId
  step : Int
  envIndex : Nat
  action : Option Leaves
  rawAction : Option Leaves

structure StepCompletedEvent (Id R : Type) where
  lane : Option Nat
  episodeId : Id
  episodeRecordId : RecordId
  step : Int
  envIndex : Nat
  rewards : List R
  infos : Option (MetaMap R)
  terminated : List Bool
  truncated : List Bool
  autoresetRoll : List Bool

structure ObservationEmittedEvent (Id R : Type) where
  lane : Option Nat
  episodeId : Id
  episodeRecordId : RecordId
  episodeIds : List Id
  episodeRecordIds : List RecordId
  step : Int
  envIndex : Nat
  isReset : Bool
  numEnvs : Nat
  observation : Option Leaves
  rawObservation : Option Leaves
  infos : Option (MetaMap R)

/-- What the hooks are called with, the two transforms included. -/
inductive HookEvent (Id R : Type) where
  | sessionStarted
  | episodeStarted (event : EpisodeStartedEvent Id)
  | transformAction (event : ActionReceivedEvent Id)
  | actionReceived (event : ActionReceivedEvent Id)
  | stepCompleted (event : StepCompletedEvent Id R)
  | transformObservation (event : ObservationEmittedEvent Id R)
  | observationEmitted (event : ObservationEmittedEvent Id R)
  | episodeCompleted (event : EpisodeCompletedEvent Id R)
  | sessionEnded (reason : String) (totalSteps totalEpisodes : Int)
  | sessionFailed

/-- What the driver itself reports as `RuntimeError::Protocol`. -/
inductive ProtocolError where
  | stalled (envId : String)
  | backlog (envId : String) (rows : Nat)
  | answered (modelComponentId : String) (results requests : Nat)
  | noActions (modelComponentId : String)
  | envTask (message : String)
  | relay (message : String)
  deriving DecidableEq, Repr

def ProtocolError.text : ProtocolError → String
  | .stalled envId => s!"route {envId} stalled with no operation in flight"
  | .backlog envId rows =>
    s!"route {envId} buffered {rows} observation-history rows without a predict: the model endpoint returned a chunk longer than any execution horizon the runtime supports"
  | .answered modelComponentId results requests =>
    s!"model endpoint {modelComponentId} answered {results} of {requests} grouped predicts"
  | .noActions modelComponentId =>
    s!"model endpoint {modelComponentId} returned a predict response with no actions"
  | .envTask message => s!"env operation task failed: {message}"
  | .relay message => message

/-- How a run fails. `panicked` stands for an assertion of the driver that does
not hold (`expect`, `unreachable!`). -/
inductive RuntimeError where
  | invalidSpec (message : String)
  | routeCancelled (routeId : String) (step : Int) (reason : String)
  | env (message : String)
  | model (message : String)
  | modelRouteMismatch (componentId : String) (requestId : Option RequestId)
  | protocol (error : ProtocolError)
  | hook (message : String)
  | panicked
  deriving DecidableEq, Repr

end Rlmesh.Runtime
