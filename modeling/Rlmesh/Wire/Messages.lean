import Rlmesh.Wire.Meta
/-!
# The messages of the env and model services

The fields of `rlmesh.env.v1` and `rlmesh.model.v1` the runtime and the env
server read. Episode ids are any type `Id` whose `default` is the empty string
of the wire; nothing but equality is ever asked of them. Lane numbers (`uint32`)
and counts are naturals. Latency fields are left out.
-/

namespace Rlmesh.Wire

/-- Opaque per-leaf wire bytes (`Vec<Bytes>`). -/
abbrev Leaves := List (List UInt8)

inductive AutoresetMode where
  | unspecified
  | nextStep
  | sameStep
  | disabled
  deriving DecidableEq, Repr

/-- `AutoresetMode::try_from` of the wire value. -/
def AutoresetMode.ofWire : Int → Option AutoresetMode
  | 0 => some .unspecified
  | 1 => some .nextStep
  | 2 => some .sameStep
  | 3 => some .disabled
  | _ => none

/-- An id source (`Uuid::now_v7`): the ids a process draws, one after the
other. They never repeat and are never the empty string. -/
structure Minter (Id : Type) [Inhabited Id] where
  id : Nat → Id
  injective : Function.Injective id
  nonempty : ∀ n, id n ≠ default

/-- Numbers as ids, 0 being the empty string. -/
def Minter.nat : Minter Nat where
  id n := n + 1
  injective _ _ h := Nat.succ.inj h
  nonempty := Nat.succ_ne_zero

/-! ## Environment -/

structure EpisodeMetadata (Id R : Type) where
  episodeId : Id
  seed : Option Int
  envIndex : Nat
  stepCount : Int
  cumulativeReward : R
  terminated : Bool
  truncated : Bool
  startTimestampNs : Int
  endTimestampNs : Int
  finalInfo : Option (MetaMap R)

structure ResetRequest (Id R : Type) where
  seeds : List Int
  options : Option (MetaMap R)
  timeoutMs : Nat
  envIndices : List Nat
  episodeIds : List Id

structure StepRequest (Id : Type) where
  action : Option Leaves
  timeoutMs : Nat
  envIndices : List Nat
  episodeIds : List Id

structure ResetResponse (R : Type) where
  observation : Option Leaves
  infos : Option (MetaMap R)

structure StepResponse (Id R : Type) where
  observation : Option Leaves
  rewards : List R
  terminatedMask : List UInt8
  truncatedMask : List UInt8
  infos : Option (MetaMap R)
  completedEpisodes : List (EpisodeMetadata Id R)
  envIndices : List Nat

inductive EnvErrorCode where
  | unspecified
  | timeout
  | invalidAction
  | notReady
  | busy
  | unsupported
  | internal
  | crashed
  | cancelled
  | closed
  deriving DecidableEq, Repr

structure EnvError where
  code : EnvErrorCode
  message : String
  isRecoverable : Bool
  debugInfo : Option String
  deriving DecidableEq, Repr

/-- `EnvError::new`: the code decides whether the error is recoverable. -/
def EnvError.new (code : EnvErrorCode) (message : String) : EnvError :=
  { code, message, debugInfo := none
    isRecoverable := match code with
      | .timeout | .invalidAction | .notReady | .busy | .unsupported => true
      | _ => false }

structure RenderResponse where
  frame : Option (List UInt8)

/-- `JoinRequest.kind`, with `empty` for an absent kind. -/
inductive JoinRequest (Id R : Type) where
  | reset (request : ResetRequest Id R)
  | step (request : StepRequest Id)
  | render (timeoutMs : Nat) (envIndices : List Nat)
  | close (reason : String)
  | configure (selectedWorkflowEdition : String)
  | empty

inductive JoinResponse (Id R : Type) where
  | reset (response : ResetResponse R)
  | step (response : StepResponse Id R)
  | render (response : RenderResponse)
  | close (finalEpisodes : List (EpisodeMetadata Id R))
  | configure
  | error (error : EnvError)

/-- The reply is an error. -/
def JoinResponse.isError {Id R : Type} : JoinResponse Id R → Bool
  | .error _ => true
  | _ => false

/-- The episodes a reply reports: a step's `completed_episodes`, a close's `final_episodes`. -/
def JoinResponse.episodes {Id R : Type} : JoinResponse Id R → List (EpisodeMetadata Id R)
  | .step response => response.completedEpisodes
  | .close finalEpisodes => finalEpisodes
  | _ => []

/-! ## Model -/

/-- What a request was built for; the second part of its `request_id`. -/
inductive RequestPhase where
  | resetObservation
  | stepObservation
  | resetAdapter
  | releaseAdapter
  deriving DecidableEq, Repr

/-- The parts `next_request_id` joins into `{env_id}:{phase}:{seq:06}`. -/
structure RequestId where
  envId : String
  phase : RequestPhase
  seq : Nat
  deriving DecidableEq, Repr

structure AdapterContext where
  sessionId : String
  envId : String
  requestId : RequestId
  deriving DecidableEq, Repr

structure EpisodeInfo (Id : Type) where
  episodeId : Id
  seed : Option Int

structure ObservationHistoryFrame (Id : Type) where
  observation : Option Leaves
  episodeInfo : List (EpisodeInfo Id)
  step : Int

structure PredictRequest (Id : Type) where
  context : Option AdapterContext
  observation : Option Leaves
  episodeInfo : List (EpisodeInfo Id)
  history : List (ObservationHistoryFrame Id)
  step : Option Int

structure PredictResponse where
  context : Option AdapterContext
  actions : List Leaves

structure ResetAdapterRequest (Id : Type) where
  context : Option AdapterContext
  episodeIds : List Id

end Rlmesh.Wire
