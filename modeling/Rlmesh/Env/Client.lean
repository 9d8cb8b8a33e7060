import Rlmesh.Env.Lanes
import Rlmesh.Lib.Runs
/-!
# The remote env client (`rlmesh/src/env/client.rs`)

`EnvClientCore` mints the episode ids of an endpoint's lanes and pushes them
with every request. A call is two halves around the exchange with the server:
the request it sends, and what it makes of the reply. The space codecs live in
another crate and are a parameter; the `info` map handed to the caller is left
out. Durations are in nanoseconds.
-/
open Rlmesh.Wire Rlmesh.Lib

set_option linter.unusedSectionVars false

namespace Rlmesh.Env

/-- Encoding and decoding of batched space values. -/
structure Codec (V : Type) where
  encode : List V → Except String Leaves
  decode : Option Leaves → Nat → Except String (List V)

inductive ClientError where
  | runtime (message : String)
  | invalidArgument (message : String)
  | environment (error : EnvError)
  | protocol (message : String)

/-- An episode as the caller sees it: the lane as an `i32`, with its duration. -/
structure PublicEpisode (Id R : Type) where
  metadata : EpisodeMetadata Id R
  envIndex : Nat
  durationMs : Int

structure VectorResetRequest (R : Type) where
  seeds : List Int
  options : Option (MetaMap R)
  timeoutMs : Int
  envIndices : List Int

structure VectorStepRequest (V : Type) where
  actions : List V
  timeoutMs : Int

structure VectorResetResult (V Id : Type) where
  observations : List V
  episodeIds : List Id

structure VectorStepResult (V Id R : Type) where
  observations : List V
  rewards : List R
  terminated : List Bool
  truncated : List Bool
  episodeIds : List Id
  completedEpisodes : List (PublicEpisode Id R)

structure EnvClientCore (Id : Type) where
  numEnvs : Nat
  autoresetMode : AutoresetMode
  episodeIds : List Id
  requestTimeout : Option Nat
  closed : Bool
  name : String
  /-- How many ids were drawn from the id source. -/
  minted : Nat

variable {Id R V : Type}

/-- The wire `timeout_ms`: rounded up to whole milliseconds, 0 for none. -/
def wireTimeoutMs (timeout : Option Nat) : Nat :=
  match timeout with
  | some ns => min ((ns + 999999) / 1000000) (2 ^ 64 - 1)
  | none => 0

/-- A lane index for the wire (`uint32`). -/
def wireLane (index : Nat) : Except ClientError Nat :=
  if index < 2 ^ 32 then .ok index
  else .error (.invalidArgument s!"env_index {index} is out of range: lane indices are at most {2 ^ 32 - 1}")

/-- A caller's lane, which may not be negative. -/
def callerLane (index : Int) : Except ClientError Nat :=
  if index < 0 then
    .error (.invalidArgument s!"partial reset: env_index {index} must be a non-negative lane offset")
  else wireLane index.toNat

def validateActionCount (actions : List V) (numEnvs : Nat) : Except EnvError Unit :=
  if actions.length = numEnvs then .ok ()
  else .error (.new .invalidAction s!"expected {numEnvs} actions, got {actions.length}")

def validateCount (count numEnvs : Nat) (label : String) : Except EnvError Unit :=
  if count = numEnvs then .ok ()
  else .error (.new .internal s!"env returned {count} {label} for {numEnvs} envs")

/-- `proto_episode_metadata_to_public`: a lane past `i32::MAX` is clamped. -/
def episodeMetadataToPublic (value : EpisodeMetadata Id R) : PublicEpisode Id R :=
  { metadata := value
    envIndex := min value.envIndex (2 ^ 31 - 1)
    durationMs := max (value.endTimestampNs - value.startTimestampNs) 0 / 1000000 }

/-- Put each of `pushed` on the lane at its position; lanes the list does not have are skipped. -/
def pushIds (ids : List Id) (lanes : List Nat) (pushed : List Id) : List Id :=
  (lanes.zip pushed).foldl (fun ids entry => ids.set entry.1 entry.2) ids

/-- The reply a reset expects (`EnvClient::reset`). -/
def expectReset : JoinResponse Id R → Except ClientError (ResetResponse R)
  | .reset response => .ok response
  | .error e => .error (.environment e)
  | _ => .error (.protocol "ResetResponse")

/-- The reply a step expects (`EnvClient::step`). -/
def expectStep : JoinResponse Id R → Except ClientError (StepResponse Id R)
  | .step response => .ok response
  | .error e => .error (.environment e)
  | _ => .error (.protocol "StepResponse")

namespace EnvClientCore

variable [Inhabited Id]

/-- A connected client: no lane has an episode yet. -/
def connect (numEnvs : Nat) (autoresetMode : AutoresetMode) (name : String) : EnvClientCore Id :=
  { numEnvs, autoresetMode, name
    episodeIds := List.replicate numEnvs default
    requestTimeout := none
    closed := false
    minted := 0 }

def checkOpen (client : EnvClientCore Id) : Except ClientError Unit :=
  if client.closed then .error (.runtime s!"{client.name} is closed") else .ok ()

/-- The bound for one call: its own `timeout_ms` when set, else the client's. -/
def callTimeout (client : EnvClientCore Id) (timeoutMs : Int) : Option Nat :=
  if 0 < timeoutMs then some (timeoutMs.toNat * 1000000) else client.requestTimeout

/-- `count` fresh ids. -/
def mintIds (minter : Minter Id) (client : EnvClientCore Id) (count : Nat) : List Id :=
  (List.range count).map (fun k => minter.id (client.minted + k))

/-- Mint ids for the lanes a reset starts, and the request that pushes them. -/
def resetLanes (minter : Minter Id) (client : EnvClientCore Id) (seeds : List Int) (options : Option (MetaMap R))
    (envIndices : List Nat) (timeout : Option Nat) : EnvClientCore Id × ResetRequest Id R :=
  let count := if envIndices.isEmpty then client.numEnvs else envIndices.length
  let pushedIds := client.mintIds minter count
  let episodeIds :=
    if envIndices.isEmpty then pushedIds
    else pushIds client.episodeIds envIndices pushedIds
  ({ client with episodeIds, minted := client.minted + count },
    { seeds, options, timeoutMs := wireTimeoutMs timeout, envIndices, episodeIds := pushedIds })

/-- The request of a reset, with the client as it is while the request is out. -/
def reset (minter : Minter Id) (client : EnvClientCore Id) (req : VectorResetRequest R) :
    Except ClientError (EnvClientCore Id × ResetRequest Id R) := do
  client.checkOpen
  let envIndices ← req.envIndices.mapM callerLane
  return client.resetLanes minter req.seeds req.options envIndices (client.callTimeout req.timeoutMs)

/-- What a reset makes of its reply; the client does not change any more. -/
def onResetReply (codec : Codec V) (client : EnvClientCore Id) (reply : JoinResponse Id R) :
    Except ClientError (VectorResetResult V Id) := do
  let response ← expectReset reply
  let observations ← (codec.decode response.observation client.numEnvs).mapError .protocol
  (validateCount observations.length client.numEnvs "observations").mapError .environment
  return { observations, episodeIds := client.episodeIds }

/-- The request of a step: full width, with the ids the client holds. -/
def step (codec : Codec V) (client : EnvClientCore Id) (req : VectorStepRequest V) :
    Except ClientError (StepRequest Id) := do
  client.checkOpen
  (validateActionCount req.actions client.numEnvs).mapError .environment
  let action ← (codec.encode req.actions).mapError .invalidArgument
  return {
    action := some action
    timeoutMs := wireTimeoutMs (client.callTimeout req.timeoutMs)
    envIndices := []
    episodeIds := client.episodeIds }

/-- The transition a step reply carries, checked against the endpoint's width. -/
def stepResultOf (codec : Codec V) (client : EnvClientCore Id) (reply : JoinResponse Id R) :
    Except ClientError (VectorStepResult V Id R) := do
  let response ← expectStep reply
  let observations ← (codec.decode response.observation client.numEnvs).mapError .protocol
  let terminated := response.terminatedMask.map (· != 0)
  let truncated := response.truncatedMask.map (· != 0)
  (validateCount observations.length client.numEnvs "observations").mapError .environment
  (validateCount terminated.length client.numEnvs "terminated values").mapError .environment
  (validateCount truncated.length client.numEnvs "truncated values").mapError .environment
  (validateCount response.rewards.length client.numEnvs "rewards values").mapError .environment
  return {
    observations, rewards := response.rewards, terminated, truncated
    episodeIds := client.episodeIds
    completedEpisodes := response.completedEpisodes.map episodeMetadataToPublic }

/-- Give every lane a step completed a fresh id. -/
def rollIds (minter : Minter Id) (client : EnvClientCore Id) (completed : List (PublicEpisode Id R)) :
    EnvClientCore Id :=
  { client with
    episodeIds := pushIds client.episodeIds (completed.map (·.envIndex)) (client.mintIds minter completed.length)
    minted := client.minted + completed.length }

/-- What a step makes of its reply. Under NEXT_STEP the env adopts a completed
lane's fresh id on the next step, so it is rolled now. -/
def onStepReply (minter : Minter Id) (codec : Codec V) (client : EnvClientCore Id) (reply : JoinResponse Id R) :
    Except ClientError (VectorStepResult V Id R) × EnvClientCore Id :=
  match client.stepResultOf codec reply with
  | .ok result =>
    (.ok result,
      if client.autoresetMode = .nextStep then client.rollIds minter result.completedEpisodes else client)
  | .error e => (.error e, client)

end EnvClientCore

/-! ## The ids after a call -/

/-- The loop of `pushIds`, over lists of one length. -/
def pushLoop (width : Nat) : KeyedLoop (List Id) Nat Id (Option Id) where
  body ids entry := ids.set entry.1 entry.2
  view ids lane := ids[lane]?
  change lane id _ := if lane < width then some id else none
  inv ids := ids.length = width
  keeps ids entry h := by rw [List.length_set, h]
  changes ids entry h lane := by
    rw [List.getElem?_set]
    by_cases hl : lane = entry.1
    · subst hl
      rw [if_pos rfl, if_pos rfl, h]
    · rw [if_neg hl, if_neg (fun he => hl he.symm)]

theorem pushIds_length (ids : List Id) (lanes : List Nat) (pushed : List Id) :
    (pushIds ids lanes pushed).length = ids.length :=
  (pushLoop ids.length : KeyedLoop (List Id) Nat Id _).foldl_inv (lanes.zip pushed) rfl

theorem pushIds_of_notMem (ids : List Id) {lanes : List Nat} (pushed : List Id) {lane : Nat} (h : lane ∉ lanes) :
    (pushIds ids lanes pushed)[lane]? = ids[lane]? := by
  apply (pushLoop ids.length).view_of_notMem rfl
  intro hm
  obtain ⟨entry, he, rfl⟩ := List.mem_map.1 hm
  exact h (List.of_mem_zip he).1

theorem pushIds_of_mem {ids : List Id} {lanes : List Nat} {pushed : List Id} (hn : lanes.Nodup)
    (hlen : pushed.length = lanes.length) {lane pos : Nat} (h : (lane, pos) ∈ lanes.zipIdx)
    (hl : lane < ids.length) : (pushIds ids lanes pushed)[lane]? = pushed[pos]? := by
  have hpos : lanes[pos]? = some lane := List.mem_zipIdx_iff_getElem?.1 h
  have hlt : pos < pushed.length := by rw [hlen]; exact (List.getElem?_eq_some_iff.1 hpos).1
  have hmem : (lane, pushed[pos]) ∈ lanes.zip pushed := by
    apply List.mem_of_getElem? (i := pos)
    rw [List.getElem?_zip_eq_some]
    exact ⟨hpos, List.getElem?_eq_getElem hlt⟩
  have hkeys : ((lanes.zip pushed).map Prod.fst).Nodup := by
    rw [List.map_fst_zip (by omega)]
    exact hn
  rw [List.getElem?_eq_getElem hlt]
  exact ((pushLoop ids.length).view_of_mem rfl hkeys hmem).trans (if_pos hl)

namespace EnvClientCore

variable [Inhabited Id] (minter : Minter Id)

theorem mintIds_length (client : EnvClientCore Id) (count : Nat) : (client.mintIds minter count).length = count := by
  simp [mintIds]

theorem reset_ok {client client' : EnvClientCore Id} {req : VectorResetRequest R} {request : ResetRequest Id R}
    (h : client.reset minter req = .ok (client', request)) :
    ∃ envIndices, client.resetLanes minter req.seeds req.options envIndices (client.callTimeout req.timeoutMs) =
      (client', request) := by
  unfold reset at h
  cases ho : client.checkOpen with
  | error e => rw [ho] at h; cases h
  | ok _ =>
    rw [ho] at h
    cases hl : req.envIndices.mapM callerLane with
    | error e => rw [hl] at h; cases h
    | ok envIndices =>
      rw [hl] at h
      exact ⟨envIndices, Except.ok.inj h⟩

theorem stepResultOf_ok {codec : Codec V} {client : EnvClientCore Id} {reply : JoinResponse Id R}
    {result : VectorStepResult V Id R} (h : client.stepResultOf codec reply = .ok result) :
    result.completedEpisodes = reply.episodes.map episodeMetadataToPublic := by
  unfold stepResultOf at h
  cases reply with
  | step response =>
    simp only [expectStep, bind, Except.bind] at h
    repeat' split at h
    all_goals try cases h
    rfl
  | reset _ => cases h
  | render _ => cases h
  | close _ => cases h
  | configure => cases h
  | error _ => cases h

/-- After a reset's request the client holds what it pushed to the lanes it covers. -/
theorem resetLanes_ids {cfg : ServerConfig} {client : EnvClientCore Id} (hnum : client.numEnvs = cfg.numEnvs)
    (hwidth : client.episodeIds.length = cfg.numEnvs) (seeds : List Int) (options : Option (MetaMap R))
    (envIndices : List Nat) (timeout : Option Nat) :
    (client.resetLanes minter seeds options envIndices timeout).1.episodeIds.length = cfg.numEnvs ∧
    (ValidLanes cfg envIndices → ∀ lane pos, (lane, pos) ∈ (coveredLanes cfg envIndices).zipIdx →
      (client.resetLanes minter seeds options envIndices timeout).1.episodeIds[lane]? =
        some ((client.resetLanes minter seeds options envIndices timeout).2.episodeIds[pos]?.getD default)) ∧
    (∀ lane ∉ coveredLanes cfg envIndices, lane < cfg.numEnvs →
      (client.resetLanes minter seeds options envIndices timeout).1.episodeIds[lane]? = client.episodeIds[lane]?) := by
  cases hi : envIndices.isEmpty with
  | true =>
    simp only [resetLanes, hi, if_true, coveredLanes]
    refine ⟨by rw [mintIds_length, hnum], ?_, ?_⟩
    · intro hvalid lane pos hmem
      have hrange : (List.range cfg.numEnvs)[pos]? = some lane := List.mem_zipIdx_iff_getElem?.1 hmem
      obtain ⟨hpos, rfl⟩ := List.getElem?_eq_some_iff.1 hrange
      rw [List.length_range] at hpos
      have hlt : pos < (client.mintIds minter client.numEnvs).length := by rw [mintIds_length, hnum]; exact hpos
      rw [List.getElem_range, List.getElem?_eq_getElem hlt, Option.getD_some]
    · intro lane hlane hlt
      exact absurd (List.mem_range.2 hlt) hlane
  | false =>
    simp only [resetLanes, hi, Bool.false_eq_true, if_false, coveredLanes, pushIds_length]
    refine ⟨hwidth, ?_, ?_⟩
    · intro hvalid lane pos hmem
      simp only [ValidLanes, coveredLanes, hi, Bool.false_eq_true, if_false] at hvalid
      have hlane : lane ∈ envIndices := List.fst_mem_of_mem_zipIdx hmem
      have hpos : envIndices[pos]? = some lane := List.mem_zipIdx_iff_getElem?.1 hmem
      have hlt : pos < (client.mintIds minter envIndices.length).length := by
        rw [mintIds_length]; exact (List.getElem?_eq_some_iff.1 hpos).1
      rw [pushIds_of_mem hvalid.1 (mintIds_length minter client _) hmem (by rw [hwidth]; exact hvalid.2 lane hlane),
        List.getElem?_eq_getElem hlt, Option.getD_some]
    · intro lane hlane _
      exact pushIds_of_notMem _ _ hlane

/-- A step reply leaves the ids of lanes it does not report as they were. -/
theorem onStepReply_ids (codec : Codec V) (client : EnvClientCore Id) (reply : JoinResponse Id R) :
    (client.onStepReply minter codec reply).2.numEnvs = client.numEnvs ∧
    (client.onStepReply minter codec reply).2.autoresetMode = client.autoresetMode ∧
    (client.onStepReply minter codec reply).2.episodeIds.length = client.episodeIds.length ∧
    ∀ lane, (client.autoresetMode = .nextStep → ∀ metadata ∈ reply.episodes, min metadata.envIndex (2 ^ 31 - 1) ≠ lane) →
      (client.onStepReply minter codec reply).2.episodeIds[lane]? = client.episodeIds[lane]? := by
  unfold onStepReply
  cases hr : client.stepResultOf codec reply with
  | error e => exact ⟨rfl, rfl, rfl, fun _ _ => rfl⟩
  | ok result =>
    by_cases hm : client.autoresetMode = .nextStep
    · simp only [hm, if_true, rollIds, pushIds_length, true_and, true_implies]
      intro lane hlane
      have hcompleted : result.completedEpisodes = reply.episodes.map episodeMetadataToPublic := stepResultOf_ok hr
      apply pushIds_of_notMem
      rw [hcompleted]
      simp only [List.map_map, List.mem_map, Function.comp_apply, episodeMetadataToPublic, not_exists, not_and]
      exact fun metadata hmem => hlane metadata hmem
    · dsimp only
      rw [if_neg hm]
      exact ⟨rfl, rfl, rfl, fun _ _ => rfl⟩

theorem step_ok {codec : Codec V} {client : EnvClientCore Id} {req : VectorStepRequest V} {request : StepRequest Id}
    (h : client.step codec req = .ok request) : request.envIndices = [] ∧ request.episodeIds = client.episodeIds := by
  unfold step at h
  cases ho : client.checkOpen with
  | error e => rw [ho] at h; cases h
  | ok _ =>
    rw [ho] at h
    cases hv : validateActionCount req.actions client.numEnvs with
    | error e => rw [hv] at h; cases h
    | ok _ =>
      rw [hv] at h
      cases ha : codec.encode req.actions with
      | error e => rw [ha] at h; cases h
      | ok action =>
        rw [ha] at h
        obtain rfl := Except.ok.inj h
        exact ⟨rfl, rfl⟩

end EnvClientCore

end Rlmesh.Env
