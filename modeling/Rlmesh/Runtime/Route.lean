import Rlmesh.Runtime.Spec
/-!
# The route's bookkeeping (`rlmesh-runtime/src/state/route.rs`, `episodes.rs`)

Slots are per lane, and a lane's slot position is its lane number. Episode
indices and seeds come from the route-global slot counter. The hash maps are
functions; the latency sums of a slot are left out. `completed` lists the ids
handed to `completeEpisode`, which the source only counts.
-/
open Rlmesh.Wire

namespace Rlmesh.Runtime

/-- `ep-{index:06}`, or the empty string. -/
inductive RecordId where
  | empty
  | ep (index : Int)
  deriving DecidableEq, Repr

/-- One episode's session-global identity. -/
structure EpisodeRecord where
  recordId : RecordId
  index : Int
  envIndex : Nat
  startedFromAutoReset : Bool
  deriving DecidableEq, Repr

structure EpisodeState (Id : Type) where
  episodeId : Id
  episodeRecordId : RecordId
  episodeIndex : Int
  startedFromAutoReset : Bool
  /-- A predict request has carried this episode. -/
  predicted : Bool
  /-- The episode's end has been queued for the model. -/
  ended : Bool

structure SlotState (Id R : Type) where
  episode : Option (EpisodeState Id)
  step : Int
  reset : Bool
  cumulativeReward : R
  startedAtNs : Int

structure StartedEpisode (Id : Type) where
  episodeId : Id
  record : EpisodeRecord

structure RouteSnapshot (Id : Type) where
  episodeId : Id
  episodeRecordId : RecordId
  episodeIds : List Id
  episodeRecordIds : List RecordId
  step : Int
  envIndex : Nat
  reset : Bool

structure EpisodeSummary (R : Type) where
  episodeIndex : Int
  envIndex : Nat
  seed : Option Int
  trialIndex : Option Nat
  stepCount : Int
  cumulativeReward : R
  terminated : Bool
  truncated : Bool
  durationMs : Int
  success : Option Bool

structure RouteState (Id R : Type) where
  slots : Nat → SlotState Id R
  requestSeq : Nat
  totalSteps : Int
  totalEpisodes : Int
  /-- The registry's running count. -/
  nextIndex : Int
  records : Id → Option EpisodeRecord
  episodeSummaries : List (EpisodeSummary R)
  seedByEpisode : Id → Option Int
  nextSlot : Nat
  trialByEpisode : Id → Option Nat
  trialCursor : Nat
  surplus : Id → Bool
  completed : List Id

/-- `u64 as i64`. -/
def asI64 (n : Nat) : Int := Int.bmod n (2 ^ 64)

namespace RouteState

variable {Id R : Type} [DecidableEq Id] [Inhabited Id] [Zero R] [Add R]

def new (now : Int) : RouteState Id R :=
  { slots := fun _ => { episode := none, step := 0, reset := true, cumulativeReward := 0, startedAtNs := now }
    requestSeq := 0, totalSteps := 0, totalEpisodes := 0, nextIndex := 0, records := fun _ => none
    episodeSummaries := [], seedByEpisode := fun _ => none, nextSlot := 0, trialByEpisode := fun _ => none
    trialCursor := 0, surplus := fun _ => false, completed := [] }

/-! ## Reading -/

/-- The id a slot holds, the empty string for none. -/
def slotId (route : RouteState Id R) (lane : Nat) : Id :=
  ((route.slots lane).episode.map (·.episodeId)).getD default

def slotRecordId (route : RouteState Id R) (lane : Nat) : RecordId :=
  ((route.slots lane).episode.map (·.episodeRecordId)).getD .empty

/-- The slot of a lane a peer named, if the route has it. -/
def slotPosition (spec : RuntimeSessionSpec R) (envIndex : Nat) : Option Nat :=
  if envIndex < spec.width then some envIndex else none

/-- The episode id the slot at `envIndex` holds. -/
def episodeIdAt (route : RouteState Id R) (spec : RuntimeSessionSpec R) (envIndex : Nat) : Option Id :=
  (slotPosition spec envIndex).bind (fun position => (route.slots position).episode.map (·.episodeId))

/-- Ordered per-row episode ids for a group. -/
def episodeIdsAt (route : RouteState Id R) (lanes : List Nat) : List Id := lanes.map route.slotId

def snapshotAt (route : RouteState Id R) (lanes : List Nat) : RouteSnapshot Id :=
  { episodeId := (lanes.head?.map route.slotId).getD default
    episodeRecordId := (lanes.head?.map route.slotRecordId).getD .empty
    episodeIds := route.episodeIdsAt lanes
    episodeRecordIds := lanes.map route.slotRecordId
    step := (lanes.head?.map (fun lane => (route.slots lane).step)).getD 0
    envIndex := lanes.head?.getD 0
    reset := (lanes.head?.map (fun lane => (route.slots lane).reset)).getD false }

/-- Every lane holds a surplus episode. -/
def allSurplusAt (route : RouteState Id R) (lanes : List Nat) : Bool :=
  lanes.all (fun lane => match (route.slots lane).episode with
    | some episode => route.surplus episode.episodeId
    | none => false)

/-! ## Claims -/

/-- Claim the next `count` slots; a `bounded` claim past the budget is refused. -/
def claimSlots (route : RouteState Id R) (spec : RuntimeSessionSpec R) (count : Nat) (bounded : Bool) :
    Option (List Nat) × RouteState Id R :=
  let last := route.nextSlot + count
  if bounded && spec.maxEpisodes.any (fun max => last > max) then (none, route)
  else (some (List.range' route.nextSlot count), { route with nextSlot := last })

/-- Claim up to `count` slots: as many as the budget still holds. -/
def claimSlotsUpto (route : RouteState Id R) (spec : RuntimeSessionSpec R) (count : Nat) :
    List Nat × RouteState Id R :=
  let remaining := match spec.maxEpisodes with
    | some max => max - route.nextSlot
    | none => count
  (List.range' route.nextSlot (min count remaining), { route with nextSlot := route.nextSlot + min count remaining })

/-- Claim the next `lanes` trial ordinals off `base`. -/
def claimTrialIndices (route : RouteState Id R) (base lanes : Nat) : List Nat × RouteState Id R :=
  (List.range' (min (base + route.trialCursor) (2 ^ 64 - 1)) lanes,
    { route with trialCursor := route.trialCursor + lanes })

def noteEpisodeTrials (route : RouteState Id R) (ids : List Id) (trials : List Nat) : RouteState Id R :=
  let note := fun (table : Id → Option Nat) (entry : Id × Nat) => Function.update table entry.1 (some entry.2)
  { route with trialByEpisode := (ids.zip trials).foldl note route.trialByEpisode }

def noteEpisodeSeeds (route : RouteState Id R) (ids : List Id) (seeds : List Int) : RouteState Id R :=
  let note := fun (table : Id → Option Int) (entry : Id × Int) => Function.update table entry.1 (some entry.2)
  { route with seedByEpisode := (ids.zip seeds).foldl note route.seedByEpisode }

def markSurplus (route : RouteState Id R) (id : Id) : RouteState Id R :=
  { route with surplus := Function.update route.surplus id true }

/-! ## Starting episodes -/

/-- One id of `ensure_for_slots`: its record, made when the id is new. -/
def ensureRecord (auto : Bool) (indices : List (Option Int))
    (acc : RouteState Id R × List RecordId × List (StartedEpisode Id)) (entry : Id × Nat) :
    RouteState Id R × List RecordId × List (StartedEpisode Id) :=
  let (route, recordIds, started) := acc
  if entry.1 = default then (route, recordIds ++ [.empty], started)
  else match route.records entry.1 with
    | some existing => (route, recordIds ++ [existing.recordId], started)
    | none =>
      let nextIndex := route.nextIndex + 1
      let index := (indices[entry.2]?.join).getD nextIndex
      -- The position in the id list stands for the lane.
      let record := { recordId := .ep index, index, envIndex := entry.2, startedFromAutoReset := auto }
      ({ route with nextIndex, records := Function.update route.records entry.1 (some record) },
        recordIds ++ [record.recordId], started ++ [{ episodeId := entry.1, record }])

/-- `EpisodeRecordRegistry::ensure_for_slots`. -/
def ensureForSlots (route : RouteState Id R) (ids : List Id) (auto : Bool) (indices : List (Option Int)) :
    RouteState Id R × List RecordId × List (StartedEpisode Id) :=
  ids.zipIdx.foldl (ensureRecord auto indices) (route, [], [])

/-- A slot brought to `id`: a flipped id, or `resetSteps`, starts it afresh. -/
def syncedSlot (records : Id → Option EpisodeRecord) (id : Id) (recordId : RecordId) (resetSteps auto : Bool)
    (now : Int) (slot : SlotState Id R) : SlotState Id R :=
  let previousId := (slot.episode.map (·.episodeId)).getD default
  let rolled := id ≠ default ∧ id ≠ previousId
  let kept := slot.episode.filter (fun previous => previous.episodeId = id)
  let episode := if id = default then none else some {
    episodeId := id
    episodeRecordId := recordId
    episodeIndex := ((records id).map (·.index)).getD 0
    startedFromAutoReset := auto
    predicted := kept.any (·.predicted)
    ended := kept.any (·.ended) }
  if resetSteps ∨ rolled then { episode, step := 0, reset := true, cumulativeReward := 0, startedAtNs := now }
  else { slot with episode }

/-- Drop what is kept under an id its slot leaves. -/
def forget (route : RouteState Id R) (id : Id) : RouteState Id R :=
  { route with
    seedByEpisode := Function.update route.seedByEpisode id none
    trialByEpisode := Function.update route.trialByEpisode id none
    surplus := Function.update route.surplus id false }

/-- One lane of `sync_slots`. -/
def syncSlot (ids : List Id) (recordIds : List RecordId) (resetSteps auto : Bool) (now : Int)
    (route : RouteState Id R) (entry : Nat × Nat) : RouteState Id R :=
  let id := ids[entry.2]?.getD default
  let previousId := route.slotId entry.1
  let swept := if id ≠ default ∧ id ≠ previousId ∧ previousId ≠ default then route.forget previousId else route
  let slot := syncedSlot route.records id (recordIds[entry.2]?.getD .empty) resetSteps auto now (route.slots entry.1)
  { swept with slots := Function.update route.slots entry.1 slot }

def syncSlots (route : RouteState Id R) (lanes : List Nat) (ids : List Id) (recordIds : List RecordId)
    (resetSteps auto : Bool) (now : Int) : RouteState Id R :=
  lanes.zipIdx.foldl (syncSlot ids recordIds resetSteps auto now) route

/-- Start one episode per lane (a driver-owned reset) at the claimed slots. -/
def startEpisodesAt (route : RouteState Id R) (now : Int) (lanes : List Nat) (ids : List Id) (auto : Bool)
    (slots : List Nat) : List (StartedEpisode Id) × RouteState Id R :=
  let indices := lanes.zipIdx.map (fun entry => slots[entry.2]?.map (fun slot => asI64 slot + 1))
  let (route, recordIds, started) := route.ensureForSlots ids auto indices
  (started, route.syncSlots lanes ids recordIds true auto now)

/-- Follow the env's own roll: a lane whose id changed starts at its slot. -/
def observeEpisodeIdsAt (route : RouteState Id R) (now : Int) (lanes : List Nat) (ids : List Id)
    (slots : List (Option Nat)) : List (StartedEpisode Id) × RouteState Id R :=
  let indices := lanes.zipIdx.map (fun entry => (slots[entry.2]?.join).map (fun slot => asI64 slot + 1))
  let (route, recordIds, started) := route.ensureForSlots ids true indices
  (started, route.syncSlots lanes ids recordIds false true now)

/-! ## Steps and ends -/

def steppedSlot (reward : R) (slot : SlotState Id R) : SlotState Id R :=
  { slot with step := slot.step + 1, reset := false, cumulativeReward := slot.cumulativeReward + reward }

/-- Advance the group's lanes by one step; `rewards` aligns to `lanes`. -/
def recordStepAt (route : RouteState Id R) (lanes : List Nat) (rewards : List R) : RouteState Id R :=
  { route with
    totalSteps := route.totalSteps + 1
    slots := lanes.zipIdx.foldl (fun slots entry =>
      Function.update slots entry.1 (steppedSlot (rewards[entry.2]?.getD 0) (slots entry.1))) route.slots }

def completeEpisode (route : RouteState Id R) (id : Id) : Option EpisodeRecord × RouteState Id R :=
  (route.records id,
    { route with totalEpisodes := route.totalEpisodes + 1, completed := route.completed ++ [id] })

def recordEpisodeSummary (route : RouteState Id R) (summary : EpisodeSummary R) : RouteState Id R :=
  { route with episodeSummaries := route.episodeSummaries ++ [summary] }

/-- Mark the episode of a slot; nothing happens on an empty one. -/
def updateEpisode (route : RouteState Id R) (lane : Nat) (f : EpisodeState Id → EpisodeState Id) : RouteState Id R :=
  let slot := { route.slots lane with episode := (route.slots lane).episode.map f }
  { route with slots := Function.update route.slots lane slot }

/-- End the episode of a lane on the model side: its id, once. -/
def endEpisodeAt (route : RouteState Id R) (spec : RuntimeSessionSpec R) (envIndex : Nat) :
    Option Id × RouteState Id R :=
  match slotPosition spec envIndex with
  | none => (none, route)
  | some lane =>
    match (route.slots lane).episode with
    | none => (none, route)
    | some episode =>
      if episode.ended then (none, route)
      else (some episode.episodeId, route.updateEpisode lane (fun episode => { episode with ended := true }))

/-- End the episodes of several lanes, in order. -/
def endEpisodesAt (route : RouteState Id R) (spec : RuntimeSessionSpec R) (envIndices : List Nat) :
    List Id × RouteState Id R :=
  envIndices.foldl (fun acc envIndex =>
    ((acc.1 ++ (acc.2.endEpisodeAt spec envIndex).1.toList), (acc.2.endEpisodeAt spec envIndex).2)) ([], route)

/-- The episode was predicted on, and the model has not been told its end. -/
def isLive (episode : EpisodeState Id) : Bool := episode.predicted && !episode.ended

/-- End every episode the model predicted on and was not told the end of. -/
def endLiveEpisodes (route : RouteState Id R) (spec : RuntimeSessionSpec R) : List Id × RouteState Id R :=
  let live := (List.range spec.width).filter (fun lane => (route.slots lane).episode.any isLive)
  (live.map route.slotId,
    live.foldl (fun route lane => route.updateEpisode lane (fun episode => { episode with ended := true })) route)

/-- A predict is going out for these lanes. -/
def markPredicted (route : RouteState Id R) (lanes : List Nat) : RouteState Id R :=
  lanes.foldl (fun route lane => route.updateEpisode lane (fun episode => { episode with predicted := true })) route

/-! ## Requests -/

def nextRequestId (route : RouteState Id R) (spec : RuntimeSessionSpec R) (phase : RequestPhase) :
    RequestId × RouteState Id R :=
  ({ envId := spec.envId, phase, seq := route.requestSeq + 1 }, { route with requestSeq := route.requestSeq + 1 })

def context (route : RouteState Id R) (spec : RuntimeSessionSpec R) (phase : RequestPhase) : AdapterContext :=
  { sessionId := spec.sessionId, envId := spec.envId, requestId := (route.nextRequestId spec phase).1 }

/-- The predict request for a group's observation. -/
def predictRequestAt (route : RouteState Id R) (spec : RuntimeSessionSpec R) (lanes : List Nat)
    (observation : Option Leaves) (phase : RequestPhase) : PredictRequest Id × RouteState Id R :=
  ({ context := some (route.context spec phase)
     observation
     episodeInfo := (route.episodeIdsAt lanes).map (fun id => { episodeId := id, seed := route.seedByEpisode id })
     history := []
     step := none },
    (route.nextRequestId spec phase).2)

def resetAdapterRequest (route : RouteState Id R) (spec : RuntimeSessionSpec R) (ids : List Id) :
    ResetAdapterRequest Id × RouteState Id R :=
  ({ context := some (route.context spec .resetAdapter), episodeIds := ids },
    (route.nextRequestId spec .resetAdapter).2)

end RouteState

end Rlmesh.Runtime
