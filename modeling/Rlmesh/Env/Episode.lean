import Rlmesh.Wire.Messages
/-!
# Episode tracking on the env server (`rlmesh-grpc/src/env/episode.rs`)

One `EpisodeTracker` serves a whole session: the episode running on each lane,
the lanes that owe an autoreset observation, and the episodes a reset cut short
that no reply has carried yet. The clock is read once per request and handed in
as `now`. The two hash maps of the source are an `AList` and a `Finset`.
-/
open Rlmesh.Wire

namespace Rlmesh.Env

/-- Single episode state. -/
structure Episode (Id R : Type) where
  id : Id
  seed : Option Int
  envIndex : Nat
  stepCount : Int
  cumulativeReward : R
  startTimestampNs : Int

variable {Id R : Type}

def Episode.new [Zero R] (now : Int) (envIndex : Nat) (seed : Option Int) (id : Id) : Episode Id R :=
  { id, seed, envIndex, stepCount := 0, cumulativeReward := 0, startTimestampNs := now }

def Episode.recordStep [Add R] (episode : Episode Id R) (reward : R) : Episode Id R :=
  { episode with
    stepCount := episode.stepCount + 1
    cumulativeReward := episode.cumulativeReward + reward }

def Episode.complete (now : Int) (episode : Episode Id R) (terminated truncated : Bool)
    (finalInfo : Option (MetaMap R)) : EpisodeMetadata Id R :=
  { episodeId := episode.id
    seed := episode.seed
    envIndex := episode.envIndex
    stepCount := episode.stepCount
    cumulativeReward := episode.cumulativeReward
    terminated, truncated
    startTimestampNs := episode.startTimestampNs
    endTimestampNs := now
    finalInfo }

/-- Maximum interrupted episodes retained between drains. -/
def maxInterruptedEpisodes : Nat := 100

/-- The lifecycle state of a single lane. -/
inductive LaneState where
  | active
  | pendingAutoreset
  | idle
  deriving DecidableEq, Repr

/-- Manages episode tracking for all environments. -/
structure EpisodeTracker (Id R : Type) where
  active : AList (fun _ : Nat => Episode Id R)
  pendingAutoreset : Finset Nat
  interrupted : List (EpisodeMetadata Id R)
  interruptedDropped : Nat

namespace EpisodeTracker

def new : EpisodeTracker Id R :=
  { active := ∅, pendingAutoreset := ∅, interrupted := [], interruptedDropped := 0 }

/-- Buffer an interrupted episode, evicting the oldest entry when the buffer is full. -/
def pushInterrupted (tracker : EpisodeTracker Id R) (metadata : EpisodeMetadata Id R) : EpisodeTracker Id R :=
  if tracker.interrupted.length ≥ maxInterruptedEpisodes then
    { tracker with
      interrupted := tracker.interrupted.tail ++ [metadata]
      interruptedDropped := min (tracker.interruptedDropped + 1) (2 ^ 64 - 1) }
  else { tracker with interrupted := tracker.interrupted ++ [metadata] }

/-- Take the buffered interrupted episodes. -/
def takeInterrupted (tracker : EpisodeTracker Id R) : List (EpisodeMetadata Id R) × EpisodeTracker Id R :=
  (tracker.interrupted, { tracker with interrupted := [], interruptedDropped := 0 })

/-- Start a new episode for the given lane, completing the one it replaces as truncated. -/
def startEpisode [Zero R] (now : Int) (tracker : EpisodeTracker Id R) (envIndex : Nat) (seed : Option Int)
    (id : Id) : EpisodeTracker Id R :=
  let started := { tracker with
    pendingAutoreset := tracker.pendingAutoreset.erase envIndex
    active := tracker.active.insert envIndex (Episode.new now envIndex seed id) }
  match tracker.active.lookup envIndex with
  | some old => started.pushInterrupted (old.complete now false true none)
  | none => started

/-- Record a step for the given environment. -/
def recordStep [Add R] (tracker : EpisodeTracker Id R) (envIndex : Nat) (reward : R) : EpisodeTracker Id R :=
  match tracker.active.lookup envIndex with
  | some episode => { tracker with active := tracker.active.insert envIndex (episode.recordStep reward) }
  | none => tracker

/-- Complete an episode and return its metadata, `none` when the lane has no episode. -/
def completeEpisode (now : Int) (tracker : EpisodeTracker Id R) (envIndex : Nat) (terminated truncated : Bool)
    (finalInfo : Option (MetaMap R)) : Option (EpisodeMetadata Id R) × EpisodeTracker Id R :=
  match tracker.active.lookup envIndex with
  | some episode => (some (episode.complete now terminated truncated finalInfo),
      { tracker with active := tracker.active.erase envIndex })
  | none => (none, tracker)

/-- Complete all active episodes; the interrupted ones come out first. -/
def completeAll (now : Int) (tracker : EpisodeTracker Id R) :
    List (EpisodeMetadata Id R) × EpisodeTracker Id R :=
  (tracker.interrupted ++ tracker.active.entries.map (fun entry => entry.2.complete now false true none),
    { active := ∅, pendingAutoreset := ∅, interrupted := [], interruptedDropped := 0 })

def activeEpisodeId (tracker : EpisodeTracker Id R) (envIndex : Nat) : Option Id :=
  (tracker.active.lookup envIndex).map (·.id)

def laneState (tracker : EpisodeTracker Id R) (envIndex : Nat) : LaneState :=
  if envIndex ∈ tracker.active then .active
  else if envIndex ∈ tracker.pendingAutoreset then .pendingAutoreset
  else .idle

/-- Mark a lane as expecting a fresh autoreset observation on the next step. -/
def expectAutoreset (tracker : EpisodeTracker Id R) (envIndex : Nat) : EpisodeTracker Id R :=
  { tracker with pendingAutoreset := insert envIndex tracker.pendingAutoreset }

/-! ## What each operation changes -/

variable (tracker : EpisodeTracker Id R)

@[simp] theorem pushInterrupted_active (metadata : EpisodeMetadata Id R) :
    (tracker.pushInterrupted metadata).active = tracker.active := by
  unfold pushInterrupted; split <;> rfl

@[simp] theorem pushInterrupted_pending (metadata : EpisodeMetadata Id R) :
    (tracker.pushInterrupted metadata).pendingAutoreset = tracker.pendingAutoreset := by
  unfold pushInterrupted; split <;> rfl

@[simp] theorem startEpisode_active [Zero R] (now : Int) (lane : Nat) (seed : Option Int) (id : Id) :
    (tracker.startEpisode now lane seed id).active = tracker.active.insert lane (.new now lane seed id) := by
  unfold startEpisode; split <;> simp

@[simp] theorem startEpisode_pending [Zero R] (now : Int) (lane : Nat) (seed : Option Int) (id : Id) :
    (tracker.startEpisode now lane seed id).pendingAutoreset = tracker.pendingAutoreset.erase lane := by
  unfold startEpisode; split <;> simp

/-- The buffer after a start: the replaced episode, if any, is pushed on it. -/
theorem startEpisode_interrupted [Zero R] (now : Int) (lane : Nat) (seed : Option Int) (id : Id) :
    (tracker.startEpisode now lane seed id).interrupted = match tracker.active.lookup lane with
      | some old => (tracker.pushInterrupted (old.complete now false true none)).interrupted
      | none => tracker.interrupted := by
  unfold startEpisode
  split
  · simp only [pushInterrupted]; split <;> rfl
  · rfl

theorem laneState_active (lane : Nat) :
    tracker.laneState lane = .active ↔ ∃ episode, tracker.active.lookup lane = some episode := by
  rw [← Option.isSome_iff_exists, AList.lookup_isSome]
  unfold laneState
  split
  · simp_all
  · split <;> simp_all

theorem laneState_pending (lane : Nat) : tracker.laneState lane = .pendingAutoreset ↔
    tracker.active.lookup lane = none ∧ lane ∈ tracker.pendingAutoreset := by
  rw [AList.lookup_eq_none]
  unfold laneState
  split
  · simp_all
  · split <;> simp_all

theorem laneState_idle (lane : Nat) : tracker.laneState lane = .idle ↔
    tracker.active.lookup lane = none ∧ lane ∉ tracker.pendingAutoreset := by
  rw [AList.lookup_eq_none]
  unfold laneState
  split
  · simp_all
  · split <;> simp_all

end EpisodeTracker

end Rlmesh.Env
