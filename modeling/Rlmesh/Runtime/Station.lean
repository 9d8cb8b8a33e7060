import Rlmesh.Runtime.Driver
/-!
# One group, seen on its own

A station is what one group of the route goes through: its own state, the ids in
its slots, its requests in flight and the requests it has sent. `Move` lists
everything that can happen to it, whatever the other groups, the model, the
scheduler and the clock do. The driver's transitions are moves of their
stations (`Simulation.lean`), so a property of stations that every move keeps
holds along every run.

`C` restricts what may be observed after a step: a property that only holds
while some condition is met is proved of the moves that meet it.
-/
open Rlmesh.Wire

namespace Rlmesh.Runtime

structure Station (Id R : Type) where
  group : Group Id R
  /-- The ids the group's slots hold, in lane order. -/
  ids : List Id
  /-- The group's requests among the predicts in flight. -/
  flying : List (PredictRequest Id)
  /-- The group's requests put in flight so far. -/
  sent : List (PredictRequest Id)
  mintedFor : List Nat
  /-- The run is not over. -/
  alive : Bool

variable {Id R : Type}

/-- The episode ids a request names, in row order. -/
def names (info : List (EpisodeInfo Id)) : List Id := info.map (·.episodeId)

/-- A request fresh from `predict_request_at`, for lanes holding `ids`. -/
structure Fresh (ids : List Id) (msg : PredictRequest Id) : Prop where
  named : names msg.episodeInfo = ids
  history : msg.history = []
  step : msg.step = none

namespace Station

/-- A reset of the station's lanes goes out. -/
def restart (initial : Bool) (request : ResetRequest Id R) (ids : List Id) (slots : List Nat) (generation : Nat)
    (minted : List Nat) (s : Station Id R) : Station Id R :=
  { s with
    group := { s.group with resetGeneration := generation }.resetting initial request ids slots
    mintedFor := s.mintedFor ++ minted }

/-- A step came back: the lanes it rolled hold their next ids; if it `completes`
an episode, what was planned is flushed. `rolls` are the rolls due next. -/
def settle (lanes : List Nat) (completes : Bool) (rolls : List (Nat × Id))
    (pendingCompleted : List (EpisodeCompletedEvent Id R)) (minted : List Nat) (s : Station Id R) : Station Id R :=
  let group := { s.group.stepped with pendingRoll := rolls, pendingCompleted }
  { s with
    ids := episodeIdsWithRoll s.ids lanes s.group.pendingRoll
    group := if completes then group.flush else group
    mintedFor := s.mintedFor ++ minted }

end Station

/-- The ids drawn for a group are the source's next ones. -/
structure Mints [Inhabited Id] (minter : Minter Id) (gid : Nat) (mintedFor : List Nat) (ids : List Id)
    (minted : List Nat) : Prop where
  drawn : ids = (List.range' mintedFor.length ids.length).map minter.id
  owner : minted = List.replicate ids.length gid

variable [Inhabited Id]

/-- A station before the run starts. -/
def Station.initial (lanes : List Nat) (mintedFor : List Nat) (alive : Bool) : Station Id R :=
  { group := .new, ids := lanes.map (fun _ => default), flying := [], sent := [], mintedFor, alive }

/-- How a station leaves the launch of a run: out of slots, with its first reset
in flight, or dead when the launch fails. -/
inductive Launched (cfg : DriverConfig Id R) (gid : Nat) : Station Id R → Prop
  | retired (mintedFor : List Nat) :
    Launched cfg gid
      { (Station.initial (cfg.spec.lanes gid) mintedFor true : Station Id R) with group := Group.new.retire }
  | reset (before : List Nat) (request ids slots minted) (more : List Nat) :
    ids.length = (cfg.spec.lanes gid).length → Mints cfg.minter gid before ids minted →
    Launched cfg gid
      { (Station.initial (cfg.spec.lanes gid) before true).restart true request ids slots 0 minted with
        mintedFor := before ++ minted ++ more }
  | dead (mintedFor : List Nat) : Launched cfg gid (Station.initial (cfg.spec.lanes gid) mintedFor false)

/-- The ids a station's lanes may hold next: those they hold, those staged for
their reset, or those they roll to. -/
def Next (lanes : List Nat) (s : Station Id R) (ids : List Id) : Prop :=
  ids = s.ids ∨ (∃ slots, s.group.phase = .resetting ∧ s.group.pendingStart = some (ids, slots)) ∨
    (s.group.phase = .stepping ∧ ids = episodeIdsWithRoll s.ids lanes s.group.pendingRoll)

/-- Everything that can happen to a station. -/
inductive Move (cfg : DriverConfig Id R) (gid : Nat) (C : Station Id R → Bool → Prop) :
    Station Id R → Station Id R → Prop
  /-- Another group draws ids. -/
  | minted (s : Station Id R) (more : List Nat) : Move cfg gid C s { s with mintedFor := s.mintedFor ++ more }
  | skipped (s : Station Id R) (group : Group Id R) :
    s.alive = true → s.group.phase = .ready →
    s.group.takeFrame cfg.prefetchLead cfg.deliverHistory = (none, group) →
    Move cfg gid C s { s with group }
  | dispatched (s : Station Id R) (frame : Frame Id) (group : Group Id R) (request : StepRequest Id) :
    s.alive = true → s.group.phase = .ready →
    s.group.takeFrame cfg.prefetchLead cfg.deliverHistory = (some frame, group) →
    Move cfg gid C s { s with group := group.stepping frame request }
  | sent (s : Station Id R) (msg : PredictRequest Id) : s.alive = true → s.group.predict = .wanted msg →
    Move cfg gid C s
      { s with
        group := { s.group with predict := .inFlight false }
        flying := s.flying ++ [msg], sent := s.sent ++ [msg] }
  | landed (s : Station Id R) (request : PredictRequest Id) (frames : List (Frame Id)) :
    s.alive = true → s.flying = [request] → frames ≠ [] → (∀ frame ∈ frames, frame.origin = request) →
    Move cfg gid C s { s with group := s.group.landed cfg.deliverHistory frames, flying := [] }
  | started (s : Station Id R) (initial request ids slots) (msg : PredictRequest Id) (group : Group Id R) :
    s.alive = true → s.group.op = some (.reset initial request) → s.group.pendingStart = some (ids, slots) →
    Fresh ids msg →
    ({ s.group with op := none, pendingStart := none } : Group Id R).observe cfg.deliverHistory msg = some group →
    Move cfg gid C s { s with group, ids }
  | stopped (s : Station Id R) (frame request completes rolls events minted) :
    s.alive = true → s.group.op = some (.step frame request) →
    Move cfg gid C s
      { s.settle (cfg.spec.lanes gid) completes rolls events minted with
        group := (s.settle (cfg.spec.lanes gid) completes rolls events minted).group.retire }
  | restarted (s : Station Id R) (frame request rolls events minted initial resetRequest ids slots generation minted') :
    s.alive = true → s.group.op = some (.step frame request) → cfg.spec.driverOwnsResets = true →
    ids.length = (cfg.spec.lanes gid).length → Mints cfg.minter gid (s.mintedFor ++ minted) ids minted' →
    Move cfg gid C s ((s.settle (cfg.spec.lanes gid) true rolls events minted).restart initial resetRequest ids slots
      generation minted')
  | observed (s : Station Id R) (frame request) (completes : Bool) (rolls events minted) (msg : PredictRequest Id)
      (group : Group Id R) :
    s.alive = true → s.group.op = some (.step frame request) → C s completes →
    (completes = true → cfg.spec.driverOwnsResets = false) → (completes = false → rolls = []) → Mints cfg.minter gid s.mintedFor (rolls.map Prod.snd) minted →
    Fresh (episodeIdsWithRoll s.ids (cfg.spec.lanes gid) s.group.pendingRoll) msg →
    (s.settle (cfg.spec.lanes gid) completes rolls events minted).group.observe cfg.deliverHistory msg = some group →
    Move cfg gid C s { s.settle (cfg.spec.lanes gid) completes rolls events minted with group }
  /-- The group's own transition fails, with no operation left out. -/
  | failed (s : Station Id R) (group : Group Id R) (ids : List Id) (flying : List (PredictRequest Id))
      (more : List Nat) :
    s.alive = true → group.op = none → group.observed = s.group.observed → Next (cfg.spec.lanes gid) s ids →
    Move cfg gid C s { s with group, ids, flying, mintedFor := s.mintedFor ++ more, alive := false }
  /-- The run ends elsewhere. -/
  | killed (s : Station Id R) : Move cfg gid C s { s with alive := false }
  | drained (s : Station Id R) (flying : List (PredictRequest Id)) :
    s.alive = false → Move cfg gid C s { s with flying }

/-! ## What a station keeps -/

/-- The group's episodes are running. -/
def EnvPhase.running : EnvPhase → Bool
  | .ready | .stepping => true
  | .resetting | .idle => false

/-- The operation a group has out, by its phase. -/
def OpFits (lanes : List Nat) (group : Group Id R) : Prop :=
  match group.phase with
  | .ready | .idle => group.op = none
  | .stepping => ∃ frame request, group.op = some (.step frame request)
  | .resetting => ∃ initial request ids slots, group.op = some (.reset initial request) ∧
      group.pendingStart = some (ids, slots) ∧ ids.length = lanes.length

/-- A stale prediction of a group that waits for it will be planned again: the
observation to plan from is there and, on a history route, was not sent yet. -/
def Rearms (deliverHistory : Bool) (group : Group Id R) : Prop :=
  group.replay = [] ∧ ∃ msg, group.obsMsg = some msg ∧
    (deliverHistory = true → group.history.getLast?.map (·.step) = msg.step)

/-- A live station: its operation fits its phase, a ready group has a frame or a
prediction to wait for, and what it waits for is really in flight. -/
structure Sound (deliverHistory : Bool) (lanes : List Nat) (s : Station Id R) : Prop where
  op : OpFits lanes s.group
  planned : s.group.phase = .ready → s.group.replay ≠ [] ∨ s.group.predict.isNone = false
  chunk : ∀ frames, s.group.predict = .ready frames → frames ≠ []
  inFlight : s.group.predict.isInFlight = true → ∃ request, s.flying = [request]
  landing : s.flying ≠ [] → s.group.predict.isInFlight = true ∨ s.group.phase = .idle
  one : s.flying.length ≤ 1
  cleared : s.group.phase = .resetting →
    s.group.replay = [] ∧ s.group.history = [] ∧ s.group.pendingRoll = [] ∧
      (s.group.predict = .none ∨ s.group.predict = .inFlight true)
  stale : s.group.predict = .inFlight true →
    s.group.phase ≠ .stepping ∧ (s.group.phase = .ready → Rearms deliverHistory s.group)
  retired : s.group.phase = .idle → s.group.predict = .none

/-- What is known of a run's inputs: the number of frames an answer carries, and
an observation as it is handed to a group. -/
structure Inputs where
  chunk : Nat → Prop
  observation : Option Leaves → Prop

/-- A move, with what it says of the rows kept for the model: the frames that land
and the observations taken in are as `p` says, and a transition that fails leaves
the rows it found, or those left once a frame was taken. -/
inductive Tracked (cfg : DriverConfig Id R) (gid : Nat) (C : Station Id R → Bool → Prop) (p : Inputs) :
    Station Id R → Station Id R → Prop
  | plain {s s' : Station Id R} : Move cfg gid C s s' → s.flying.length ≤ s'.flying.length → s'.alive = s.alive →
    (∀ msg ∈ s'.group.observed, msg ∈ s.group.observed ∨ p.observation msg.observation) → Tracked cfg gid C p s s'
  | landed (s : Station Id R) (request : PredictRequest Id) (frames : List (Frame Id)) :
    s.alive = true → s.flying = [request] → frames ≠ [] → (∀ frame ∈ frames, frame.origin = request) →
    p.chunk frames.length → Tracked cfg gid C p s { s with group := s.group.landed cfg.deliverHistory frames, flying := [] }
  | ended {s s' : Station Id R} : Move cfg gid C s s' → s'.alive = false → s'.group.observed = s.group.observed →
    (s'.group.history = s.group.history ∨ ∃ frame after, s.alive = true ∧ s.group.phase = .ready ∧
      s.group.takeFrame cfg.prefetchLead cfg.deliverHistory = (some frame, after) ∧
      s'.group.history = after.history) → Tracked cfg gid C p s s'

/-- A sequence of moves. -/
abbrev Track (cfg : DriverConfig Id R) (gid : Nat) (C : Station Id R → Bool → Prop) (p : Inputs) :
    Station Id R → Station Id R → Prop := Relation.ReflTransGen (Tracked cfg gid C p)

theorem Tracked.move {cfg : DriverConfig Id R} {gid : Nat} {C : Station Id R → Bool → Prop} {p : Inputs}
    {s s' : Station Id R} (h : Tracked cfg gid C p s s') : Move cfg gid C s s' := by
  cases h with
  | plain hm => exact hm
  | landed request frames halive hfly hne hfrom hp => exact .landed s request frames halive hfly hne hfrom
  | ended hm => exact hm

end Rlmesh.Runtime
