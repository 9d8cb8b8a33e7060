import Rlmesh.Runtime.Hooks
/-!
# One group of the route (`rlmesh-runtime/src/driver.rs`)

A group is driven through its own `reset -> predict -> step` loop. The
operations here are the group's share of each driver transition; the driver
composes them with the route's bookkeeping. The lanes of a group never change,
so they are a function of the spec and the group's number, not a field.

Two things are recorded that the source does not keep: a frame remembers the
request whose prediction it came from, and a group lists what it observed.
-/
open Rlmesh.Wire

namespace Rlmesh.Runtime

/-- An action frame, with the request it was predicted for. -/
structure Frame (Id : Type) where
  leaves : Leaves
  origin : PredictRequest Id

/-- Where a group is in its env lifecycle. -/
inductive EnvPhase where
  | ready
  | stepping
  | resetting
  | idle
  deriving DecidableEq, Repr

/-- Where a group is with respect to the model. -/
inductive PredictState (Id : Type) where
  | none
  | wanted (request : PredictRequest Id)
  | inFlight (stale : Bool)
  | ready (frames : List (Frame Id))

def PredictState.isNone {Id : Type} : PredictState Id → Bool
  | .none => true
  | _ => false

def PredictState.isWanted {Id : Type} : PredictState Id → Bool
  | .wanted _ => true
  | _ => false

def PredictState.isInFlight {Id : Type} : PredictState Id → Bool
  | .inFlight _ => true
  | _ => false

/-- An env operation in flight. -/
inductive EnvOp (Id R : Type) where
  | reset (initial : Bool) (request : ResetRequest Id R)
  | step (frame : Frame Id) (request : StepRequest Id)

structure Group (Id R : Type) where
  phase : EnvPhase
  predict : PredictState Id
  /-- The operation the group's env handle is out on. -/
  op : Option (EnvOp Id R)
  replay : List (Frame Id)
  obsMsg : Option (PredictRequest Id)
  history : List (ObservationHistoryFrame Id)
  steps : Int
  /-- The lanes that roll on the next step, with the ids they roll to. -/
  pendingRoll : List (Nat × Id)
  pendingCompleted : List (EpisodeCompletedEvent Id R)
  pendingStart : Option (List Id × List Nat)
  resetGeneration : Nat
  /-- The requests built for the group's observations, oldest first. -/
  observed : List (PredictRequest Id)

/-- Most observation-history rows a group buffers between predicts. -/
def historyBacklogCap : Nat := 1023

namespace Group

variable {Id R : Type}

def new : Group Id R :=
  { phase := .ready, predict := .none, op := none, replay := [], obsMsg := none, history := [], steps := 0
    pendingRoll := [], pendingCompleted := [], pendingStart := none, resetGeneration := 0, observed := [] }

def busy (group : Group Id R) : Bool := group.phase = .stepping || group.phase = .resetting

/-- The request a re-plan from the latest observation sends. On a history route
that observation must still be the backlog's trailing row, which it leaves. -/
def latestRequest (deliverHistory : Bool) (group : Group Id R) : Option (PredictRequest Id) × Group Id R :=
  match group.obsMsg with
  | none => (none, group)
  | some msg =>
    if deliverHistory then
      if group.history.getLast?.map (·.step) ≠ msg.step then (none, group)
      else (some { msg with history := group.history.dropLast }, { group with history := [] })
    else (some msg, group)

/-- Take in the chunk that arrived while the last one played. -/
def refill (group : Group Id R) : Group Id R :=
  match group.replay, group.predict with
  | [], .ready frames => { group with replay := frames, predict := .none }
  | _, _ => group

/-- Ask for the next chunk while `lead` frames or fewer are left. -/
def prefetch (lead : Nat) (deliverHistory : Bool) (group : Group Id R) : Group Id R :=
  if 0 < lead && group.replay.length ≤ lead && group.predict.isNone then
    match group.latestRequest deliverHistory with
    | (some msg, group) => { group with predict := .wanted msg }
    | (none, group) => group
  else group

/-- The frame a ready group plays next, if it has one. -/
def takeFrame (lead : Nat) (deliverHistory : Bool) (group : Group Id R) : Option (Frame Id) × Group Id R :=
  match group.refill.replay with
  | [] => (none, group.refill)
  | frame :: rest => (some frame, { group.refill with replay := rest }.prefetch lead deliverHistory)

/-- A step goes out. -/
def stepping (frame : Frame Id) (request : StepRequest Id) (group : Group Id R) : Group Id R :=
  { group with op := some (.step frame request), phase := .stepping }

/-- A reset goes out, with the episodes it starts staged. -/
def resetting (initial : Bool) (request : ResetRequest Id R) (ids : List Id) (slots : List Nat)
    (group : Group Id R) : Group Id R :=
  { group with
    pendingStart := some (ids, slots), replay := [], history := [], pendingRoll := []
    op := some (.reset initial request), phase := .resetting }

/-- The group never steps again. -/
def retire (group : Group Id R) : Group Id R := { group with phase := .idle, predict := .none }

/-- A step came back: the env handle is home and the step counts. -/
def stepped (group : Group Id R) : Group Id R :=
  { group with op := none, phase := .ready, steps := group.steps + 1 }

/-- An episode of the group completed: what was planned for it is dropped, and a
prediction in flight is stale. -/
def flush (group : Group Id R) : Group Id R :=
  { group with
    replay := []
    predict := if group.predict.isInFlight then .inFlight true else .none }

/-- Nothing covers the next step: no frame left, none on its way. -/
def replans (group : Group Id R) : Bool := group.replay.isEmpty && group.predict.isNone

/-- Take in an observation's request: predict from it now, or, on a history
route, buffer it as a row. `none` when the backlog is full. -/
def observe (deliverHistory : Bool) (msg : PredictRequest Id) (group : Group Id R) : Option (Group Id R) :=
  let stamped := if deliverHistory then { msg with step := some group.steps } else msg
  let row := { observation := msg.observation, episodeInfo := msg.episodeInfo, step := group.steps }
  if group.replans then
    let own := if deliverHistory then { stamped with history := group.history } else stamped
    some { group with
      obsMsg := some own, phase := .ready, predict := .wanted own
      history := if deliverHistory then [] else group.history
      observed := group.observed ++ [stamped] }
  else if deliverHistory && decide (historyBacklogCap ≤ group.history.length) then none
  else
    some { group with
      obsMsg := some stamped, phase := .ready
      history := if deliverHistory then group.history ++ [row] else group.history
      observed := group.observed ++ [stamped] }

/-- A prediction landed: its frames are played, kept for later, or discarded
when stale, in which case a group left waiting re-plans. -/
def landed (deliverHistory : Bool) (frames : List (Frame Id)) (group : Group Id R) : Group Id R :=
  match group.predict with
  | .inFlight true =>
    if group.phase = .ready && group.replay.isEmpty then
      match ({ group with predict := .none } : Group Id R).latestRequest deliverHistory with
      | (some msg, group) => { group with predict := .wanted msg }
      | (none, group) => group
    else { group with predict := .none }
  | .inFlight false =>
    if group.replay.isEmpty then { group with replay := frames, predict := .none }
    else { group with predict := .ready frames }
  | _ => group

end Group

end Rlmesh.Runtime
