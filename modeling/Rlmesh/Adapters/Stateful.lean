import Rlmesh.Lib.Fallible
import Rlmesh.Lib.SortedMap
/-!
# Per-episode adapter state (`rlmesh-adapters/src/stateful.rs`)

A route keeps, per episode, the frame windows its stacked inputs are gathered
from, the step its last observation carried and the actions recorded for later
observations to read. `assembleObs` and `observeObs` advance them by one
observation, `applyActions` by one action; a failed call keeps what it had
already changed.

What an adapter computes from one observation or one action is left to the
adapter (`ResolvedAdapter`), as are the kinds of values involved (`Values`).
-/
open Rlmesh.Lib

namespace Rlmesh.Adapters

/-- The crate's `Error`, by the variants the engine tells apart. -/
inductive EngineError where
  | model (message : String)
  | internal (message : String)
  | invalidArgument (message : String)
  | other (message : String)
  deriving DecidableEq

/-- A failed transform, and the engine error behind it if there is one. -/
structure ApplyError where
  message : String
  source : Option EngineError := none
  deriving DecidableEq

/-- `Error::from_apply`. -/
def fromApply (error : ApplyError) : EngineError := error.source.getD (.invalidArgument error.message)

/-- The kinds of values an adapter moves: a decoded observation of one lane, the
map of it a transform reads, the `Value`s a model takes and returns, the tensors
a window holds, the action an env takes, and an element of a recorded action. -/
structure Values where
  Lane : Type
  Obs : Type
  Value : Type
  Tensor : Type
  Action : Type
  Num : Type
  /-- `Tensor::stack`. -/
  stack : List Tensor → Except String Tensor
  splitChunk : Value → Except ApplyError (List Value)
  valueSummary : Value → String

inductive StackPad where
  | first
  | black
  deriving DecidableEq

/-- A stacked input; `key` is its canonical placement. -/
structure StackedPlacement (V : Values) where
  key : String
  depth : Nat
  span : Nat
  offsets : Option (List Int)
  stackPad : StackPad
  blackFrame : V.Tensor → Except ApplyError V.Tensor
  /-- Bytes of one frame, `0` when the env's resolution was not derivable. -/
  frameBytes : Nat

/-- A resolved adapter, by what it computes from one observation or action. -/
structure ResolvedAdapter (V : Values) where
  /-- `transform_obs` and then `repack_obs`; the row is the previous action. -/
  transformObs : V.Obs → Option (List V.Num) → Except ApplyError V.Value
  stacked : List (StackedPlacement V)
  /-- The placements of the parts that read the previous action. -/
  previous : List String
  historyFrames : V.Obs → Except ApplyError (List V.Tensor)
  /-- `resolve_source_mut`: the tensor at a placement, `none` when it is no tensor. -/
  slot : V.Value → String → Except ApplyError (Option V.Tensor)
  setSlot : V.Value → String → V.Tensor → V.Value
  repackAction : V.Value → Except ApplyError V.Value
  /-- `transform_action` and then `tensor_to_space_value`. -/
  transformAction : V.Value → Except ApplyError V.Action
  numericVector : V.Value → Except ApplyError (List V.Num)
  inDim : Nat
  /-- Some plan runs a custom transform. -/
  hasCustoms : Bool

variable {V : Values}

def ResolvedAdapter.readsPreviousAction (adapter : ResolvedAdapter V) : Bool := !adapter.previous.isEmpty

def ResolvedAdapter.historyKeys (adapter : ResolvedAdapter V) : List String :=
  adapter.stacked.map (·.key) ++ adapter.previous

/-! ## Windows -/

/-- `Window::push`: the window after one more frame, padded to its span at the
start of an episode. -/
def pushFrame (entry : StackedPlacement V) (frames : List V.Tensor) (frame : V.Tensor) :
    Except ApplyError (List V.Tensor) := do
  let padded ←
    if frames.isEmpty then
      match entry.stackPad with
      | .first => .ok (List.replicate (entry.span - 1) frame)
      | .black => (entry.blackFrame frame).map (List.replicate (entry.span - 1))
    else .ok frames
  return (if padded.length = entry.span then padded.drop 1 else padded) ++ [frame]

/-- `Window::gather`: the whole window, or the frames at the offsets back from the newest. -/
def gather (entry : StackedPlacement V) (frames : List V.Tensor) : Except ApplyError V.Tensor := do
  let picked ← match entry.offsets with
    | none => .ok frames
    | some offsets => offsets.mapM (fun offset =>
      let newest := frames.length - 1
      match if offset.natAbs ≤ newest then frames[newest - offset.natAbs]? else none with
      | some frame => .ok frame
      | none => .error { message := s!"frame window for '{entry.key}' holds {frames.length} frame(s), too few to reach offset {offset}" })
  (V.stack picked).mapError (fun error => { message := s!"frame-stack failed: {error}" })

/-! ## Buffers -/

/-- One episode's windows, the step of its last observation, the actions
recorded by step, and the step it was first assembled at. -/
structure EpisodeWindows (V : Values) where
  windows : List (String × List V.Tensor) := []
  lastStep : Option Int := none
  actions : List (Int × List V.Num) := []
  firstStep : Option Int := none
  /-- What observations read as their previous action, by step; kept for the
  theorems only. -/
  reads : List (Int × Option (List V.Num)) := []

structure FrameBuffers (V : Values) where
  inner : AList (fun _ : String => EpisodeWindows V) := ∅

namespace FrameBuffers

variable (buffers : FrameBuffers V)

/-- The episode's entry, `or_default`. -/
def episode (id : String) : EpisodeWindows V := (buffers.inner.lookup id).getD {}

def set (id : String) (episode : EpisodeWindows V) : FrameBuffers V := ⟨buffers.inner.insert id episode⟩

def evict (id : String) : FrameBuffers V := ⟨buffers.inner.erase id⟩

/-- The number of episodes held. -/
def episodes : Nat := buffers.inner.keys.length

def holds (id : String) : Bool := (buffers.inner.lookup id).isSome

def nextStep (id : String) : Int := ((buffers.episode id).lastStep).elim 0 (· + 1)

/-- The step at which the next chunk of the episode starts executing: past the
last recorded action, or at the last observed step. -/
def chunkStart (id : String) : Int :=
  match buffers.inner.lookup id with
  | none => 0
  | some episode =>
    let observed := episode.lastStep.getD 0
    episode.actions.getLast?.elim observed (fun last => max observed (last.1 + 1))

end FrameBuffers

/-- Change one episode's entry, creating it first if the episode holds none. -/
def onEpisode {α : Type} (id : String) (change : EpisodeWindows V → Except ApplyError α × EpisodeWindows V) :
    Fallible (FrameBuffers V) ApplyError α :=
  .ofFun fun buffers => ((change (buffers.episode id)).1, buffers.set id (change (buffers.episode id)).2)

/-- `FrameBuffers::episode`: the entry exists from here on. -/
def openEpisode (id : String) : Fallible (FrameBuffers V) ApplyError Unit := onEpisode id fun episode => (.ok (), episode)

namespace EpisodeWindows

variable (episode : EpisodeWindows V)

/-- `advance_step`: an episode that has a step goes on to the next one. -/
def advanceStep (id : String) (step : Int) : Except ApplyError Unit × EpisodeWindows V :=
  match episode.lastStep with
  | some last =>
    if step ≠ last + 1 then
      (.error { message := s!"observation history for episode {id} is not consecutive: step {step} arrived after step {last} (expected {last + 1}); every env step of the episode must reach the model exactly once, in order" }, episode)
    else (.ok (), { episode with lastStep := some step })
  | none => (.ok (), { episode with lastStep := some step })

/-- The episode once an observation has read a row. -/
def noteRead (step : Int) (row : Option (List V.Num)) : EpisodeWindows V :=
  { episode with reads := episode.reads ++ [(step, row)] }

/-- `previous_action`: nothing at the first assembled step, and the row recorded
for the step before after that; older rows go. -/
def previousAction (id : String) (step : Int) : Except ApplyError (Option (List V.Num)) × EpisodeWindows V :=
  let first := episode.firstStep.getD step
  let opened := { episode with firstStep := some first }
  if first = step then (.ok none, opened.noteRead step none)
  else
    let kept := { opened with actions := episode.actions.filter (fun recorded => step - 1 ≤ recorded.1) }
    match kept.actions.lookup (step - 1) with
    | some row => (.ok (some row), kept.noteRead step (some row))
    | none =>
      (.error { message := s!"episode {id}: the observation at step {step} reads the previous action but no action was recorded for step {step - 1}; every executed action of the episode must reach apply_actions (or transform_action) once, under its step" }, kept)

/-- Push a frame into a window; the window exists even when the push fails. -/
def push (entry : StackedPlacement V) (frame : V.Tensor) : Except ApplyError (List V.Tensor) × EpisodeWindows V :=
  let frames := (episode.windows.lookup entry.key).getD []
  match pushFrame entry frames frame with
  | .ok pushed => (.ok pushed, { episode with windows := insertKey entry.key pushed episode.windows })
  | .error error => (.error error, { episode with windows := insertKey entry.key frames episode.windows })

end EpisodeWindows

/-! ## The per-lane seam -/

/-- The previous action, for an adapter that reads it. -/
def readPrevious (adapter : ResolvedAdapter V) (id : String) (step : Int) :
    Fallible (FrameBuffers V) ApplyError (Option (List V.Num)) :=
  if adapter.readsPreviousAction then onEpisode id (·.previousAction id step) else pure none

/-- The frame a payload holds for a stacked input. -/
def ResolvedAdapter.frameOf (adapter : ResolvedAdapter V) (payload : V.Value) (entry : StackedPlacement V) :
    Except ApplyError V.Tensor := do
  match ← adapter.slot payload entry.key with
  | some frame => .ok frame
  | none => .error { message := s!"frame-stacked input '{entry.key}' must be a tensor" }

/-- Stack the frames of a payload in place, entry by entry. -/
def stackFrames (adapter : ResolvedAdapter V) (id : String) :
    List (StackedPlacement V) → V.Value → Fallible (FrameBuffers V) ApplyError V.Value
  | [], payload => pure payload
  | entry :: rest, payload => do
    let frame ← .ofResult (adapter.frameOf payload entry)
    let frames ← onEpisode id (·.push entry frame)
    let stacked ← .ofResult (gather entry frames)
    stackFrames adapter id rest (adapter.setSlot payload entry.key stacked)

/-- The stacking pass of `assemble_obs`. -/
def stackPayload (adapter : ResolvedAdapter V) (id : String) (payload : V.Value) :
    Fallible (FrameBuffers V) ApplyError V.Value :=
  if adapter.stacked.isEmpty then pure payload
  else do
    openEpisode id
    stackFrames adapter id adapter.stacked payload

/-- Assemble one lane's model input from its observation at `step`. -/
def assembleObs (adapter : ResolvedAdapter V) (raw : V.Obs) (id : String) (step : Int) :
    Fallible (FrameBuffers V) ApplyError V.Value := do
  let previous ← readPrevious adapter id step
  let payload ← .ofResult (adapter.transformObs raw previous)
  stackPayload adapter id payload

/-- Advance one lane's windows from an observation, assembling nothing. -/
def observeObs (adapter : ResolvedAdapter V) (raw : V.Obs) (id : String) : Fallible (FrameBuffers V) ApplyError Unit :=
  if adapter.stacked.isEmpty then pure ()
  else do
    let frames ← .ofResult (adapter.historyFrames raw)
    openEpisode id
    let _ ← (adapter.stacked.zip frames).mapM (fun pair => onEpisode id (·.push pair.1 pair.2))

/-- Record an action under the step it executes at. -/
def recordAction (adapter : ResolvedAdapter V) (raw : V.Value) (id : String) (step : Int) :
    Fallible (FrameBuffers V) ApplyError Unit :=
  if adapter.readsPreviousAction then do
    let row ← .ofResult (adapter.numericVector raw)
    if row.length ≠ adapter.inDim then
      throw { message := s!"cannot record the action executed at step {step}: it has {row.length} elements but the action plan reads {adapter.inDim}" }
    else onEpisode id (fun episode => (.ok (), { episode with actions := insertKey step row episode.actions }))
  else pure ()

/-- Turn one raw model action into an env action, and record it. -/
def applyActions (adapter : ResolvedAdapter V) (raw : V.Value) (id : String) (step : Int) :
    Fallible (FrameBuffers V) ApplyError V.Action := do
  let action ← .ofResult (adapter.repackAction raw)
  let value ← .ofResult (adapter.transformAction action)
  recordAction adapter action id step
  return value

end Rlmesh.Adapters
