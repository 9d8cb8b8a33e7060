import Rlmesh.Model.Client
/-!
# A model bound to one env (`Session`)

The calls of a session with a local model, as `Core` makes them. Everything
outside the session (the env, the model, the caller's hooks, the viewer) is a
`World`: a state and what each call into it returns, which may be a failure at
any point. A call that fails keeps the state it had reached.

`marks` is bookkeeping of the model: the predicts the model was asked for and the
episode ends it was told of, in order.
-/
open Rlmesh.Wire Rlmesh.Lib Rlmesh.Model

namespace Rlmesh.Run

/-- A predicted chunk: this step's actions, and the frames to replay after it. -/
structure PredictFrames (Raw : Type) where
  actions : List Raw
  replay : List (List Raw)

structure EpisodeResult (R : Type) where
  index : Nat
  seed : Option Int
  steps : Nat
  reward : R
  terminated : Bool
  truncated : Bool
  success : Option Bool
  trial : Int

inductive HookPoint (Obs Act Info R : Type) where
  | runStart
  | episodeStart (index : Nat) (seed : Option Int)
  | step (index : Nat) (seed : Option Int) (step : Nat) (observation : Obs) (action : Act) (reward : R)
      (terminated truncated : Bool) (info : Info)
  | episodeEnd (result : EpisodeResult R)
  | runEnd (results : List (EpisodeResult R))

/-- What connecting settles. -/
structure Connected where
  trialOption : Bool
  horizon : Nat
  wantsHistory : Bool

/-- Everything the session calls into. -/
structure World (ω ε Id Obs Raw Act Info R : Type) where
  connect : ω → Except ε Connected × ω
  /-- The model has not been closed. -/
  admits : ω → Except ε Unit × ω
  /-- The warning for a trial index the env does not take, which may be an error. -/
  warnTrial : ω → Except ε Unit × ω
  reset : Option Int → Option Int → ω → Except ε (Obs × Info) × ω
  step : Act → ω → Except ε (Obs × R × Bool × Bool × Info) × ω
  /-- Feed the viewer, which may ask to skip the episode. -/
  feedView : Obs → ω → Except ε Bool × ω
  pace : ω → Except ε Unit × ω
  viewQuit : ω → Except ε Bool × ω
  encode : Obs → ω → Except ε Unit × ω
  predict : ModelObservation Id Obs → ω → Except ε (PredictFrames Raw) × ω
  decode : Raw → Except ε Act
  noAction : ε
  episodeEnd : Id → ω → Except ε Unit × ω
  hook : HookPoint Obs Act Info R → ω → Except ε Unit × ω
  checkCancelled : ω → Except ε Unit × ω
  /-- The wall-time cap of the episode is reached. -/
  timeUp : ω → Except ε Bool × ω
  releaseRoute : ω → Except ε Unit × ω
  releaseEnv : Bool → ω → Except ε Unit × ω
  success : Info → Option Bool

structure Episode (Id R : Type) where
  isOpen : Bool
  id : Id
  seed : Option Int
  steps : Nat
  reward : R
  terminated : Bool
  truncated : Bool

/-- No episode yet. -/
def Episode.none (Id R : Type) [Inhabited Id] [Zero R] : Episode Id R :=
  { isOpen := false, id := default, seed := .none, steps := 0, reward := 0, terminated := false, truncated := false }

structure Core (ω Id Obs Act R : Type) where
  world : ω
  connected : Option Connected
  episode : Episode Id R
  replay : List Act
  history : List (HistoryFrame Id Obs)
  results : List (EpisodeResult R)
  minted : Nat
  marks : List (Mark Id)

/-- `Session::run`'s resolved options. -/
structure RunPlan where
  episodes : Nat
  seeds : Option (List Int)
  maxEpisodeSteps : Option Nat
  trialIndexBase : Nat

def maxStepsPerEpisode : Nat := 100000

section

variable {ω ε Id Obs Raw Act Info R : Type}

variable [Inhabited Id] [DecidableEq Id] [Zero R] [Add R]

def Core.init (Id Obs Act R : Type) [Inhabited Id] [Zero R] (world : ω) : Core ω Id Obs Act R where
  world := world
  connected := none
  episode := .none Id R
  replay := []
  history := []
  results := []
  minted := 0
  marks := []

/-- The episode has terminated or truncated. -/
def Core.done (s : Core ω Id Obs Act R) : Bool :=
  s.episode.terminated || s.episode.truncated

namespace Session

variable (W : World ω ε Id Obs Raw Act Info R) (ids : Minter Id)

/-- A call into the world. -/
def ask {α : Type} (f : ω → Except ε α × ω) : Fallible (Core ω Id Obs Act R) ε α :=
  Fallible.zoom Core.world (fun s world => { s with world }) f

def setEpisode (f : Episode Id R → Episode Id R) : Fallible (Core ω Id Obs Act R) ε Unit :=
  modify fun s => { s with episode := f s.episode }

/-- `mint_id`. -/
def mintId : Fallible (Core ω Id Obs Act R) ε Id := do
  let s ← get
  modify fun s => { s with minted := s.minted + 1 }
  return ids.id s.minted

def ensureConnected : Fallible (Core ω Id Obs Act R) ε Connected := do
  match (← get).connected with
  | some connected => return connected
  | none =>
    let connected ← ask W.connect
    modify fun s => { s with connected := some connected }
    return connected

/-- Tell the model once that the open episode has ended. -/
def endEpisode : Fallible (Core ω Id Obs Act R) ε Unit := do
  let s ← get
  if s.episode.isOpen then
    modify fun s => { s with episode := { s.episode with isOpen := false }, marks := s.marks ++ [.ended s.episode.id] }
    ask (W.episodeEnd s.episode.id)

def truncateIf (cut : Bool) : Fallible (Core ω Id Obs Act R) ε Unit :=
  setEpisode fun episode => { episode with truncated := episode.truncated || cut }

def feedView (observation : Obs) : Fallible (Core ω Id Obs Act R) ε Unit := do
  let skip ← ask (W.feedView observation)
  truncateIf skip

/-- The trial index as a reset option, for an env that takes one. -/
def trialOptions (connected : Connected) : Option Int → Fallible (Core ω Id Obs Act R) ε (Option Int)
  | none => return none
  | some trial =>
    if connected.trialOption then return some trial
    else do
      ask W.warnTrial
      return none

def reset (seed trialIndex : Option Int) : Fallible (Core ω Id Obs Act R) ε (Obs × Info) := do
  let connected ← ensureConnected W
  endEpisode W
  let options ← trialOptions W connected trialIndex
  let answer ← ask (W.reset seed options)
  let id ← mintId ids
  modify fun s => { s with
    replay := [], history := [], episode := { Episode.none Id R with isOpen := true, id, seed } }
  feedView W answer.1
  return answer

/-- Keep the frames of a chunk that the horizon reaches for the steps to come. -/
def pushReplay : List (List Raw) → Fallible (Core ω Id Obs Act R) ε Unit
  | [] => return ()
  | [] :: frames => pushReplay frames
  | (lane :: _) :: frames => do
    let action ← ExceptT.mk (pure (W.decode lane))
    modify fun s => { s with replay := s.replay ++ [action] }
    pushReplay frames

/-- The model is called. -/
def predictFresh (connected : Connected) (row : EpisodeRow Id) (observation : Obs) :
    Fallible (Core ω Id Obs Act R) ε Act := do
  ask (W.encode observation)
  let s ← get
  modify fun s => { s with history := [] }
  ask W.checkCancelled
  modify fun s => { s with marks := s.marks ++ [.used row.episodeId] }
  let frames ← ask (W.predict {
    observation, episode := row, history := s.history
    step := if connected.wantsHistory then some s.episode.steps else none })
  match frames.actions with
  | [] => throw W.noAction
  | action :: _ =>
    pushReplay W (frames.replay.take (max connected.horizon 1 - 1))
    ExceptT.mk (pure (W.decode action))

/-- An episode without an id gets one. -/
def episodeId : Fallible (Core ω Id Obs Act R) ε Id := do
  let s ← get
  if s.episode.id = default then
    let id ← mintId ids
    setEpisode fun episode => { episode with id }
    return id
  else return s.episode.id

/-- A buffered action is replayed; its observation still reaches the model as history. -/
def replayAction (connected : Connected) (row : EpisodeRow Id) (observation : Obs) (action : Act)
    (rest : List Act) : Fallible (Core ω Id Obs Act R) ε Act := do
  modify fun s => { s with replay := rest }
  if connected.wantsHistory then
    ask (W.encode observation)
    modify fun s => { s with history := s.history ++ [{ observation, episode := row, step := s.episode.steps }] }
  return action

def predict (observation : Obs) : Fallible (Core ω Id Obs Act R) ε Act := do
  ask W.admits
  let connected ← ensureConnected W
  let id ← episodeId ids
  let s ← get
  let row := { episodeId := id, seed := s.episode.seed }
  match s.replay with
  | action :: rest => replayAction W connected row observation action rest
  | [] => predictFresh W connected row observation

def step (action : Act) : Fallible (Core ω Id Obs Act R) ε (Obs × R × Bool × Bool × Info) := do
  ask W.admits
  let _ ← ensureConnected W
  let (observation, reward, terminated, truncated, info) ← ask (W.step action)
  setEpisode fun episode => { episode with
    reward := episode.reward + reward, steps := episode.steps + 1, terminated, truncated }
  feedView W observation
  ask W.pace
  return (observation, reward, terminated, (← get).episode.truncated, info)

/-- One round of an episode: predict, step, and the step cap, which truncates at the capped step itself. -/
def round (index : Nat) (seed : Option Int) (stepCap : Nat) (observation : Obs) :
    Fallible (Core ω Id Obs Act R) ε (Obs × Info) := do
  let before := (← get).episode.steps
  let action ← predict W ids observation
  let (next, reward, terminated, truncated, info) ← step W action
  let s ← get
  let capped := !s.done && decide (stepCap ≤ s.episode.steps)
  truncateIf capped
  ask (W.hook (.step index seed before observation action reward terminated (truncated || capped) info))
  return (next, info)

/-- The rounds of an episode, at most `fuel` of them; each takes a step, so the step cap is reached no later. -/
def rounds (index : Nat) (seed : Option Int) (stepCap : Nat) :
    Nat → Obs → Info → Fallible (Core ω Id Obs Act R) ε Info
  | 0, _, info => return info
  | fuel + 1, observation, info => do
    let s ← get
    if s.done || decide (stepCap ≤ s.episode.steps) then return info
    else
      ask W.checkCancelled
      if ← ask W.timeUp then return info
      else
        let (observation, info) ← round W ids index seed stepCap observation
        rounds index seed stepCap fuel observation info

/-- One episode of a run; tells whether the viewer asked to quit. -/
def runEpisode (plan : RunPlan) (walksTrials : Bool) (index : Nat) : Fallible (Core ω Id Obs Act R) ε Bool := do
  let stepCap := plan.maxEpisodeSteps.getD maxStepsPerEpisode
  let seed := plan.seeds.bind (·[index]?)
  let trial : Int := (plan.trialIndexBase : Int) + index
  let (observation, info) ← reset W ids seed (if walksTrials then some trial else none)
  ask (W.hook (.episodeStart index seed))
  let info ← rounds W ids index seed stepCap stepCap observation info
  truncateIf !(← get).done
  let episode := (← get).episode
  let result : EpisodeResult R := {
    index, seed, steps := episode.steps, reward := episode.reward, terminated := episode.terminated
    truncated := episode.truncated, success := W.success info, trial }
  modify fun s => { s with results := s.results ++ [result] }
  ask (W.hook (.episodeEnd result))
  ask W.viewQuit

/-- The episodes of a run from `index` on. -/
def episodesFrom (plan : RunPlan) (walksTrials : Bool) : Nat → Nat → Fallible (Core ω Id Obs Act R) ε Unit
  | _, 0 => return ()
  | index, left + 1 => do
    if ← runEpisode W ids plan walksTrials index then return ()
    else episodesFrom plan walksTrials (index + 1) left

def runEpisodes (plan : RunPlan) (connected : Connected) : Fallible (Core ω Id Obs Act R) ε Unit := do
  ask (W.hook .runStart)
  episodesFrom W ids plan connected.trialOption 0 plan.episodes

/-- The first error wins: the run's own, that of `on_run_end`, that of the last episode's end. -/
def run (plan : RunPlan) : Fallible (Core ω Id Obs Act R) ε (List (EpisodeResult R)) := do
  ask W.admits
  let connected ← ensureConnected W
  modify fun s => { s with results := [] }
  let outcome ← Fallible.attempt (runEpisodes W ids plan connected)
  let results := (← get).results
  let runEnd ← Fallible.attempt (ask (W.hook (.runEnd results)))
  let ended ← Fallible.attempt (endEpisode W)
  ExceptT.mk (pure outcome)
  ExceptT.mk (pure runEnd)
  ExceptT.mk (pure ended)
  return results

/-- Release what the session made; every step runs and the first error wins. -/
def release (closeEnv : Bool) : Fallible (Core ω Id Obs Act R) ε Unit := do
  let ended ← Fallible.attempt (endEpisode W)
  let route ← Fallible.attempt (if (← get).connected.isSome then ask W.releaseRoute else return ())
  let env ← Fallible.attempt (ask (W.releaseEnv closeEnv))
  modify fun s => { s with connected := none }
  ExceptT.mk (pure ended)
  ExceptT.mk (pure route)
  ExceptT.mk (pure env)

end Session

/-- The calls of a session. -/
inductive SessionCall (Obs Act : Type) where
  | reset (seed trialIndex : Option Int)
  | predict (observation : Obs)
  | step (action : Act)
  | run (plan : RunPlan)
  | release (closeEnv : Bool)

/-- The state a call leaves, whether it failed or not. -/
def Session.after (W : World ω ε Id Obs Raw Act Info R) (ids : Minter Id) (s : Core ω Id Obs Act R) :
    SessionCall Obs Act → Core ω Id Obs Act R
  | .reset seed trialIndex => (Fallible.exec (Session.reset W ids seed trialIndex) s).2
  | .predict observation => (Fallible.exec (Session.predict W ids observation) s).2
  | .step action => (Fallible.exec (Session.step W action) s).2
  | .run plan => (Fallible.exec (Session.run W ids plan) s).2
  | .release closeEnv => (Fallible.exec (Session.release W closeEnv) s).2

end

end Rlmesh.Run
