import Rlmesh.Lib.Runs
import Rlmesh.Runtime.Driver
/-!
# Runs of the driver (`RuntimeDriver::run_with_cancellation_reason`, `run_loop`)

A run is a system whose events are what the loop waits for: an env operation or
a predict call coming back, in any order, a cancellation, and the turns in
between, each with the plan the scheduler makes in it. What the env, the model,
the hooks and the clock answer is part of the event, so a run over all events is
a run over every environment, model, scheduler and timing.
-/
open Rlmesh.Wire Rlmesh.Lib

set_option linter.unusedSectionVars false

namespace Rlmesh.Runtime

/-- Where the run is. -/
inductive Control where
  | start
  /-- At the head of the loop. -/
  | head
  /-- Waiting for something in flight. -/
  | parked
  /-- Out of the loop, not yet torn down. -/
  | ended (result : Except RuntimeError Unit)
  | closed (result : Except RuntimeError Unit)
  /-- An assertion failed; nothing is torn down. -/
  | crashed

/-- A driver in the middle of a run. -/
structure Session (Id R : Type) where
  driver : Driver Id R
  control : Control

inductive Event (Id R : Type) where
  /-- The run begins; `relay` is how the contract check fails, if it does. -/
  | launch (now : Int) (relay : Option RuntimeError)
  /-- One turn of the loop, up to the point where it waits. -/
  | turn (plan : List Nat) (transformed : Nat → Transformed)
  | resetDone (gid : Nat) (answer : Except RuntimeError (ResetResponse R)) (now : Int) (transformed : Transformed)
  | stepDone (gid : Nat) (answer : Except RuntimeError (StepResponse Id R)) (now : Int) (transformed : Transformed)
  | envTaskFailed (message : String)
  | predictDone (index : Nat) (result : Except RuntimeError (List (Except RuntimeError PredictResponse)))
  | cancelled (reason : String)
  /-- The teardown; a predict that does not land in time is abandoned. -/
  | finish (abandoned : Bool)

variable {Id R : Type} [DecidableEq Id] [Inhabited Id] [Zero R] [Add R] [BEq R]

/-- What a transition leads to. -/
def Session.of (next : Control) : Outcome Id R → Session Id R
  | (driver, none) => { driver, control := next }
  | (driver, some .panicked) => { driver, control := .crashed }
  | (driver, some e) => { driver, control := .ended (.error e) }

namespace DriverConfig

variable (cfg : DriverConfig Id R)

def groupIds : List Nat := List.range cfg.spec.groupCount

/-- No env operation is in flight. -/
def quiet (d : Driver Id R) : Bool := cfg.groupIds.all (fun gid => (d.groups gid).op.isNone)

def allIdle (d : Driver Id R) : Bool := cfg.groupIds.all (fun gid => decide ((d.groups gid).phase = .idle))

/-- The initial reset of every group. -/
def launch (now : Int) : Driver Id R :=
  cfg.groupIds.foldl (fun d gid => cfg.beginReset gid true d) ((Driver.new now).emit [.sessionStarted])

/-- The evictions a turn sends before it dispatches: none while a predict is out. -/
def turnFlush (d : Driver Id R) : Driver Id R := if d.predicts.isEmpty then cfg.flushEvictions d else d

/-- The dispatching half of a turn: steps, then predicts, forced when nothing else could wake the loop. -/
def dispatch (plan : List Nat) (transformed : Nat → Transformed) (d : Driver Id R) : Outcome Id R :=
  match cfg.dispatchSteps transformed cfg.groupIds d with
  | (d, some e) => (d, some e)
  | (d, none) => cfg.dispatchPredict plan (cfg.quiet d && d.predicts.isEmpty) d

/-- One turn: done, dispatched and waiting, or failed. -/
def turn (plan : List Nat) (transformed : Nat → Transformed) (d : Driver Id R) : Session Id R :=
  if cfg.allIdle d && cfg.quiet d && d.predicts.isEmpty then { driver := d, control := .ended (.ok ()) }
  else
    match cfg.dispatch plan transformed (cfg.turnFlush d) with
    | (d, some e) => .of .parked (d, some e)
    | (d, none) =>
      if cfg.quiet d && d.predicts.isEmpty then
        { driver := d, control := .ended (.error (.protocol (.stalled cfg.spec.envId))) }
      else { driver := d, control := .parked }

/-- The step the cancellation is reported at. -/
def cancelledError (reason : String) (d : Driver Id R) : RuntimeError :=
  .routeCancelled cfg.spec.envId
    ((cfg.groupIds.map (fun gid => (d.route.snapshotAt (cfg.spec.lanes gid)).step)).max?.getD 0) reason

/-- The evictions of the teardown: everything held or queued, and the episodes
the model never heard the end of; nothing at all to a model that hung. -/
def teardown (abandoned : Bool) (d : Driver Id R) : Driver Id R :=
  if abandoned then { d with predicts := [], pendingEvictions := [], heldEvictions := [] }
  else
    let (live, route) := d.route.endLiveEpisodes cfg.spec
    cfg.flushEvictions { d with
      route
      predicts := []
      pendingEvictions := d.pendingEvictions ++ d.heldEvictions.map (·.2) ++ live
      heldEvictions := [] }

def lastEvent (result : Except RuntimeError Unit) (d : Driver Id R) : HookEvent Id R :=
  match result with
  | .ok () => .sessionEnded "completed requested episodes" d.route.totalSteps d.route.totalEpisodes
  | .error _ => .sessionFailed

def finish (abandoned : Bool) (result : Except RuntimeError Unit) (d : Driver Id R) : Session Id R :=
  let d := cfg.teardown abandoned d
  { driver := d.emit [lastEvent result d], control := .closed result }

def step (s : Session Id R) (e : Event Id R) : Option (Session Id R) :=
  match s.control, e with
  | .start, .launch now relay =>
    match cfg.spec.validate with
    | .error message => some { s with control := .closed (.error (.invalidSpec message)) }
    | .ok () =>
      match relay with
      | some e => some { driver := (Driver.new now).emit [.sessionStarted], control := .ended (.error e) }
      | none => some { driver := cfg.launch now, control := .head }
  | .head, .turn plan transformed => some (cfg.turn plan transformed s.driver)
  | .head, .cancelled reason | .parked, .cancelled reason =>
    some { s with control := .ended (.error (cfg.cancelledError reason s.driver)) }
  | .parked, .resetDone gid answer now transformed =>
    if gid < cfg.spec.groupCount then
      match (s.driver.groups gid).op with
      | some (.reset initial _) => some (.of .head (cfg.onReset gid initial answer now transformed s.driver))
      | _ => none
    else none
  | .parked, .stepDone gid answer now transformed =>
    if gid < cfg.spec.groupCount then
      match (s.driver.groups gid).op with
      | some (.step _ _) => some (.of .head (cfg.onStep gid answer now transformed s.driver))
      | _ => none
    else none
  | .parked, .envTaskFailed message => some { s with control := .ended (.error (.protocol (.envTask message))) }
  | .parked, .predictDone index result =>
    match s.driver.predicts[index]? with
    | none => none
    | some requests =>
      some (.of .head (cfg.onPredictOutcome requests result
        { s.driver with predicts := s.driver.predicts.eraseIdx index }))
  | .ended result, .finish abandoned => some (cfg.finish abandoned result s.driver)
  | _, _ => none

/-- Everything a step can be. -/
inductive Stepped (cfg : DriverConfig Id R) (s : Session Id R) : Event Id R → Session Id R → Prop
  | rejected (now : Int) (relay : Option RuntimeError) (message : String) :
    s.control = .start → cfg.spec.validate = .error message →
    Stepped cfg s (.launch now relay) { s with control := .closed (.error (.invalidSpec message)) }
  | refused (now : Int) (e : RuntimeError) : s.control = .start → cfg.spec.validate = .ok () →
    Stepped cfg s (.launch now (some e))
      { driver := (Driver.new now).emit [.sessionStarted], control := .ended (.error e) }
  | launched (now : Int) : s.control = .start → cfg.spec.validate = .ok () →
    Stepped cfg s (.launch now none) { driver := cfg.launch now, control := .head }
  | turned (plan : List Nat) (transformed : Nat → Transformed) : s.control = .head →
    Stepped cfg s (.turn plan transformed) (cfg.turn plan transformed s.driver)
  | cancelled (reason : String) : s.control = .head ∨ s.control = .parked →
    Stepped cfg s (.cancelled reason) { s with control := .ended (.error (cfg.cancelledError reason s.driver)) }
  | resetDone (gid : Nat) (initial : Bool) (request : ResetRequest Id R) (answer now transformed) :
    s.control = .parked → gid < cfg.spec.groupCount → (s.driver.groups gid).op = some (.reset initial request) →
    Stepped cfg s (.resetDone gid answer now transformed)
      (.of .head (cfg.onReset gid initial answer now transformed s.driver))
  | stepDone (gid : Nat) (frame : Frame Id) (request : StepRequest Id) (answer now transformed) :
    s.control = .parked → gid < cfg.spec.groupCount → (s.driver.groups gid).op = some (.step frame request) →
    Stepped cfg s (.stepDone gid answer now transformed) (.of .head (cfg.onStep gid answer now transformed s.driver))
  | envTaskFailed (message : String) : s.control = .parked →
    Stepped cfg s (.envTaskFailed message) { s with control := .ended (.error (.protocol (.envTask message))) }
  | predictDone (index : Nat) (requests : List (Nat × PredictRequest Id)) (result) : s.control = .parked →
    s.driver.predicts[index]? = some requests →
    Stepped cfg s (.predictDone index result)
      (.of .head (cfg.onPredictOutcome requests result
        { s.driver with predicts := s.driver.predicts.eraseIdx index }))
  | finished (result : Except RuntimeError Unit) (abandoned : Bool) : s.control = .ended result →
    Stepped cfg s (.finish abandoned) (cfg.finish abandoned result s.driver)

theorem step_cases {s s' : Session Id R} {e : Event Id R} (h : cfg.step s e = some s') : Stepped cfg s e s' := by
  obtain ⟨driver, control⟩ := s
  unfold step at h
  dsimp only at h
  split at h
  · split at h
    · rename_i hv
      cases h
      exact .rejected _ _ _ rfl hv
    · rename_i hv
      split at h
      · cases h
        exact .refused _ _ rfl hv
      · cases h
        exact .launched _ rfl hv
  · cases h
    exact .turned _ _ rfl
  · cases h
    exact .cancelled _ (.inl rfl)
  · cases h
    exact .cancelled _ (.inr rfl)
  · split at h
    · rename_i hgid
      split at h
      · rename_i hop
        cases h
        exact .resetDone _ _ _ _ _ _ rfl hgid hop
      · cases h
    · cases h
  · split at h
    · rename_i hgid
      split at h
      · rename_i hop
        cases h
        exact .stepDone _ _ _ _ _ _ rfl hgid hop
      · cases h
    · cases h
  · cases h
    exact .envTaskFailed _ rfl
  · split at h
    · cases h
    · rename_i hidx
      cases h
      exact .predictDone _ _ _ rfl hidx
  · cases h
    exact .finished _ _ rfl
  · cases h

/-- Where a transition leaves the run: on its way, crashed or failed. -/
theorem of_control (next : Control) (o : Outcome Id R) :
    (Session.of next o).control = next ∨ (Session.of next o).control = .crashed ∨
      ∃ e, (Session.of next o).control = .ended (.error e) := by
  unfold Session.of
  split
  · exact .inl rfl
  · exact .inr (.inl rfl)
  · exact .inr (.inr ⟨_, rfl⟩)

/-- Where a turn leaves the run; it ends well only when there is nothing left to do. -/
theorem turn_control (plan : List Nat) (transformed : Nat → Transformed) (d : Driver Id R) :
    (cfg.turn plan transformed d = { driver := d, control := .ended (.ok ()) } ∧ cfg.allIdle d = true) ∨
      (cfg.turn plan transformed d).control = .parked ∨ (cfg.turn plan transformed d).control = .crashed ∨
      ∃ e, (cfg.turn plan transformed d).control = .ended (.error e) := by
  unfold turn
  split
  · rename_i hidle
    rw [Bool.and_eq_true, Bool.and_eq_true] at hidle
    exact .inl ⟨rfl, hidle.1.1⟩
  · right
    split
    · exact of_control _ _
    · split
      · exact .inr (.inr ⟨_, rfl⟩)
      · exact .inl rfl

theorem closed_cases {s s' : Session Id R} {e : Event Id R} (h : cfg.step s e = some s')
    {result : Except RuntimeError Unit} (hc : s'.control = .closed result) :
    (s.control = .start ∧ s'.driver = s.driver ∧ ∃ message, result = .error (.invalidSpec message)) ∨
      ∃ abandoned, e = .finish abandoned ∧ s.control = .ended result ∧ s' = cfg.finish abandoned result s.driver := by
  have hof : ∀ o, (Session.of .head o : Session Id R).control ≠ .closed result := by
    intro o ho
    rcases of_control .head o with hn | hn | ⟨_, hn⟩ <;> exact nomatch hn.symm.trans ho
  cases cfg.step_cases h with
  | rejected now relay message hs =>
    cases hc
    exact .inl ⟨hs, rfl, message, rfl⟩
  | refused | launched | cancelled | envTaskFailed => cases hc
  | turned plan transformed =>
    rcases cfg.turn_control plan transformed s.driver with ⟨hn, -⟩ | hn | hn | ⟨_, hn⟩
    · rw [hn] at hc
      cases hc
    all_goals exact nomatch hn.symm.trans hc
  | resetDone | stepDone | predictDone => exact absurd hc (hof _)
  | finished result' abandoned hs =>
    cases hc
    exact .inr ⟨abandoned, rfl, hs, rfl⟩

/-- The runs of the driver. -/
def runs : System (Session Id R) (Event Id R) where
  init := { driver := .new 0, control := .start }
  step := cfg.step

end DriverConfig

/-! ## A small route to run -/

/-- A valid spec for `numEnvs` lanes under an autoreset mode, served as one vector or lane by lane. -/
def smallSpec (autoresetMode : Int) (numEnvs : Nat) (subsetStep : Bool) : RuntimeSessionSpec Int :=
  { sessionId := "session", envId := "env", envComponentId := "env", modelComponentId := "model"
    retainedEdition := .ok (), hasObservationSpace := true, hasActionSpace := true, autoresetMode, metadata := none
    numEnvs, baseSeed := none, episodeSeeds := [], maxEpisodes := none, trialIndexBase := none
    maxEpisodeSteps := none, maxEpisodeSeconds := none, envResetTimeoutMs := 0, envStepTimeoutMs := 0, subsetStep }

/-- Its driver, with numbers as episode ids. -/
def smallConfig (spec : RuntimeSessionSpec Int) : DriverConfig Nat Int :=
  { spec, minter := .nat, prefetchLead := 0, deliverHistory := false, fusesPredicts := false }

/-- A turn whose hooks pass every action on. -/
def plainTurn (plan : List Nat) : Event Nat Int := .turn plan (fun _ => .ok (some []))

/-- The group's reset comes back. -/
def resetLands (gid : Nat) : Event Nat Int :=
  .resetDone gid (.ok { observation := some [], infos := none }) 0 (.ok (some []))

/-- The group's step comes back, reporting the episodes `ended` as `(id, lane)`. -/
def stepLands (gid : Nat) (ended : List (Nat × Nat)) : Event Nat Int :=
  .stepDone gid (.ok {
    observation := some [], rewards := [0], terminatedMask := [], truncatedMask := [], infos := none, envIndices := []
    completedEpisodes := ended.map (fun episode => {
      episodeId := episode.1, seed := none, envIndex := episode.2, stepCount := 1, cumulativeReward := 0
      terminated := true, truncated := false, startTimestampNs := 0, endTimestampNs := 0, finalInfo := none }) })
    0 (.ok (some []))

/-- The oldest predict comes back: the answer to the request `seq`, with a chunk of actions. -/
def predictLands (phase : RequestPhase) (seq chunk : Nat) : Event Nat Int :=
  .predictDone 0 (.ok [.ok {
    context := some { sessionId := "session", envId := "env", requestId := { envId := "env", phase, seq } }
    actions := List.replicate chunk [] }])

end Rlmesh.Runtime
