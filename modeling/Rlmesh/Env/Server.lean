import Rlmesh.Env.Episode
/-!
# The env server's request handler (`rlmesh-grpc/src/env/server.rs`)

`handleEnvRequest` answers one Join request over the session's tracker. The
environment behind it is arbitrary user code: what its operation returned, and
whether it outlived the request's deadline, is the request's `EnvAnswer`.
-/
open Rlmesh.Wire

set_option linter.unusedSectionVars false

namespace Rlmesh.Env

/-- What the served environment is, fixed for the session. -/
structure ServerConfig where
  numEnvs : Nat
  autoresetMode : AutoresetMode
  supportsLanes : Bool
  /-- `parse_retained_edition` succeeds on the name. -/
  retainsEdition : String → Bool
  supportedEditions : List String

/-- The environment's side of one request. -/
structure EnvAnswer (Id R : Type) where
  /-- The operation outlived the request's deadline. -/
  late : Bool
  reset : Except EnvError (ResetResponse R)
  step : Except EnvError (StepResponse Id R)
  render : Except EnvError RenderResponse

/-- A late operation is driven to completion and its result discarded. -/
def runEnvOpWithDeadline {α : Type} (op : Except EnvError α) (late : Bool) (timeoutMs : Nat)
    (operation : String) : Except EnvError α :=
  if timeoutMs = 0 then op
  else if late then .error (.new .timeout s!"{operation} timed out after {timeoutMs}ms")
  else op

variable {Id R : Type}

/-- Lane `idx`'s flag in a per-lane byte mask; a missing entry is `false`. -/
def laneBit (mask : List UInt8) (idx : Nat) : Bool :=
  match mask[idx]? with
  | some b => b != 0
  | none => false

/-- Whether a Join request is scoped to named lanes, and so may run
concurrently with other lane operations. -/
def isLaneScoped : JoinRequest Id R → Bool
  | .step request => !request.envIndices.isEmpty
  | .reset request => !request.envIndices.isEmpty
  | _ => false

/-! ## Validation -/

/-- Every lane in range and named once. -/
def validateLanes (numEnvs : Nat) (seen : List Nat) : List Nat → Except String Unit
  | [] => .ok ()
  | idx :: rest =>
    if idx ≥ numEnvs then .error s!"partial reset: env_index {idx} out of range for num_envs {numEnvs}"
    else if idx ∈ seen then .error s!"partial reset: duplicate env_index {idx}"
    else validateLanes numEnvs (idx :: seen) rest

def validatePartialReset (partialReset : Bool) (envIndices : List Nat) (seeds : List Int) (episodeIds : List Id)
    (numEnvs : Nat) : Except String Unit :=
  if !partialReset then .ok ()
  else if !seeds.isEmpty && seeds.length != envIndices.length then
    .error s!"partial reset: seeds length {seeds.length} does not match env_indices length {envIndices.length} (provide one seed per reset lane, or none)"
  else if !episodeIds.isEmpty && episodeIds.length != envIndices.length then
    .error s!"partial reset: episode_ids length {episodeIds.length} does not match env_indices length {envIndices.length} (provide one episode id per reset lane, or none)"
  else validateLanes numEnvs [] envIndices

/-- A per-lane vector is empty or covers every lane. -/
def widthViolation (label : String) (len numEnvs : Nat) : Option EnvError :=
  if len != 0 && len != numEnvs then
    some (.new .internal s!"StepResponse.{label} has length {len}, which is neither empty nor the env's lane count {numEnvs}; a partial per-lane vector would silently mask lanes")
  else none

/-- The NEXT_STEP rule for one lane of a step response. -/
def laneViolation [Zero R] [BEq R] (ok : StepResponse Id R) (tracker : EpisodeTracker Id R) (envIdx pos : Nat) :
    Option EnvError :=
  match tracker.laneState envIdx with
  | .pendingAutoreset =>
    if laneBit ok.terminatedMask pos || laneBit ok.truncatedMask pos then
      some (.new .internal s!"NEXT_STEP lane {envIdx} reported a terminal step where its autoreset observation was expected; after a completion the env must deliver one fresh (non-terminal) observation")
    else if ok.rewards[pos]?.getD 0 != 0 then
      some (.new .internal s!"NEXT_STEP lane {envIdx} carried a non-zero reward on its autoreset observation; the fresh observation after a completion must carry reward 0")
    else none
  | .idle =>
    some (.new .internal s!"NEXT_STEP lane {envIdx} was stepped with no active episode and no pending autoreset; reset the lane before stepping it, and the env may only autoreset the step after a completion")
  | .active => none

/-- The first violation of the per-lane step contract, before anything is
recorded: malformed widths, then (under NEXT_STEP) illegal lane transitions. -/
def validateStepLanes [Zero R] [BEq R] (ok : StepResponse Id R) (lanes : List Nat) (nextStep : Bool)
    (tracker : EpisodeTracker Id R) : Option EnvError :=
  let widths := widthViolation "rewards" ok.rewards.length lanes.length <|>
    widthViolation "terminated_mask" ok.terminatedMask.length lanes.length <|>
    widthViolation "truncated_mask" ok.truncatedMask.length lanes.length
  widths <|>
    (if nextStep then lanes.zipIdx.findSome? (fun entry => laneViolation ok tracker entry.1 entry.2) else none)

/-! ## Tracker updates -/

/-- Start an episode on each named lane, ids and seeds by position. -/
def startLanes [Zero R] [Inhabited Id] (now : Int) (seeds : List Int) (pushedIds : List Id)
    (tracker : EpisodeTracker Id R) (lanes : List Nat) : EpisodeTracker Id R :=
  lanes.zipIdx.foldl (fun tracker entry =>
    tracker.startEpisode now entry.1 seeds[entry.2]? (pushedIds[entry.2]?.getD default)) tracker

/-- Advance the tracker for one lane of a validated step response. -/
def applyLane [Zero R] [Add R] [Inhabited Id] (now : Int) (ok : StepResponse Id R) (width : Nat) (nextStep : Bool)
    (pushedIds : List Id) (tracker : EpisodeTracker Id R) (lane pos : Nat) :
    EpisodeTracker Id R × List (EpisodeMetadata Id R) :=
  let terminated := laneBit ok.terminatedMask pos
  let truncated := laneBit ok.truncatedMask pos
  let reward := ok.rewards[pos]?.getD 0
  match tracker.laneState lane with
  | .active =>
    let stepped := tracker.recordStep lane reward
    if terminated || truncated then
      let (metadata, completed) :=
        stepped.completeEpisode now lane terminated truncated (laneFinalInfo ok.infos pos width)
      (if nextStep then completed.expectAutoreset lane else completed, metadata.toList)
    else (stepped, [])
  | .pendingAutoreset =>
    -- Validated as the fresh autoreset observation: the lane rolls onto the pushed id.
    (tracker.startEpisode now lane none (pushedIds[pos]?.getD default), [])
  | .idle => (tracker, [])

/-- Advance the tracker for every lane a validated step response covers; the
completed episodes come out in lane order, after those resets interrupted. -/
def applyStepToTracker [Zero R] [Add R] [Inhabited Id] (now : Int) (ok : StepResponse Id R) (lanes : List Nat)
    (nextStep : Bool) (pushedIds : List Id) (tracker : EpisodeTracker Id R) :
    StepResponse Id R × EpisodeTracker Id R :=
  let (interrupted, drained) := tracker.takeInterrupted
  let (stepped, completed) := lanes.zipIdx.foldl (fun acc entry =>
    let (tracker, metadata) := applyLane now ok lanes.length nextStep pushedIds acc.1 entry.1 entry.2
    (tracker, acc.2 ++ metadata)) (drained, interrupted)
  ({ ok with completedEpisodes := completed }, stepped)

/-! ## The handler -/

variable [Zero R] [Add R] [BEq R] [Inhabited Id]

/-- The lanes a request covers, in position order: those it names, or all. -/
def coveredLanes (cfg : ServerConfig) (envIndices : List Nat) : List Nat :=
  if envIndices.isEmpty then List.range cfg.numEnvs else envIndices

/-- The env's answer to a reset, unless the request is refused before it runs. -/
def resetResult (cfg : ServerConfig) (answer : EnvAnswer Id R) (request : ResetRequest Id R) :
    Except EnvError (ResetResponse R) :=
  let partialReset := !request.envIndices.isEmpty
  if partialReset && !cfg.supportsLanes then
    .error (.new .unsupported
      "partial reset (ResetRequest.env_indices) is not supported by this environment")
  else match validatePartialReset partialReset request.envIndices request.seeds request.episodeIds cfg.numEnvs with
    | .error message => .error (.new .invalidAction message)
    | .ok () => runEnvOpWithDeadline answer.reset answer.late request.timeoutMs "env.reset"

def handleReset (cfg : ServerConfig) (now : Int) (answer : EnvAnswer Id R) (tracker : EpisodeTracker Id R)
    (request : ResetRequest Id R) : JoinResponse Id R × EpisodeTracker Id R :=
  match resetResult cfg answer request with
  | .ok ok => (.reset ok,
      startLanes now request.seeds request.episodeIds tracker (coveredLanes cfg request.envIndices))
  | .error e => (.error e, tracker)

/-- The env's answer to a step, unless the request is refused before it runs;
a subset step's answer is stamped with the lanes it covers. -/
def stepResult (cfg : ServerConfig) (answer : EnvAnswer Id R) (request : StepRequest Id) :
    Except EnvError (StepResponse Id R) :=
  let subset := !request.envIndices.isEmpty
  if cfg.autoresetMode = .sameStep then
    .error (.new .unsupported
      "SAME_STEP autoreset is not supported by the runtime; serve the environment with NEXT_STEP or DISABLED autoreset")
  else if subset && !cfg.supportsLanes then
    .error (.new .unsupported
      "subset stepping (StepRequest.env_indices) is not supported by this environment")
  else match validatePartialReset subset request.envIndices [] ([] : List Id) cfg.numEnvs with
    | .error message => .error (.new .invalidAction (message.replace "partial reset" "subset step"))
    | .ok () =>
      match runEnvOpWithDeadline answer.step answer.late request.timeoutMs "env.step" with
      | .ok ok => .ok (if subset then { ok with envIndices := request.envIndices } else ok)
      | .error e => .error e

def handleStep (cfg : ServerConfig) (now : Int) (answer : EnvAnswer Id R) (tracker : EpisodeTracker Id R)
    (request : StepRequest Id) : JoinResponse Id R × EpisodeTracker Id R :=
  let lanes := coveredLanes cfg request.envIndices
  let nextStep := cfg.autoresetMode = .nextStep
  match stepResult cfg answer request with
  | .ok ok =>
    match validateStepLanes ok lanes nextStep tracker with
    | some e => (.error e, tracker)
    | none =>
      let applied := applyStepToTracker now ok lanes nextStep request.episodeIds tracker
      (.step applied.1, applied.2)
  | .error e => (.error e, tracker)

/-- Answer one Join request. -/
def handleEnvRequest (cfg : ServerConfig) (now : Int) (answer : EnvAnswer Id R) (tracker : EpisodeTracker Id R)
    (request : JoinRequest Id R) : JoinResponse Id R × EpisodeTracker Id R :=
  match request with
  | .reset request => handleReset cfg now answer tracker request
  | .step request => handleStep cfg now answer tracker request
  | .render timeoutMs _ =>
    match runEnvOpWithDeadline answer.render answer.late timeoutMs "env.render" with
    | .ok ok => (.render ok, tracker)
    | .error e => (.error e, tracker)
  | .close _ =>
    let (finalEpisodes, tracker) := tracker.completeAll now
    (.close finalEpisodes, tracker)
  | .configure pin =>
    if pin.isEmpty || cfg.retainsEdition pin then (.configure, tracker)
    else (.error {
      code := .invalidAction
      message := s!"runtime pinned this env to workflow edition {pin.quote}, which this env build does not implement (implements {cfg.supportedEditions})"
      isRecoverable := false
      debugInfo := none }, tracker)
  | .empty => (.error {
      code := .unsupported
      message := "empty or unrecognized Join request (a newer-edition arm this build does not implement?)"
      isRecoverable := true
      debugInfo := none }, tracker)

/-! ## Requests the env sees -/

/-- The operations a request does not ask for are not run. -/
def notAsked {α : Type} : Except EnvError α := .error (.new .internal "not asked")

/-- The env's side of a reset. -/
def resetAnswer (late : Bool) (result : Except EnvError (ResetResponse R)) : EnvAnswer Id R :=
  { late, reset := result, step := notAsked, render := notAsked }

/-- The env's side of a step. -/
def stepAnswer (late : Bool) (result : Except EnvError (StepResponse Id R)) : EnvAnswer Id R :=
  { late, reset := notAsked, step := result, render := notAsked }

/-- The server lets the reset through to the env. -/
def resetAdmitted (cfg : ServerConfig) (request : ResetRequest Id R) : Bool :=
  let partialReset := !request.envIndices.isEmpty
  !(partialReset && !cfg.supportsLanes) &&
    (validatePartialReset partialReset request.envIndices request.seeds request.episodeIds cfg.numEnvs).isOk

/-- The server lets the step through to the env. -/
def stepAdmitted (cfg : ServerConfig) (request : StepRequest Id) : Bool :=
  let subset := !request.envIndices.isEmpty
  cfg.autoresetMode ≠ .sameStep && !(subset && !cfg.supportsLanes) &&
    (validatePartialReset subset request.envIndices [] ([] : List Id) cfg.numEnvs).isOk

/-! ## What a reply says about the request -/

theorem validateLanes_ok {numEnvs : Nat} {seen lanes : List Nat} (h : validateLanes numEnvs seen lanes = .ok ()) :
    lanes.Nodup ∧ (∀ lane ∈ lanes, lane < numEnvs) ∧ ∀ lane ∈ lanes, lane ∉ seen := by
  induction lanes generalizing seen with
  | nil => simp
  | cons idx rest ih =>
    unfold validateLanes at h
    split at h
    · cases h
    · split at h
      · cases h
      · obtain ⟨hn, hlt, hseen⟩ := ih h
        have hidx : idx ∉ rest := fun hm => hseen idx hm (by simp)
        refine ⟨List.nodup_cons.2 ⟨hidx, hn⟩, ?_, ?_⟩
        · intro lane hl
          rcases List.mem_cons.1 hl with rfl | hl
          · omega
          · exact hlt lane hl
        · intro lane hl
          rcases List.mem_cons.1 hl with rfl | hl
          · assumption
          · exact fun hm => hseen lane hl (List.mem_cons_of_mem _ hm)

/-- The lanes a request covers are distinct lanes of the env. -/
def ValidLanes (cfg : ServerConfig) (envIndices : List Nat) : Prop :=
  (coveredLanes cfg envIndices).Nodup ∧ ∀ lane ∈ coveredLanes cfg envIndices, lane < cfg.numEnvs

variable {cfg : ServerConfig} {request : StepRequest Id}

theorem validLanes_of_ok {envIndices : List Nat} {seeds : List Int} {ids : List Id}
    (h : validatePartialReset (!envIndices.isEmpty) envIndices seeds ids cfg.numEnvs = .ok ()) :
    ValidLanes cfg envIndices := by
  unfold ValidLanes coveredLanes
  cases hi : envIndices.isEmpty with
  | true => simp [List.nodup_range]
  | false =>
    simp only [hi, validatePartialReset, Bool.not_false, Bool.not_true, Bool.false_eq_true, if_false] at h ⊢
    split at h
    · cases h
    · split at h
      · cases h
      · exact ⟨(validateLanes_ok h).1, (validateLanes_ok h).2.1⟩

theorem runEnvOpWithDeadline_ok {α : Type} {op : Except EnvError α} {late : Bool} {timeoutMs : Nat}
    {operation : String} {ok : α} (h : runEnvOpWithDeadline op late timeoutMs operation = .ok ok) : op = .ok ok := by
  unfold runEnvOpWithDeadline at h
  split at h
  · exact h
  split at h
  · cases h
  · exact h

/-- A reset is refused whatever the env answers, or let through with valid lanes. -/
theorem resetAdmitted_cases (cfg : ServerConfig) (request : ResetRequest Id R) :
    (resetAdmitted cfg request = false ∧ ∀ answer, ∃ e, resetResult cfg answer request = .error e) ∨
    (resetAdmitted cfg request = true ∧ ValidLanes cfg request.envIndices ∧ ∀ answer, resetResult cfg answer request =
      runEnvOpWithDeadline answer.reset answer.late request.timeoutMs "env.reset") := by
  unfold resetAdmitted resetResult
  dsimp only
  cases !request.envIndices.isEmpty && !cfg.supportsLanes with
  | true => exact .inl ⟨rfl, fun _ => ⟨_, rfl⟩⟩
  | false =>
    cases hv : validatePartialReset (!request.envIndices.isEmpty) request.envIndices request.seeds request.episodeIds
        cfg.numEnvs with
    | error message => exact .inl ⟨rfl, fun _ => ⟨_, rfl⟩⟩
    | ok _ => exact .inr ⟨rfl, validLanes_of_ok hv, fun _ => rfl⟩

theorem resetResult_ok {answer : EnvAnswer Id R} {request : ResetRequest Id R} {ok : ResetResponse R}
    (h : resetResult cfg answer request = .ok ok) :
    resetAdmitted cfg request = true ∧ ValidLanes cfg request.envIndices ∧ answer.reset = .ok ok := by
  rcases resetAdmitted_cases cfg request with ⟨-, herror⟩ | ⟨hadmitted, hvalid, hrun⟩
  · obtain ⟨e, he⟩ := herror answer
    cases he.symm.trans h
  · exact ⟨hadmitted, hvalid, runEnvOpWithDeadline_ok ((hrun answer).symm.trans h)⟩

/-- A reset is refused with the tracker untouched, or starts an episode on
every lane it covers. -/
theorem handleReset_cases (cfg : ServerConfig) (now : Int) (answer : EnvAnswer Id R) (tracker : EpisodeTracker Id R)
    (request : ResetRequest Id R) :
    (∃ e, handleReset cfg now answer tracker request = (.error e, tracker)) ∨
    (∃ ok, resetResult cfg answer request = .ok ok ∧ handleReset cfg now answer tracker request = (.reset ok,
      startLanes now request.seeds request.episodeIds tracker (coveredLanes cfg request.envIndices))) := by
  unfold handleReset
  cases resetResult cfg answer request with
  | error e => exact .inl ⟨e, rfl⟩
  | ok ok => exact .inr ⟨ok, rfl, rfl⟩

/-- A step is refused whatever the env answers, or let through with valid lanes. -/
theorem stepAdmitted_cases (cfg : ServerConfig) (request : StepRequest Id) :
    (stepAdmitted cfg request = false ∧ ∀ answer : EnvAnswer Id R, ∃ e, stepResult cfg answer request = .error e) ∨
    (stepAdmitted cfg request = true ∧ ValidLanes cfg request.envIndices ∧ ∀ answer : EnvAnswer Id R,
      stepResult cfg answer request =
        match runEnvOpWithDeadline answer.step answer.late request.timeoutMs "env.step" with
        | .ok ok => .ok (if !request.envIndices.isEmpty then { ok with envIndices := request.envIndices } else ok)
        | .error e => .error e) := by
  unfold stepAdmitted stepResult
  dsimp only
  by_cases hmode : cfg.autoresetMode = .sameStep
  · exact .inl ⟨by simp [hmode], fun _ => ⟨_, if_pos hmode⟩⟩
  · simp only [hmode, if_false]
    cases !request.envIndices.isEmpty && !cfg.supportsLanes with
    | true => exact .inl ⟨by simp, fun _ => ⟨_, rfl⟩⟩
    | false =>
      cases hv : validatePartialReset (!request.envIndices.isEmpty) request.envIndices [] ([] : List Id) cfg.numEnvs with
      | error message => exact .inl ⟨by simp [Except.isOk, Except.toBool], fun _ => ⟨_, rfl⟩⟩
      | ok _ => exact .inr ⟨by simp [hmode, Except.isOk, Except.toBool], validLanes_of_ok hv, fun _ => rfl⟩

/-- A step the env ran: its lanes are valid, and the response is the env's own
up to the lanes stamped on it. -/
theorem stepResult_ok {answer : EnvAnswer Id R} {ok : StepResponse Id R} (h : stepResult cfg answer request = .ok ok) :
    stepAdmitted cfg request = true ∧ ValidLanes cfg request.envIndices ∧
      ∃ sent, answer.step = .ok sent ∧ ok = { sent with envIndices := ok.envIndices } := by
  rcases stepAdmitted_cases (R := R) cfg request with ⟨-, herror⟩ | ⟨hadmitted, hvalid, hrun⟩
  · obtain ⟨e, he⟩ := herror answer
    cases he.symm.trans h
  · rw [hrun] at h
    refine ⟨hadmitted, hvalid, ?_⟩
    cases hs : runEnvOpWithDeadline answer.step answer.late request.timeoutMs "env.step" with
    | error e => rw [hs] at h; cases h
    | ok sent =>
      rw [hs] at h
      cases h
      exact ⟨sent, runEnvOpWithDeadline_ok hs, by split <;> rfl⟩

/-- A step is refused with the tracker untouched, or its response passed the
lane checks and is applied to the lanes it covers. -/
theorem handleStep_cases (cfg : ServerConfig) (now : Int) (answer : EnvAnswer Id R) (tracker : EpisodeTracker Id R)
    (request : StepRequest Id) :
    (∃ e, handleStep cfg now answer tracker request = (.error e, tracker)) ∨
    (∃ ok, stepResult cfg answer request = .ok ok ∧
      validateStepLanes ok (coveredLanes cfg request.envIndices) (cfg.autoresetMode = .nextStep) tracker = none ∧
      handleStep cfg now answer tracker request =
        (.step (applyStepToTracker now ok (coveredLanes cfg request.envIndices) (cfg.autoresetMode = .nextStep)
            request.episodeIds tracker).1,
          (applyStepToTracker now ok (coveredLanes cfg request.envIndices) (cfg.autoresetMode = .nextStep)
            request.episodeIds tracker).2)) := by
  unfold handleStep
  cases hr : stepResult cfg answer request with
  | error e => exact .inl ⟨e, rfl⟩
  | ok ok =>
    dsimp only
    cases hv : validateStepLanes ok (coveredLanes cfg request.envIndices) (cfg.autoresetMode = .nextStep) tracker with
    | some e => exact .inl ⟨e, rfl⟩
    | none => exact .inr ⟨ok, rfl, hv, rfl⟩

theorem handleEnvRequest_error (cfg : ServerConfig) (now : Int) (answer : EnvAnswer Id R)
    (tracker : EpisodeTracker Id R) (request : JoinRequest Id R)
    (h : (handleEnvRequest cfg now answer tracker request).1.isError = true) :
    (handleEnvRequest cfg now answer tracker request).2 = tracker := by
  cases request with
  | reset request =>
    rcases handleReset_cases cfg now answer tracker request with ⟨e, he⟩ | ⟨ok, -, he⟩
    · simp only [handleEnvRequest, he]
    · simp [handleEnvRequest, he, JoinResponse.isError] at h
  | step request =>
    rcases handleStep_cases cfg now answer tracker request with ⟨e, he⟩ | ⟨ok, -, -, he⟩
    · simp only [handleEnvRequest, he]
    · simp [handleEnvRequest, he, JoinResponse.isError] at h
  | render timeoutMs envIndices => simp only [handleEnvRequest]; split <;> rfl
  | close reason => simp [handleEnvRequest, JoinResponse.isError] at h
  | configure pin => simp only [handleEnvRequest]; split <;> rfl
  | empty => rfl

end Rlmesh.Env
