import Rlmesh.Env.Server
import Rlmesh.Lib.Fallible
import Rlmesh.Wire.Slab
/-!
# The lane endpoint (`rlmesh/src/env/wire.rs`, `lanes.rs`)

`WireLaneAdapter` serves N scalar envs as the lanes of one endpoint: a request
fans out to the lanes it covers, each lane's env is called with its own part of
it, and the answers are gathered into one reply. What a lane's env answers is
arbitrary user code (`LaneWorld`); the calls made are kept in the adapter's
state. `serveReset` and `serveStep` put the adapter behind the server's handler.

Lane phases and the two spellings of null in an info map are left out. The
spaces of an endpoint are ones `validateSpace` accepts: every client refuses the
others when it connects.
-/
open Rlmesh.Lib Rlmesh.Spaces Rlmesh.Wire Fallible

set_option linter.unusedSectionVars false

namespace Rlmesh.Env

/-! ## One lane's env -/

/-- A value whose maps are ordered maps. -/
abbrev EnvValue := { value : SpaceValue // value.Ordered }

structure LaneResetRequest (R : Type) where
  seed : Option Int
  options : Option (MetaMap R)
  timeoutMs : Nat

structure LaneStepRequest where
  action : Option SpaceValue
  timeoutMs : Nat

structure LaneResetResult (R : Type) where
  observation : Option EnvValue
  info : Option (MetaMap R)

structure LaneStepResult (R : Type) where
  observation : Option EnvValue
  reward : R
  terminated : Bool
  truncated : Bool
  info : Option (MetaMap R)

inductive EnvRuntimeError where
  | invalidSpace (message : String)
  | invalidValue (message : String)
  | runtime (message : String)
  | recoverable (message : String)

/-- What the lanes' envs answer; a stopped or panicking lane answers a `runtime` error. -/
structure LaneWorld (R : Type) where
  reset : Nat → LaneResetRequest R → Except EnvRuntimeError (LaneResetResult R)
  step : Nat → LaneStepRequest → Except EnvRuntimeError (LaneStepResult R)

/-- One call of a lane's env. -/
inductive LaneCall (R : Type) where
  | reset (lane : Nat) (request : LaneResetRequest R)
  | step (lane : Nat) (request : LaneStepRequest)

/-! ## The endpoint -/

/-- `TRIAL_INDEX_OPTION`. -/
def trialIndexOption : String := "trial_index"

/-- What is fixed for the endpoint and its session. -/
structure LaneEndpoint (B : Type) [BoxBounds B] where
  config : ServerConfig
  observationSpace : SpaceSpec B
  actionSpace : SpaceSpec B
  policy : ValidationPolicy
  /-- `conformance_warning_info_key` of the session's edition. -/
  warningInfoKey : String
  populated : 0 < config.numEnvs
  disabled : config.autoresetMode = .disabled
  supportsLanes : config.supportsLanes = true
  observationValid : validateSpace observationSpace = .ok ()
  actionValid : validateSpace actionSpace = .ok ()

/-- The adapter's state: the conformance warnings already reported (lane, kind
and path), and the calls the lanes' envs got. -/
structure AdapterState (R : Type) where
  warned : List (Nat × String × String)
  calls : List (LaneCall R)

structure ConformanceWarning where
  kind : String
  path : String
  detail : String

inductive ValueKind where
  | action
  | observation
  deriving DecidableEq

def ValueKind.name : ValueKind → String
  | action => "action"
  | observation => "observation"

section Adapter

variable {B Id R : Type} [BoxBounds B]

/-! ## Conformance -/

def enforce (policy : ValidationPolicy) (space : SpaceSpec B) (kind : ValueKind) (lane : Nat) (value : SpaceValue)
    (warnings : List ConformanceWarning) : Fallible (AdapterState R) EnvError (List ConformanceWarning) :=
  match policy.check space value with
  | .accept => pure warnings
  | .reject e =>
    throw (.new (if kind = .action then .invalidAction else .internal) e.toString)
  | .warn e => do
    let s ← get
    if (lane, kind.name, e.path) ∈ s.warned then pure warnings
    else do
      modify fun s => { s with warned := (lane, kind.name, e.path) :: s.warned }
      pure (warnings ++ [{ kind := kind.name, path := e.path, detail := e.toString }])

/-- The values still to check, from position `pos` on. -/
def enforceAll (policy : ValidationPolicy) (space : SpaceSpec B) (kind : ValueKind) (lanes : List Nat) (pos : Nat)
    (warnings : List ConformanceWarning) :
    List SpaceValue → Fallible (AdapterState R) EnvError (List ConformanceWarning)
  | [] => pure warnings
  | value :: rest => do
    let warnings ← enforce policy space kind (lanes[pos]?.getD 0) value warnings
    enforceAll policy space kind lanes (pos + 1) warnings rest

/-- Merge conformance warnings into an info map under the session edition's reserved key. -/
def injectConformanceWarnings (key : String) (info : Option (MetaMap R)) (warnings : List ConformanceWarning) :
    Option (MetaMap R) :=
  if warnings.isEmpty then info
  else
    let entries := warnings.map (fun warning => MetaValue.map
      [("detail", .text warning.detail), ("kind", .text warning.kind), ("path", .text warning.path)])
    some (insertKey key (.list entries) (info.getD []))

/-! ## Fan-out and gathering -/

/-- The reset options of the lane at position `pos`: the trial list narrowed to its entry. -/
def laneResetOptions (options : Option (MetaMap R)) (pos lanes : Nat) : Except EnvError (Option (MetaMap R)) :=
  match options with
  | none => .ok none
  | some options =>
    match options.lookup trialIndexOption with
    | some (.list trials) =>
      match trials[pos]? with
      | some trial => .ok (some (insertKey trialIndexOption trial options))
      | none => .error (.new .invalidAction
          s!"reset option `{trialIndexOption}` is a list of {trials.length} entries but this reset covers {lanes} lanes; send one ordinal per lane, in lane order")
    | _ => .ok (some options)

def gymErrorToEnvError : EnvRuntimeError → EnvError
  | .invalidSpace message => .new .invalidAction message
  | .invalidValue message => .new .invalidAction message
  | .runtime message => .new .internal message
  | .recoverable message => { EnvError.new .internal message with isRecoverable := true }

/-- The lanes that answered, and the errors of the others. -/
def partitionLanes {α : Type} : List (Except EnvRuntimeError α) → List Nat → List Nat × List (Nat × EnvError)
  | .ok _ :: results, lane :: lanes =>
    let (moved, failed) := partitionLanes results lanes
    (lane :: moved, failed)
  | .error e :: results, lane :: lanes =>
    let (moved, failed) := partitionLanes results lanes
    (moved, (lane, gymErrorToEnvError e) :: failed)
  | _, _ => ([], [])

/-- Fold a lane batch's per-lane results into the request's one outcome: a fatal
failure ends the session, as does a recoverable one next to lanes that moved. -/
def gatherLaneResults {α : Type} (results : List (Except EnvRuntimeError α)) (lanes : List Nat) (op : String) :
    Except EnvError (List α) :=
  if results.all (·.isOk) then .ok (results.filterMap (·.toOption))
  else
    let (moved, failed) := partitionLanes results lanes
    match failed.find? (fun entry => !entry.2.isRecoverable) with
    | some (_, e) => .error e
    | none =>
      match failed with
      | [] => .error (.new .internal "swap_remove index (is 0) should be < len (is 0)")
      | (lane, first) :: _ =>
        if moved.isEmpty then .error first
        else .error (.new .internal
          s!"lane {lane} {op} failed with a recoverable error ({first.message}) while lanes {moved} completed theirs; a partly applied lane batch cannot be retried, so the session ends")

/-- Call the lanes' envs; a lane the endpoint does not have answers an error by itself. -/
def callLanes {α β : Type} (numEnvs : Nat) (call : Nat → α → LaneCall R)
    (env : Nat → α → Except EnvRuntimeError β) (requests : List (Nat × α)) :
    Fallible (AdapterState R) EnvError (List (Except EnvRuntimeError β)) := do
  modify fun s => { s with
    calls := s.calls ++ (requests.filter (fun entry => entry.1 < numEnvs)).map (fun entry => call entry.1 entry.2) }
  pure (requests.map (fun entry =>
    if entry.1 < numEnvs then env entry.1 entry.2
    else .error (.runtime s!"lane {entry.1} out of range for {numEnvs} lanes")))

/-- One lane's info passes through; several lanes use the gym vector convention. -/
def batchInfos (infos : List (Option (MetaMap R))) (done : Option (List Bool)) : Option (MetaMap R) :=
  match infos with
  | [info] => info
  | _ =>
    if infos.all (·.isNone) then none
    else
      let mask := done.getD (infos.map (fun _ => true))
      some [("_final_info", .list (mask.map .bool)), ("final_info", .list (infos.map (fun info => .map (info.getD []))))]

/-! ## Reset and step -/

/-- `validate_count`. -/
def Adapter.validateCount (count numEnvs : Nat) (label : String) : Except EnvError Unit :=
  if count = numEnvs then .ok ()
  else .error (.new .internal s!"env returned {count} {label} for {numEnvs} envs")

/-- `validate_action_count`. -/
def Adapter.validateActionCount (count numEnvs : Nat) : Except EnvError Unit :=
  if count = numEnvs then .ok ()
  else .error (.new .invalidAction s!"expected {numEnvs} actions, got {count}")

def encodeObservations (space : SpaceSpec B) (observations : List SpaceValue) : Except EnvError Leaves :=
  (encodeLeafSlab observations space).mapError (fun e => .new .internal e.toString)

/-- Decode a wire action slab into one action per covered lane, conformance-checked. -/
def decodeActions (endpoint : LaneEndpoint B) (action : Option Leaves) (lanes : List Nat) :
    Fallible (AdapterState R) EnvError (List SpaceValue × List ConformanceWarning) := do
  let actions ← ofResult ((decodeBatchedPartialValues action endpoint.actionSpace lanes.length).mapError
    (fun e => .new .invalidAction e.toString))
  ofResult (Adapter.validateActionCount actions.length lanes.length)
  let warnings ← enforceAll endpoint.policy endpoint.actionSpace .action lanes 0 [] actions
  pure (actions, warnings)

/-- `timeout_ms` as the native `i64`. -/
def nativeTimeout (timeoutMs : Nat) : Nat := min timeoutMs (2 ^ 63 - 1)

def adapterReset (endpoint : LaneEndpoint B) (world : LaneWorld R) (request : ResetRequest Id R) :
    Fallible (AdapterState R) EnvError (ResetResponse R) := do
  let lanes := coveredLanes endpoint.config request.envIndices
  let options ← ofResult ((List.range lanes.length).mapM
    (fun pos => laneResetOptions request.options pos lanes.length))
  let results ← callLanes endpoint.config.numEnvs .reset world.reset (lanes.zipIdx.map (fun entry =>
    (entry.1, { seed := request.seeds[entry.2]?, options := options[entry.2]?.join
                timeoutMs := nativeTimeout request.timeoutMs })))
  let results ← ofResult (gatherLaneResults results lanes "reset")
  let observations := results.filterMap (fun result => result.observation.map Subtype.val)
  ofResult (Adapter.validateCount observations.length lanes.length "observations")
  let warnings ← enforceAll endpoint.policy endpoint.observationSpace .observation lanes 0 [] observations
  let observation ← ofResult (encodeObservations endpoint.observationSpace observations)
  pure {
    observation := some observation
    infos := injectConformanceWarnings endpoint.warningInfoKey (batchInfos (results.map (·.info)) none) warnings }

def adapterStep (endpoint : LaneEndpoint B) (world : LaneWorld R) (request : StepRequest Id) :
    Fallible (AdapterState R) EnvError (StepResponse Id R) := do
  let lanes := coveredLanes endpoint.config request.envIndices
  let (actions, warnings) ← decodeActions endpoint request.action lanes
  let results ← callLanes endpoint.config.numEnvs .step world.step ((lanes.zip actions).map (fun entry =>
    (entry.1, { action := some entry.2, timeoutMs := nativeTimeout request.timeoutMs })))
  let results ← ofResult (gatherLaneResults results lanes "step")
  let observations := results.filterMap (fun result => result.observation.map Subtype.val)
  let done := results.map (fun result => result.terminated || result.truncated)
  ofResult (Adapter.validateCount observations.length lanes.length "observations")
  ofResult (Adapter.validateCount results.length lanes.length "terminated values")
  ofResult (Adapter.validateCount results.length lanes.length "truncated values")
  ofResult (Adapter.validateCount results.length lanes.length "rewards values")
  let warnings ← enforceAll endpoint.policy endpoint.observationSpace .observation lanes 0 warnings observations
  let observation ← ofResult (encodeObservations endpoint.observationSpace observations)
  pure {
    observation := some observation
    rewards := results.map (·.reward)
    terminatedMask := results.map (fun result => if result.terminated then 1 else 0)
    truncatedMask := results.map (fun result => if result.truncated then 1 else 0)
    infos := injectConformanceWarnings endpoint.warningInfoKey (batchInfos (results.map (·.info)) (some done)) warnings
    completedEpisodes := []
    envIndices := request.envIndices }

/-! ## Behind the server -/

variable [Zero R] [Add R] [BEq R] [Inhabited Id]

/-- A request handled by the endpoint. -/
structure Served (Id R : Type) where
  reply : JoinResponse Id R
  tracker : EpisodeTracker Id R
  adapter : AdapterState R

def serveReset (endpoint : LaneEndpoint B) (now : Int) (world : LaneWorld R) (late : Bool)
    (tracker : EpisodeTracker Id R) (adapter : AdapterState R) (request : ResetRequest Id R) : Served Id R :=
  let run := exec (adapterReset endpoint world request) adapter
  let handled := handleReset endpoint.config now (resetAnswer late run.1) tracker request
  { reply := handled.1
    tracker := handled.2
    adapter := if resetAdmitted endpoint.config request then run.2 else adapter }

def serveStep (endpoint : LaneEndpoint B) (now : Int) (world : LaneWorld R) (late : Bool)
    (tracker : EpisodeTracker Id R) (adapter : AdapterState R) (request : StepRequest Id) : Served Id R :=
  let run := exec (adapterStep endpoint world request) adapter
  let handled := handleStep endpoint.config now (stepAnswer late run.1) tracker request
  { reply := handled.1
    tracker := handled.2
    adapter := if stepAdmitted endpoint.config request then run.2 else adapter }

/-! ## What each part guarantees -/

omit [Zero R] [Add R] [BEq R] [Inhabited Id] in
theorem enforceAll_ensures {policy : ValidationPolicy} {space : SpaceSpec B} {kind : ValueKind} {lanes : List Nat}
    {I : AdapterState R → Prop} (hI : ∀ s warned, I s → I { s with warned }) (values : List SpaceValue) (pos : Nat)
    (warnings : List ConformanceWarning) :
    Ensures I (enforceAll policy space kind lanes pos warnings values)
      (fun _ s => I s ∧ ∀ value ∈ values, (conform space value).Admitted) I := by
  have henforce : ∀ (value : SpaceValue) (lane : Nat) (warnings : List ConformanceWarning),
      Ensures I (enforce policy space kind lane value warnings)
        (fun _ s => I s ∧ (conform space value).Admitted) I := by
    intro value lane warnings
    unfold enforce ValidationPolicy.check
    cases hverdict : conform space value with
    | ok => exact ensures_pure _ (fun s hs => ⟨hs, nofun⟩)
    | structural e => exact ensures_throw _ (fun s hs => hs)
    | range e =>
      cases policy with
      | off => exact ensures_pure _ (fun s hs => ⟨hs, nofun⟩)
      | strict => exact ensures_throw _ (fun s hs => hs)
      | warn =>
        refine ensures_get_bind (fun s hs => ?_)
        split
        · exact ensures_pure _ (by rintro _ rfl; exact ⟨hs, nofun⟩)
        · refine ensures_bind (Q := fun _ s => I s) (ensures_modify _ (by rintro _ rfl; exact hI _ _ hs)) ?_
          exact fun _ => ensures_pure _ (fun s hs => ⟨hs, nofun⟩)
  induction values generalizing pos warnings with
  | nil => exact ensures_pure _ (fun s hs => ⟨hs, nofun⟩)
  | cons value rest ih =>
    refine ensures_bind (henforce value _ warnings) (fun warnings => ?_)
    -- what is known of the first value is carried along with the invariant
    intro s hs
    have hrest := ih (pos + 1) warnings s hs.1
    revert hrest
    split
    · rintro ⟨hI', hrest⟩
      refine ⟨hI', fun v hv => ?_⟩
      rcases List.mem_cons.1 hv with rfl | hv
      · exact hs.2
      · exact hrest v hv
    · exact id

theorem gatherLaneResults_ok {α : Type} {results : List (Except EnvRuntimeError α)} {lanes : List Nat} {op : String}
    {outs : List α} (h : gatherLaneResults results lanes op = .ok outs) : results = outs.map .ok := by
  unfold gatherLaneResults at h
  split at h
  · rename_i hall
    cases h
    induction results with
    | nil => rfl
    | cons result results ih =>
      rw [List.all_cons, Bool.and_eq_true] at hall
      cases result with
      | error e => cases hall.1
      | ok out => exact congrArg (.ok out :: ·) (ih hall.2)
  · dsimp only at h
    split at h
    · cases h
    · split at h
      · cases h
      · split at h <;> cases h

/-- One lane's part of a request: what its env was asked and what it answered. -/
structure LanePart (α β : Type) where
  lane : Nat
  request : α
  result : β

theorem gather_callLanes {α β : Type} {numEnvs : Nat} {call : Nat → α → LaneCall R}
    {env : Nat → α → Except EnvRuntimeError β} {requests : List (Nat × α)} {lanes : List Nat} {op : String}
    {outs : List β} (hrange : ∀ entry ∈ requests, entry.1 < numEnvs) {s s' : AdapterState R}
    {results : List (Except EnvRuntimeError β)}
    (hcalls : exec (callLanes numEnvs call env requests) s = (.ok results, s'))
    (hgather : gatherLaneResults results lanes op = .ok outs) :
    ∃ parts : List (LanePart α β), parts.map (fun part => (part.lane, part.request)) = requests ∧
      parts.map (·.result) = outs ∧ (∀ part ∈ parts, env part.lane part.request = .ok part.result) ∧
      s'.calls = s.calls ++ parts.map (fun part => call part.lane part.request) := by
  have hresults := gatherLaneResults_ok hgather
  have hs' : s'.calls = s.calls ++ requests.map (fun entry => call entry.1 entry.2) := by
    have hfilter : requests.filter (fun entry => entry.1 < numEnvs) = requests :=
      List.filter_eq_self.2 (fun entry he => decide_eq_true (hrange entry he))
    unfold callLanes at hcalls
    rw [exec_bind, exec_modify] at hcalls
    cases hcalls
    simp only [hfilter]
  have hanswers : requests.map (fun entry => env entry.1 entry.2) = outs.map .ok := by
    unfold callLanes at hcalls
    rw [exec_bind, exec_modify] at hcalls
    cases hcalls
    rw [← hresults]
    exact List.map_congr_left (fun entry he => (if_pos (hrange entry he)).symm)
  have hparts : ∃ parts : List (LanePart α β), parts.map (fun part => (part.lane, part.request)) = requests ∧
      parts.map (·.result) = outs ∧ ∀ part ∈ parts, env part.lane part.request = .ok part.result := by
    clear hcalls hgather hresults hs' hrange
    induction requests generalizing outs with
    | nil =>
      cases outs with
      | nil => exact ⟨[], rfl, rfl, nofun⟩
      | cons out outs => cases hanswers
    | cons entry requests ih =>
      cases outs with
      | nil => cases hanswers
      | cons out outs =>
        rw [List.map_cons, List.map_cons, List.cons.injEq] at hanswers
        obtain ⟨parts, hrequests, houts, hok⟩ := ih hanswers.2
        refine ⟨⟨entry.1, entry.2, out⟩ :: parts, by rw [List.map_cons, hrequests], by rw [List.map_cons, houts], ?_⟩
        intro part hpart
        rcases List.mem_cons.1 hpart with rfl | hpart
        · exact hanswers.1
        · exact hok part hpart
  obtain ⟨parts, hrequests, houts, hok⟩ := hparts
  refine ⟨parts, hrequests, houts, hok, ?_⟩
  rw [hs', ← hrequests, List.map_map]
  rfl

/-- The options the lane at `pos` gets are the request's, the trial list narrowed to its entry. -/
def OptionsAt (options : Option (MetaMap R)) (pos : Nat) (sent : Option (MetaMap R)) : Prop :=
  match options with
  | none => sent = none
  | some options => ∃ laneOptions, sent = some laneOptions ∧
      (∀ key, key ≠ trialIndexOption → laneOptions.lookup key = options.lookup key) ∧
      laneOptions.lookup trialIndexOption = match options.lookup trialIndexOption with
        | some (.list trials) => trials[pos]?
        | other => other

theorem optionsAt_of_ok {options sent : Option (MetaMap R)} {pos lanes : Nat}
    (h : laneResetOptions options pos lanes = .ok sent) : OptionsAt options pos sent := by
  cases options with
  | none =>
    cases h
    rfl
  | some options =>
    unfold laneResetOptions at h
    unfold OptionsAt
    dsimp only at h ⊢
    split at h
    · rename_i trials htrials
      split at h
      · rename_i trial htrial
        cases h
        refine ⟨_, rfl, fun key hkey => ?_, ?_⟩
        · rw [lookup_insertKey, if_neg hkey]
        · rw [lookup_insertKey, if_pos rfl]
          exact htrial.symm
      · cases h
    · cases h
      exact ⟨options, rfl, fun _ _ => rfl, rfl⟩

theorem map_eq_of_length_filterMap {α β : Type} {f : α → Option β} {xs : List α}
    (h : (xs.filterMap f).length = xs.length) : xs.map f = (xs.filterMap f).map some := by
  induction xs with
  | nil => rfl
  | cons x xs ih =>
    have hle := List.length_filterMap_le f xs
    rw [List.map_cons, List.filterMap_cons]
    rw [List.filterMap_cons] at h
    cases hx : f x with
    | none =>
      rw [hx, List.length_cons] at h
      dsimp only at h
      omega
    | some y =>
      rw [hx, List.length_cons, List.length_cons] at h
      rw [List.map_cons, ← ih (Nat.succ.inj h)]

/-- The observations of a reply: the client decodes the lanes' own. -/
theorem decode_observations {α : Type} {endpoint : LaneEndpoint B} {f : α → Option EnvValue} {results : List α}
    {leaves : Leaves} (hcount : (results.filterMap (fun result => (f result).map Subtype.val)).length = results.length)
    (hadmitted : ∀ value ∈ results.filterMap (fun result => (f result).map Subtype.val),
      (conform endpoint.observationSpace value).Admitted)
    (h : encodeObservations endpoint.observationSpace (results.filterMap (fun result => (f result).map Subtype.val)) =
      .ok leaves) :
    ∃ rows, decodeLeafSlab leaves endpoint.observationSpace results.length = .ok rows ∧
      results.map (fun result => (f result).map Subtype.val) = rows.map some := by
  have hwf := wellFormed_of_accepted ⟨_, endpoint.observationValid⟩
  refine ⟨_, ?_, map_eq_of_length_filterMap hcount⟩
  rw [← hcount]
  refine decodeLeafSlab_encodeLeafSlab hwf (fun value hvalue => ⟨hadmitted value hvalue, ?_⟩) (mapError_ok.1 h)
  obtain ⟨result, -, hresult⟩ := List.mem_filterMap.1 hvalue
  obtain ⟨observation, -, rfl⟩ := Option.map_eq_some_iff.1 hresult
  exact observation.property

end Adapter

end Rlmesh.Env
