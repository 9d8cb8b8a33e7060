import Rlmesh.Env.LaneRequests
/-!
# Authored envs behind the lanes (`rlmesh/src/env/sync_wire.rs`)

`SyncLane` runs an authored env as one lane: it decodes what the env gets, calls
it, and encodes what it returns. An env is arbitrary code over a state of its own,
and so are the codecs between its values and the wire's. A failure before the env
is called leaves it where it was; after the call only the env's own recoverable
errors say that it did not move.

The main result: a request that fails with a recoverable error moved no lane, so
it can be sent again.
-/
open Rlmesh.Lib Rlmesh.Spaces Rlmesh.Wire Fallible

set_option linter.unusedSectionVars false

namespace Rlmesh.Env

/-! ## The lane -/

/-- An error of an authored env; a binding may attach its own exception and text. -/
inductive AuthoredError where
  | environment (code message : String) (isRecoverable : Bool)
  | attached (error : AuthoredError) (message : Option String)
  | other (text : String)

def AuthoredError.toString : AuthoredError → String
  | environment code message _ => s!"[{code}] {message}"
  | attached error message => message.getD error.toString
  | other text => text

/-- The error under what bindings attached. -/
def AuthoredError.source : AuthoredError → AuthoredError
  | attached error _ => error.source
  | error => error

/-- How a call of an authored env ends. -/
inductive Outcome (α : Type) where
  | returned (value : α)
  | failed (error : AuthoredError)
  | panicked

/-- An authored env over its state, with values `V` and maps `M`. -/
structure AuthoredEnv (S V M R : Type) where
  reset : S → Option Int → Option M → S × Outcome (V × M)
  step : S → Option V → S × Outcome (V × R × Bool × Bool × M)

/-- `space_codec` and `meta_codec`. -/
structure LaneCodec (B V M R : Type) [BoxBounds B] where
  valueToSpace : SpaceSpec B → V → Except String EnvValue
  valueFromSpace : SpaceSpec B → SpaceValue → Except String V
  metadataFromWire : MetaMap R → M
  metadataToWire : M → Except String (MetaMap R)
  isEmpty : M → Bool

/-- An authored failure, recoverable only for a recoverable environment error. -/
def authoredFailure (op : String) (err : AuthoredError) : EnvRuntimeError :=
  match err.source with
  | .environment _ message true => .recoverable s!"{op} failed: {message}"
  | .environment _ message false => .runtime s!"{op} failed: {message}"
  | _ => .runtime s!"{op} failed: {err.toString}"

/-- A value the env produced that the wire cannot carry. -/
def encodeFailure (op err : String) : EnvRuntimeError :=
  .runtime s!"{op} returned a value the wire cannot carry: {err}"

section Lanes

variable {B S V M R Id : Type} [BoxBounds B]

def LaneCodec.infoToWire (codec : LaneCodec B V M R) (op : String) (info : M) :
    Except EnvRuntimeError (Option (MetaMap R)) :=
  if codec.isEmpty info then .ok none
  else ((codec.metadataToWire info).map some).mapError (encodeFailure op)

/-- `SyncLane::run` and what follows the call: a panic is caught, a failure classified, a result encoded. -/
def finish {α β : Type} (op : String) (encode : α → Except EnvRuntimeError β) :
    S × Outcome α → S × Except EnvRuntimeError β
  | (s, .returned value) => (s, encode value)
  | (s, .failed error) => (s, .error (authoredFailure op error))
  | (s, .panicked) => (s, .error (.runtime s!"{op} task panicked"))

/-- `SyncLane::reset`. -/
def SyncLane.reset (codec : LaneCodec B V M R) (env : AuthoredEnv S V M R) (space : SpaceSpec B) (s : S)
    (request : LaneResetRequest R) : S × Except EnvRuntimeError (LaneResetResult R) :=
  finish "reset" (fun (observation, info) => do
    let observation ← (codec.valueToSpace space observation).mapError (encodeFailure "reset")
    let info ← codec.infoToWire "reset" info
    return { observation := some observation, info })
    (env.reset s request.seed (request.options.map codec.metadataFromWire))

/-- `SyncLane::step`. -/
def SyncLane.step (codec : LaneCodec B V M R) (env : AuthoredEnv S V M R) (observationSpace actionSpace : SpaceSpec B)
    (s : S) (request : LaneStepRequest) : S × Except EnvRuntimeError (LaneStepResult R) :=
  match request.action.mapM (codec.valueFromSpace actionSpace) with
  | .error e => (s, .error (.invalidValue e))
  | .ok action =>
    finish "step" (fun (observation, reward, terminated, truncated, info) => do
      let observation ← (codec.valueToSpace observationSpace observation).mapError (encodeFailure "step")
      let info ← codec.infoToWire "step" info
      return { observation := some observation, reward, terminated, truncated, info })
      (env.step s action)

/-! ## Lanes and their states -/

variable (endpoint : LaneEndpoint B) (codec : LaneCodec B V M R) (env : AuthoredEnv S V M R)

/-- What the lanes answer from the states they are in. -/
def hostWorld (envs : Nat → S) : LaneWorld R where
  reset lane request := (SyncLane.reset codec env endpoint.observationSpace (envs lane) request).2
  step lane request := (SyncLane.step codec env endpoint.observationSpace endpoint.actionSpace (envs lane) request).2

/-- A call moves its own lane. -/
def settle (envs : Nat → S) : LaneCall R → Nat → S
  | .reset lane request =>
    Function.update envs lane (SyncLane.reset codec env endpoint.observationSpace (envs lane) request).1
  | .step lane request =>
    Function.update envs lane (SyncLane.step codec env endpoint.observationSpace endpoint.actionSpace (envs lane) request).1

/-- The lane's env completed the operation: it was called and returned. -/
def Completes (envs : Nat → S) : LaneCall R → Prop
  | .reset lane request =>
    ∃ value, (env.reset (envs lane) request.seed (request.options.map codec.metadataFromWire)).2 = .returned value
  | .step lane request =>
    ∃ action value, request.action.mapM (codec.valueFromSpace endpoint.actionSpace) = .ok action ∧
      (env.step (envs lane) action).2 = .returned value

/-- An env that raises a recoverable error did not move. -/
structure AuthoredEnv.Vouches (env : AuthoredEnv S V M R) : Prop where
  reset : ∀ s seed options error op message, (env.reset s seed options).2 = .failed error →
    authoredFailure op error = .recoverable message → (env.reset s seed options).1 = s
  step : ∀ s action error op message, (env.step s action).2 = .failed error →
    authoredFailure op error = .recoverable message → (env.step s action).1 = s

/-- A failed request is safe to send again where it says so: the error is recoverable only if the
calls it made left every lane in place, none of them completed. -/
def RetrySafe {α : Type} (envs : Nat → S) (adapter : AdapterState R) (run : Except EnvError α × AdapterState R) : Prop :=
  ∀ e, run.1 = .error e → ∃ calls, run.2.calls = adapter.calls ++ calls ∧
    (e.isRecoverable = true → calls.foldl (settle endpoint codec env) envs = envs ∧
      ∀ call ∈ calls, ¬ Completes endpoint codec env envs call) ∧
    ((∃ call ∈ calls, Completes endpoint codec env envs call) → e.isRecoverable = false)

/-! ## One lane -/

/-- The errors of a lane that are recoverable for the client. -/
def Harmless (e : EnvRuntimeError) : Prop := (gymErrorToEnvError e).isRecoverable = true

theorem not_harmless_runtime (message : String) : ¬ Harmless (.runtime message) := nofun

variable {op : String} {α β γ : Type} {e : EnvRuntimeError} {envs : Nat → S} {lanes : List Nat}
  {adapter : AdapterState R}

theorem harmless_authoredFailure {error : AuthoredError} (h : Harmless (authoredFailure op error)) :
    ∃ message, authoredFailure op error = .recoverable message := by
  cases hfailure : authoredFailure op error with
  | recoverable message => exact ⟨message, rfl⟩
  | runtime message =>
    rw [hfailure] at h
    exact absurd h (not_harmless_runtime message)
  | invalidSpace message =>
    unfold authoredFailure at hfailure
    split at hfailure <;> cases hfailure
  | invalidValue message =>
    unfold authoredFailure at hfailure
    split at hfailure <;> cases hfailure

theorem finish_harmless {encode : α → Except EnvRuntimeError β} {run : S × Outcome α}
    (hencode : ∀ value e, encode value = .error e → ¬ Harmless e) (h : (finish op encode run).2 = .error e)
    (hharmless : Harmless e) :
    (finish op encode run).1 = run.1 ∧ ∃ error message, run.2 = .failed error ∧
      authoredFailure op error = .recoverable message := by
  obtain ⟨s, outcome⟩ := run
  cases outcome with
  | returned value => exact absurd hharmless (hencode value e h)
  | failed error =>
    cases h
    obtain ⟨message, hmessage⟩ := harmless_authoredFailure hharmless
    exact ⟨rfl, error, message, rfl, hmessage⟩
  | panicked =>
    cases h
    exact absurd hharmless (not_harmless_runtime _)

theorem infoToWire_not_harmless {info : M} (h : codec.infoToWire op info = .error e) : ¬ Harmless e := by
  unfold LaneCodec.infoToWire at h
  split at h
  · cases h
  · cases hwire : codec.metadataToWire info with
    | ok map => rw [hwire] at h; cases h
    | error text =>
      rw [hwire] at h
      cases h
      exact not_harmless_runtime _

/-- What the env returned and the wire cannot carry is a fatal error. -/
theorem encoded_not_harmless {space : SpaceSpec B} {observation : V} {info : M}
    {reply : EnvValue → Option (MetaMap R) → β} (h : (do
      let observation ← (codec.valueToSpace space observation).mapError (encodeFailure op)
      let info ← codec.infoToWire op info
      return reply observation info) = .error e) : ¬ Harmless e := by
  cases hobservation : codec.valueToSpace space observation with
  | error text =>
    simp only [hobservation] at h
    cases h
    exact not_harmless_runtime _
  | ok observation =>
    simp only [hobservation] at h
    cases hinfo : codec.infoToWire op info with
    | error e' =>
      simp only [hinfo] at h
      cases h
      exact infoToWire_not_harmless codec hinfo
    | ok info =>
      simp only [hinfo] at h
      cases h

variable {endpoint codec env}

theorem laneReset_harmless (hvouches : env.Vouches) {lane : Nat} {request : LaneResetRequest R}
    (h : (hostWorld endpoint codec env envs).reset lane request = .error e) (hharmless : Harmless e) :
    settle endpoint codec env envs (.reset lane request) = envs ∧
      ¬ Completes endpoint codec env envs (.reset lane request) := by
  obtain ⟨hstate, error, message, hfailed, hrecoverable⟩ :=
    finish_harmless (fun _ _ => encoded_not_harmless codec) h hharmless
  constructor
  · have hsame : (SyncLane.reset codec env endpoint.observationSpace (envs lane) request).1 = envs lane :=
      hstate.trans (hvouches.reset _ _ _ error _ message hfailed hrecoverable)
    rw [settle, hsame, Function.update_eq_self]
  · rintro ⟨value, hvalue⟩
    rw [hfailed] at hvalue
    cases hvalue

theorem laneStep_harmless (hvouches : env.Vouches) {lane : Nat} {request : LaneStepRequest}
    (h : (hostWorld endpoint codec env envs).step lane request = .error e) (hharmless : Harmless e) :
    settle endpoint codec env envs (.step lane request) = envs ∧
      ¬ Completes endpoint codec env envs (.step lane request) := by
  cases haction : request.action.mapM (codec.valueFromSpace endpoint.actionSpace) with
  | error text =>
    -- the action is refused before the env is called
    constructor
    · rw [settle, SyncLane.step, haction, Function.update_eq_self]
    · rintro ⟨action, value, hok, -⟩
      rw [haction] at hok
      cases hok
  | ok action =>
    unfold hostWorld SyncLane.step at h
    simp only [haction] at h
    obtain ⟨hstate, error, message, hfailed, hrecoverable⟩ :=
      finish_harmless (fun _ _ => encoded_not_harmless codec) h hharmless
    constructor
    · have hsame : (SyncLane.step codec env endpoint.observationSpace endpoint.actionSpace (envs lane) request).1 =
          envs lane := by
        unfold SyncLane.step
        simp only [haction]
        exact hstate.trans (hvouches.step _ _ error _ message hfailed hrecoverable)
      rw [settle, hsame, Function.update_eq_self]
    · rintro ⟨action', value, hok, hvalue⟩
      rw [haction] at hok
      cases hok
      rw [hfailed] at hvalue
      cases hvalue

/-! ## Gathering and encoding -/

theorem partitionLanes_spec {results : List (Except EnvRuntimeError α)} (hlen : results.length = lanes.length)
    {result : Except EnvRuntimeError α} (hmem : result ∈ results) :
    ((∃ value, result = .ok value) → (partitionLanes results lanes).1 ≠ []) ∧
      ∀ e, result = .error e → ∃ lane, (lane, gymErrorToEnvError e) ∈ (partitionLanes results lanes).2 := by
  induction results generalizing lanes with
  | nil => cases hmem
  | cons first results ih =>
    cases lanes with
    | nil => cases hlen
    | cons lane lanes =>
      rcases List.mem_cons.1 hmem with rfl | hmem
      · cases result with
        | ok value => exact ⟨fun _ => List.cons_ne_nil _ _, nofun⟩
        | error e => exact ⟨nofun, by rintro _ ⟨⟩; exact ⟨lane, List.mem_cons_self⟩⟩
      · obtain ⟨hmoved, hfailed⟩ := ih (Nat.succ.inj hlen) hmem
        cases first with
        | ok value => exact ⟨fun _ => List.cons_ne_nil _ _, hfailed⟩
        | error e' =>
          refine ⟨hmoved, fun e he => ?_⟩
          obtain ⟨failed, hin⟩ := hfailed e he
          exact ⟨failed, List.mem_cons_of_mem _ hin⟩

/-- A recoverable outcome: every lane failed, each with a harmless error. -/
theorem gatherLaneResults_recoverable {results : List (Except EnvRuntimeError α)} {e : EnvError}
    (hlen : results.length = lanes.length) (h : gatherLaneResults results lanes op = .error e)
    (hrecoverable : e.isRecoverable = true) : ∀ result ∈ results, ∃ e, result = .error e ∧ Harmless e := by
  unfold gatherLaneResults at h
  split at h
  · cases h
  dsimp only at h
  split at h
  · rename_i lane found hfind
    cases h
    have hfatal := List.find?_some hfind
    simp [hrecoverable] at hfatal
  · rename_i hnone
    split at h
    · cases h
      cases hrecoverable
    · split at h
      · rename_i hmoved
        intro result hmem
        obtain ⟨hok, hfailed⟩ := partitionLanes_spec hlen hmem
        cases result with
        | ok value => exact absurd (List.isEmpty_iff.1 hmoved) (hok ⟨value, rfl⟩)
        | error error =>
          obtain ⟨failed, hin⟩ := hfailed error rfl
          have hharmless := List.find?_eq_none.1 hnone _ hin
          exact ⟨error, rfl, by simpa [Harmless] using hharmless⟩
      · cases h
        cases hrecoverable

/-! ## After the calls -/

/-- A computation that makes no call, and whose errors are all fatal. -/
def EndsFatally {α : Type} (m : Fallible (AdapterState R) EnvError α) : Prop :=
  ∀ s, (exec m s).2.calls = s.calls ∧ ∀ e, (exec m s).1 = .error e → e.isRecoverable = false

theorem endsFatally_pure (a : α) : EndsFatally (pure a : Fallible (AdapterState R) EnvError α) :=
  fun _ => ⟨rfl, nofun⟩

theorem endsFatally_ofResult {x : Except EnvError α} (h : ∀ e, x = .error e → e.isRecoverable = false) :
    EndsFatally (ofResult x : Fallible (AdapterState R) EnvError α) :=
  fun _ => ⟨rfl, h⟩

theorem EndsFatally.bind {m : Fallible (AdapterState R) EnvError α} {f : α → Fallible (AdapterState R) EnvError β}
    (hm : EndsFatally m) (hf : ∀ a, EndsFatally (f a)) : EndsFatally (m >>= f) := by
  intro s
  obtain ⟨hcalls, hfatal⟩ := hm s
  rw [exec_bind]
  rcases hrun : exec m s with ⟨e | a, s₁⟩
  · rw [hrun] at hcalls hfatal
    exact ⟨hcalls, by rintro e' ⟨⟩; exact hfatal e rfl⟩
  · rw [hrun] at hcalls
    obtain ⟨hcalls', hfatal'⟩ := hf a s₁
    exact ⟨hcalls'.trans hcalls, hfatal'⟩

theorem endsFatally_enforceAll {policy : ValidationPolicy} {space : SpaceSpec B} (values : List SpaceValue)
    (pos : Nat) (warnings : List ConformanceWarning) :
    EndsFatally (enforceAll policy space .observation lanes pos warnings values :
      Fallible (AdapterState R) EnvError _) := by
  induction values generalizing pos warnings with
  | nil => exact endsFatally_pure _
  | cons value values ih =>
    refine EndsFatally.bind (fun s => ?_) (fun warnings => ih (pos + 1) warnings)
    unfold enforce
    split
    · exact endsFatally_pure _ s
    · exact ⟨rfl, by rintro e ⟨⟩; rfl⟩
    · rw [exec_bind, exec_get]
      dsimp only
      split
      · exact endsFatally_pure _ s
      · exact ⟨rfl, nofun⟩

theorem endsFatally_validateCount (count numEnvs : Nat) (label : String) :
    EndsFatally (ofResult (Adapter.validateCount count numEnvs label) : Fallible (AdapterState R) EnvError _) := by
  refine endsFatally_ofResult (fun e h => ?_)
  unfold Adapter.validateCount at h
  split at h
  · cases h
  · cases h
    rfl

theorem endsFatally_encodeObservations (space : SpaceSpec B) (observations : List SpaceValue) :
    EndsFatally (ofResult (encodeObservations space observations) : Fallible (AdapterState R) EnvError _) := by
  refine endsFatally_ofResult (fun e h => ?_)
  unfold encodeObservations at h
  cases hslab : encodeLeafSlab observations space with
  | ok leaves => rw [hslab] at h; cases h
  | error error =>
    rw [hslab] at h
    cases h
    rfl

/-! ## Requests -/

/-- The calls a batch makes, to lanes the endpoint has. -/
def madeCalls {α : Type} (numEnvs : Nat) (call : Nat → α → LaneCall R) (requests : List (Nat × α)) : List (LaneCall R) :=
  (requests.filter (fun entry => entry.1 < numEnvs)).map (fun entry => call entry.1 entry.2)

theorem settle_all {calls : List (LaneCall R)} (h : ∀ call ∈ calls, settle endpoint codec env envs call = envs) :
    calls.foldl (settle endpoint codec env) envs = envs := by
  induction calls with
  | nil => rfl
  | cons call calls ih =>
    rw [List.foldl_cons, h call List.mem_cons_self]
    exact ih (fun other hother => h other (List.mem_cons_of_mem _ hother))

/-- A batch of lanes called, gathered and answered: it fails in gathering, or fatally after it. -/
theorem retrySafe_batch {call : Nat → α → LaneCall R} {answer : Nat → α → Except EnvRuntimeError β}
    {requests : List (Nat × α)} {reply : List β → Fallible (AdapterState R) EnvError γ}
    (hlane : ∀ lane request e, answer lane request = .error e → Harmless e → settle endpoint codec env envs (call lane request) = envs ∧ ¬ Completes endpoint codec env envs (call lane request))
    (hlen : requests.length = lanes.length) (hreply : ∀ outs, EndsFatally (reply outs)) :
    RetrySafe endpoint codec env envs adapter (exec (do
      let results ← callLanes endpoint.config.numEnvs call answer requests
      let outs ← ofResult (gatherLaneResults results lanes op)
      reply outs) adapter) := by
  unfold callLanes
  rw [bind_assoc, exec_bind, exec_modify]
  dsimp only
  rw [pure_bind, exec_bind, exec_ofResult]
  cases hgather : gatherLaneResults (requests.map (fun entry =>
      if entry.1 < endpoint.config.numEnvs then answer entry.1 entry.2
      else .error (.runtime s!"lane {entry.1} out of range for {endpoint.config.numEnvs} lanes"))) lanes op with
  | ok outs =>
    dsimp only
    obtain ⟨hcalls, hfatal⟩ := hreply outs _
    intro e he
    refine ⟨madeCalls endpoint.config.numEnvs call requests, hcalls, fun hrecoverable => ?_, fun _ => hfatal e he⟩
    rw [hfatal e he] at hrecoverable
    cases hrecoverable
  | error e =>
    rintro _ ⟨⟩
    have hquiet : e.isRecoverable = true → ∀ made ∈ madeCalls endpoint.config.numEnvs call requests,
        settle endpoint codec env envs made = envs ∧ ¬ Completes endpoint codec env envs made := by
      intro hrecoverable made hmade
      obtain ⟨entry, hentry, rfl⟩ := List.mem_map.1 hmade
      obtain ⟨hmem, hrange⟩ := List.mem_filter.1 hentry
      obtain ⟨error, herror, hharmless⟩ := gatherLaneResults_recoverable (by rw [List.length_map, hlen]) hgather
        hrecoverable _ (List.mem_map_of_mem hmem)
      rw [if_pos (of_decide_eq_true hrange)] at herror
      exact hlane _ _ error herror hharmless
    refine ⟨madeCalls endpoint.config.numEnvs call requests, rfl, fun hrecoverable => ?_, ?_⟩
    · exact ⟨settle_all (fun made hmade => (hquiet hrecoverable made hmade).1),
        fun made hmade => (hquiet hrecoverable made hmade).2⟩
    · rintro ⟨made, hmade, hcompletes⟩
      rw [Bool.eq_false_iff]
      exact fun hrecoverable => (hquiet hrecoverable made hmade).2 hcompletes

theorem retrySafe_of_no_calls {run : Except EnvError γ × AdapterState R} (h : run.2.calls = adapter.calls) :
    RetrySafe endpoint codec env envs adapter run := by
  intro e _
  exact ⟨[], by rw [h, List.append_nil], fun _ => ⟨rfl, nofun⟩, nofun⟩

theorem RetrySafe.of_calls {s : AdapterState R} {run : Except EnvError γ × AdapterState R}
    (h : s.calls = adapter.calls) (hsafe : RetrySafe endpoint codec env envs s run) :
    RetrySafe endpoint codec env envs adapter run := by
  intro e he
  obtain ⟨calls, hcalls, hrest⟩ := hsafe e he
  exact ⟨calls, by rw [hcalls, h], hrest⟩

theorem adapterReset_retrySafe (hvouches : env.Vouches) (envs : Nat → S) (adapter : AdapterState R)
    (request : ResetRequest Id R) :
    RetrySafe endpoint codec env envs adapter
      (exec (adapterReset endpoint (hostWorld endpoint codec env envs) request) adapter) := by
  unfold adapterReset
  dsimp only
  rw [exec_bind, exec_ofResult]
  split
  · rename_i options s hoptions
    obtain ⟨-, rfl⟩ := Prod.mk.inj hoptions
    refine retrySafe_batch (fun _ _ _ => laneReset_harmless hvouches) (by rw [List.length_map, List.length_zipIdx])
      (fun outs => ?_)
    exact (endsFatally_validateCount _ _ _).bind fun _ => (endsFatally_enforceAll _ _ _).bind fun _ =>
      (endsFatally_encodeObservations _ _).bind fun _ => endsFatally_pure _
  · rename_i e s hoptions
    obtain ⟨-, rfl⟩ := Prod.mk.inj hoptions
    exact retrySafe_of_no_calls rfl

theorem adapterStep_retrySafe (hvouches : env.Vouches) (envs : Nat → S) (adapter : AdapterState R)
    (request : StepRequest Id) :
    RetrySafe endpoint codec env envs adapter
      (exec (adapterStep endpoint (hostWorld endpoint codec env envs) request) adapter) := by
  have hdecoded := decodeActions_ensures endpoint request.action (coveredLanes_pos endpoint request.envIndices)
    adapter.calls adapter rfl
  unfold adapterStep
  dsimp only
  rw [exec_bind]
  split
  · rename_i decoded s hdecode
    rw [hdecode] at hdecoded
    obtain ⟨hkept, -, -, -, hcount, -⟩ := hdecoded
    have hlen : ((coveredLanes endpoint.config request.envIndices).zip decoded.1).length =
        (coveredLanes endpoint.config request.envIndices).length := by
      rw [List.length_zip, hcount, Nat.min_self]
    refine RetrySafe.of_calls hkept (retrySafe_batch (fun _ _ _ => laneStep_harmless hvouches)
      (by rw [List.length_map, hlen]) (fun outs => ?_))
    exact (endsFatally_validateCount _ _ _).bind fun _ => (endsFatally_validateCount _ _ _).bind fun _ =>
      (endsFatally_validateCount _ _ _).bind fun _ => (endsFatally_validateCount _ _ _).bind fun _ =>
      (endsFatally_enforceAll _ _ _).bind fun _ => (endsFatally_encodeObservations _ _).bind fun _ =>
      endsFatally_pure _
  · rename_i e s hdecode
    rw [hdecode] at hdecoded
    exact retrySafe_of_no_calls hdecoded

/-- A recoverable error means that no lane moved: whatever the lanes do, a reset or step that fails with
one left every env in its state with nothing completed, and one that fails after an env completed it is fatal. -/
theorem recoverable_error_moves_no_lane (endpoint : LaneEndpoint B) (codec : LaneCodec B V M R)
    (env : AuthoredEnv S V M R) (hvouches : env.Vouches) (envs : Nat → S) (adapter : AdapterState R) :
    (∀ request : ResetRequest Id R, RetrySafe endpoint codec env envs adapter
      (exec (adapterReset endpoint (hostWorld endpoint codec env envs) request) adapter)) ∧
    ∀ request : StepRequest Id, RetrySafe endpoint codec env envs adapter
      (exec (adapterStep endpoint (hostWorld endpoint codec env envs) request) adapter) :=
  ⟨adapterReset_retrySafe hvouches envs adapter, adapterStep_retrySafe hvouches envs adapter⟩

end Lanes

/-- Numbers for values, no infos. -/
def plainCodec : LaneCodec Unbounded Int Unit Int where
  valueToSpace _ value := .ok ⟨.discrete value, trivial⟩
  valueFromSpace _ value := match value with
    | .discrete n => .ok n
    | _ => .error "expected a number"
  metadataFromWire _ := ()
  metadataToWire _ := .ok []
  isEmpty _ := true

/-- Counts its steps, and refuses action 3 without moving. -/
def cautiousEnv : AuthoredEnv Nat Int Unit Int where
  reset _ _ _ := (0, .returned (0, ()))
  step s action :=
    if action = some 3 then (s, .failed (.environment "internal" "blocked" true))
    else (s + 1, .returned (s, 1, false, false, ()))

theorem cautiousEnv_vouches : cautiousEnv.Vouches where
  reset _ _ _ _ _ _ hfailed := nomatch hfailed
  step s action error op message hfailed _ := by
    unfold cautiousEnv at hfailed ⊢
    dsimp only at hfailed ⊢
    split
    · rfl
    · rename_i hother
      rw [if_neg hother] at hfailed
      cases hfailed

/-- Both lanes refuse: recoverable, nothing moved. One of them refuses: the session ends. -/
theorem cautious_lanes_retry :
    let step (a b : UInt8) : StepRequest Nat :=
      { action := some [[a, 0, 0, 0, 0, 0, 0, 0, b, 0, 0, 0, 0, 0, 0, 0]], timeoutMs := 0, envIndices := [], episodeIds := [] }
    let run (a b : UInt8) := exec (adapterStep laneDuo (hostWorld laneDuo plainCodec cautiousEnv (fun _ => 0)) (step a b)) ⟨[], []⟩
    (∃ e, (run 3 3).1 = .error e ∧ e.isRecoverable = true) ∧ (∃ e, (run 3 1).1 = .error e ∧ e.isRecoverable = false) ∧
      RetrySafe laneDuo plainCodec cautiousEnv (fun _ => 0) ⟨[], []⟩ (run 3 3) ∧
      RetrySafe laneDuo plainCodec cautiousEnv (fun _ => 0) ⟨[], []⟩ (run 3 1) := by
  intro step run
  have hsafe := (recoverable_error_moves_no_lane laneDuo plainCodec cautiousEnv cautiousEnv_vouches (fun _ => 0)
    ⟨[], []⟩ : _ ∧ ∀ request : StepRequest Nat, _).2
  exact ⟨⟨_, rfl, rfl⟩, ⟨_, rfl, rfl⟩, hsafe _, hsafe _⟩

end Rlmesh.Env
