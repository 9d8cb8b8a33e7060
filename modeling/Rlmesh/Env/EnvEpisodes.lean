import Rlmesh.Env.Ledger
import Rlmesh.Env.Session
/-!
# The tracker and the env's own episodes

`EnvState` is the env's side of a session: the rewards of the episode it runs on
each lane, whether the lane restarts on its next step, and the episodes it has
finished or a reset has cut. An operation the env declines leaves it as it was,
and one it fails for good leaves it anywhere; every other one moves it, whether
or not its answer still reaches the server in time.

The env follows the ledger the tracker follows (`EnvState.Follows`), through every
request whose operation is answered within its deadline (`InTime`); a session that
goes on after a late operation breaks it.
-/
open Rlmesh.Lib Rlmesh.Wire

set_option linter.unusedSectionVars false

namespace Rlmesh.Env

/-! ## The env -/

/-- A lane as its env knows it. -/
inductive EnvLane (R : Type) where
  /-- An episode with these rewards so far. -/
  | running (rewards : List R)
  /-- The episode ended, and the next step starts another one. -/
  | rolling
  | quiet
  deriving DecidableEq

/-- The tracker's name for it. -/
def EnvLane.state {R : Type} : EnvLane R → LaneState
  | running _ => .active
  | rolling => .pendingAutoreset
  | quiet => .idle

/-- An episode of the env that is over. -/
structure EnvEpisode (R : Type) where
  lane : Nat
  rewards : List R
  deriving DecidableEq

structure EnvState (R : Type) where
  lanes : Nat → EnvLane R
  ended : List (EnvEpisode R)

variable {Id R : Type}

namespace EnvState

/-- No lane was reset yet. -/
def fresh : EnvState R := { lanes := fun _ => .quiet, ended := [] }

def resetLane (env : EnvState R) (lane : Nat) : EnvState R :=
  { lanes := Function.update env.lanes lane (.running [])
    ended := match env.lanes lane with
      | .running rewards => env.ended ++ [{ lane, rewards }]
      | _ => env.ended }

variable [Zero R]

/-- One lane of a step, whose row of the response is its own. -/
def stepLane (response : StepResponse Id R) (nextStep : Bool) (env : EnvState R) (lane pos : Nat) : EnvState R :=
  match env.lanes lane with
  | .running rewards =>
    let rewards := rewards ++ [response.rewards[pos]?.getD 0]
    if laneEnds response pos then
      { lanes := Function.update env.lanes lane (if nextStep then .rolling else .quiet)
        ended := env.ended ++ [{ lane, rewards }] }
    else { env with lanes := Function.update env.lanes lane (.running rewards) }
  | .rolling => { env with lanes := Function.update env.lanes lane (.running []) }
  | .quiet => env

def reset (cfg : ServerConfig) (request : ResetRequest Id R) (env : EnvState R) : EnvState R :=
  (coveredLanes cfg request.envIndices).zipIdx.foldl (fun env entry => env.resetLane entry.1) env

def step (cfg : ServerConfig) (request : StepRequest Id) (response : StepResponse Id R) (env : EnvState R) :
    EnvState R :=
  (coveredLanes cfg request.envIndices).zipIdx.foldl (fun env entry =>
    env.stepLane response (cfg.autoresetMode = .nextStep) entry.1 entry.2) env

/-- The env honours its mode: a lane that restarts shows a fresh observation, without reward. -/
def honours [BEq R] (cfg : ServerConfig) (request : StepRequest Id) (env : EnvState R)
    (response : StepResponse Id R) : Bool :=
  (coveredLanes cfg request.envIndices).zipIdx.all (fun entry =>
    match env.lanes entry.1 with
    | .rolling => !laneEnds response entry.2 && response.rewards[entry.2]?.getD 0 == 0
    | _ => true)

/-- Where an operation leaves the env: `wreck` after a failure that is not recoverable. -/
def after {α : Type} (answer : Except EnvError α) (moved : α → EnvState R) (wreck env : EnvState R) : EnvState R :=
  match answer with
  | .ok response => moved response
  | .error e => if e.isRecoverable then env else wreck

end EnvState

/-! ## Sessions -/

/-- A request with the answer of the env's operation. -/
inductive EnvOp (Id R : Type) where
  | reset (request : ResetRequest Id R) (answer : Except EnvError (ResetResponse R))
  | step (request : StepRequest Id) (answer : Except EnvError (StepResponse Id R))

structure EnvCall (Id R : Type) where
  now : Int
  op : EnvOp Id R
  /-- The operation outlives the request's deadline, if it has one. -/
  late : Bool
  /-- Where a failure that is not recoverable leaves the env. -/
  wreck : EnvState R

structure EnvSession (Id R : Type) where
  tracker : EpisodeTracker Id R
  env : EnvState R
  isOpen : Bool
  /-- The episodes reported so far. -/
  reported : List (EpisodeMetadata Id R)

/-- The episodes a reply reports. -/
def completedIn : JoinResponse Id R → List (EpisodeMetadata Id R)
  | .step response => response.completedEpisodes
  | _ => []

variable [Zero R] [Add R] [BEq R] [Inhabited Id]

/-- One request on an open session; the env is only asked what the server lets through. -/
def EnvSession.call (cfg : ServerConfig) (s : EnvSession Id R) (e : EnvCall Id R) : Option (EnvSession Id R) :=
  if !s.isOpen then none
  else match e.op with
    | .reset request answer =>
      let (reply, tracker) := handleReset cfg e.now (resetAnswer e.late answer) s.tracker request
      some {
        tracker
        env := if resetAdmitted cfg request then
            EnvState.after answer (fun _ => s.env.reset cfg request) e.wreck s.env else s.env
        isOpen := !endsSession reply
        reported := s.reported }
    | .step request answer =>
      if answer.toOption.all (s.env.honours cfg request) then
        let (reply, tracker) := handleStep cfg e.now (stepAnswer e.late answer) s.tracker request
        some {
          tracker
          env := if stepAdmitted cfg request then
              EnvState.after answer (fun response => s.env.step cfg request response) e.wreck s.env else s.env
          isOpen := !endsSession reply
          reported := s.reported ++ completedIn reply }
      else none

/-- A session of an env that has run nothing yet. -/
def envSession (cfg : ServerConfig) : System (EnvSession Id R) (EnvCall Id R) where
  init := { tracker := .new, env := .fresh, isOpen := true, reported := [] }
  step := EnvSession.call cfg

/-- The env declined the operation: it did not move. -/
def declined {α : Type} : Except EnvError α → Bool
  | .ok _ => false
  | .error e => e.isRecoverable

def EnvOp.timeoutMs : EnvOp Id R → Nat
  | .reset request _ => request.timeoutMs
  | .step request _ => request.timeoutMs

def EnvOp.isDeclined : EnvOp Id R → Bool
  | .reset _ answer => declined answer
  | .step _ answer => declined answer

/-- The operation was answered within its deadline, or did not move the env. -/
def EnvCall.InTime (e : EnvCall Id R) : Prop :=
  e.late = false ∨ e.op.timeoutMs = 0 ∨ e.op.isDeclined = true

instance (e : EnvCall Id R) : Decidable e.InTime :=
  inferInstanceAs (Decidable (e.late = false ∨ e.op.timeoutMs = 0 ∨ e.op.isDeclined = true))

/-! ## The env follows the ledger -/

/-- The env runs what the ledger has open, and has ended what the ledger closed. -/
structure EnvState.Follows (env : EnvState R) (ledger : Ledger Id R) : Prop where
  lanes : ∀ lane, env.lanes lane = match ledger.running lane with
    | some entry => .running entry.rewards
    | none => if ledger.owed lane then .rolling else .quiet
  filed : ∀ lane entry, ledger.running lane = some entry → entry.lane = lane
  ended : ∀ entry ∈ ledger.interrupted ++ ledger.reported, { lane := entry.lane, rewards := entry.rewards } ∈ env.ended

namespace EnvState.Follows

variable {env : EnvState R} {ledger : Ledger Id R}

/-- A lane is reset: the episode it cuts short is over. -/
theorem start (h : env.Follows ledger) (lane : Nat) (seed : Option Int) (id : Id) :
    (env.resetLane lane).Follows (ledger.start lane seed id) := by
  have hlane := h.lanes lane
  refine ⟨fun l => ?_, fun l entry hr => ?_, fun entry hentry => ?_⟩
  · by_cases hl : l = lane
    · simp [hl, resetLane, Ledger.start]
    · simp [hl, resetLane, Ledger.start, h.lanes l]
  · by_cases hl : l = lane
    · simp only [hl, Ledger.start, Function.update_self, Option.some.injEq] at hr
      rw [← hr, hl]
    · exact h.filed l entry (by simpa [hl, Ledger.start] using hr)
  · have hold := h.ended entry
    unfold resetLane
    cases hr : ledger.running lane with
    | none =>
      rw [hr] at hlane
      simp only [Ledger.start, hr, Option.toList_none, List.append_nil] at hentry
      rw [hlane]
      cases ledger.owed lane <;> exact hold hentry
    | some cut =>
      rw [hr] at hlane
      rw [hlane]
      simp only [Ledger.start, hr, Option.toList_some, List.mem_append, List.mem_singleton] at hentry hold ⊢
      rcases hentry with (hentry | rfl) | hentry
      · exact .inl (hold (.inl hentry))
      · rw [h.filed lane entry hr]
        exact .inr rfl
      · exact .inl (hold (.inr hentry))

/-- A lane is stepped: its row goes to the episode it runs. -/
theorem stepLane (h : env.Follows ledger) (ok : StepResponse Id R) (nextStep : Bool) (pushedIds : List Id)
    (lane pos : Nat) : (env.stepLane ok nextStep lane pos).Follows (ledger.stepLane ok nextStep pushedIds lane pos) := by
  have hlane := h.lanes lane
  unfold EnvState.stepLane Ledger.stepLane
  cases hr : ledger.running lane with
  | some entry =>
    rw [hr] at hlane
    have hfiled := h.filed lane entry hr
    rw [hlane]
    dsimp only
    rw [← laneEnds]
    split
    · refine ⟨fun l => ?_, fun l e he => ?_, fun e he => ?_⟩
      · by_cases hl : l = lane
        · simp [hl]
        · simp [hl, h.lanes l]
      · by_cases hl : l = lane
        · simp [hl] at he
        · exact h.filed l e (by simpa [hl] using he)
      · have hold := h.ended e
        simp only [List.mem_append, List.mem_singleton] at he hold ⊢
        rcases he with he | he | rfl
        · exact .inl (hold (.inl he))
        · exact .inl (hold (.inr he))
        · exact .inr (by rw [← hfiled])
    · refine ⟨fun l => ?_, fun l e he => ?_, h.ended⟩
      · by_cases hl : l = lane
        · simp [hl]
        · simp [hl, h.lanes l]
      · by_cases hl : l = lane
        · simp only [hl, Function.update_self, Option.some.injEq] at he
          rw [← he, hl]
          exact hfiled
        · exact h.filed l e (by simpa [hl] using he)
  | none =>
    rw [hr] at hlane
    cases ho : ledger.owed lane with
    | true =>
      rw [ho] at hlane
      have hstart := h.start lane none (pushedIds[pos]?.getD default)
      rw [resetLane, show env.lanes lane = .rolling from hlane] at hstart
      rw [show env.lanes lane = .rolling from hlane]
      exact hstart
    | false =>
      rw [ho] at hlane
      rw [show env.lanes lane = .quiet from hlane]
      exact h

theorem drain (h : env.Follows ledger) : env.Follows ledger.drain := by
  refine ⟨h.lanes, h.filed, fun entry hentry => h.ended entry ?_⟩
  simp only [Ledger.drain, List.nil_append, List.mem_append] at hentry ⊢
  exact hentry.elim .inr (fun hin => .inl (List.mem_of_mem_drop hin))

end EnvState.Follows

/-- The tracker and the env follow one ledger, which closed what was reported. -/
def InLine (cfg : ServerConfig) (tracker : EpisodeTracker Id R) (env : EnvState R)
    (reported : List (EpisodeMetadata Id R)) : Prop :=
  ∃ ledger : Ledger Id R, Tracks cfg.numEnvs tracker ledger ∧ env.Follows ledger ∧
    ∀ metadata ∈ reported, ∃ entry ∈ ledger.reported, accountOf metadata = entry.account

namespace InLine

variable {cfg : ServerConfig} {tracker : EpisodeTracker Id R} {env : EnvState R} {reported : List (EpisodeMetadata Id R)}

theorem reset (h : InLine cfg tracker env reported) (now : Int) {request : ResetRequest Id R}
    (hv : ValidLanes cfg request.envIndices) :
    InLine cfg (startLanes now request.seeds request.episodeIds tracker (coveredLanes cfg request.envIndices))
      (env.reset cfg request) reported := by
  obtain ⟨ledger, htracks, hfollows, hreported⟩ := h
  obtain ⟨hnext, hsame⟩ := htracks.startLanes now request.seeds request.episodeIds
    (coveredLanes cfg request.envIndices).zipIdx (fun entry hm => hv.2 _ (List.fst_mem_of_mem_zipIdx hm))
  refine ⟨_, hnext, List.foldl_rel hfollows (fun entry _ _ _ hrel => hrel.start entry.1 _ _), ?_⟩
  rw [hsame]
  exact hreported

/-- A whole step: what it reports are episodes the ledger closes, interrupted ones included. -/
theorem step (h : InLine cfg tracker env reported) (now : Int) {request : StepRequest Id}
    (hv : ValidLanes cfg request.envIndices) (ok : StepResponse Id R) :
    let applied := applyStepToTracker now ok (coveredLanes cfg request.envIndices) (cfg.autoresetMode = .nextStep)
      request.episodeIds tracker
    InLine cfg applied.2 (env.step cfg request ok) (reported ++ applied.1.completedEpisodes) := by
  obtain ⟨ledger, htracks, hfollows, hreported⟩ := h
  obtain ⟨hnext, closed, hclosed, haccounts⟩ := htracks.drained.stepLanes now ok
    (coveredLanes cfg request.envIndices).length (cfg.autoresetMode = .nextStep) request.episodeIds
    (coveredLanes cfg request.envIndices).zipIdx (fun entry hm => hv.2 _ (List.fst_mem_of_mem_zipIdx hm))
    htracks.interrupted rfl
  refine ⟨_, hnext, List.foldl_rel hfollows.drain (fun entry _ _ _ hrel => hrel.stepLane ok _ _ entry.1 entry.2),
    fun metadata hm => ?_⟩
  rw [hclosed]
  rcases List.mem_append.1 hm with hm | hm
  · obtain ⟨entry, hentry, haccount⟩ := hreported metadata hm
    exact ⟨entry, List.mem_append_left _ hentry, haccount⟩
  · have hm : accountOf metadata ∈ closed.map Entry.account := haccounts ▸ List.mem_map_of_mem hm
    obtain ⟨entry, hentry, haccount⟩ := List.mem_map.1 hm
    exact ⟨entry, List.mem_append_right _ hentry, haccount.symm⟩

/-- A lane is what the env knows of it, and its episode has the env's steps and rewards. -/
theorem lane (h : InLine cfg tracker env reported) (lane : Nat) : tracker.laneState lane = (env.lanes lane).state ∧
    ∀ episode, tracker.active.lookup lane = some episode → ∃ rewards, env.lanes lane = .running rewards ∧
      episode.stepCount = rewards.length ∧ episode.cumulativeReward = rewards.foldl (· + ·) 0 := by
  obtain ⟨ledger, htracks, hfollows, -⟩ := h
  have hlane := hfollows.lanes lane
  cases ha : tracker.active.lookup lane with
  | some episode =>
    obtain ⟨entry, hr, haccount, -⟩ := htracks.of_some ha
    rw [hr] at hlane
    rw [hlane, (tracker.laneState_active lane).2 ⟨episode, ha⟩]
    refine ⟨rfl, fun other hother => ?_⟩
    cases hother
    exact ⟨_, rfl, congrArg Account.stepCount haccount, congrArg Account.cumulativeReward haccount⟩
  | none =>
    obtain ⟨hr, howed⟩ := htracks.of_none ha
    rw [hr] at hlane
    refine ⟨?_, nofun⟩
    by_cases hp : lane ∈ tracker.pendingAutoreset
    · rw [hlane, howed.1 hp, (tracker.laneState_pending lane).2 ⟨ha, hp⟩]
      rfl
    · rw [hlane, Bool.eq_false_iff.2 (fun ho => hp (howed.2 ho)), (tracker.laneState_idle lane).2 ⟨ha, hp⟩]
      rfl

end InLine

/-! ## Every run -/

/-- What an operation answered in time leaves of the env when its request fails:
the env did not move, or the session ends. -/
theorem after_of_error {α : Type} {answer : Except EnvError α} {late : Bool} {timeoutMs : Nat} {operation : String}
    (htime : late = false ∨ timeoutMs = 0 ∨ declined answer = true) {e : EnvError}
    (h : runEnvOpWithDeadline answer late timeoutMs operation = .error e) (moved : α → EnvState R)
    (wreck env : EnvState R) : EnvState.after answer moved wreck env = env ∨ e.isRecoverable = false := by
  cases answer with
  | ok response =>
    unfold runEnvOpWithDeadline at h
    rcases htime with rfl | rfl | hdeclined
    · simp at h
    · simp at h
    · cases hdeclined
  | error e' =>
    cases hrec : e'.isRecoverable with
    | true => exact .inl (if_pos hrec)
    | false =>
      refine .inr ?_
      unfold runEnvOpWithDeadline at h
      rcases htime with rfl | rfl | hdeclined
      · simp at h
        exact h ▸ hrec
      · simp at h
        exact h ▸ hrec
      · rw [declined, hrec] at hdeclined
        cases hdeclined

theorem validateStepLanes_fatal {ok : StepResponse Id R} {lanes : List Nat} {nextStep : Bool}
    {tracker : EpisodeTracker Id R} {e : EnvError} (h : validateStepLanes ok lanes nextStep tracker = some e) :
    e.isRecoverable = false := by
  have hwidth : ∀ {label : String} {len : Nat}, widthViolation label len lanes.length = some e →
      e.isRecoverable = false := by
    intro label len hw
    unfold widthViolation at hw
    split at hw
    · cases hw
      rfl
    · cases hw
  have hlane : ∀ {lane pos : Nat}, laneViolation ok tracker lane pos = some e → e.isRecoverable = false := by
    intro lane pos hl
    unfold laneViolation at hl
    split at hl
    · split at hl
      · cases hl
        rfl
      split at hl
      · cases hl
        rfl
      · cases hl
    · cases hl
      rfl
    · cases hl
  have hor : ∀ {a b : Option EnvError}, (a <|> b) = some e → a = some e ∨ b = some e := by
    intro a b hab
    cases a with
    | none => exact .inr hab
    | some _ => exact .inl hab
  unfold validateStepLanes at h
  rcases hor h with hw | hl
  · rcases hor hw with hw | hw
    · exact hwidth hw
    · exact (hor hw).elim hwidth hwidth
  · split at hl
    · obtain ⟨entry, -, hl⟩ := List.exists_of_findSome?_eq_some hl
      exact hlane hl
    · cases hl

/-- While the session is open, tracker, env and reports are in line. -/
def EnvSession.InStep (cfg : ServerConfig) (s : EnvSession Id R) : Prop :=
  s.isOpen = true → InLine cfg s.tracker s.env s.reported

variable {cfg : ServerConfig} {s s' : EnvSession Id R} {e : EnvCall Id R}

theorem inStep_reset {request : ResetRequest Id R} {answer : Except EnvError (ResetResponse R)}
    (hop : e.op = .reset request answer) (hs : s.InStep cfg) (htime : e.InTime) (h : s.call cfg e = some s') :
    s'.InStep cfg := by
  unfold EnvSession.call at h
  unfold EnvCall.InTime at htime
  rw [hop] at h htime
  dsimp only at h
  split at h
  · cases h
  rename_i hopen
  have hline := hs (by simpa using hopen)
  cases h
  intro hstill
  dsimp only at hstill ⊢
  cases hresult : resetResult cfg (resetAnswer e.late answer) request with
  | error err =>
    rw [handleReset, hresult] at hstill ⊢
    rcases resetAdmitted_cases cfg request with ⟨hrefused, -⟩ | ⟨hadmitted, -, hrun⟩
    · rw [hrefused]
      exact hline
    · rw [hrun] at hresult
      rw [if_pos hadmitted]
      rcases after_of_error htime hresult (fun _ => s.env.reset cfg request) e.wreck s.env with henv | hfatal
      · rw [henv]
        exact hline
      · simp [endsSession, hfatal] at hstill
  | ok response =>
    obtain ⟨hadmitted, hvalid, hanswer⟩ := resetResult_ok hresult
    rw [handleReset, hresult, hadmitted, show answer = .ok response from hanswer]
    exact hline.reset e.now hvalid

theorem inStep_step {request : StepRequest Id} {answer : Except EnvError (StepResponse Id R)}
    (hop : e.op = .step request answer) (hs : s.InStep cfg) (htime : e.InTime) (h : s.call cfg e = some s') :
    s'.InStep cfg := by
  unfold EnvSession.call at h
  unfold EnvCall.InTime at htime
  rw [hop] at h htime
  dsimp only at h
  split at h
  · cases h
  rename_i hopen
  have hline := hs (by simpa using hopen)
  split at h
  · cases h
    intro hstill
    dsimp only at hstill ⊢
    cases hresult : stepResult cfg (stepAnswer e.late answer) request with
    | error err =>
      have hhandled : handleStep cfg e.now (stepAnswer e.late answer) s.tracker request = (.error err, s.tracker) := by
        rw [handleStep, hresult]
      rw [hhandled] at hstill ⊢
      simp only [completedIn, List.append_nil]
      rcases stepAdmitted_cases (R := R) cfg request with ⟨hrefused, -⟩ | ⟨hadmitted, -, heq⟩
      · rw [hrefused]
        exact hline
      · rw [heq] at hresult
        have hrun : runEnvOpWithDeadline answer e.late request.timeoutMs "env.step" = .error err := by
          cases hr : runEnvOpWithDeadline answer e.late request.timeoutMs "env.step" with
          | ok ok => rw [stepAnswer, hr] at hresult; cases hresult
          | error err' => rw [stepAnswer, hr] at hresult; exact hresult
        rw [if_pos hadmitted]
        rcases after_of_error htime hrun (fun response => s.env.step cfg request response) e.wreck s.env with
          henv | hfatal
        · rw [henv]
          exact hline
        · simp [endsSession, hfatal] at hstill
    | ok response =>
      rw [handleStep, hresult] at hstill ⊢
      dsimp only at hstill ⊢
      cases hchecked : validateStepLanes response (coveredLanes cfg request.envIndices)
          (cfg.autoresetMode = .nextStep) s.tracker with
      | some err =>
        rw [hchecked] at hstill
        simp [endsSession, validateStepLanes_fatal hchecked] at hstill
      | none =>
        obtain ⟨hadmitted, hlanes, sent, hsent, hstamped⟩ := stepResult_ok hresult
        have hanswer : answer = .ok sent := hsent
        -- the lanes stamped on the reply are none of the env's doing
        have hstep : s.env.step cfg request sent = s.env.step cfg request response := by
          rw [hstamped]
          rfl
        rw [hanswer, if_pos hadmitted, EnvState.after, hstep]
        exact hline.step e.now hlanes response
  · cases h

theorem reach_inStep (h : (envSession cfg).Reach (fun _ e => e.InTime) s) : s.InStep cfg := by
  refine h.inv (EnvSession.InStep cfg) ?_ ?_
  · exact fun _ => ⟨.empty, .new, ⟨fun _ => rfl, nofun, nofun⟩, nofun⟩
  · intro s e s' hs htime hstep
    cases hop : e.op with
    | reset request answer => exact inStep_reset hop hs htime hstep
    | step request answer => exact inStep_step hop hs htime hstep

/-- One lane that restarts by itself. -/
def rollingLane : ServerConfig where
  numEnvs := 1
  autoresetMode := .nextStep
  supportsLanes := false
  retainsEdition _ := true
  supportedEditions := []

/-- The lane's reset, under id 1. -/
def rollingReset : EnvCall Nat Int where
  now := 0
  op := .reset { seeds := [], options := none, timeoutMs := 0, envIndices := [], episodeIds := [1] }
    (.ok { observation := none, infos := none })
  late := false
  wreck := .fresh

/-- A step of the lane with a deadline, answered with a reward, and with the episode's end or not. -/
def rollingStep (reward : Int) (ends late : Bool) : EnvCall Nat Int where
  now := 0
  op := .step { action := none, timeoutMs := 10, envIndices := [], episodeIds := [2] }
    (.ok { observation := none, rewards := [reward], terminatedMask := [if ends then 1 else 0], truncatedMask := [0]
           infos := none, completedEpisodes := [], envIndices := [] })
  late
  wreck := .fresh

end Rlmesh.Env
