import Rlmesh.Model.Stamps
import Rlmesh.Run.Lives
/-!
# A failed predict and the episode's step sequence

A session with a local model stamps its history rows and requests with the steps
its env has taken. It takes the buffered rows before it looks whether it was
cancelled, so rows are lost with a request cancelled there; and the stamps follow
the caller's calls, so a caller who steps past a failed predict leaves a gap.

The main result covers the served model's client (`Model/Stamps`) and the session:
within these bounds the steps that reach the model are consecutive, each once.
-/
open Rlmesh.Wire Rlmesh.Lib Rlmesh.Lib.Fallible Rlmesh.Model

set_option linter.unusedSectionVars false

namespace Rlmesh.Run

section

variable {ω ε Id Obs Raw Act Info R : Type} [Inhabited Id] [DecidableEq Id] [Zero R] [Add R]

/-- A call that stamps nothing. -/
def unlogged {α : Type} (f : ω → Except ε α × ω) (world : ω × List (Id × Nat)) : Except ε α × (ω × List (Id × Nat)) :=
  ((f world.1).1, (f world.1).2, world.2)

/-- The world, with a log of the stamps that reach the model. -/
def World.logged (W : World ω ε Id Obs Raw Act Info R) : World (ω × List (Id × Nat)) ε Id Obs Raw Act Info R where
  connect := unlogged W.connect
  admits := unlogged W.admits
  warnTrial := unlogged W.warnTrial
  reset seed options := unlogged (W.reset seed options)
  step action := unlogged (W.step action)
  feedView observation := unlogged (W.feedView observation)
  pace := unlogged W.pace
  viewQuit := unlogged W.viewQuit
  encode observation := unlogged (W.encode observation)
  predict request world := ((W.predict request world.1).1, (W.predict request world.1).2, world.2 ++ stamps request)
  decode := W.decode
  noAction := W.noAction
  episodeEnd id := unlogged (W.episodeEnd id)
  hook point := unlogged (W.hook point)
  checkCancelled := unlogged W.checkCancelled
  timeUp := unlogged W.timeUp
  releaseRoute := unlogged W.releaseRoute
  releaseEnv closeEnv := unlogged (W.releaseEnv closeEnv)
  success := W.success

/-- The steps of the episode that are in the log or buffered for the next request. -/
def Core.stamped (s : Core (ω × List (Id × Nat)) Id Obs Act R) : List Nat :=
  stepsOf s.episode.id s.world.2 ++ s.history.map (·.step)

/-- What a session keeps of its stamps. -/
structure SessionStamps (ids : Minter Id) (s : Core (ω × List (Id × Nat)) Id Obs Act R) : Prop where
  steady : ∀ id, Steady (stepsOf id s.world.2)
  drawn : Drawn ids s.minted s.world.2
  own : s.episode.id = default ∨ ∃ n < s.minted, s.episode.id = ids.id n
  rows : ∀ frame ∈ s.history, frame.episode.episodeId = s.episode.id
  running : UpTo s.episode.steps s.stamped ∨ UpTo (s.episode.steps + 1) s.stamped
  blank : s.episode.id = default → s.history = []
  silent : (∀ connected, s.connected = some connected → connected.wantsHistory = false) → s.stamped = []

/-- Nothing that bears on the stamps has changed. -/
structure SameSteps (s s' : Core (ω × List (Id × Nat)) Id Obs Act R) : Prop where
  log : s'.world.2 = s.world.2
  minted : s'.minted = s.minted
  id : s'.episode.id = s.episode.id
  steps : s'.episode.steps = s.episode.steps
  history : s'.history = s.history
  connected : s'.connected = s.connected

variable {ids : Minter Id} {s s' : Core (ω × List (Id × Nat)) Id Obs Act R} {W : World ω ε Id Obs Raw Act Info R}

theorem SameSteps.stamped (h : SameSteps s s') : s'.stamped = s.stamped := by
  rw [Core.stamped, h.log, h.id, h.history, Core.stamped]

theorem SessionStamps.congr (h : SessionStamps ids s) (hsame : SameSteps s s') : SessionStamps ids s' := by
  have hstamped := hsame.stamped
  obtain ⟨log, minted, id, steps, history, connected⟩ := hsame
  constructor
  · rw [log]
    exact h.steady
  · rw [log, minted]
    exact h.drawn
  · rw [id, minted]
    exact h.own
  · rw [id, history]
    exact h.rows
  · rw [steps, hstamped]
    exact h.running
  · rw [id, history]
    exact h.blank
  · rw [connected, hstamped]
    exact h.silent

/-- The current step is still to be stamped. -/
def Due (ids : Minter Id) (s : Core (ω × List (Id × Nat)) Id Obs Act R) : Prop :=
  SessionStamps ids s ∧ UpTo s.episode.steps s.stamped

/-- The current step is stamped, or none of the episode's. -/
def Done (ids : Minter Id) (s : Core (ω × List (Id × Nat)) Id Obs Act R) : Prop :=
  SessionStamps ids s ∧ UpTo (s.episode.steps + 1) s.stamped

/-- A condition that only the stamps bear on, and that connecting leaves alone. -/
structure OfSteps (I : Core (ω × List (Id × Nat)) Id Obs Act R → Prop) : Prop where
  congr : ∀ s s', SameSteps s s' → I s → I s'
  connects : ∀ s connected, I s → s.connected = none → I { s with connected := some connected }

theorem SessionStamps.connects (h : SessionStamps ids s) (hnone : s.connected = none) (connected : Connected) :
    SessionStamps ids { s with connected := some connected } := by
  have hempty : s.stamped = [] := h.silent (by rw [hnone]; nofun)
  exact ⟨h.steady, h.drawn, h.own, h.rows, h.running, h.blank, fun _ => hempty⟩

theorem ofSteps_stamps : OfSteps (SessionStamps ids : Core (ω × List (Id × Nat)) Id Obs Act R → Prop) where
  congr _ _ hsame h := h.congr hsame
  connects _ connected h hnone := h.connects hnone connected

theorem ofSteps_due : OfSteps (Due ids : Core (ω × List (Id × Nat)) Id Obs Act R → Prop) where
  congr s s' hsame h := by
    refine ⟨h.1.congr hsame, ?_⟩
    rw [hsame.steps, hsame.stamped]
    exact h.2
  connects _ connected h hnone := ⟨h.1.connects hnone connected, h.2⟩

theorem ofSteps_done : OfSteps (Done ids : Core (ω × List (Id × Nat)) Id Obs Act R → Prop) where
  congr s s' hsame h := by
    refine ⟨h.1.congr hsame, ?_⟩
    rw [hsame.steps, hsame.stamped]
    exact h.2
  connects _ connected h hnone := ⟨h.1.connects hnone connected, h.2⟩

theorem UpTo.of_succ {k : Nat} {steps : List Nat} (h : UpTo (k + 1) steps) : steps = [] ∨ k ∈ steps := by
  rcases h with hnil | ⟨first, count, rfl, hend⟩
  · exact .inl hnil
  · cases count with
    | zero => exact .inl rfl
    | succ count => exact .inr (List.mem_range'_1.2 (by omega))

theorem SessionStamps.due (h : SessionStamps ids s) (hnot : s.episode.steps ∉ s.stamped) : Due ids s := by
  refine ⟨h, ?_⟩
  rcases h.running with hrun | hrun
  · exact hrun
  · rcases UpTo.of_succ hrun with hnil | hmem
    · exact .inl hnil
    · exact absurd hmem hnot

theorem SessionStamps.done (h : SessionStamps ids s) (hstamped : s.stamped = [] ∨ s.episode.steps ∈ s.stamped) :
    Done ids s := by
  refine ⟨h, ?_⟩
  rcases hstamped with hnil | hmem
  · exact .inl hnil
  · rcases h.running with hrun | hrun
    · exact absurd hmem hrun.notMem
    · exact hrun

theorem Due.noted (h : Due ids s) {connected : Connected} (hconnected : s.connected = some connected)
    (hwants : connected.wantsHistory = true) (hid : s.episode.id ≠ default) {frame : HistoryFrame Id Obs}
    (hframe : frame.episode.episodeId = s.episode.id) (hstep : frame.step = s.episode.steps)
    {t : Core (ω × List (Id × Nat)) Id Obs Act R} (hlog : t.world.2 = s.world.2) (hminted : t.minted = s.minted)
    (hepisode : t.episode = s.episode) (hrows : t.history = s.history ++ [frame])
    (htconnected : t.connected = s.connected) : SessionStamps ids t := by
  have hstamped : t.stamped = s.stamped ++ [s.episode.steps] := by
    rw [Core.stamped, hlog, hepisode, hrows, List.map_append, ← List.append_assoc, List.map_singleton, hstep]
    rfl
  refine ⟨hlog ▸ h.1.steady, by rw [hlog, hminted]; exact h.1.drawn, by rw [hepisode, hminted]; exact h.1.own, ?_,
    .inr ?_, fun hblank => absurd (hepisode ▸ hblank) hid, fun hoff => ?_⟩
  · rw [hrows, hepisode]
    intro row hrow
    rcases List.mem_append.1 hrow with hrow | hrow
    · exact h.1.rows row hrow
    · rw [List.mem_singleton.1 hrow, hframe]
  · rw [hstamped, hepisode]
    exact h.2.snoc
  · have hcontra := hoff connected (htconnected.trans hconnected)
    rw [hwants] at hcontra
    cases hcontra

/-- The request that a predict sends. -/
def Core.request (s : Core (ω × List (Id × Nat)) Id Obs Act R) (connected : Connected) (observation : Obs) :
    ModelObservation Id Obs :=
  { observation, episode := { episodeId := s.episode.id, seed := s.episode.seed }, history := s.history
    step := if connected.wantsHistory then some s.episode.steps else none }

theorem Due.sent (h : Due ids s) {connected : Connected} (hconnected : s.connected = some connected)
    (hid : s.episode.id ≠ default) (observation : Obs) {t : Core (ω × List (Id × Nat)) Id Obs Act R}
    (hlog : t.world.2 = s.world.2 ++ stamps (s.request connected observation)) (hminted : t.minted = s.minted)
    (hepisode : t.episode = s.episode) (hrows : t.history = []) (htconnected : t.connected = s.connected) :
    SessionStamps ids t := by
  have hown : ∀ stamp ∈ stamps (s.request connected observation), stamp.1 = s.episode.id := stamps_own h.1.rows
  have hsteps : stepsOf s.episode.id s.world.2 ++ (stamps (s.request connected observation)).map Prod.snd =
      s.stamped ++ (s.request connected observation).step.toList := by
    rw [map_snd_stamps, ← List.append_assoc]
    rfl
  have hstamped : t.stamped = s.stamped ++ (s.request connected observation).step.toList := by
    rw [Core.stamped, hrows, List.map_nil, List.append_nil, hlog, hepisode, stepsOf_append, stepsOf_own hown, hsteps]
  -- a route without history has no stamps, and gets none
  have hsilent : connected.wantsHistory = false → t.stamped = [] := by
    intro hoff
    have hempty : s.stamped = [] := h.1.silent (by rintro c hc; rw [hconnected] at hc; cases hc; exact hoff)
    rw [hstamped, hempty, Core.request, hoff]
    rfl
  have hrun : UpTo (s.episode.steps + 1) t.stamped := by
    cases hwants : connected.wantsHistory with
    | false => exact .inl (hsilent hwants)
    | true =>
      rw [hstamped, Core.request, if_pos hwants]
      exact h.2.snoc
  refine ⟨?_, ?_, by rw [hepisode, hminted]; exact h.1.own, ?_, .inr (by rw [hepisode]; exact hrun), fun _ => hrows, ?_⟩
  · rw [hlog]
    exact steady_append h.1.steady hown (by rw [hsteps, ← hstamped]; exact hrun.steady)
  · rw [hlog, hminted]
    intro stamp hstamp
    rcases List.mem_append.1 hstamp with hstamp | hstamp
    · exact h.1.drawn stamp hstamp
    · rw [hown stamp hstamp]
      exact h.1.own.resolve_left hid
  · rw [hrows]
    exact nofun
  · exact fun hoff => hsilent (hoff connected (htconnected.trans hconnected))

/-! ## Calls that stamp nothing -/

namespace Session

variable {I : Core (ω × List (Id × Nat)) Id Obs Act R → Prop}

theorem exec_unlogged {α : Type} (f : ω → Except ε α × ω) (s : Core (ω × List (Id × Nat)) Id Obs Act R) :
    exec (ask (unlogged f)) s = ((f s.world.1).1, { s with world := ((f s.world.1).2, s.world.2) }) := rfl

theorem keeps_unlogged (hI : OfSteps I) {α : Type} (f : ω → Except ε α × ω) : Keeps I (ask (unlogged f)) :=
  ensures_of_left (fun s hs => hI.congr s _ ⟨rfl, rfl, rfl, rfl, rfl, rfl⟩ hs)

theorem keeps_modify_steps (hI : OfSteps I)
    (f : Core (ω × List (Id × Nat)) Id Obs Act R → Core (ω × List (Id × Nat)) Id Obs Act R)
    (hf : ∀ s, SameSteps s (f s)) : Keeps I (modify f : Fallible _ ε Unit) :=
  ensures_modify f (fun s hs => hI.congr s _ (hf s) hs)

theorem keeps_feedView_steps (hI : OfSteps I) (observation : Obs) : Keeps I (feedView W.logged observation) :=
  keeps_bind (keeps_unlogged hI _) (fun _ => keeps_modify_steps hI _ (fun _ => ⟨rfl, rfl, rfl, rfl, rfl, rfl⟩))

theorem keeps_endEpisode_steps (hI : OfSteps I) : Keeps I (endEpisode W.logged) := by
  refine ensures_get_bind (fun s hs => ?_)
  split
  · refine ensures_bind (Q := fun _ => I) (ensures_modify _ ?_) (fun _ => keeps_unlogged hI _)
    rintro t rfl
    exact hI.congr t _ ⟨rfl, rfl, rfl, rfl, rfl, rfl⟩ hs
  · exact ensures_pure _ (by rintro t rfl; exact hs)

theorem keeps_trialOptions_steps (hI : OfSteps I) (connected : Connected) (trial : Option Int) :
    Keeps I (trialOptions W.logged connected trial) := by
  unfold trialOptions
  split
  · exact keeps_pure _
  · split
    · exact keeps_pure _
    · exact keeps_bind (keeps_unlogged hI _) (fun _ => keeps_pure _)

theorem keeps_pushReplay_steps (hI : OfSteps I) (frames : List (List Raw)) : Keeps I (pushReplay W.logged frames) := by
  induction frames with
  | nil => exact keeps_pure _
  | cons frame frames ih =>
    cases frame with
    | nil => exact ih
    | cons lane rest =>
      refine keeps_bind (keeps_lift _) (fun action => keeps_bind ?_ (fun _ => ih))
      exact keeps_modify_steps hI _ (fun _ => ⟨rfl, rfl, rfl, rfl, rfl, rfl⟩)

theorem ensures_ensureConnected (hI : OfSteps I) :
    Ensures I (ensureConnected W.logged) (fun connected s => I s ∧ s.connected = some connected) I := by
  refine ensures_get_bind (fun s hs => ?_)
  split
  · rename_i connected hconnected
    exact ensures_pure _ (by rintro t rfl; exact ⟨hs, hconnected⟩)
  · rename_i hnone
    have hask : Ensures (· = s) (ask W.logged.connect : Fallible _ ε Connected)
        (fun _ t => I t ∧ t.connected = none) I := by
      rintro t rfl
      have hsame : SameSteps t (exec (ask W.logged.connect : Fallible _ ε Connected) t).2 :=
        ⟨rfl, rfl, rfl, rfl, rfl, rfl⟩
      have hkept := hI.congr t _ hsame hs
      split
      · rename_i hrun
        rw [hrun] at hkept hsame
        exact ⟨hkept, hsame.connected.trans hnone⟩
      · rename_i hrun
        rwa [hrun] at hkept
    refine ensures_bind hask (fun connected => ?_)
    exact ensures_bind (Q := fun _ t => I t ∧ t.connected = some connected)
      (ensures_modify _ (fun t ht => ⟨hI.connects t connected ht.1 ht.2, rfl⟩)) (fun _ => ensures_pure _ (fun _ ht => ht))

theorem keeps_ensureConnected_steps (hI : OfSteps I) : Keeps I (ensureConnected W.logged) :=
  (ensures_ensureConnected hI).mono (fun _ h => h) (fun _ _ h => h.1) (fun _ h => h)

/-! ## Reset and step -/

theorem keeps_reset_stamps (seed trialIndex : Option Int) :
    Keeps (SessionStamps ids) (reset W.logged ids seed trialIndex) := by
  have hof : OfSteps (SessionStamps ids : Core (ω × List (Id × Nat)) Id Obs Act R → Prop) := ofSteps_stamps
  refine keeps_bind (keeps_ensureConnected_steps hof) (fun connected => keeps_bind (keeps_endEpisode_steps hof) (fun _ => ?_))
  refine keeps_bind (keeps_trialOptions_steps hof connected trialIndex) (fun options => ?_)
  refine keeps_bind (keeps_unlogged hof _) (fun answer => ?_)
  -- the new episode's id is fresh, so nothing of it is in the log
  refine ensures_bind (Q := fun id s => SessionStamps ids s ∧ stepsOf id s.world.2 = [] ∧ ∃ n < s.minted, id = ids.id n)
    ?_ (fun id => ?_)
  · refine ensures_get_bind (fun s hs => ?_)
    refine ensures_bind (Q := fun _ t => t = { s with minted := s.minted + 1 })
      (ensures_modify _ (by rintro t rfl; rfl)) (fun _ => ensures_pure _ ?_)
    rintro t rfl
    refine ⟨⟨hs.steady, hs.drawn.mono (Nat.le_succ _), ?_, hs.rows, hs.running, hs.blank, hs.silent⟩, hs.drawn.fresh,
      s.minted, Nat.lt_succ_self _, rfl⟩
    exact hs.own.imp_right (fun ⟨n, hn, heq⟩ => ⟨n, Nat.lt_succ_of_lt hn, heq⟩)
  · refine ensures_bind (Q := fun _ => SessionStamps ids) (ensures_modify _ (fun s hs => ?_))
      (fun _ => keeps_bind (keeps_feedView_steps hof _) (fun _ => keeps_pure _))
    obtain ⟨hstamps, hfresh, hdrawn⟩ := hs
    have hempty : stepsOf id s.world.2 ++ [] = [] := by rw [hfresh, List.append_nil]
    exact ⟨hstamps.steady, hstamps.drawn, .inr hdrawn, nofun, .inl (.inl hempty), fun _ => rfl, fun _ => hempty⟩

theorem step_stamps (action : Act) :
    Ensures (Done ids) (step W.logged action) (fun _ => SessionStamps ids) (SessionStamps ids) := by
  have hof : OfSteps (SessionStamps ids : Core (ω × List (Id × Nat)) Id Obs Act R → Prop) := ofSteps_stamps
  have hfail : ∀ s : Core (ω × List (Id × Nat)) Id Obs Act R, Done ids s → SessionStamps ids s := fun _ h => h.1
  refine ensures_bind ((keeps_unlogged ofSteps_done _).failing hfail) (fun _ => ?_)
  refine ensures_bind ((keeps_ensureConnected_steps ofSteps_done).failing hfail) (fun _ => ?_)
  refine ensures_bind ((keeps_unlogged ofSteps_done _).failing hfail) (fun answer => ?_)
  refine ensures_bind (Q := fun _ => SessionStamps ids) (ensures_modify _ (fun s hs => ?_)) (fun _ => ?_)
  · exact ⟨hs.1.steady, hs.1.drawn, hs.1.own, hs.1.rows, .inl hs.2, hs.1.blank, hs.1.silent⟩
  · refine keeps_bind (keeps_feedView_steps hof _) (fun _ => keeps_bind (keeps_unlogged hof _) (fun _ => ?_))
    exact keeps_bind keeps_get (fun _ => keeps_pure _)

/-! ## Predict -/

/-- The current step is still to be stamped, by a session that has connected. -/
def Ready (ids : Minter Id) (connected : Connected) (s : Core (ω × List (Id × Nat)) Id Obs Act R) : Prop :=
  Due ids s ∧ s.connected = some connected

/-- An episode without an id has stamped nothing, so it can take a new one. -/
theorem ensures_episodeId_due (connected : Connected) :
    Ensures (Ready ids connected) (episodeId ids : Fallible (Core (ω × List (Id × Nat)) Id Obs Act R) ε Id)
      (fun id s => Ready ids connected s ∧ s.episode.id = id ∧ id ≠ default) (Ready ids connected) := by
  refine ensures_get_bind (fun s hs => ?_)
  obtain ⟨⟨hstamps, hdue⟩, hconnected⟩ := hs
  split
  · rename_i hblank
    refine ensures_bind (Q := fun id t => t = { s with minted := s.minted + 1 } ∧ id = ids.id s.minted) ?_ (fun id => ?_)
    · rintro t rfl
      exact ⟨rfl, rfl⟩
    · refine ensures_bind (Q := fun _ t => Ready ids connected t ∧ t.episode.id = id ∧ id ≠ default)
        (ensures_modify _ ?_) (fun _ => ensures_pure _ (fun _ ht => ht))
      rintro t ⟨rfl, rfl⟩
      have hempty : stepsOf (ids.id s.minted) s.world.2 ++ s.history.map (·.step) = [] := by
        rw [hstamps.drawn.fresh, hstamps.blank hblank]
        rfl
      refine ⟨⟨⟨⟨hstamps.steady, hstamps.drawn.mono (Nat.le_succ _), ?_, ?_, .inl (.inl hempty),
        fun _ => hstamps.blank hblank, fun _ => hempty⟩, .inl hempty⟩, hconnected⟩, rfl, ids.nonempty _⟩
      · exact .inr ⟨s.minted, Nat.lt_succ_self _, rfl⟩
      · intro frame hframe
        rw [show s.history = [] from hstamps.blank hblank] at hframe
        cases hframe
  · rename_i hid
    exact ensures_pure _ (by rintro t rfl; exact ⟨⟨⟨hstamps, hdue⟩, hconnected⟩, rfl, hid⟩)

theorem replayAction_stamps {connected : Connected} (h : Ready ids connected s) (hid : s.episode.id ≠ default)
    (observation : Obs) (action : Act) (rest : List Act) :
    SessionStamps ids (exec (replayAction W.logged connected { episodeId := s.episode.id, seed := s.episode.seed }
      observation action rest) s).2 := by
  unfold replayAction
  rw [exec_bind, exec_modify]
  dsimp only
  split
  · rename_i hwants
    rw [exec_bind, show W.logged.encode observation = unlogged (W.encode observation) from rfl, exec_unlogged]
    cases (W.encode observation s.world.1).1 with
    | error e => exact h.1.1.congr ⟨rfl, rfl, rfl, rfl, rfl, rfl⟩
    | ok _ => exact h.1.noted h.2 hwants hid rfl rfl rfl rfl rfl rfl rfl
  · exact h.1.1.congr ⟨rfl, rfl, rfl, rfl, rfl, rfl⟩

theorem predictFresh_stamps {connected : Connected} (h : Ready ids connected s) (hid : s.episode.id ≠ default)
    (observation : Obs) (hsent : ∀ t, exec (ask (W.logged.encode observation) : Fallible _ ε Unit) s = (.ok (), t) →
      t.history = [] ∨ (W.checkCancelled t.world.1).1 = .ok ()) :
    SessionStamps ids (exec (predictFresh W.logged connected { episodeId := s.episode.id, seed := s.episode.seed }
      observation) s).2 := by
  have hof : OfSteps (SessionStamps ids : Core (ω × List (Id × Nat)) Id Obs Act R → Prop) := ofSteps_stamps
  rw [show W.logged.encode observation = unlogged (W.encode observation) from rfl, exec_unlogged] at hsent
  unfold predictFresh
  rw [exec_bind, show W.logged.encode observation = unlogged (W.encode observation) from rfl, exec_unlogged]
  cases hencode : (W.encode observation s.world.1).1 with
  | error e => exact h.1.1.congr ⟨rfl, rfl, rfl, rfl, rfl, rfl⟩
  | ok _ =>
    have hcancel := hsent _ (by rw [hencode])
    dsimp only at hcancel ⊢
    rw [exec_bind, exec_get]
    dsimp only
    rw [exec_bind, exec_modify]
    dsimp only
    rw [exec_bind, show W.logged.checkCancelled = unlogged W.checkCancelled from rfl, exec_unlogged]
    dsimp only
    cases hcheck : (W.checkCancelled (W.encode observation s.world.1).2).1 with
    | error e =>
      rcases hcancel with hnone | hok
      · exact h.1.1.congr ⟨rfl, rfl, rfl, rfl, hnone.symm, rfl⟩
      · rw [hcheck] at hok
        cases hok
    | ok _ =>
      dsimp only
      rw [exec_bind, exec_modify]
      refine exec_bind_keeps (h.1.sent h.2 hid observation rfl rfl rfl rfl rfl) (fun frames => ?_)
      split
      · exact keeps_throw _
      · exact keeps_bind (keeps_pushReplay_steps hof _) (fun _ => keeps_lift _)

/-- The predict is not cancelled with rows buffered for its request. -/
def Uncancelled (W : World ω ε Id Obs Raw Act Info R) (ids : Minter Id)
    (s : Core (ω × List (Id × Nat)) Id Obs Act R) (observation : Obs) : Prop :=
  ∀ t, exec (do
      ask W.logged.admits
      let _ ← ensureConnected W.logged
      let _ ← episodeId ids
      ask (W.logged.encode observation)) s = (.ok (), t) →
    t.replay = [] → t.history = [] ∨ (W.checkCancelled t.world.1).1 = .ok ()

theorem predict_stamps {observation : Obs} (h : Due ids s) (hsent : Uncancelled W ids s observation) :
    SessionStamps ids (exec (predict W.logged ids observation) s).2 := by
  unfold predict
  rw [exec_bind]
  have hadmits := (keeps_unlogged ofSteps_due W.admits).exec h
  rcases hrun₁ : exec (ask W.logged.admits : Fallible _ ε Unit) s with ⟨e | _, s₁⟩
  · rw [show exec (ask (unlogged W.admits)) s = _ from hrun₁] at hadmits
    exact hadmits.1
  rw [show exec (ask (unlogged W.admits)) s = _ from hrun₁] at hadmits
  have hconnect := (ensures_ensureConnected ofSteps_due : Ensures _ (ensureConnected W.logged) _ _) s₁ hadmits
  dsimp only
  rw [exec_bind]
  rcases hrun₂ : exec (ensureConnected W.logged) s₁ with ⟨e | connected, s₂⟩
  · rw [hrun₂] at hconnect
    exact hconnect.1
  rw [hrun₂] at hconnect
  have hnamed := (ensures_episodeId_due connected : Ensures _ (episodeId ids : Fallible _ ε Id) _ _) s₂ hconnect
  dsimp only
  rw [exec_bind]
  rcases hrun₃ : exec (episodeId ids : Fallible _ ε Id) s₂ with ⟨e | id, s₃⟩
  · rw [hrun₃] at hnamed
    exact hnamed.1.1
  rw [hrun₃] at hnamed
  obtain ⟨hready, rfl, hid⟩ := hnamed
  dsimp only
  rw [exec_bind, exec_get]
  dsimp only
  split
  · exact replayAction_stamps hready hid observation _ _
  · rename_i hreplay
    refine predictFresh_stamps hready hid observation (fun t ht => hsent t ?_ ?_)
    · rw [exec_bind, hrun₁]
      dsimp only
      rw [exec_bind, hrun₂]
      dsimp only
      rw [exec_bind, hrun₃]
      exact ht
    · obtain ⟨-, rfl⟩ := Prod.mk.inj ht
      exact hreplay

end Session

/-! ## Whole sessions -/

/-- The condition on a session's calls: a step is predicted at most once, is not left behind unstamped once the episode
has stamps, and is not cancelled with rows buffered for it. -/
def SessionLossless (W : World ω ε Id Obs Raw Act Info R) (ids : Minter Id)
    (s : Core (ω × List (Id × Nat)) Id Obs Act R) : SessionCall Obs Act → Prop
  | .reset _ _ => True
  | .predict observation => s.episode.steps ∉ s.stamped ∧ Session.Uncancelled W ids s observation
  | .step _ => s.stamped = [] ∨ s.episode.steps ∈ s.stamped
  | .run _ => False
  | .release _ => False

theorem sessionStamps_init {world : ω} : SessionStamps ids (.init Id Obs Act R (world, [])) :=
  ⟨fun _ => ⟨0, 0, rfl⟩, nofun, .inl rfl, nofun, .inl (.inl rfl), fun _ => rfl, fun _ => rfl⟩

theorem reach_sessionStamps {world : ω}
    (h : (sessionCalls W.logged ids (world, [])).Reach (SessionLossless W ids) s) : SessionStamps ids s := by
  refine h.inv (SessionStamps ids) sessionStamps_init (fun s call s' hs hc hstep => ?_)
  obtain rfl := Option.some.inj hstep
  cases call with
  | reset seed trialIndex => exact (Session.keeps_reset_stamps seed trialIndex).exec hs
  | predict observation => exact Session.predict_stamps (hs.due hc.1) hc.2
  | step action =>
    have hleft := (Session.step_stamps action : Ensures _ (Session.step W.logged action) _ _) s (hs.done hc)
    show SessionStamps ids (exec (Session.step W.logged action) s).2
    rcases hrun : exec (Session.step W.logged action) s with ⟨_ | _, t⟩ <;> rwa [hrun] at hleft
  | run plan => exact hc.elim
  | release closeEnv => exact hc.elim

end

/-! ## A cancelled predict, and an observation that does not encode -/

/-- A world with a history route and chunks of two actions; the call numbered `cancelled` is cancelled. -/
def chunked (cancelled : Option Nat) : World Nat Unit Nat Unit Unit Unit Unit Int where
  connect world := (.ok { trialOption := false, horizon := 2, wantsHistory := true }, world)
  admits world := (.ok (), world)
  warnTrial world := (.ok (), world)
  reset _ _ world := (.ok ((), ()), world)
  step _ world := (.ok ((), 1, false, false, ()), world)
  feedView _ world := (.ok false, world)
  pace world := (.ok (), world)
  viewQuit world := (.ok false, world)
  encode _ world := (.ok (), world)
  predict _ world := (.ok { actions := [()], replay := [[()]] }, world)
  decode _ := .ok ()
  noAction := ()
  episodeEnd _ world := (.ok (), world)
  hook _ world := (.ok (), world)
  checkCancelled world := (if cancelled = some world then .error () else .ok (), world + 1)
  timeUp world := (.ok false, world)
  releaseRoute world := (.ok (), world)
  releaseEnv _ world := (.ok (), world)
  success _ := none

/-- A served model with a history route; the observation `false` does not encode. -/
def picky : Served Unit Unit Nat Bool Unit Unit where
  resolveAdapter world := (.ok true, world)
  resetAdapter _ world := ({ reached := true, result := .ok () }, world)
  predict _ world := ({ reached := true, result := .ok [()] }, world)
  releaseAdapter world := (.ok (), world)
  encode observation := if observation then .ok () else .error ()
  decode _ := .ok ()
  notReset := ()
  noActions := ()

/-- The calls that play an episode. -/
def SessionCall.plays {Obs Act : Type} : SessionCall Obs Act → Bool
  | .reset _ _ | .predict _ | .step _ => true
  | .run _ | .release _ => false

theorem not_inSequence_gap {log : List (Nat × Nat)} (h : stepsOf 1 log = [0, 2]) : ¬ InSequence log := by
  intro hseq
  obtain ⟨first, count, hrange⟩ := (hseq 1).1
  rw [h] at hrange
  have hlength := congrArg List.length hrange
  rw [List.length_range'] at hlength
  obtain rfl : count = 2 := hlength.symm
  obtain ⟨rfl, hrest⟩ := List.cons.inj hrange
  exact absurd hrest (by decide)

theorem chunked_uncancelled (s : Core (Nat × List (Nat × Nat)) Nat Unit Unit Int) :
    Session.Uncancelled (chunked none) .nat s () := fun _ _ _ => .inr rfl

end Rlmesh.Run
