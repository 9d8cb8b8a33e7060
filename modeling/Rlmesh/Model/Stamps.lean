import Rlmesh.Adapters.Stateful
import Rlmesh.Model.Client
/-!
# Steps stamped on predicts and history rows

A route that keeps history holds each episode to consecutive steps
(`FrameBuffers::advance_step`): the producer stamps every request and every history
row with its step. `logged` keeps, beside the server's state, the stamps that
reached the model.

`ModelClient` counts a step before it encodes the observation and takes its buffered
rows before it sends them. A predict that fails in between leaves a gap, unless
nothing of its episode was stamped yet.
-/
open Rlmesh.Wire Rlmesh.Lib Rlmesh.Lib.Fallible Rlmesh.Adapters

set_option linter.unusedSectionVars false

namespace Rlmesh.Model

/-! ## Consecutive steps -/

/-- Steps one after the other, each once. -/
def Steady (steps : List Nat) : Prop := ∃ first count, steps = List.range' first count

/-- Steady steps, the last of them right before `next`. -/
def UpTo (next : Nat) (steps : List Nat) : Prop :=
  steps = [] ∨ ∃ first count, steps = List.range' first count ∧ first + count = next

variable {next : Nat} {steps : List Nat}

theorem UpTo.steady (h : UpTo next steps) : Steady steps := by
  rcases h with rfl | ⟨first, count, rfl, -⟩
  · exact ⟨0, 0, rfl⟩
  · exact ⟨first, count, rfl⟩

theorem UpTo.snoc (h : UpTo next steps) : UpTo (next + 1) (steps ++ [next]) := by
  right
  rcases h with rfl | ⟨first, count, rfl, rfl⟩
  · exact ⟨next, 1, rfl, rfl⟩
  · exact ⟨first, count + 1, by rw [List.range'_concat, Nat.one_mul], by omega⟩

theorem UpTo.notMem (h : UpTo next steps) : next ∉ steps := by
  rcases h with rfl | ⟨first, count, rfl, rfl⟩
  · exact List.not_mem_nil
  · rw [List.mem_range'_1]
    omega

/-- The model's own check, over the steps of one episode. -/
def advanceAll {V : Values} (id : String) : List Nat → EpisodeWindows V → Except ApplyError (EpisodeWindows V)
  | [], episode => .ok episode
  | step :: rest, episode =>
    match episode.advanceStep id step with
    | (.ok (), episode) => advanceAll id rest episode
    | (.error error, _) => .error error

theorem Steady.advances {V : Values} (h : Steady steps) (id : String) :
    ∃ episode : EpisodeWindows V, advanceAll id steps {} = .ok episode := by
  obtain ⟨first, count, rfl⟩ := h
  have hgo : ∀ (count first : Nat) (episode : EpisodeWindows V),
      (∀ last, episode.lastStep = some last → last + 1 = first) →
      ∃ episode', advanceAll id (List.range' first count) episode = .ok episode' := by
    intro count
    induction count with
    | zero => exact fun first episode _ => ⟨episode, rfl⟩
    | succ count ih =>
      intro first episode hlast
      have hstep : episode.advanceStep id first = (.ok (), { episode with lastStep := some (first : Int) }) := by
        unfold EpisodeWindows.advanceStep
        cases hcase : episode.lastStep with
        | none => rfl
        | some last =>
          dsimp only
          rw [if_neg (not_not.2 (hlast last hcase).symm)]
      rw [List.range'_succ, advanceAll, hstep]
      exact ih (first + 1) _ (by rintro last ⟨⟩; push_cast; rfl)
  exact hgo count first {} nofun

/-! ## Stamps -/

section

variable {ω ε Id Obs Raw Act : Type} [Inhabited Id] [DecidableEq Id]

/-- The stamps of a request: its history rows, then its own step. -/
def stamps (request : ModelObservation Id Obs) : List (Id × Nat) :=
  request.history.map (fun frame => (frame.episode.episodeId, frame.step)) ++
    request.step.toList.map (fun step => (request.episode.episodeId, step))

theorem stamps_own {request : ModelObservation Id Obs}
    (h : ∀ frame ∈ request.history, frame.episode.episodeId = request.episode.episodeId) :
    ∀ stamp ∈ stamps request, stamp.1 = request.episode.episodeId := by
  intro stamp hstamp
  rcases List.mem_append.1 hstamp with hstamp | hstamp
  · obtain ⟨frame, hframe, rfl⟩ := List.mem_map.1 hstamp
    exact h frame hframe
  · obtain ⟨step, -, rfl⟩ := List.mem_map.1 hstamp
    rfl

theorem map_snd_stamps (request : ModelObservation Id Obs) :
    (stamps request).map Prod.snd = request.history.map (·.step) ++ request.step.toList := by
  rw [stamps, List.map_append, List.map_map, List.map_map]
  congr 1
  exact List.map_id _

/-- The steps of one episode, in the order they reached the model. -/
def stepsOf (id : Id) (log : List (Id × Nat)) : List Nat := (log.filter (fun stamp => stamp.1 = id)).map Prod.snd

theorem stepsOf_append (id : Id) (log log' : List (Id × Nat)) :
    stepsOf id (log ++ log') = stepsOf id log ++ stepsOf id log' := by
  rw [stepsOf, List.filter_append, List.map_append]
  rfl

variable {id : Id} {log : List (Id × Nat)}

theorem stepsOf_own (h : ∀ stamp ∈ log, stamp.1 = id) : stepsOf id log = log.map Prod.snd := by
  rw [stepsOf, List.filter_eq_self.2 (fun stamp hstamp => decide_eq_true (h stamp hstamp))]

theorem stepsOf_other (h : ∀ stamp ∈ log, stamp.1 ≠ id) : stepsOf id log = [] := by
  rw [stepsOf, List.filter_eq_nil_iff.2 (fun stamp hstamp => by simpa using h stamp hstamp)]
  rfl

/-- The model never refuses a step of the log as a gap or a repeat: each episode's are consecutive, each once,
and so pass its check. -/
def InSequence (log : List (Id × Nat)) : Prop :=
  ∀ id, Steady (stepsOf id log) ∧
    ∀ (V : Values) (name : String), ∃ episode : EpisodeWindows V, advanceAll name (stepsOf id log) {} = .ok episode

theorem inSequence_of_steady (h : ∀ id, Steady (stepsOf id log)) : InSequence log :=
  fun id => ⟨h id, fun _ name => (h id).advances name⟩

/-- Only drawn ids are in the log. -/
def Drawn (ids : Minter Id) (minted : Nat) (log : List (Id × Nat)) : Prop :=
  ∀ stamp ∈ log, ∃ n < minted, stamp.1 = ids.id n

theorem Drawn.mono {ids : Minter Id} {minted minted' : Nat} (h : Drawn ids minted log) (hle : minted ≤ minted') :
    Drawn ids minted' log := by
  intro stamp hstamp
  obtain ⟨n, hn, heq⟩ := h stamp hstamp
  exact ⟨n, Nat.lt_of_lt_of_le hn hle, heq⟩

theorem Drawn.fresh {ids : Minter Id} {minted : Nat} (h : Drawn ids minted log) :
    stepsOf (ids.id minted) log = [] := by
  refine stepsOf_other (fun stamp hstamp heq => ?_)
  obtain ⟨n, hn, hid⟩ := h stamp hstamp
  exact absurd (ids.injective (hid.symm.trans heq)) (Nat.ne_of_lt hn)

/-- A request of one episode reaches the model: its stamps extend that episode's steps and no other's. -/
theorem steady_append {new : List (Id × Nat)} (h : ∀ id, Steady (stepsOf id log)) (hown : ∀ stamp ∈ new, stamp.1 = id)
    (hnew : Steady (stepsOf id log ++ new.map Prod.snd)) (other : Id) : Steady (stepsOf other (log ++ new)) := by
  rw [stepsOf_append]
  by_cases hsame : other = id
  · rw [hsame, stepsOf_own hown]
    exact hnew
  · rw [stepsOf_other (fun stamp hstamp heq => hsame (heq.symm.trans (hown stamp hstamp))), List.append_nil]
    exact h other

/-! ## The client -/

/-- The served model, with a log of the stamps that reach it. -/
def Served.logged (S : Served ω ε Id Obs Raw Act) : Served (ω × List (Id × Nat)) ε Id Obs Raw Act where
  resolveAdapter world := ((S.resolveAdapter world.1).1, (S.resolveAdapter world.1).2, world.2)
  resetAdapter ended world := ((S.resetAdapter ended world.1).1, (S.resetAdapter ended world.1).2, world.2)
  predict request world := ((S.predict request world.1).1, (S.predict request world.1).2,
    if (S.predict request world.1).1.reached then world.2 ++ stamps request else world.2)
  releaseAdapter world := ((S.releaseAdapter world.1).1, (S.releaseAdapter world.1).2, world.2)
  encode := S.encode
  decode := S.decode
  notReset := S.notReset
  noActions := S.noActions

namespace ModelClient

/-- The steps of an episode that are in the log or buffered for the next request. -/
def stamped (s : ModelClient (ω × List (Id × Nat)) Id Obs Act) (id : Id) : List Nat :=
  stepsOf id s.world.2 ++ s.history.map (·.step)

/-- Nothing of the current episode has been stamped. -/
def Unstamped (s : ModelClient (ω × List (Id × Nat)) Id Obs Act) : Prop :=
  ∀ id, s.episodeId = some id → s.stamped id = []

/-- The request a refill sends. -/
def request (s : ModelClient (ω × List (Id × Nat)) Id Obs Act) (id : Id) (observation : Obs) : ModelObservation Id Obs :=
  { observation, episode := { episodeId := id, seed := s.seed }, history := s.history
    step := if s.historyOn then some s.step else none }

/-- The predict does not fail between counting its step and reaching the model, or nothing can get lost by it. -/
def Lossless (S : Served ω ε Id Obs Raw Act) (s : ModelClient (ω × List (Id × Nat)) Id Obs Act) (observation : Obs) :
    Prop :=
  ∀ t id, exec (do configure S.logged; flushPendingEnd S.logged) s = (.ok (), t) → s.episodeId = some id →
    t.Unstamped ∨ (S.encode observation = .ok () ∧
      (t.replayBuffer = [] → (S.predict (t.request id observation) t.world.1).1.reached = true))

end ModelClient

/-- The condition on a client's calls. -/
def ClientLossless (S : Served ω ε Id Obs Raw Act) (s : ModelClient (ω × List (Id × Nat)) Id Obs Act) :
    ClientCall Obs → Prop
  | .predict observation => s.Lossless S observation
  | _ => True

/-- What a client keeps of its stamps. -/
structure ClientStamps (ids : Minter Id) (s : ModelClient (ω × List (Id × Nat)) Id Obs Act) : Prop where
  steady : ∀ id, Steady (stepsOf id s.world.2)
  drawn : Drawn ids s.minted s.world.2
  own : ∀ id, s.episodeId = some id → ∃ n < s.minted, id = ids.id n
  rows : ∀ id, s.episodeId = some id → ∀ frame ∈ s.history, frame.episode.episodeId = id
  running : ∀ id, s.episodeId = some id → UpTo s.step (s.stamped id)
  silent : s.configured = false ∨ s.historyOn = false → s.Unstamped

/-- Nothing that bears on the stamps has changed. -/
structure SameStamps (s s' : ModelClient (ω × List (Id × Nat)) Id Obs Act) : Prop where
  log : s'.world.2 = s.world.2
  minted : s'.minted = s.minted
  episodeId : s'.episodeId = s.episodeId
  history : s'.history = s.history
  step : s'.step = s.step
  configured : s'.configured = s.configured
  historyOn : s'.historyOn = s.historyOn

variable {ids : Minter Id} {s s' : ModelClient (ω × List (Id × Nat)) Id Obs Act} {S : Served ω ε Id Obs Raw Act}

theorem ClientStamps.congr (h : ClientStamps ids s) (hsame : SameStamps s s') : ClientStamps ids s' := by
  obtain ⟨log, minted, episodeId, history, step, configured, historyOn⟩ := hsame
  have hstamped : ∀ id, s'.stamped id = s.stamped id := fun id => by
    rw [ModelClient.stamped, log, history, ModelClient.stamped]
  constructor
  · rw [log]
    exact h.steady
  · rw [log, minted]
    exact h.drawn
  · rw [episodeId, minted]
    exact h.own
  · rw [episodeId, history]
    exact h.rows
  · intro id hid
    rw [step, hstamped]
    exact h.running id (episodeId ▸ hid)
  · intro hoff id hid
    rw [hstamped]
    exact h.silent (by rwa [configured, historyOn] at hoff) id (episodeId ▸ hid)

/-- A step that stamps nothing goes by; the rows buffered so far are gone. -/
theorem ClientStamps.lost (h : ClientStamps ids s) (hnone : s.Unstamped) {t : ModelClient (ω × List (Id × Nat)) Id Obs Act}
    (hlog : t.world.2 = s.world.2) (hminted : t.minted = s.minted) (hid : t.episodeId = s.episodeId)
    (hrows : t.history = s.history ∨ t.history = []) : ClientStamps ids t := by
  have hunstamped : t.Unstamped := by
    intro id htid
    obtain ⟨hsteps, hhistory⟩ := List.append_eq_nil_iff.1 (hnone id (hid ▸ htid))
    rw [ModelClient.stamped, hlog, hsteps]
    rcases hrows with hrows | hrows
    · rw [hrows, hhistory]
      rfl
    · rw [hrows]
      rfl
  refine ⟨hlog ▸ h.steady, by rw [hlog, hminted]; exact h.drawn, by rw [hid, hminted]; exact h.own, ?_,
    fun id htid => .inl (hunstamped id htid), fun _ => hunstamped⟩
  intro id htid frame hframe
  rcases hrows with hrows | hrows
  · exact h.rows id (hid ▸ htid) frame (hrows ▸ hframe)
  · rw [hrows] at hframe
    cases hframe

theorem ClientStamps.noted (h : ClientStamps ids s) {id : Id} (hid : s.episodeId = some id) (hon : s.historyOn = true)
    (hconfigured : s.configured = true) {frame : HistoryFrame Id Obs} (hframe : frame.episode.episodeId = id)
    (hstep : frame.step = s.step) :
    ClientStamps ids { s with step := s.step + 1, history := s.history ++ [frame] } := by
  have hother : ∀ other, s.episodeId = some other → other = id := fun other heq => by
    rw [hid] at heq
    exact (Option.some.inj heq).symm
  refine ⟨h.steady, h.drawn, h.own, ?_, ?_, ?_⟩
  · intro other heq row hrow
    rcases List.mem_append.1 hrow with hrow | hrow
    · exact h.rows other heq row hrow
    · rw [List.mem_singleton.1 hrow, hframe, hother other heq]
  · intro other heq
    have hrun := (h.running other heq).snoc
    rw [ModelClient.stamped, List.map_append, ← List.append_assoc, List.map_singleton, hstep]
    exact hrun
  · rintro (hoff | hoff)
    · rw [show s.configured = false from hoff] at hconfigured
      cases hconfigured
    · rw [show s.historyOn = false from hoff] at hon
      cases hon

/-- A stamped request reaches the model, with the rows buffered for it. -/
theorem ClientStamps.sent (h : ClientStamps ids s) {id : Id} (hid : s.episodeId = some id) (hon : s.historyOn = true)
    (hconfigured : s.configured = true) (observation : Obs) {t : ModelClient (ω × List (Id × Nat)) Id Obs Act}
    (hlog : t.world.2 = s.world.2 ++ stamps (s.request id observation)) (hminted : t.minted = s.minted)
    (htid : t.episodeId = s.episodeId) (hrows : t.history = []) (hstep : t.step = s.step + 1)
    (htconfigured : t.configured = s.configured) (hton : t.historyOn = s.historyOn) : ClientStamps ids t := by
  have hown : ∀ stamp ∈ stamps (s.request id observation), stamp.1 = id := stamps_own (h.rows id hid)
  have hsteps : stepsOf id s.world.2 ++ (stamps (s.request id observation)).map Prod.snd = s.stamped id ++ [s.step] := by
    rw [map_snd_stamps, ← List.append_assoc, ModelClient.request, if_pos hon]
    rfl
  have hnew : UpTo (s.step + 1) (s.stamped id ++ [s.step]) := (h.running id hid).snoc
  have hother : ∀ other, t.episodeId = some other → other = id := fun other heq => by
    rw [htid, hid] at heq
    exact (Option.some.inj heq).symm
  refine ⟨?_, ?_, by rw [htid, hminted]; exact h.own, ?_, ?_, ?_⟩
  · rw [hlog]
    exact steady_append h.steady hown (by rw [hsteps]; exact hnew.steady)
  · rw [hlog, hminted]
    intro stamp hstamp
    rcases List.mem_append.1 hstamp with hstamp | hstamp
    · exact h.drawn stamp hstamp
    · rw [hown stamp hstamp]
      exact h.own id hid
  · intro other _ frame hframe
    rw [hrows] at hframe
    cases hframe
  · intro other heq
    rw [hother other heq, hstep, ModelClient.stamped, hrows, List.map_nil, List.append_nil, hlog, stepsOf_append,
      stepsOf_own hown, hsteps]
    exact hnew
  · rw [htconfigured, hton, hconfigured, hon]
    rintro (hoff | hoff) <;> cases hoff

namespace ModelClient

/-- A condition that only the stamps bear on. -/
def OfStamps (I : ModelClient (ω × List (Id × Nat)) Id Obs Act → Prop) : Prop := ∀ s s', SameStamps s s' → I s → I s'

variable {I : ModelClient (ω × List (Id × Nat)) Id Obs Act → Prop}

/-- The stamps of an episode, on a route that is set up or not. -/
def StampsAt (ids : Minter Id) (id : Id) (s : ModelClient (ω × List (Id × Nat)) Id Obs Act) : Prop :=
  ClientStamps ids s ∧ s.episodeId = some id

theorem ofStamps_at (id : Id) : OfStamps (StampsAt ids id : ModelClient (ω × List (Id × Nat)) Id Obs Act → Prop) :=
  fun _ _ hsame h => ⟨h.1.congr hsame, hsame.episodeId.trans h.2⟩

theorem ofStamps_configured (id : Id) : OfStamps fun s : ModelClient (ω × List (Id × Nat)) Id Obs Act =>
    StampsAt ids id s ∧ s.configured = true :=
  fun s s' hsame h => ⟨ofStamps_at id s s' hsame h.1, hsame.configured.trans h.2⟩

theorem keeps_deliver_log (hI : OfStamps I) {α : Type} {marks : List (Mark Id)}
    (f : ω × List (Id × Nat) → Delivery ε α × (ω × List (Id × Nat))) (hf : ∀ world, (f world).2.2 = world.2) :
    Keeps I (deliver marks f) := by
  refine ensures_of_left (fun s hs => ?_)
  exact hI s _ ⟨hf s.world, rfl, rfl, rfl, rfl, rfl, rfl⟩ hs

theorem keeps_flush (hI : OfStamps I) : Keeps I (flushPendingEnd S.logged) := by
  refine ensures_get_bind (fun s hs => ?_)
  dsimp only
  split
  · exact ensures_pure _ (by rintro t rfl; exact hs)
  · refine ensures_bind (Q := fun _ => I) (ensures_modify _ ?_) (fun _ => keeps_deliver_log hI _ (fun _ => rfl))
    rintro t rfl
    exact hI t _ ⟨rfl, rfl, rfl, rfl, rfl, rfl, rfl⟩ hs

theorem ensures_configure_stamps (id : Id) :
    Ensures (StampsAt ids id) (configure S.logged) (fun _ s => StampsAt ids id s ∧ s.configured = true)
      (StampsAt ids id) := by
  refine ensures_get_bind (fun s hs => ?_)
  split
  · rename_i hconfigured
    exact ensures_pure _ (by rintro t rfl; exact ⟨hs, hconfigured⟩)
  · rename_i hnot
    have hoff : s.configured = false := by simpa using hnot
    have hask : Ensures (· = s) (ask S.logged.resolveAdapter : Fallible _ ε Bool)
        (fun _ t => StampsAt ids id t ∧ t.configured = false) (StampsAt ids id) := by
      rintro t rfl
      have hsame : SameStamps t (exec (ask S.logged.resolveAdapter : Fallible _ ε Bool) t).2 :=
        ⟨rfl, rfl, rfl, rfl, rfl, rfl, rfl⟩
      have hkept := ofStamps_at id t _ hsame hs
      split
      · rename_i hrun
        rw [hrun] at hkept hsame
        exact ⟨hkept, hsame.configured.trans hoff⟩
      · rename_i hrun
        rwa [hrun] at hkept
    refine ensures_bind hask (fun historyOn => ensures_modify _ (fun t ht => ⟨⟨?_, ht.1.2⟩, rfl⟩))
    exact ⟨ht.1.1.steady, ht.1.1.drawn, ht.1.1.own, ht.1.1.rows, ht.1.1.running, fun _ => ht.1.1.silent (.inl ht.2)⟩

theorem keeps_pushFrames_stamps (hI : OfStamps I) (frames : List Raw) : Keeps I (pushFrames S.logged frames) := by
  induction frames with
  | nil => exact keeps_pure _
  | cons frame frames ih =>
    refine keeps_bind (keeps_lift _) (fun action => keeps_bind (ensures_modify _ (fun s hs => ?_)) (fun _ => ih))
    exact hI s _ ⟨rfl, rfl, rfl, rfl, rfl, rfl, rfl⟩ hs

theorem keeps_popFrame_stamps (hI : OfStamps I) : Keeps I (popFrame S.logged) := by
  refine ensures_get_bind (fun s hs => ?_)
  split
  · exact ensures_throw _ (fun _ heq => heq ▸ hs)
  · refine ensures_bind (Q := fun _ => I) (ensures_modify _ ?_) (fun _ => keeps_pure _)
    rintro t rfl
    exact hI t _ ⟨rfl, rfl, rfl, rfl, rfl, rfl, rfl⟩ hs

variable {observation : Obs}

theorem refill_stamps {id : Id} (h : ClientStamps ids s) (hid : s.episodeId = some id)
    (hconfigured : s.configured = true)
    (hlossless : s.Unstamped ∨ (S.encode observation = .ok () ∧ (S.predict (s.request id observation) s.world.1).1.reached = true)) :
    StampsAt ids id (exec (refill S.logged { episodeId := id, seed := s.seed } observation s.step)
      { s with step := s.step + 1 }).2 := by
  unfold refill
  rw [exec_bind, exec_lift, show S.logged.encode observation = S.encode observation from rfl]
  cases hencode : S.encode observation with
  | error e =>
    rcases hlossless with hnone | ⟨hok, -⟩
    · exact ⟨h.lost hnone rfl rfl rfl (.inl rfl), hid⟩
    · rw [hencode] at hok
      cases hok
  | ok _ =>
    dsimp only
    rw [exec_bind, exec_get]
    dsimp only
    rw [exec_bind, exec_modify]
    dsimp only
    refine exec_bind_keeps ?_ (fun frames => ?_)
    · refine ⟨?_, hid⟩
      simp only [deliver, exec_ofFun, Served.logged]
      -- the request is the one the condition speaks of
      change ClientStamps ids { s with
        world := ((S.predict (s.request id observation) s.world.1).2,
          if (S.predict (s.request id observation) s.world.1).1.reached then
            s.world.2 ++ stamps (s.request id observation) else s.world.2)
        step := s.step + 1
        history := []
        marks := if (S.predict (s.request id observation) s.world.1).1.reached then s.marks ++ [.used id] else s.marks }
      cases hreached : (S.predict (s.request id observation) s.world.1).1.reached with
      | false =>
        rcases hlossless with hnone | ⟨-, hsent⟩
        · exact h.lost hnone rfl rfl rfl (.inr rfl)
        · rw [hreached] at hsent
          cases hsent
      | true =>
        cases hon : s.historyOn with
        | true => exact h.sent hid hon hconfigured observation rfl rfl rfl rfl rfl rfl hon.symm
        | false =>
          -- without history nothing is stamped
          have hnone := h.silent (.inr hon)
          have hempty : stamps (s.request id observation) = [] := by
            have hrows := (List.append_eq_nil_iff.1 (hnone id hid)).2
            rw [stamps, request, hon, List.map_eq_nil_iff.1 hrows]
            rfl
          refine h.lost hnone ?_ rfl rfl (.inr rfl)
          rw [hempty, List.append_nil, if_pos rfl]
    · split
      · exact keeps_throw _
      · exact keeps_pushFrames_stamps (ofStamps_at id) frames

theorem recordHistory_stamps {id : Id} (h : ClientStamps ids s) (hid : s.episodeId = some id)
    (hconfigured : s.configured = true) (hlossless : s.Unstamped ∨ S.encode observation = .ok ()) :
    StampsAt ids id (exec (recordHistory S.logged { episodeId := id, seed := s.seed } observation s.step)
      { s with step := s.step + 1 }).2 := by
  unfold recordHistory
  rw [exec_bind, exec_get]
  dsimp only
  split
  · rename_i hon
    rw [exec_bind, exec_lift, show S.logged.encode observation = S.encode observation from rfl]
    cases hencode : S.encode observation with
    | error e =>
      rcases hlossless with hnone | hok
      · exact ⟨h.lost hnone rfl rfl rfl (.inl rfl), hid⟩
      · rw [hencode] at hok
        cases hok
    | ok _ => exact ⟨h.noted hid hon hconfigured rfl rfl, hid⟩
  · rename_i hoff
    exact ⟨h.lost (h.silent (.inr (by simpa using hoff))) rfl rfl rfl (.inl rfl), hid⟩

theorem predict_stamps (h : ClientStamps ids s) (hlossless : s.Lossless S observation) :
    ClientStamps ids (exec (predict S.logged observation) s).2 := by
  unfold predict
  rw [exec_bind, exec_get]
  dsimp only
  cases hid : s.episodeId with
  | none => exact h
  | some id =>
    dsimp only
    have hconfigure := (ensures_configure_stamps id : Ensures _ (configure S.logged) _ _) s ⟨h, hid⟩
    rw [exec_bind]
    rcases hrun : exec (configure S.logged) s with ⟨e | _, s₁⟩
    · rw [hrun] at hconfigure
      exact hconfigure.1
    rw [hrun] at hconfigure
    dsimp only at hconfigure ⊢
    have hflush := (keeps_flush (ofStamps_configured id) : Keeps _ (flushPendingEnd S.logged)).exec hconfigure
    rw [exec_bind]
    rcases hrun' : exec (flushPendingEnd S.logged) s₁ with ⟨e | _, t⟩
    · rw [hrun'] at hflush
      exact hflush.1.1
    rw [hrun'] at hflush
    obtain ⟨⟨hstamps, htid⟩, hconfigured⟩ := hflush
    have hcase := hlossless t id (by rw [exec_bind, hrun]; exact hrun') hid
    dsimp only
    rw [exec_bind, exec_get]
    dsimp only
    rw [exec_bind, exec_modify]
    dsimp only
    have hpop : ∀ _ : Unit, Keeps (StampsAt ids id) (popFrame S.logged) := fun _ => keeps_popFrame_stamps (ofStamps_at id)
    split
    · rename_i hempty
      refine (exec_bind_keeps (refill_stamps hstamps htid hconfigured ?_) hpop).1
      exact hcase.imp_right (fun hok => ⟨hok.1, hok.2 (List.isEmpty_iff.1 hempty)⟩)
    · exact (exec_bind_keeps (recordHistory_stamps hstamps htid hconfigured (hcase.imp_right And.left)) hpop).1

theorem close_stamps (h : ClientStamps ids s) : ClientStamps ids (exec (close S.logged) s).2 := by
  have hI : OfStamps (fun t : ModelClient (ω × List (Id × Nat)) Id Obs Act => ClientStamps ids t) :=
    fun _ _ hsame ht => ht.congr hsame
  refine Keeps.exec (I := ClientStamps ids) ?_ h
  refine ensures_get_bind (fun t ht => ?_)
  split
  · refine ensures_bind (Q := fun _ => ClientStamps ids) (ensures_modify _ ?_) (fun _ => ?_)
    · rintro u rfl
      exact ⟨ht.steady, ht.drawn, nofun, nofun, nofun, fun _ => nofun⟩
    · refine keeps_bind (keeps_flush hI) (fun _ => ensures_of_left (fun u hu => ?_))
      exact hu.congr ⟨rfl, rfl, rfl, rfl, rfl, rfl, rfl⟩
  · exact ensures_pure _ (by rintro u rfl; exact ht)

end ModelClient

theorem ClientStamps.reset (h : ClientStamps ids s) (seed : Option Int) : ClientStamps ids (s.reset ids seed) := by
  have hnone : (s.reset ids seed).Unstamped := by
    rintro id ⟨⟩
    exact List.append_eq_nil_iff.2 ⟨h.drawn.fresh, rfl⟩
  refine ⟨h.steady, h.drawn.mono (Nat.le_succ _), ?_, fun _ _ _ => nofun, fun id hid => .inl (hnone id hid), fun _ => hnone⟩
  rintro id ⟨⟩
  exact ⟨s.minted, Nat.lt_succ_self _, rfl⟩

theorem clientStamps_connect {world : ω} : ClientStamps ids (.connect Id Obs Act (world, [])) := by
  refine ⟨fun _ => ⟨0, 0, rfl⟩, nofun, nofun, nofun, nofun, fun _ => nofun⟩

theorem reach_clientStamps {world : ω}
    (h : (clientCalls S.logged ids (world, [])).Reach (ClientLossless S) s) : ClientStamps ids s := by
  refine h.inv (ClientStamps ids) clientStamps_connect (fun s call s' hs hc hstep => ?_)
  cases call with
  | reset seed =>
    obtain rfl := Option.some.inj hstep
    exact hs.reset seed
  | predict observation =>
    obtain rfl := Option.some.inj hstep
    exact ModelClient.predict_stamps hs hc
  | close =>
    obtain rfl := Option.some.inj hstep
    exact ModelClient.close_stamps hs

end

end Rlmesh.Model
