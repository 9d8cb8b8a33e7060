import Rlmesh.Lib.Fallible
import Rlmesh.Lib.Lifecycle
import Rlmesh.Lib.Runs
import Rlmesh.Wire.Messages
/-!
# The client of a served model (`ModelClient`)

A reset leaves the end of the episode it replaces to be flushed by the next
predict or by close. What the server does with each request is a `Served`: a state
and the answers, which may be failures; an end or a predict whose request failed
may or may not have reached the model.

`marks` is bookkeeping of the model: the predicts and the episode ends that
reached the served model, in order.
-/
open Rlmesh.Wire Rlmesh.Lib Rlmesh.Lib.Fallible

set_option linter.unusedSectionVars false

namespace Rlmesh.Model

/-- The episode a predict or a history frame belongs to. -/
structure EpisodeRow (Id : Type) where
  episodeId : Id
  seed : Option Int
  deriving DecidableEq

structure HistoryFrame (Id Obs : Type) where
  observation : Obs
  episode : EpisodeRow Id
  step : Nat

structure ModelObservation (Id Obs : Type) where
  observation : Obs
  episode : EpisodeRow Id
  history : List (HistoryFrame Id Obs)
  step : Option Nat

/-- The answer to a request, and whether the request reached the model. -/
structure Delivery (ε α : Type) where
  reached : Bool
  result : Except ε α

structure Served (ω ε Id Obs Raw Act : Type) where
  /-- Whether the route wants history. -/
  resolveAdapter : ω → Except ε Bool × ω
  resetAdapter : List Id → ω → Delivery ε Unit × ω
  predict : ModelObservation Id Obs → ω → Delivery ε (List Raw) × ω
  releaseAdapter : ω → Except ε Unit × ω
  encode : Obs → Except ε Unit
  decode : Raw → Except ε Act
  notReset : ε
  noActions : ε

structure ModelClient (ω Id Obs Act : Type) where
  world : ω
  configured : Bool
  historyOn : Bool
  episodeId : Option Id
  seed : Option Int
  replayBuffer : List Act
  history : List (HistoryFrame Id Obs)
  step : Nat
  pendingEnd : List Id
  minted : Nat
  marks : List (Mark Id)

def ModelClient.connect {ω : Type} (Id Obs Act : Type) (world : ω) : ModelClient ω Id Obs Act where
  world := world
  configured := false
  historyOn := false
  episodeId := none
  seed := none
  replayBuffer := []
  history := []
  step := 0
  pendingEnd := []
  minted := 0
  marks := []

namespace ModelClient

variable {ω ε Id Obs Raw Act : Type} [Inhabited Id]

def ask {α : Type} (f : ω → Except ε α × ω) : Fallible (ModelClient ω Id Obs Act) ε α :=
  zoom ModelClient.world (fun s world => { s with world }) f

/-- Send a request that puts down its marks if it reaches the model. -/
def deliver {α : Type} (marks : List (Mark Id)) (f : ω → Delivery ε α × ω) : Fallible (ModelClient ω Id Obs Act) ε α :=
  ofFun fun s =>
    let (delivery, world) := f s.world
    (delivery.result, { s with world, marks := if delivery.reached then s.marks ++ marks else s.marks })

/-- Begin an episode; the one it replaces has ended. -/
def reset (ids : Minter Id) (seed : Option Int) (s : ModelClient ω Id Obs Act) : ModelClient ω Id Obs Act :=
  { s with
    pendingEnd := s.pendingEnd ++ s.episodeId.toList, episodeId := some (ids.id s.minted), minted := s.minted + 1
    seed, replayBuffer := [], history := [] }

variable (S : Served ω ε Id Obs Raw Act)

/-- The stashed ends go out; they are taken off the list before the request is sent. -/
def flushPendingEnd : Fallible (ModelClient ω Id Obs Act) ε Unit := do
  let ended := (← get).pendingEnd
  if ended.isEmpty then return ()
  else
    modify fun s => { s with pendingEnd := [] }
    deliver (ended.map .ended) (S.resetAdapter ended)

def configure : Fallible (ModelClient ω Id Obs Act) ε Unit := do
  if (← get).configured then return ()
  else
    let historyOn ← ask S.resolveAdapter
    modify fun s => { s with configured := true, historyOn }

def pushFrames : List Raw → Fallible (ModelClient ω Id Obs Act) ε Unit
  | [] => return ()
  | frame :: frames => do
    let action ← ExceptT.mk (pure (S.decode frame))
    modify fun s => { s with replayBuffer := s.replayBuffer ++ [action] }
    pushFrames frames

/-- The replay buffer is filled by a predict of the served model. -/
def refill (row : EpisodeRow Id) (observation : Obs) (step : Nat) : Fallible (ModelClient ω Id Obs Act) ε Unit := do
  ExceptT.mk (pure (S.encode observation))
  let s ← get
  modify fun s => { s with history := [] }
  let frames ← deliver [.used row.episodeId] (S.predict {
    observation, episode := row, history := s.history, step := if s.historyOn then some step else none })
  if frames.isEmpty then throw S.noActions
  else pushFrames S frames

/-- A step that replays a frame; the served windows still see its observation. -/
def recordHistory (row : EpisodeRow Id) (observation : Obs) (step : Nat) :
    Fallible (ModelClient ω Id Obs Act) ε Unit := do
  if (← get).historyOn then
    ExceptT.mk (pure (S.encode observation))
    modify fun s => { s with history := s.history ++ [{ observation, episode := row, step }] }
  else return ()

/-- A frame of the buffer; a refill that succeeded has left one. -/
def popFrame : Fallible (ModelClient ω Id Obs Act) ε Act := do
  match (← get).replayBuffer with
  | [] => throw S.noActions
  | action :: rest =>
    modify fun s => { s with replayBuffer := rest }
    return action

def predict (observation : Obs) : Fallible (ModelClient ω Id Obs Act) ε Act := do
  match (← get).episodeId with
  | none => throw S.notReset
  | some episodeId =>
    configure S
    flushPendingEnd S
    let s ← get
    let row : EpisodeRow Id := { episodeId, seed := s.seed }
    modify fun s => { s with step := s.step + 1 }
    if s.replayBuffer.isEmpty then refill S row observation s.step else recordHistory S row observation s.step
    popFrame S

/-- `close_route`: the last episode ends before the route goes away. -/
def close : Fallible (ModelClient ω Id Obs Act) ε Unit := do
  if (← get).configured then
    modify fun s => { s with
      configured := false, pendingEnd := s.pendingEnd ++ s.episodeId.toList, episodeId := none }
    flushPendingEnd S
    ask S.releaseAdapter
  else return ()

end ModelClient

/-- The calls on a served model's client. -/
inductive ClientCall (Obs : Type) where
  | reset (seed : Option Int)
  | predict (observation : Obs)
  | close

section

variable {ω ε Id Obs Raw Act : Type} [Inhabited Id]

/-- Every run of a client's calls, each leaving the state it had reached. -/
def clientCalls (S : Served ω ε Id Obs Raw Act) (ids : Minter Id) (world : ω) :
    System (ModelClient ω Id Obs Act) (ClientCall Obs) where
  init := .connect Id Obs Act world
  step s
    | .reset seed => some (s.reset ids seed)
    | .predict observation => some (exec (ModelClient.predict S observation) s).2
    | .close => some (exec (ModelClient.close S) s).2

/-! ## The episodes the served model sees -/

/-- The ids whose end is still to be sent: the stashed ones and the current episode's. -/
def ModelClient.due (s : ModelClient ω Id Obs Act) : List Id :=
  s.pendingEnd ++ s.episodeId.toList

/-- Every id is used and then ended once, the due ones still to come. -/
structure Dues (ids : Minter Id) (s : ModelClient ω Id Obs Act) : Prop where
  orderly : Orderly s.marks
  drawn : ∀ mark ∈ s.marks, ∃ n < s.minted, mark.id = ids.id n
  due : ∀ id ∈ s.due, ∃ n < s.minted, id = ids.id n
  distinct : s.due.Nodup
  unended : ∀ id ∈ s.due, .ended id ∉ s.marks
  used : ∀ id, .used id ∈ s.marks → .ended id ∈ s.marks ∨ id ∈ s.due

/-- Without a route nothing is left to end. -/
def Cleared (s : ModelClient ω Id Obs Act) : Prop :=
  s.configured = false → Complete s.marks

/-- Neither the marks nor the dues have changed. -/
structure SameDues (s s' : ModelClient ω Id Obs Act) : Prop where
  marks : s'.marks = s.marks
  minted : s'.minted = s.minted
  pendingEnd : s'.pendingEnd = s.pendingEnd
  episodeId : s'.episodeId = s.episodeId
  configured : s'.configured = s.configured

/-- A condition on nothing else. -/
def OfDues (I : ModelClient ω Id Obs Act → Prop) : Prop :=
  ∀ s s', SameDues s s' → I s → I s'

variable {ids : Minter Id} {s s' : ModelClient ω Id Obs Act} {I : ModelClient ω Id Obs Act → Prop}

theorem Dues.congr (h : Dues ids s) (hmarks : s'.marks = s.marks) (hminted : s'.minted = s.minted)
    (hdue : s'.due = s.due) : Dues ids s' := by
  obtain ⟨orderly, drawn, due, distinct, unended, used⟩ := h
  constructor
  · rwa [hmarks]
  · rwa [hmarks, hminted]
  · rwa [hdue, hminted]
  · rwa [hdue]
  · rwa [hdue, hmarks]
  · rwa [hdue, hmarks]

theorem dues_ofDues : OfDues (Dues ids : ModelClient ω Id Obs Act → Prop) :=
  fun s s' hsame h => h.congr hsame.marks hsame.minted (by rw [ModelClient.due, ModelClient.due, hsame.pendingEnd, hsame.episodeId])

theorem dues_connect {world : ω} : Dues ids (.connect Id Obs Act world) := by
  constructor <;> simp [ModelClient.connect, ModelClient.due, orderly_nil]

theorem Dues.fresh (h : Dues ids s) : (∀ mark : Mark Id, mark.id = ids.id s.minted → mark ∉ s.marks) ∧
    ids.id s.minted ∉ s.due := by
  constructor
  · intro mark hmark hin
    obtain ⟨n, hn, heq⟩ := h.drawn mark hin
    rw [hmark] at heq
    exact absurd (ids.injective heq) (Nat.ne_of_gt hn)
  · intro hin
    obtain ⟨n, hn, heq⟩ := h.due _ hin
    exact absurd (ids.injective heq) (Nat.ne_of_gt hn)

theorem Dues.reset (h : Dues ids s) (seed : Option Int) : Dues ids (s.reset ids seed) := by
  have hdue : (s.reset ids seed).due = s.due ++ [ids.id s.minted] := rfl
  constructor
  · exact h.orderly
  · intro mark hmark
    obtain ⟨n, hn, heq⟩ := h.drawn mark hmark
    exact ⟨n, Nat.lt_succ_of_lt hn, heq⟩
  · rw [hdue]
    intro id hid
    rcases List.mem_append.1 hid with hid | hid
    · obtain ⟨n, hn, heq⟩ := h.due id hid
      exact ⟨n, Nat.lt_succ_of_lt hn, heq⟩
    · exact ⟨s.minted, Nat.lt_succ_self _, by simpa using hid⟩
  · rw [hdue, List.nodup_append]
    refine ⟨h.distinct, List.nodup_singleton _, ?_⟩
    intro a ha b hb
    obtain rfl : b = ids.id s.minted := by simpa using hb
    rintro rfl
    exact h.fresh.2 ha
  · rw [hdue]
    intro id hid
    rcases List.mem_append.1 hid with hid | hid
    · exact h.unended id hid
    · obtain rfl : id = ids.id s.minted := by simpa using hid
      exact h.fresh.1 (.ended (ids.id s.minted)) rfl
  · rw [hdue]
    intro id hid
    exact (h.used id hid).imp_right (List.mem_append_left _)

theorem Dues.flushed (h : Dues ids s) {t : ModelClient ω Id Obs Act} (hmarks : t.marks = s.marks ++ s.pendingEnd.map .ended)
    (hminted : t.minted = s.minted) (hpending : t.pendingEnd = []) (hepisode : t.episodeId = s.episodeId) : Dues ids t := by
  have hdue : t.due = s.episodeId.toList := by rw [ModelClient.due, hpending, hepisode, List.nil_append]
  have hsplit : ∀ id, id ∈ s.due ↔ id ∈ s.pendingEnd ∨ id ∈ s.episodeId.toList := fun id => List.mem_append
  obtain ⟨hpendingNodup, hepisodeNodup, hdisjoint⟩ := List.nodup_append.1 h.distinct
  constructor
  · rw [hmarks]
    exact h.orderly.endAll hpendingNodup fun id hid => h.unended id ((hsplit id).2 (.inl hid))
  · rw [hmarks, hminted]
    intro mark hmark
    rcases List.mem_append.1 hmark with hmark | hmark
    · exact h.drawn mark hmark
    · obtain ⟨id, hid, rfl⟩ := List.mem_map.1 hmark
      exact h.due id ((hsplit id).2 (.inl hid))
  · rw [hdue, hminted]
    exact fun id hid => h.due id ((hsplit id).2 (.inr hid))
  · rwa [hdue]
  · rw [hdue, hmarks]
    intro id hid hended
    rcases List.mem_append.1 hended with hended | hended
    · exact h.unended id ((hsplit id).2 (.inr hid)) hended
    · obtain ⟨other, hother, heq⟩ := List.mem_map.1 hended
      cases heq
      exact hdisjoint id hother id hid rfl
  · rw [hdue, hmarks]
    intro id hid
    have hmem : .used id ∈ s.marks := by simpa using hid
    rcases h.used id hmem with hended | hin
    · exact .inl (List.mem_append_left _ hended)
    · rcases (hsplit id).1 hin with hin | hin
      · exact .inl (List.mem_append_right _ (List.mem_map.2 ⟨id, hin, rfl⟩))
      · exact .inr hin

theorem Dues.predicted (h : Dues ids s) {id : Id} (hid : s.episodeId = some id) {t : ModelClient ω Id Obs Act}
    (hmarks : t.marks = s.marks ++ [.used id]) (hminted : t.minted = s.minted) (hdue : t.due = s.due) : Dues ids t := by
  have hmem : id ∈ s.due := List.mem_append_right _ (by rw [hid]; exact List.mem_singleton_self id)
  constructor
  · rw [hmarks]
    exact h.orderly.snoc (h.unended id hmem)
  · rw [hmarks, hminted]
    intro mark hmark
    rcases List.mem_append.1 hmark with hmark | hmark
    · exact h.drawn mark hmark
    · obtain rfl : mark = .used id := by simpa using hmark
      exact h.due id hmem
  · rw [hdue, hminted]
    exact h.due
  · rw [hdue]
    exact h.distinct
  · rw [hdue, hmarks]
    simpa using h.unended
  · rw [hdue, hmarks]
    intro other hother
    rcases List.mem_append.1 hother with hother | hother
    · exact (h.used other hother).imp_left (List.mem_append_left _)
    · obtain rfl : other = id := by simpa using hother
      exact .inr hmem

theorem Dues.complete (h : Dues ids s) (hdue : s.due = []) : Complete s.marks := by
  intro id hid
  rcases h.used id hid with hended | hin
  · exact hended
  · rw [hdue] at hin
    cases hin

namespace ModelClient

variable (S : Served ω ε Id Obs Raw Act)

theorem keeps_ask (h : OfDues I) {α : Type} (f : ω → Except ε α × ω) : Keeps I (ask f) :=
  keeps_zoom f fun s _ hs => h s _ ⟨rfl, rfl, rfl, rfl, rfl⟩ hs

theorem keeps_modify (h : OfDues I) (f : ModelClient ω Id Obs Act → ModelClient ω Id Obs Act)
    (hf : ∀ s, SameDues s (f s)) : Keeps I (modify f : Fallible _ ε Unit) :=
  ensures_modify f fun s hs => h s _ (hf s) hs

theorem keeps_lift {α : Type} (r : Except ε α) : Keeps I (ExceptT.mk (pure r) : Fallible _ ε α) := by
  intro s hs
  cases r <;> exact hs

theorem keeps_deliver {α : Type} {marks : List (Mark Id)} (f : ω → Delivery ε α × ω)
    (hreached : ∀ s world, I s → I { s with world, marks := s.marks ++ marks })
    (hlost : ∀ s world, I s → I { s with world }) : Keeps I (deliver marks f) := by
  refine ensures_of_left fun s hs => ?_
  simp only [deliver, exec_ofFun]
  split
  · exact hreached s _ hs
  · exact hlost s _ hs

/-- Every due end is still to come, on a route and in an episode that are given. -/
def At (ids : Minter Id) (configured : Bool) (episodeId : Option Id) (s : ModelClient ω Id Obs Act) : Prop :=
  Dues ids s ∧ s.configured = configured ∧ s.episodeId = episodeId

theorem at_ofDues {configured : Bool} {episodeId : Option Id} :
    OfDues (At ids configured episodeId : ModelClient ω Id Obs Act → Prop) :=
  fun s s' hsame h => ⟨dues_ofDues s s' hsame h.1, hsame.configured.trans h.2.1, hsame.episodeId.trans h.2.2⟩

theorem ensures_flushPendingEnd (hreach : ∀ ended world, (S.resetAdapter ended world).1.reached = true)
    (configured : Bool) (episodeId : Option Id) :
    Ensures (At ids configured episodeId) (flushPendingEnd S)
      (fun _ s => At ids configured episodeId s ∧ s.pendingEnd = [])
      (fun s => At ids configured episodeId s ∧ s.pendingEnd = []) := by
  refine ensures_get_bind fun s hs => ?_
  dsimp only
  split
  · rename_i hempty
    refine ensures_pure _ ?_
    rintro t rfl
    exact ⟨hs, List.isEmpty_iff.1 hempty⟩
  · refine ensures_bind (Q := fun _ t => t = { s with pendingEnd := [] }) (ensures_modify _ ?_) fun _ => ?_
    · rintro t rfl
      rfl
    · refine ensures_of_left ?_
      rintro _ rfl
      simp only [deliver, exec_ofFun, hreach, if_true, and_true]
      exact ⟨hs.1.flushed rfl rfl rfl rfl, hs.2⟩

theorem ensures_configure (id : Id) :
    Ensures (fun s => (Dues ids s ∧ Cleared s) ∧ s.episodeId = some id) (configure S)
      (fun _ => At ids true (some id)) (fun s => Dues ids s ∧ Cleared s) := by
  have hsame : OfDues fun s : ModelClient ω Id Obs Act => (Dues ids s ∧ Cleared s) ∧ s.episodeId = some id := by
    rintro s s' hsame ⟨⟨hdues, hcleared⟩, hid⟩
    refine ⟨⟨dues_ofDues s s' hsame hdues, fun hconfigured => ?_⟩, hsame.episodeId.trans hid⟩
    rw [hsame.marks]
    exact hcleared (hsame.configured.symm.trans hconfigured)
  refine ensures_get_bind fun s hs => ?_
  split
  · rename_i hconfigured
    refine ensures_pure _ ?_
    rintro t rfl
    exact ⟨hs.1.1, hconfigured, hs.2⟩
  · refine ensures_bind (((keeps_ask hsame _).failing fun _ h => h.1).pre fun _ heq => heq ▸ hs) fun historyOn => ?_
    refine ensures_modify _ fun t ht => ?_
    exact ⟨ht.1.1.congr rfl rfl rfl, rfl, ht.2⟩

theorem keeps_pushFrames (h : OfDues I) (frames : List Raw) : Keeps I (pushFrames S frames) := by
  induction frames with
  | nil => exact ensures_pure _ fun _ => id
  | cons frame frames ih =>
    refine ensures_bind (keeps_lift _) fun action => ?_
    exact ensures_bind (keeps_modify h _ fun _ => ⟨rfl, rfl, rfl, rfl, rfl⟩) fun _ => ih

theorem keeps_refill (row : EpisodeRow Id) (observation : Obs) (step : Nat) :
    Keeps (At ids true (some row.episodeId)) (refill S row observation step) := by
  have hsame : OfDues (At ids true (some row.episodeId) : ModelClient ω Id Obs Act → Prop) := at_ofDues
  refine ensures_bind (keeps_lift _) fun _ => ?_
  refine ensures_get_bind fun s hs => ?_
  refine ensures_bind (Q := fun _ => At ids true (some row.episodeId)) (ensures_modify _ ?_) fun _ => ?_
  · rintro t rfl
    exact hsame t _ ⟨rfl, rfl, rfl, rfl, rfl⟩ hs
  refine ensures_bind (Q := fun _ => At ids true (some row.episodeId)) ?_ fun frames => ?_
  · refine keeps_deliver _ (fun t _ ht => ⟨ht.1.predicted ht.2.2 rfl rfl rfl, ht.2⟩) fun t _ ht => ?_
    exact hsame t _ ⟨rfl, rfl, rfl, rfl, rfl⟩ ht
  · split
    · exact ensures_throw _ fun _ => id
    · exact keeps_pushFrames S hsame frames

theorem keeps_recordHistory (h : OfDues I) (row : EpisodeRow Id) (observation : Obs) (step : Nat) :
    Keeps I (recordHistory S row observation step) := by
  refine ensures_get_bind fun s hs => ?_
  split
  · refine ensures_bind ((keeps_lift _).pre fun _ heq => heq ▸ hs) fun _ => ?_
    exact keeps_modify h _ fun _ => ⟨rfl, rfl, rfl, rfl, rfl⟩
  · exact ensures_pure _ fun _ heq => heq ▸ hs

theorem keeps_popFrame (h : OfDues I) : Keeps I (popFrame S) := by
  refine ensures_get_bind fun s hs => ?_
  split
  · exact ensures_throw _ fun _ heq => heq ▸ hs
  · refine ensures_bind (Q := fun _ => I) (ensures_modify _ ?_) fun _ => ensures_pure _ fun _ => id
    rintro t rfl
    exact h t _ ⟨rfl, rfl, rfl, rfl, rfl⟩ hs

theorem At.cleared {episodeId : Option Id} (h : At ids true episodeId s) : Dues ids s ∧ Cleared s := by
  refine ⟨h.1, fun hnot => ?_⟩
  rw [h.2.1] at hnot
  cases hnot

theorem keeps_predict (hreach : ∀ ended world, (S.resetAdapter ended world).1.reached = true) (observation : Obs) :
    Keeps (fun s => Dues ids s ∧ Cleared s) (predict S observation) := by
  refine ensures_get_bind fun s hs => ?_
  split
  · exact ensures_throw _ fun _ heq => heq ▸ hs
  · rename_i episodeId hid
    have hsame : OfDues (At ids true (some episodeId) : ModelClient ω Id Obs Act → Prop) := at_ofDues
    refine ensures_bind ((ensures_configure S episodeId).pre fun _ heq => heq ▸ ⟨hs, hid⟩) fun _ => ?_
    refine Ensures.mono (E := At ids true (some episodeId)) (Q := fun _ => At ids true (some episodeId)) ?_
      (fun _ => id) (fun _ _ h => h.cleared) (fun _ h => h.cleared)
    refine ensures_bind ((ensures_flushPendingEnd S hreach true (some episodeId)).mono (fun _ => id) (fun _ _ h => h.1)
      (fun _ h => h.1)) fun _ => ?_
    refine ensures_get_bind fun t ht => ?_
    refine ensures_bind (Q := fun _ => At ids true (some episodeId)) (ensures_modify _ ?_) fun _ => ?_
    · rintro u rfl
      exact hsame u _ ⟨rfl, rfl, rfl, rfl, rfl⟩ ht
    split
    · exact ensures_bind (keeps_refill S { episodeId, seed := t.seed } observation t.step) fun _ => keeps_popFrame S hsame
    · exact ensures_bind (keeps_recordHistory S hsame _ _ _) fun _ => keeps_popFrame S hsame

theorem ensures_close (hreach : ∀ ended world, (S.resetAdapter ended world).1.reached = true) :
    Ensures (fun s => Dues ids s ∧ Cleared s) (close S) (fun _ s => Dues ids s ∧ Complete s.marks)
      (fun s => Dues ids s ∧ Complete s.marks) := by
  refine ensures_get_bind fun s hs => ?_
  split
  · have hdone : OfDues fun s : ModelClient ω Id Obs Act => Dues ids s ∧ Complete s.marks := by
      rintro s s' hsame ⟨hdues, hcomplete⟩
      refine ⟨dues_ofDues s s' hsame hdues, ?_⟩
      rwa [hsame.marks]
    have hdue : ∀ t : ModelClient ω Id Obs Act, At ids false none t ∧ t.pendingEnd = [] → t.due = [] := by
      rintro t ⟨⟨-, -, hid⟩, hpending⟩
      rw [due, hpending, hid]
      rfl
    refine ensures_bind (Q := fun _ => At ids false none) (ensures_modify _ ?_) fun _ => ?_
    · rintro t rfl
      refine ⟨hs.1.congr rfl rfl ?_, rfl, rfl⟩
      simp only [due, Option.toList_none, List.append_nil]
    · refine ensures_bind ((ensures_flushPendingEnd S hreach false none).mono (fun _ => id) ?_ ?_) fun _ => keeps_ask hdone _
      · exact fun _ t h => ⟨h.1.1, h.1.1.complete (hdue t h)⟩
      · exact fun t h => ⟨h.1.1, h.1.1.complete (hdue t h)⟩
  · rename_i hnot
    refine ensures_pure _ ?_
    rintro t rfl
    exact ⟨hs.1, hs.2 (by simpa using hnot)⟩

end ModelClient

variable {S : Served ω ε Id Obs Raw Act} {world : ω}

theorem reach_dues (hreach : ∀ ended world, (S.resetAdapter ended world).1.reached = true)
    {C : ModelClient ω Id Obs Act → ClientCall Obs → Prop} (h : (clientCalls S ids world).Reach C s) :
    Dues ids s ∧ Cleared s := by
  refine h.inv (fun s => Dues ids s ∧ Cleared s) ⟨dues_connect, fun _ _ hid => absurd hid List.not_mem_nil⟩ fun s call s' hs _ hstep => ?_
  cases call with
  | reset seed =>
    obtain rfl := Option.some.inj hstep
    exact ⟨hs.1.reset seed, hs.2⟩
  | predict observation =>
    obtain rfl := Option.some.inj hstep
    exact Keeps.exec (ModelClient.keeps_predict S hreach observation) hs
  | close =>
    obtain rfl := Option.some.inj hstep
    exact Keeps.exec ((ModelClient.ensures_close S hreach).mono (fun _ => id) (fun _ _ h => ⟨h.1, fun _ => h.2⟩)
      (fun _ h => ⟨h.1, fun _ => h.2⟩)) hs

end

end Rlmesh.Model
