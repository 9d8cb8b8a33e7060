import Rlmesh.Lib.MapSum
import Rlmesh.Model.Rows
import Rlmesh.Model.Serving
/-!
# The endpoint's total

Whatever a request does to a route, the route publishes what its buffers hold
then, so the endpoint's total is the sum of the routes' shares (`Accounted`).
Predicts moreover only add episodes to the buffers of the routes they name
(`Grown`).
-/
open Rlmesh.Lib Rlmesh.Lib.Fallible Rlmesh.Adapters

namespace Rlmesh.Engine

variable {V : Values}

theorem saturatingMul_zero (b : Nat) : saturatingMul 0 b = 0 := by
  rw [saturatingMul, Nat.zero_mul, Nat.zero_min]

theorem saturatingMul_le (a b : Nat) : saturatingMul a b ≤ u64Max := Nat.min_le_right _ _

theorem saturatingAdd_eq {a b : Nat} (h : saturatingAdd a b < u64Max) : saturatingAdd a b = a + b := by
  unfold saturatingAdd at h ⊢
  omega

theorem saturatingMul_eq {a b : Nat} (h : saturatingMul a b < u64Max) : saturatingMul a b = a * b := by
  unfold saturatingMul at h ⊢
  omega

/-! ## Running a computation on a route -/

section

variable {α : Type} {Pre E : RouteEntry V × Nat → Prop} {Q : α → RouteEntry V × Nat → Prop}

theorem ensures_onHeld {m : Fallible (RouteEntry V × Nat) EngineError α} (h : Ensures Pre m Q E) :
    Ensures (fun s => Pre (s.1, s.2.projected)) (onHeld m) (fun a s => Q a (s.1, s.2.projected))
      (fun s => E (s.1, s.2.projected)) := by
  intro s hs
  have hm := h _ hs
  rw [onHeld, exec_zoom]
  rcases hr : m.exec (s.1, s.2.projected) with ⟨e | a, s'⟩
  · rw [hr] at hm
    exact hm
  · rw [hr] at hm
    exact hm

theorem ensures_onWarned {I : RouteEntry V × Nat → Prop} (m : Fallible (List String) EngineError α) :
    Ensures (fun s => I (s.1, s.2.projected)) (onWarned m)
      (fun a s => I (s.1, s.2.projected) ∧ ∃ warned left, m.exec warned = (.ok a, left)) (fun s => I (s.1, s.2.projected)) := by
  intro s hs
  rw [onWarned, exec_zoom]
  rcases hr : m.exec s.2.warned with ⟨e | a, warned⟩
  · exact hs
  · exact ⟨hs, _, _, hr⟩

theorem ensures_publishing {config : RouteConfig V} {Pre E : FrameBuffers V → Prop} {Q : α → FrameBuffers V → Prop}
    {m : RouteConfig V → Fallible (FrameBuffers V) EngineError α} (h : Ensures Pre (m config) Q E) :
    Ensures (fun s => s.1.config = config ∧ Pre s.1.buffers) (publishing m)
      (fun a s => s.1.config = config ∧ Q a s.1.buffers) (fun s => s.1.config = config ∧ E s.1.buffers) := by
  rintro ⟨entry, projected⟩ ⟨rfl, hs⟩
  have hm := h _ hs
  rw [publishing, exec_ofFun]
  dsimp only
  rcases hr : (m entry.config).exec entry.buffers with ⟨e | a, buffers⟩
  · rw [hr] at hm
    exact ⟨rfl, hm⟩
  · rw [hr] at hm
    exact ⟨rfl, hm⟩

end

/-! ## What a predict does to a route's buffers -/

/-- The episodes a request's own rows name. -/
def OwnRow (observation : ModelObservation V) (id : String) : Prop := ∃ index, laneEpisode observation index = .ok id

/-- The episodes assembling a request on a route touches are all in `P`. -/
structure Touches (config : RouteConfig V) (observation : ModelObservation V) (P : String → Prop) : Prop where
  own : ∀ id, OwnRow observation id → P id
  history : config.deliversHistory = true → ∀ frame ∈ observation.history, ∀ episode ∈ frame.episodes,
    episode.episodeId ≠ "" → P episode.episodeId

section

variable {P : String → Prop} {I : FrameBuffers V → Prop}
  (hset : ∀ id, P id → ∀ buffers episode, I buffers → I (buffers.set id episode)) {config : RouteConfig V}
  {observation : ModelObservation V} (htouch : Touches config observation P)
include hset htouch

theorem ensures_assembleInputs : Ensures I (assembleInputs config observation)
    (fun inputs buffers => I buffers ∧ inputs.length = observation.numEnvs ∧
      ∀ index < observation.numEnvs, OwnRow observation (rowEpisode observation.episodes index)) I := by
  have hkeeps := keeps_assembleInputs hset config observation htouch.history (fun index id h => htouch.own id ⟨index, h⟩)
  rw [ensures_iff]
  refine ⟨fun buffers inputs left hbuffers hr => ?_, (ensures_iff.1 hkeeps).2⟩
  obtain ⟨hlength, hrows⟩ := assembleInputs_rows hr
  refine ⟨hkeeps.ok hbuffers hr, hlength, fun index hindex => ?_⟩
  obtain ⟨id, hid, -⟩ := hrows index hindex
  exact ⟨index, rowEpisode_eq hid ▸ hid⟩

theorem ensures_assembleRouteInputs :
    Ensures (fun s : RouteEntry V × Nat => s.1.config = config ∧ I s.1.buffers) (assembleRouteInputs observation)
      (fun inputs s => s.1.config = config ∧ I s.1.buffers ∧ inputs.length = observation.numEnvs ∧
        ∀ index < observation.numEnvs, OwnRow observation (rowEpisode observation.episodes index))
      (fun s => s.1.config = config ∧ I s.1.buffers) := by
  refine ensures_get_bind (fun s hs => ?_)
  refine ensures_bind (Q := fun _ => (· = s)) (ensures_ofResult (fun _ _ _ h => h) (fun _ h => h ▸ hs)) (fun _ => ?_)
  have hseed := ensures_publishing (m := (assembleInputs · observation)) (ensures_assembleInputs hset htouch)
  exact hseed.pre (fun t ht => (show t = s from ht) ▸ hs)

theorem keeps_predictRoute (predict : PredictFn V) :
    Keeps (fun s : RouteEntry V × Cells => s.1.config = config ∧ I s.1.buffers) (predictRoute predict observation) := by
  refine ensures_bind (ensures_onHeld (ensures_assembleRouteInputs hset htouch)) (fun inputs => ?_)
  refine ensures_get_bind (fun s hs => ?_)
  obtain ⟨hconfig, hbuffers, hinputs, hrows⟩ := hs
  refine ensures_bind ((ensures_onWarned (I := (· = (s.1, s.2.projected))) _).mono (fun t ht => ht ▸ rfl)
    (fun _ _ h => h) (fun t ht => ?_)) (fun frames => ?_)
  · have hentry : t.1 = s.1 := (Prod.mk.inj ht).1
    exact hentry ▸ ⟨hconfig, hbuffers⟩
  · intro t ht
    obtain ⟨hsame, warned, left, hdispatch⟩ := ht
    have hlength : frames.length = observation.numEnvs := by
      rw [dispatchRouteCorners, exec_mapError_ok] at hdispatch
      exact dispatchCorners_length hinputs hdispatch
    have hfinish := ensures_onHeld (ensures_publishing (m := (finishFrames · frames observation.episodes))
      (keeps_finishFrames hset config frames observation.episodes
        (fun _ index hindex => htouch.own _ (hrows index (hlength ▸ hindex)))))
    have hentry : t.1 = s.1 := (Prod.mk.inj hsame).1
    have hpre : t.1.config = config ∧ I t.1.buffers := by
      rw [hentry]
      exact ⟨hconfig, hbuffers⟩
    exact hfinish t hpre

end

/-! ## The sum of the shares -/

/-- What a route's windows will hold once full. -/
def RouteEntry.windows (entry : RouteEntry V) : Nat := entry.buffers.episodes * entry.laneBytes

/-- A route that has published what it holds. -/
structure RouteEntry.Accounted (limit : Nat) (entry : RouteEntry V) : Prop where
  published : entry.published = saturatingMul entry.buffers.episodes entry.laneBytes
  historyLimit : entry.historyLimit = limit
  laneBytes : entry.laneBytes = laneWindowBytes entry.config.adapter

theorem RouteEntry.Accounted.le {limit : Nat} {entry : RouteEntry V} (h : entry.Accounted limit) :
    entry.published ≤ u64Max := h.published ▸ saturatingMul_le _ _

/-- Every route has published, and the total is the sum of the shares. -/
structure Accounted (endpoint : Endpoint V) : Prop where
  routes : ∀ envId entry, endpoint.routes.lookup envId = some entry → entry.Accounted endpoint.historyLimit
  total : endpoint.cells.projected = mapSum RouteEntry.published endpoint.routes % 2 ^ 64

/-- A route beside others that have published `others` in all. -/
def Ledger (limit others : Nat) (s : RouteEntry V × Nat) : Prop :=
  s.1.Accounted limit ∧ s.2 = (others + s.1.published) % 2 ^ 64

theorem ledger_publishHeld {limit others : Nat} {entry : RouteEntry V} {projected : Nat}
    (h : Ledger limit others (entry, projected)) (buffers : FrameBuffers V) :
    Ledger limit others (publishHeld { entry with buffers } projected) := by
  obtain ⟨hentry, htotal⟩ := h
  refine ⟨⟨rfl, hentry.historyLimit, hentry.laneBytes⟩, ?_⟩
  have hold := hentry.le
  dsimp only at htotal
  simp only [publishHeld, wrappingAdd, wrappingSub, htotal, u64Max] at hold ⊢
  omega

theorem keeps_ledger_publishing {α : Type} (m : RouteConfig V → Fallible (FrameBuffers V) EngineError α)
    (limit others : Nat) : Keeps (Ledger limit others) (publishing m) :=
  ensures_of_left fun _ h => ledger_publishHeld h _

/-- A predict changes its route twice: it assembles its lanes, and it finishes their frames. -/
theorem keeps_predictRoute_of {J : RouteEntry V × Nat → Prop} (predict : PredictFn V)
    {observation : ModelObservation V} (hseed : Keeps J (seedInputs observation))
    (hfinish : ∀ frames, Keeps J (finishRouteFrames frames observation.episodes)) :
    Keeps (fun s : RouteEntry V × Cells => J (s.1, s.2.projected)) (predictRoute predict observation) := by
  refine keeps_bind (ensures_onHeld (keeps_bind keeps_get (fun s => ?_))) (fun inputs => ?_)
  · exact keeps_bind (keeps_ofResult _) (fun _ => hseed)
  · refine keeps_bind keeps_get (fun s => ?_)
    refine keeps_bind ((ensures_onWarned _).mono (fun _ h => h) (fun _ _ h => h.1) (fun _ h => h)) (fun frames => ?_)
    exact ensures_onHeld (hfinish frames)

theorem keeps_ledger_predictRoute (predict : PredictFn V) (observation : ModelObservation V) (limit others : Nat) :
    Keeps (fun s : RouteEntry V × Cells => Ledger limit others (s.1, s.2.projected))
      (predictRoute predict observation) :=
  keeps_predictRoute_of predict (keeps_ledger_publishing _ limit others)
    (fun _ => keeps_ledger_publishing _ limit others)

/-! ## Requests keep the total -/

/-- What the routes other than an env's have published. -/
def Endpoint.others (endpoint : Endpoint V) (envId : String) : Nat :=
  mapSum RouteEntry.published (endpoint.routes.erase envId)

section

variable {endpoint : Endpoint V} {envId : String}

theorem Accounted.ledger (h : Accounted endpoint) {entry : RouteEntry V}
    (hroute : endpoint.routes.lookup envId = some entry) :
    Ledger endpoint.historyLimit (endpoint.others envId) (entry, endpoint.cells.projected) :=
  ⟨h.routes envId entry hroute, by rw [h.total, Endpoint.others, mapSum_erase hroute]⟩

theorem Accounted.setRoute (h : Accounted endpoint) {s : RouteEntry V × Cells}
    (hs : Ledger endpoint.historyLimit (endpoint.others envId) (s.1, s.2.projected)) :
    Accounted (endpoint.setRoute envId s) := by
  obtain ⟨hentry, htotal⟩ := hs
  refine ⟨fun other entry hother => ?_, ?_⟩
  · by_cases hne : other = envId
    · subst hne
      rw [Endpoint.setRoute, AList.lookup_insert] at hother
      cases hother
      exact hentry
    · rw [Endpoint.setRoute, AList.lookup_insert_ne hne] at hother
      exact h.routes other entry hother
  · rw [Endpoint.setRoute, mapSum_insert, Nat.add_comm]
    exact htotal

theorem lookup_dropRoute (endpoint : Endpoint V) (envId : String) :
    (endpoint.dropRoute envId).routes.lookup envId = none := by
  unfold Endpoint.dropRoute
  split
  · assumption
  · exact AList.lookup_erase _ _

theorem dropRoute_historyLimit (endpoint : Endpoint V) (envId : String) :
    (endpoint.dropRoute envId).historyLimit = endpoint.historyLimit := by
  unfold Endpoint.dropRoute
  split <;> rfl

theorem Accounted.dropRoute (h : Accounted endpoint) (envId : String) : Accounted (endpoint.dropRoute envId) := by
  unfold Endpoint.dropRoute
  split
  · exact h
  · rename_i entry hroute
    refine ⟨fun other route hother => ?_, ?_⟩
    · by_cases hne : other = envId
      · subst hne
        rw [AList.lookup_erase] at hother
        cases hother
      · rw [AList.lookup_erase_ne hne] at hother
        exact h.routes other route hother
    · have hsum := mapSum_erase (f := RouteEntry.published) hroute
      have hle := (h.routes envId entry hroute).le
      simp only [wrappingSub, h.total, u64Max] at hle ⊢
      omega

theorem Accounted.replaceRoute (h : Accounted endpoint) {entry : RouteEntry V}
    (hentry : entry.Accounted endpoint.historyLimit) (hnew : entry.published = 0) :
    Accounted (endpoint.replaceRoute envId entry) := by
  have hdropped := h.dropRoute envId
  refine hdropped.setRoute ⟨dropRoute_historyLimit endpoint envId ▸ hentry, ?_⟩
  rw [Endpoint.others, mapSum_erase_none (lookup_dropRoute endpoint envId), hnew]
  exact hdropped.total

end

theorem inTurn_keeps {α β σ : Type} (I : σ → Prop) (serve : α → σ → β × σ) (items : List α)
    (h : ∀ item ∈ items, ∀ s, I s → I (serve item s).2) {s : σ} (hs : I s) : I (inTurn serve items s).2 := by
  induction items generalizing s with
  | nil => exact hs
  | cons item rest ih =>
    exact ih (fun other hother => h other (List.mem_cons_of_mem _ hother)) (h item List.mem_cons_self s hs)

/-- What a mark does to a staging. -/
inductive Marked (observations : List (ModelObservation V)) (staging : Staging V) : Mark → Staging V → Prop
  | unrouted {index} : (∀ observation, observations[index]? = some observation →
      staging.endpoint.routes.lookup observation.envId = none) → Marked observations staging (.admits index) staging
  | judged {index observation entry} : observations[index]? = some observation →
      staging.endpoint.routes.lookup observation.envId = some entry →
      Marked observations staging (.admits index)
        { endpoint := staging.endpoint
          stages := Function.update staging.stages index
            (some (verdict entry staging.endpoint.cells.projected observation)) }
  | unseeded {index} : (∀ observation, observations[index]? = some observation →
      staging.stages index ≠ some .admitted) → Marked observations staging (.seed index) staging
  | seeded {index observation} : observations[index]? = some observation → staging.stages index = some .admitted →
      Marked observations staging (.seed index)
        { endpoint := ((seedRoute observation).exec staging.endpoint).2
          stages := Function.update staging.stages index
            (some (.assembled ((seedRoute observation).exec staging.endpoint).1)) }

theorem marked (observations : List (ModelObservation V)) (staging : Staging V) (mark : Mark) :
    Marked observations staging mark (stageMark observations staging mark) := by
  cases mark with
  | admits index =>
    rw [stageMark]
    split
    · rename_i hnone
      exact .unrouted (fun observation hsome => by rw [hnone] at hsome; cases hsome)
    · rename_i observation hobservation
      split
      · rename_i hroute
        refine .unrouted (fun other hother => ?_)
        rw [hobservation] at hother
        cases hother
        exact hroute
      · exact .judged hobservation ‹_›
  | seed index =>
    rw [stageMark]
    split
    · exact .seeded ‹_› ‹_›
    · rename_i hnot
      exact .unseeded (fun observation hobservation hstage => hnot observation hobservation hstage)

theorem accounted_fresh (limit : Nat) : Accounted (Endpoint.fresh limit : Endpoint V) := by
  refine ⟨fun envId entry h => ?_, rfl⟩
  rw [Endpoint.fresh, AList.lookup_empty] at h
  cases h

end Rlmesh.Engine
