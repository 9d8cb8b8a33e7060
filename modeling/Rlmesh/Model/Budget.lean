import Rlmesh.Model.Staging
/-!
# The frame-window budget bounds what an endpoint holds

A predict is admitted for the fresh episodes its own rows name. History rows open
windows as well, and groups assembled side by side are each admitted against a
total the others have not published into yet. In the runs where neither adds to
what was admitted, the windows of the held episodes stay within the budget.
-/
open Rlmesh.Lib Rlmesh.Lib.Fallible Rlmesh.Adapters

namespace Rlmesh.Engine

variable {V : Values}

/-- What the windows of the held episodes hold once full. -/
def Endpoint.windows (endpoint : Endpoint V) : Nat := mapSum RouteEntry.windows endpoint.routes

/-- What the fresh episodes of a request's own rows would add to a route. -/
def charge (entry : RouteEntry V) (observation : ModelObservation V) : Nat :=
  freshLanes entry observation.episodes * entry.laneBytes

/-- A history row names an episode of the request's own rows or one the route holds. -/
def NoStrangers (entry : RouteEntry V) (observation : ModelObservation V) : Prop :=
  entry.config.deliversHistory = true → ∀ frame ∈ observation.history, ∀ episode ∈ frame.episodes,
    episode.episodeId ≠ "" → entry.buffers.holds episode.episodeId = true ∨ OwnRow observation episode.episodeId

/-- An endpoint within its budget. Under the largest `u64` as a budget every sum passes. -/
structure Budgeted (endpoint : Endpoint V) : Prop where
  accounted : Accounted endpoint
  within : endpoint.windows ≤ endpoint.historyLimit
  limit : endpoint.historyLimit < u64Max

section

variable {endpoint : Endpoint V} {envId : String} {entry : RouteEntry V} {observation : ModelObservation V}

theorem windows_setRoute (hroute : endpoint.routes.lookup envId = some entry) (s : RouteEntry V × Cells) :
    (endpoint.setRoute envId s).windows + entry.windows = endpoint.windows + s.1.windows :=
  mapSum_set hroute s.1

/-! ## Admission -/

theorem Budgeted.share (h : Budgeted endpoint) (hroute : endpoint.routes.lookup envId = some entry) :
    entry.published = entry.windows := by
  have hle : entry.windows ≤ endpoint.windows := le_mapSum hroute
  have hwithin := h.within
  have hlimit := h.limit
  rw [(h.accounted.routes envId entry hroute).published]
  exact Nat.min_eq_left (show entry.windows ≤ u64Max by omega)

theorem Budgeted.total (h : Budgeted endpoint) : endpoint.cells.projected = endpoint.windows := by
  have hsum : mapSum RouteEntry.published endpoint.routes = endpoint.windows :=
    mapSum_congr (fun _ _ hroute => h.share hroute)
  have hwithin := h.within
  have hlimit := h.limit
  unfold u64Max at hlimit
  rw [h.accounted.total, hsum]
  exact Nat.mod_eq_of_lt (by omega)

theorem Budgeted.room (h : Budgeted endpoint) (hroute : endpoint.routes.lookup envId = some entry)
    (hadmits : admitFreshLanes entry endpoint.cells.projected observation.episodes = .ok ()) :
    endpoint.windows + charge entry observation ≤ endpoint.historyLimit := by
  have hwithin := h.within
  have hlimit := h.limit
  have hle : entry.windows ≤ endpoint.windows := le_mapSum hroute
  unfold admitFreshLanes at hadmits
  rw [h.total, h.share hroute, (h.accounted.routes envId entry hroute).historyLimit] at hadmits
  dsimp only at hadmits
  split_ifs at hadmits with hbytes hfresh hover
  · rw [charge, hbytes, Nat.mul_zero]
    exact hwithin
  · rw [charge, hfresh, Nat.zero_mul]
    exact hwithin
  · -- no sum saturated, so the terms are what they stand for
    have hsum := saturatingAdd_eq (Nat.lt_of_le_of_lt (Nat.le_of_not_lt hover) hlimit)
    rw [hsum] at hover
    have hproduct : saturatingMul (saturatingAdd entry.buffers.episodes (freshLanes entry observation.episodes))
        entry.laneBytes < u64Max := by omega
    rw [saturatingMul_eq hproduct] at hover hproduct
    have hcount := saturatingAdd_eq
      (Nat.lt_of_le_of_lt (Nat.le_mul_of_pos_right _ (Nat.pos_of_ne_zero hbytes)) hproduct)
    rw [hcount, Nat.add_mul] at hover
    unfold charge
    unfold RouteEntry.windows at hover hle
    omega

end

/-! ## Growth -/

/-- A route that holds what it held and a request's own rows grew by at most its fresh lanes. -/
theorem episodes_le_fresh {entry : RouteEntry V} {observation : ModelObservation V} {buffers : FrameBuffers V}
    (h : FrameBuffers.Within (fun id => entry.buffers.holds id = true ∨ OwnRow observation id) buffers) :
    buffers.episodes ≤ entry.buffers.episodes + freshLanes entry observation.episodes := by
  let fresh := observation.episodes.filter
    (fun episode => episode.episodeId ≠ "" && !entry.buffers.holds episode.episodeId)
  have hwithin : FrameBuffers.Within (· ∈ entry.buffers.inner.keys ++ fresh.map (·.episodeId)) buffers := by
    intro id hid
    rw [List.mem_append]
    by_cases hheld : entry.buffers.holds id = true
    · exact .inl (FrameBuffers.holds_iff.1 hheld)
    · obtain ⟨index, hrow⟩ := (h id hid).resolve_left hheld
      obtain ⟨⟨episode, hepisode, hname⟩, hne⟩ := laneEpisode_ok.1 hrow
      refine .inr (List.mem_map.2 ⟨episode, List.mem_filter.2 ⟨List.mem_of_getElem? hepisode, ?_⟩, hname⟩)
      simp [hname, hne, hheld]
  have hle := FrameBuffers.episodes_le hwithin
  rwa [List.length_append, List.length_map] at hle

theorem touches_of_noStrangers {entry : RouteEntry V} {observation : ModelObservation V} (h : NoStrangers entry observation) :
    Touches entry.config observation (fun id => entry.buffers.holds id = true ∨ OwnRow observation id) :=
  ⟨fun _ => .inr, h⟩

theorem within_set {P : String → Prop} (id : String) (hid : P id) (buffers : FrameBuffers V)
    (episode : EpisodeWindows V) (h : FrameBuffers.Within P buffers) : FrameBuffers.Within P (buffers.set id episode) :=
  h.set hid episode

theorem within_self (entry : RouteEntry V) (observation : ModelObservation V) :
    FrameBuffers.Within (fun id => entry.buffers.holds id = true ∨ OwnRow observation id) entry.buffers :=
  fun _ => .inl

theorem windows_le {limit count : Nat} {entry entry' : RouteEntry V} (hentry : entry.Accounted limit)
    (hentry' : entry'.Accounted limit) (hconfig : entry'.config = entry.config)
    (hcount : entry'.buffers.episodes ≤ entry.buffers.episodes + count) :
    entry'.windows ≤ entry.windows + count * entry.laneBytes := by
  have hbytes : entry'.laneBytes = entry.laneBytes := by rw [hentry'.laneBytes, hentry.laneBytes, hconfig]
  unfold RouteEntry.windows
  rw [hbytes, ← Nat.add_mul]
  exact Nat.mul_le_mul_right _ hcount

/-- A route may be set to one with `count` more episodes if there is room for them. -/
theorem Budgeted.setRoute {endpoint : Endpoint V} (h : Budgeted endpoint) {envId : String} {entry : RouteEntry V}
    (hroute : endpoint.routes.lookup envId = some entry) {s : RouteEntry V × Cells} (count : Nat)
    (hs : Ledger endpoint.historyLimit (endpoint.others envId) (s.1, s.2.projected))
    (hconfig : s.1.config = entry.config)
    (hcount : s.1.buffers.episodes ≤ entry.buffers.episodes + count)
    (hroom : endpoint.windows + count * entry.laneBytes ≤ endpoint.historyLimit) :
    Budgeted (endpoint.setRoute envId s) ∧ (endpoint.setRoute envId s).windows ≤ endpoint.windows + count * entry.laneBytes := by
  have hgrown := windows_le (h.accounted.routes envId entry hroute) hs.1 hconfig hcount
  have hsum := windows_setRoute hroute s
  have hle : (endpoint.setRoute envId s).windows ≤ endpoint.windows + count * entry.laneBytes := by
    dsimp only at hgrown
    omega
  exact ⟨⟨h.accounted.setRoute hs, hle.trans hroom, h.limit⟩, hle⟩

/-! ## Requests -/

section

variable {endpoint : Endpoint V}

theorem predictRoute_refused (predict : PredictFn V) {entry : RouteEntry V} {cells : Cells}
    {observation : ModelObservation V} {error : EngineError}
    (h : admitFreshLanes entry cells.projected observation.episodes = .error error) :
    (predictRoute predict observation).exec (entry, cells) = (.error error, entry, cells) := by
  have hassemble : (assembleRouteInputs observation).exec (entry, cells.projected) =
      (.error error, entry, cells.projected) := by
    rw [assembleRouteInputs, exec_bind, exec_get]
    dsimp only
    rw [exec_bind, exec_ofResult, h]
  rw [predictRoute, exec_bind, onHeld, exec_zoom]
  dsimp only
  rw [hassemble]

theorem budgeted_predictChunked (h : Budgeted endpoint) (predict : PredictFn V) {observation : ModelObservation V}
    (hrows : ∀ entry, endpoint.routes.lookup observation.envId = some entry → NoStrangers entry observation) :
    Budgeted ((predictChunked predict observation).exec endpoint).2 := by
  rw [predictChunked, onRoute, exec_ofFun]
  split
  · rename_i entry hroute
    have hledger := h.accounted.ledger hroute
    cases hadmits : admitFreshLanes entry endpoint.cells.projected observation.episodes with
    | error e =>
      rw [predictRoute_refused predict hadmits]
      refine (h.setRoute hroute 0 hledger rfl (Nat.le_refl _) ?_).1
      rw [Nat.zero_mul]
      exact h.within
    | ok _ =>
      have hkept := (keeps_predictRoute within_set (touches_of_noStrangers (hrows entry hroute)) predict).exec
        (s := (entry, endpoint.cells)) ⟨rfl, within_self entry observation⟩
      exact (h.setRoute hroute _ ((keeps_ledger_predictRoute predict observation _ _).exec hledger) hkept.1
        (episodes_le_fresh hkept.2) (h.room hroute hadmits)).1
  · exact h

/-- Assembling an admitted group takes at most what it was admitted for. -/
theorem budgeted_seedRoute (h : Budgeted endpoint) {observation : ModelObservation V} {entry : RouteEntry V}
    (hroute : endpoint.routes.lookup observation.envId = some entry) (hrows : NoStrangers entry observation)
    (hroom : endpoint.windows + charge entry observation ≤ endpoint.historyLimit) :
    Budgeted ((seedRoute observation).exec endpoint).2 ∧
      ((seedRoute observation).exec endpoint).2.windows ≤ endpoint.windows + charge entry observation := by
  have hledger := h.accounted.ledger hroute
  have htouch := touches_of_noStrangers hrows
  have hkept := (keeps_assembleInputs within_set entry.config observation htouch.history
    (fun index id hid => htouch.own id ⟨index, hid⟩)).exec (within_self entry observation)
  rw [seedRoute, onRoute, exec_ofFun, hroute]
  exact h.setRoute hroute _ (ledger_publishHeld hledger _) rfl (episodes_le_fresh hkept) hroom

theorem budgeted_finishGroup (h : Budgeted endpoint) {group : Prepared V} (hready : group.Ready endpoint)
    {frames : List (List V.Value)} (hframes : frames.length ≤ group.numEnvs) :
    Budgeted ((finishGroup group frames).exec endpoint).2 := by
  obtain ⟨entry, hroute, -, hrows⟩ := hready
  have hkept := (keeps_finishFrames (P := fun id => entry.buffers.holds id = true) within_set entry.config frames
    group.episodes (fun hreads index hindex => hrows hreads index (by omega))).exec (s := entry.buffers) (fun _ hid => hid)
  have hcount := FrameBuffers.episodes_le
    (fun id hid => FrameBuffers.holds_iff.1 (hkept id hid) : FrameBuffers.Within (· ∈ entry.buffers.inner.keys) _)
  rw [finishGroup, onRoute, exec_ofFun, hroute]
  refine (h.setRoute hroute 0 (ledger_publishHeld (h.accounted.ledger hroute) _) rfl hcount ?_).1
  rw [Nat.zero_mul]
  exact h.within

end

/-! ## Grouped predicts -/

/-- What a request's fresh lanes would add to the endpoint's windows. -/
def chargeOn (endpoint : Endpoint V) (observation : ModelObservation V) : Nat :=
  match endpoint.routes.lookup observation.envId with
  | some entry => charge entry observation
  | none => 0

/-- The history rows of a request name no strangers to its route. -/
def Known (endpoint : Endpoint V) (observation : ModelObservation V) : Prop :=
  ∀ entry, endpoint.routes.lookup observation.envId = some entry → NoStrangers entry observation

theorem charge_grown {before after : RouteEntry V} (h : before.Grown after) (observation : ModelObservation V) :
    charge after observation ≤ charge before observation := by
  unfold charge freshLanes
  rw [h.laneBytes]
  refine Nat.mul_le_mul_right _ (List.Sublist.length_le (List.monotone_filter_right _ (fun episode hfresh => ?_)))
  rw [Bool.and_eq_true, Bool.not_eq_true'] at hfresh ⊢
  refine ⟨hfresh.1, ?_⟩
  by_contra hheld
  rw [Bool.not_eq_false] at hheld
  rw [h.holds _ hheld] at hfresh
  cases hfresh.2

section

variable {before after : Endpoint V} (h : Grown before after) {observation : ModelObservation V}
include h

theorem chargeOn_grown : chargeOn after observation ≤ chargeOn before observation := by
  unfold chargeOn
  cases hroute : before.routes.lookup observation.envId with
  | none => rw [h.absent _ hroute]
  | some entry =>
    obtain ⟨entry', hroute', hentry⟩ := h.present _ entry hroute
    rw [hroute']
    exact charge_grown hentry observation

theorem Known.grown (hknown : Known before observation) : Known after observation := by
  intro entry' hroute' hdelivers frame hframe episode hepisode hname
  cases hroute : before.routes.lookup observation.envId with
  | none =>
    rw [h.absent _ hroute] at hroute'
    cases hroute'
  | some entry =>
    obtain ⟨_, hsame, hentry⟩ := h.present _ entry hroute
    rw [hroute'] at hsame
    cases hsame
    refine (hknown entry hroute (hentry.config ▸ hdelivers) frame hframe episode hepisode hname).imp_left ?_
    exact hentry.holds _

end

/-- At most one group of a request opens windows. -/
def Alone (endpoint : Endpoint V) (observations : List (ModelObservation V)) : Prop :=
  observations.Pairwise (fun first second => chargeOn endpoint first = 0 ∨ chargeOn endpoint second = 0)

theorem Alone.of_ne {endpoint : Endpoint V} {observations : List (ModelObservation V)} (h : Alone endpoint observations)
    {index other : Nat} {observation observation' : ModelObservation V} (ho : observations[index]? = some observation)
    (ho' : observations[other]? = some observation') (hne : other ≠ index) :
    chargeOn endpoint observation = 0 ∨ chargeOn endpoint observation' = 0 := by
  obtain ⟨hindex, rfl⟩ := List.getElem?_eq_some_iff.1 ho
  obtain ⟨hother, rfl⟩ := List.getElem?_eq_some_iff.1 ho'
  rcases Nat.lt_or_gt_of_ne hne with hlt | hlt
  · exact (List.pairwise_iff_getElem.1 h other index hother hindex hlt).symm
  · exact List.pairwise_iff_getElem.1 h index other hindex hother hlt

/-- A staging within the budget: every group still to be assembled has room. -/
structure Fits (observations : List (ModelObservation V)) (start : Endpoint V) (staging : Staging V) : Prop where
  grown : Grown start staging.endpoint
  budgeted : Budgeted staging.endpoint
  room : ∀ index observation, observations[index]? = some observation → staging.stages index = some .admitted →
    staging.endpoint.windows + chargeOn staging.endpoint observation ≤ staging.endpoint.historyLimit

section

variable {observations : List (ModelObservation V)} {start : Endpoint V} {staging : Staging V}

theorem Fits.admits (h : Fits observations start staging) (index : Nat) :
    Fits observations start (stageMark observations staging (.admits index)) := by
  generalize hnext : stageMark observations staging (.admits index) = next
  cases hnext ▸ marked observations staging (.admits index) with
  | unrouted _ => exact h
  | @judged _ observation entry hobservation hroute =>
    refine ⟨h.grown, h.budgeted, fun other observation' hother hstage => ?_⟩
    dsimp only at hstage ⊢
    by_cases hne : other = index
    · rw [hne, hobservation] at hother
      cases hother
      rw [hne, Function.update_self, verdict] at hstage
      rw [chargeOn, hroute]
      split at hstage
      · rename_i hadmits
        exact h.budgeted.room hroute hadmits
      · cases hstage
    · rw [Function.update_of_ne hne] at hstage
      exact h.room other observation' hother hstage

/-- Assembling a group leaves room for the others that wait, where the two do not both open windows. -/
theorem Fits.seed (h : Fits observations start staging) (hknown : ∀ observation ∈ observations, Known start observation)
    (index : Nat) (halone : ∀ other observation observation', observations[index]? = some observation →
      observations[other]? = some observation' → other ≠ index → staging.stages other = some .admitted →
      chargeOn start observation = 0 ∨ chargeOn start observation' = 0) :
    Fits observations start (stageMark observations staging (.seed index)) := by
  generalize hnext : stageMark observations staging (.seed index) = next
  cases hnext ▸ marked observations staging (.seed index) with
  | unseeded _ => exact h
  | @seeded _ observation hobservation hstage =>
    have hstep := grown_seedRoute staging.endpoint observation
    have hroom := h.room index observation hobservation hstage
    have hseeded : Budgeted ((seedRoute observation).exec staging.endpoint).2 ∧
        ((seedRoute observation).exec staging.endpoint).2.windows ≤
          staging.endpoint.windows + chargeOn staging.endpoint observation := by
      cases hroute : staging.endpoint.routes.lookup observation.envId with
      | none =>
        rw [seedRoute, onRoute, exec_ofFun, hroute]
        exact ⟨h.budgeted, Nat.le_add_right _ _⟩
      | some entry =>
        rw [chargeOn, hroute] at hroom ⊢
        have hrows := (hknown observation (List.mem_of_getElem? hobservation)).grown h.grown entry hroute
        exact budgeted_seedRoute h.budgeted hroute hrows hroom
    refine ⟨h.grown.trans hstep, hseeded.1, fun other observation' hother hwaits => ?_⟩
    dsimp only at hwaits ⊢
    by_cases hne : other = index
    · rw [hne, Function.update_self] at hwaits
      cases hwaits
    · rw [Function.update_of_ne hne] at hwaits
      have hcharge : chargeOn _ observation ≤ chargeOn _ observation := chargeOn_grown h.grown
      have hcharge' : chargeOn _ observation' ≤ chargeOn _ observation' := chargeOn_grown (h.grown.trans hstep)
      have hstill : chargeOn _ observation' ≤ chargeOn _ observation' := chargeOn_grown hstep
      have hwait := h.room other observation' hother hwaits
      have hwithin := hseeded.1.within
      have hlimit : ((seedRoute observation).exec staging.endpoint).2.historyLimit = staging.endpoint.historyLimit :=
        hstep.limit
      rcases halone other observation observation' hobservation hother hne hwaits with hnone | hnone
      · -- this group opened nothing, so what was left for the other still is
        have hsame := hseeded.2
        omega
      · omega

theorem fits_parallel (h : Budgeted start) (hknown : ∀ observation ∈ observations, Known start observation)
    (halone : Alone start observations) (marks : List Mark) :
    Fits observations start (stageAll observations start marks) := by
  refine List.foldlRecOn marks (stageMark observations) ?_ (fun staging hs mark _ => ?_)
  · exact ⟨.refl start, h, fun _ _ _ hstage => nomatch hstage⟩
  · cases mark with
    | admits index => exact hs.admits index
    | seed index =>
      exact hs.seed hknown index (fun other observation observation' ho ho' hne _ => halone.of_ne ho ho' hne)

/-- One after the other, where no other group waits while one is assembled. -/
theorem fits_inOrder (h : Budgeted start) (hknown : ∀ observation ∈ observations, Known start observation) (count : Nat) :
    Fits observations start (stageAll observations start (inOrder count)) := by
  rw [stageAll, inOrder, List.foldl_flatMap]
  have hall := List.foldlRecOn (motive := fun staging => Fits observations start staging ∧
    ∀ index observation, observations[index]? = some observation → staging.stages index ≠ some .admitted)
    (List.range count) (fun staging index => [.admits index, .seed index].foldl (stageMark observations) staging)
    (b := { endpoint := start, stages := fun _ => none })
    ⟨⟨.refl start, h, fun _ _ _ hstage => nomatch hstage⟩, fun _ _ _ hstage => nomatch hstage⟩ ?_
  · exact hall.1
  · rintro staging ⟨hfits, hnone⟩ index -
    have hadmitted := hfits.admits index
    have honly : ∀ other, other ≠ index → (stageMark observations staging (.admits index)).stages other = staging.stages other := by
      intro other hne
      generalize hnext : stageMark observations staging (.admits index) = next
      cases hnext ▸ marked observations staging (.admits index) with
      | unrouted _ => rfl
      | judged _ _ => exact Function.update_of_ne hne _ _
    refine ⟨hadmitted.seed hknown index (fun other observation observation' _ ho' hne hwaits => ?_),
      fun other observation hobservation => ?_⟩
    · rw [honly other hne] at hwaits
      exact absurd hwaits (hnone other observation' ho')
    · generalize hbefore : stageMark observations staging (.admits index) = before at honly
      show (stageMark observations (stageMark observations staging (.admits index)) (.seed index)).stages other ≠ _
      rw [hbefore]
      generalize hnext : stageMark observations before (.seed index) = next
      cases hnext ▸ marked observations before (.seed index) with
      | unseeded hskip =>
        by_cases hne : other = index
        · exact hne ▸ hskip observation (hne ▸ hobservation)
        · rw [honly other hne]
          exact hnone other observation hobservation
      | seeded _ _ =>
        dsimp only
        by_cases hne : other = index
        · rw [hne, Function.update_self]
          exact nofun
        · rw [Function.update_of_ne hne, honly other hne]
          exact hnone other observation hobservation

end

theorem budgeted_serveBucket {start endpoint : Endpoint V} (predict : PredictFn V) {bucket : Nat × List (Prepared V)}
    (hready : ∀ group ∈ bucket.2, group.Ready start) (h : Budgeted endpoint ∧ Grown start endpoint) :
    Budgeted (serveBucket predict bucket endpoint).2 ∧ Grown start (serveBucket predict bucket endpoint).2 := by
  refine serveBucket_keeps (J := fun e => Budgeted e ∧ Grown start e) predict (fun group hgroup => ?_)
    (fun e warned he => ?_) (fun group hgroup frames hframes => ?_) h
  · obtain ⟨_, _, hlength, _⟩ := hready group hgroup
    exact hlength
  · exact ⟨⟨⟨he.1.accounted.routes, he.1.accounted.total⟩, he.1.within, he.1.limit⟩,
      ⟨he.2.present, he.2.absent, he.2.limit, he.2.horizons⟩⟩
  · refine ensures_of_left (fun e he => ?_)
    exact ⟨budgeted_finishGroup he.1 ((hready group hgroup).grown he.2) hframes,
      he.2.trans (grown_finishGroup e group frames)⟩

theorem budgeted_predictGrouped {endpoint : Endpoint V} (h : Budgeted endpoint) (predict : PredictFn V)
    {observations : List (ModelObservation V)} {marks : List Mark} (hmarks : Scheduled endpoint observations marks)
    (hknown : ∀ observation ∈ observations, Known endpoint observation)
    (halone : assemblesInParallel endpoint observations = true → Alone endpoint observations) :
    Budgeted (predictGrouped predict marks observations endpoint).2 := by
  unfold predictGrouped
  split
  · refine (inTurn_keeps (fun e => Budgeted e ∧ Grown endpoint e)
      (fun observation => (predictChunked predict observation).exec) observations
      (fun observation hobservation e he => ?_) ⟨h, .refl endpoint⟩).1
    exact ⟨budgeted_predictChunked he.1 predict ((hknown observation hobservation).grown he.2),
      he.2.trans (grown_predictChunked e predict observation)⟩
  · have hfits : Fits observations endpoint (stageAll observations endpoint marks) := by
      cases hparallel : assemblesInParallel endpoint observations with
      | true => exact fits_parallel h hknown (halone hparallel) marks
      | false =>
        rw [hmarks.2 hparallel]
        exact fits_inOrder h hknown observations.length
    have hstaged := staged_stageAll observations endpoint marks
    refine (inTurn_keeps (fun e => Budgeted e ∧ Grown (stageAll observations endpoint marks).endpoint e)
      (serveBucket predict) (bucketed (preparedGroups (stageAll observations endpoint marks) observations))
      (fun bucket hbucket e he => ?_) ⟨hfits.budgeted, .refl _⟩).1
    refine budgeted_serveBucket predict (fun group hgroup => ready_of_prepared hstaged ?_) he
    rw [mem_groupByKey hbucket] at hgroup
    exact (List.mem_filter.1 hgroup).1

/-! ## Route setup -/

section

variable {endpoint : Endpoint V}

theorem budgeted_dropRoute (h : Budgeted endpoint) (envId : String) : Budgeted (endpoint.dropRoute envId) := by
  have haccounted := h.accounted.dropRoute envId
  unfold Endpoint.dropRoute at haccounted ⊢
  split
  · exact h
  · rename_i entry hroute
    rw [hroute] at haccounted
    exact ⟨haccounted, (mapSum_erase_le _ _).trans h.within, h.limit⟩

theorem budgeted_replaceRoute (h : Budgeted endpoint) {envId : String} {entry : RouteEntry V}
    (hentry : entry.Accounted endpoint.historyLimit) (hnew : entry.buffers.episodes = 0) :
    Budgeted (endpoint.replaceRoute envId entry) := by
  have hdropped := budgeted_dropRoute h envId
  have hpublished : entry.published = 0 := by rw [hentry.published, hnew, saturatingMul_zero]
  have hwindows : entry.windows = 0 := by rw [RouteEntry.windows, hnew, Nat.zero_mul]
  refine ⟨h.accounted.replaceRoute hentry hpublished, ?_, hdropped.limit⟩
  show mapSum RouteEntry.windows ((endpoint.dropRoute envId).routes.insert envId entry) ≤ _
  rw [mapSum_insert, hwindows, Nat.zero_add]
  exact (mapSum_erase_le _ _).trans hdropped.within

theorem budgeted_resolveAdapter (h : Budgeted endpoint) (predict : PredictFn V) (request : ResolveRequest V) :
    Budgeted ((resolveAdapter predict request).exec endpoint).2 := by
  have hkeeps : Keeps (Budgeted (V := V)) (resolveAdapter predict request) := by
    refine keeps_bind (keeps_ofResult _) (fun _ => ?_)
    refine keeps_bind (keeps_ofResult _) (fun resolved => ?_)
    split
    · refine keeps_bind (ensures_modify _ (fun s hs => ?_)) (fun _ => keeps_pure _)
      exact ⟨⟨hs.accounted.routes, hs.accounted.total⟩, hs.within, hs.limit⟩
    · rename_i route
      refine ensures_get_bind (fun s hs => ?_)
      refine ensures_bind (Q := fun _ => (· = s)) (ensures_ofResult (fun _ _ _ ht => ht) (fun _ ht => ht ▸ hs))
        (fun history => ?_)
      refine ensures_bind (ensures_modify _ (fun t ht => ?_)) (fun _ => keeps_pure _)
      rw [show t = s from ht]
      exact budgeted_replaceRoute hs ⟨(saturatingMul_zero _).symm, rfl, rfl⟩ rfl
  exact hkeeps.exec h

theorem holds_evicted {buffers : FrameBuffers V} {episodeIds : List String} {id : String}
    (h : (evicted buffers episodeIds).holds id = true) : buffers.holds id = true := by
  unfold evicted at h
  split at h
  · cases h
  · revert h
    refine List.foldlRecOn (motive := fun b : FrameBuffers V => b.holds id = true → buffers.holds id = true)
      episodeIds _ (fun h => h) (fun b ih key _ h => ih ?_)
    rw [FrameBuffers.holds_iff, ← AList.mem_keys, FrameBuffers.evict, AList.mem_erase] at h
    exact FrameBuffers.holds_iff.2 (AList.mem_keys.1 h.2)

theorem budgeted_onBuffers (h : Budgeted endpoint) (envId : String) {change : FrameBuffers V → FrameBuffers V}
    (hchange : ∀ buffers id, (change buffers).holds id = true → buffers.holds id = true) :
    Budgeted (endpoint.onBuffers envId change) := by
  unfold Endpoint.onBuffers
  split
  · rename_i entry hroute
    have hcount := FrameBuffers.episodes_le (fun id hid => FrameBuffers.holds_iff.1 (hchange _ id hid) :
      FrameBuffers.Within (· ∈ entry.buffers.inner.keys) (change entry.buffers))
    refine (h.setRoute hroute 0 (ledger_publishHeld (h.accounted.ledger hroute) _) rfl hcount ?_).1
    rw [Nat.zero_mul]
    exact h.within
  · exact h

end

/-! ## Runs -/

/-- A request that opens no more windows than it is admitted for. -/
def Charged (endpoint : Endpoint V) : Request V → Prop
  | .predict _ observation => Known endpoint observation
  | .grouped _ observations _ => (∀ observation ∈ observations, Known endpoint observation) ∧
      (assemblesInParallel endpoint observations = true → Alone endpoint observations)
  | _ => True

theorem budgeted_serve {endpoint : Endpoint V} (h : Budgeted endpoint) {request : Request V}
    (hpossible : Possible endpoint request) (hcharged : Charged endpoint request) : Budgeted (endpoint.serve request) := by
  cases request with
  | resolve model request => exact budgeted_resolveAdapter h model request
  | predict model observation => exact budgeted_predictChunked h model hcharged
  | grouped model observations marks => exact budgeted_predictGrouped h model hpossible hcharged.1 hcharged.2
  | reset envId episodeIds =>
    have hreset : Budgeted (endpoint.onBuffers envId (evicted · episodeIds)) :=
      budgeted_onBuffers h envId (fun _ _ hid => holds_evicted hid)
    exact ⟨⟨hreset.accounted.routes, hreset.accounted.total⟩, hreset.within, hreset.limit⟩
  | release envId =>
    have hdropped := budgeted_dropRoute h envId
    exact ⟨⟨hdropped.accounted.routes, hdropped.accounted.total⟩, hdropped.within, hdropped.limit⟩
  | close =>
    exact List.foldlRecOn _ _ h (fun e he envId _ => budgeted_onBuffers he envId (fun _ _ hid => nomatch hid))

/-! ## Refusals -/

/-- The buffers of an env's route. -/
def Endpoint.buffersOf (endpoint : Endpoint V) (envId : String) : Option (FrameBuffers V) :=
  (endpoint.routes.lookup envId).map (·.buffers)

theorem buffersOf_setRoute_ne {endpoint : Endpoint V} {envId other : String} (h : other ≠ envId)
    (s : RouteEntry V × Cells) : (endpoint.setRoute envId s).buffersOf other = endpoint.buffersOf other := by
  rw [Endpoint.buffersOf, Endpoint.setRoute, AList.lookup_insert_ne h, Endpoint.buffersOf]

theorem buffersOf_onRoute_ne {α : Type} {envId other : String} (h : other ≠ envId) (endpoint : Endpoint V)
    (absent : Endpoint V → Except EngineError α) (m : Fallible (RouteEntry V × Cells) EngineError α) :
    ((onRoute envId absent m).exec endpoint).2.buffersOf other = endpoint.buffersOf other := by
  rw [onRoute, exec_ofFun]
  split
  · exact buffersOf_setRoute_ne h _
  · rfl

theorem buffersOf_refused (predict : PredictFn V) {endpoint : Endpoint V} {entry : RouteEntry V}
    {observation : ModelObservation V} {error : EngineError}
    (hroute : endpoint.routes.lookup observation.envId = some entry)
    (h : admitFreshLanes entry endpoint.cells.projected observation.episodes = .error error) :
    ((predictChunked predict observation).exec endpoint).1 = .error error ∧ ∀ envId,
      ((predictChunked predict observation).exec endpoint).2.buffersOf envId = endpoint.buffersOf envId := by
  rw [predictChunked, onRoute, exec_ofFun, hroute]
  dsimp only
  rw [predictRoute_refused predict h]
  refine ⟨rfl, fun envId => ?_⟩
  by_cases hne : envId = observation.envId
  · rw [hne, Endpoint.buffersOf, Endpoint.setRoute, AList.lookup_insert, Endpoint.buffersOf, hroute]
  · exact buffersOf_setRoute_ne hne _

/-- An env none of whose groups gets past the budget keeps its buffers through the staging. -/
theorem buffersOf_staging {observations : List (ModelObservation V)} {envId : String} {marks : List Mark}
    (hrest : Rest marks) {staging : Staging V} (hdone : ∀ index observation result, observations[index]? = some observation →
      observation.envId = envId → staging.stages index ≠ some (.assembled result))
    (hrefused : ∀ index observation, observations[index]? = some observation → observation.envId = envId →
      ∃ error, (marks.foldl (stageMark observations) staging).stages index = some (.refused error)) :
    (marks.foldl (stageMark observations) staging).endpoint.buffersOf envId = staging.endpoint.buffersOf envId := by
  induction marks generalizing staging with
  | nil => rfl
  | cons mark rest ih =>
    rw [List.foldl_cons] at hrefused ⊢
    have hmarked := marked observations staging mark
    generalize hnext : stageMark observations staging mark = next at hrefused hmarked ⊢
    cases hmarked with
    | unrouted _ | unseeded _ => exact ih hrest.tail hdone hrefused
    | @judged index observation entry hobservation hroute =>
      refine ih hrest.tail (fun other observation' result hother henv => ?_) hrefused
      dsimp only
      by_cases hne : other = index
      · rw [hne, Function.update_self, verdict]
        split <;> rintro ⟨⟩
      · rw [Function.update_of_ne hne]
        exact hdone other observation' result hother henv
    | @seeded index observation hobservation hstage =>
      have henv : observation.envId ≠ envId := by
        intro henv
        obtain ⟨error, hfinal⟩ := hrefused index observation hobservation henv
        rw [stages_of_marksOf_nil hrest.after_seed] at hfinal
        dsimp only at hfinal
        rw [Function.update_self] at hfinal
        cases hfinal
      rw [ih hrest.tail (fun other observation' result hother henv' => ?_) hrefused]
      · exact buffersOf_onRoute_ne henv.symm _ _ _
      · dsimp only
        have hne : other ≠ index := by
          rintro rfl
          rw [hobservation] at hother
          cases hother
          exact henv henv'
        rw [Function.update_of_ne hne]
        exact hdone other observation' result hother henv'

theorem buffersOf_predictGroupedFused (predict : PredictFn V) {endpoint : Endpoint V} {marks : List Mark}
    {observations : List (ModelObservation V)} (hmarks : Interleaving observations.length marks) {envId : String}
    (hrefused : ∀ index observation, observations[index]? = some observation → observation.envId = envId →
      ∃ error, (stageAll observations endpoint marks).stages index = some (.refused error)) :
    (predictGroupedFused predict marks observations endpoint).2.buffersOf envId = endpoint.buffersOf envId := by
  have hstaged := staged_stageAll observations endpoint marks
  have hsame : (stageAll observations endpoint marks).endpoint.buffersOf envId = endpoint.buffersOf envId :=
    buffersOf_staging hmarks.rest (fun _ _ _ _ _ => nofun) hrefused
  refine inTurn_keeps (fun e => e.buffersOf envId = endpoint.buffersOf envId) (serveBucket predict)
    (bucketed (preparedGroups (stageAll observations endpoint marks) observations)) (fun bucket hbucket e he => ?_) hsame
  have hprepared : ∀ group ∈ bucket.2, group ∈ preparedGroups (stageAll observations endpoint marks) observations := by
    intro group hgroup
    rw [mem_groupByKey hbucket] at hgroup
    exact (List.mem_filter.1 hgroup).1
  refine serveBucket_keeps (J := fun e => e.buffersOf envId = endpoint.buffersOf envId) predict
    (fun group hgroup => ?_) (fun _ _ h => h) (fun group hgroup frames _ => ?_) he
  · obtain ⟨_, _, hlength, _⟩ := ready_of_prepared hstaged (hprepared group hgroup)
    exact hlength
  · -- a prepared group was assembled, so it is not of this env
    obtain ⟨index, observation, entry, inputs, hobservation, -, hstage, rfl⟩ :=
      mem_preparedGroups.1 (hprepared group hgroup)
    have hne : envId ≠ observation.envId := by
      intro henv
      obtain ⟨error, hfinal⟩ := hrefused index observation hobservation henv.symm
      rw [hstage] at hfinal
      cases hfinal
    exact ensures_of_left fun e' he' => (buffersOf_onRoute_ne hne e' _ _).trans he'

/-! ## The bound -/

theorem historyLimit_serve (endpoint : Endpoint V) (request : Request V) :
    (endpoint.serve request).historyLimit = endpoint.historyLimit := by
  have hdrop : ∀ (e : Endpoint V) envId, (e.dropRoute envId).historyLimit = e.historyLimit := by
    intro e envId
    unfold Endpoint.dropRoute
    split <;> rfl
  have hchange : ∀ (e : Endpoint V) envId change, (e.onBuffers envId change).historyLimit = e.historyLimit := by
    intro e envId change
    unfold Endpoint.onBuffers
    split <;> rfl
  cases request with
  | resolve model request =>
    have hkeeps : Keeps (fun e : Endpoint V => e.historyLimit = endpoint.historyLimit) (resolveAdapter model request) := by
      refine keeps_bind (keeps_ofResult _) (fun _ => ?_)
      refine keeps_bind (keeps_ofResult _) (fun resolved => ?_)
      split
      · exact keeps_bind (ensures_modify _ (fun s hs => hs)) (fun _ => keeps_pure _)
      · refine keeps_bind keeps_get (fun _ => keeps_bind (keeps_ofResult _) (fun _ => ?_))
        exact keeps_bind (ensures_modify _ (fun s hs => (hdrop s _).trans hs)) (fun _ => keeps_pure _)
    exact hkeeps.exec rfl
  | predict model observation => exact (grown_predictChunked endpoint model observation).limit
  | grouped model observations marks => exact (grown_predictGrouped endpoint model marks observations).limit
  | reset envId episodeIds => exact hchange endpoint envId _
  | release envId => exact hdrop endpoint envId
  | close =>
    exact List.foldlRecOn (motive := fun e : Endpoint V => e.historyLimit = endpoint.historyLimit) _ _ rfl
      (fun e he envId _ => (hchange e envId _).trans he)

/-- In every run of requests that open no more windows than they are admitted
for, the windows of the held episodes stay within the budget; and a predict the
budget refuses, direct or grouped, leaves the buffers alone. -/
theorem windows_within_budget (limit : Nat) (hlimit : limit < u64Max) :
    (∀ endpoint : Endpoint V, (served limit).Reach (fun e request => Possible e request ∧ Charged e request) endpoint →
      endpoint.windows ≤ limit) ∧
    (∀ (predict : PredictFn V) (endpoint : Endpoint V) (entry : RouteEntry V) (observation : ModelObservation V)
      (error : EngineError), endpoint.routes.lookup observation.envId = some entry →
      admitFreshLanes entry endpoint.cells.projected observation.episodes = .error error →
      ((predictChunked predict observation).exec endpoint).1 = .error error ∧ ∀ envId,
        ((predictChunked predict observation).exec endpoint).2.buffersOf envId = endpoint.buffersOf envId) ∧
    (∀ (predict : PredictFn V) (endpoint : Endpoint V) (observations : List (ModelObservation V)) (marks : List Mark)
      (envId : String), Interleaving observations.length marks →
      (∀ index observation, observations[index]? = some observation → observation.envId = envId →
        ∃ error, (stageAll observations endpoint marks).stages index = some (.refused error)) →
      (predictGroupedFused predict marks observations endpoint).2.buffersOf envId = endpoint.buffersOf envId) := by
  refine ⟨fun endpoint hreach => ?_, fun predict endpoint entry observation error => buffersOf_refused predict,
    fun predict endpoint observations marks envId hmarks => buffersOf_predictGroupedFused predict hmarks⟩
  obtain ⟨hbudgeted, hfixed⟩ := hreach.inv (fun e => Budgeted e ∧ e.historyLimit = limit)
    ⟨⟨accounted_fresh limit, Nat.zero_le _, hlimit⟩, rfl⟩ (fun e request e' he hrequest hstep => by
      cases hstep
      exact ⟨budgeted_serve he.1 hrequest.1 hrequest.2, (historyLimit_serve e request).trans he.2⟩)
  exact hfixed ▸ hbudgeted.within

/-- Values without content. -/
def unitValues : Values :=
  { Lane := Unit, Obs := Unit, Value := Unit, Tensor := Unit, Action := Unit, Num := Unit
    stack := fun _ => .ok (), splitChunk := fun _ => .ok [()], valueSummary := fun _ => "" }

/-- One input stacked two frames deep, of one byte each. -/
def stackingAdapter : ResolvedAdapter unitValues :=
  { transformObs := fun _ _ => .ok ()
    stacked := [{ key := "pixels", depth := 2, span := 2, offsets := none, stackPad := .first, blackFrame := .ok, frameBytes := 1 }]
    previous := []
    historyFrames := fun _ => .ok [()]
    slot := fun _ _ => .ok (some ())
    setSlot := fun _ _ _ => ()
    repackAction := .ok
    transformAction := .ok
    numericVector := fun _ => .ok []
    inDim := 0
    hasCustoms := false }

def unitModel : PredictFn unitValues :=
  { predict := fun _ _ => .ok (), predictChunk := fun _ _ _ => .ok none, hasChunk := false
    predictBatch := fun inputs _ => .ok inputs, hasBatch := false
    predictChunkBatch := fun inputs _ _ => .ok inputs, hasChunkBatch := false
    predictSpecLessChunked := fun _ _ => .ok ⟨[], []⟩, allowFusion := false, nativeChunk := none, warn := fun _ => .ok () }

def stackingRoute (envId : String) : Request unitValues :=
  .resolve unitModel
    { envId, numEnvs := 1, resolved := .ok (some (stackingAdapter, .ok)), executionHorizon := 1, deliversHistory := true }

/-- A predict of one lane at step 1, with the history rows of step 0. -/
def oneLane (envId own : String) (rows : List String) : Request unitValues :=
  .predict unitModel
    { envId, episodes := [⟨own, none, envId⟩], numEnvs := 1, decodable := .ok (), lanes := .ok [()]
      laneCount := fun _ h => by cases h; rfl
      history := [{ lanes := .ok (rows.map (fun _ => ())), episodes := rows.map (⟨·, none, envId⟩), step := 0 }]
      step := some 1 }

/-- A run that stacks frames under a budget of two bytes. -/
theorem stacking_within_budget :
    ∃ endpoint : Endpoint unitValues, (served 2).Reach (fun e request => Possible e request ∧ Charged e request) endpoint ∧
      endpoint.windows = 2 ∧ endpoint.windows ≤ 2 := by
  have hknown : ∀ e, Charged e (oneLane "pong" "e" ["e"]) := by
    intro e entry _ _ frame hframe episode hepisode _
    cases List.mem_singleton.1 hframe
    cases List.mem_singleton.1 hepisode
    exact .inr ⟨0, rfl⟩
  obtain ⟨endpoint, hreach, hheld⟩ := System.exists_reach_of_runFrom (served 2)
    (fun e request => Possible e request ∧ Charged e request) (fun e => decide (e.windows = 2))
    [stackingRoute "pong", oneLane "pong" "e" ["e"]] ⟨⟨trivial, trivial⟩, ⟨trivial, hknown _⟩, trivial⟩ (by decide +kernel)
  exact ⟨endpoint, hreach, of_decide_eq_true hheld, (windows_within_budget 2 (by decide)).1 endpoint hreach⟩

/-- A history row that names an episode the request has no row for opens windows
nobody asked the budget for. -/
theorem stranger_over_budget :
    ∃ endpoint : Endpoint unitValues, (served 2).Reach Possible endpoint ∧ 2 < endpoint.windows := by
  obtain ⟨endpoint, hreach, hover⟩ := System.exists_reach_of_runFrom (served 2) Possible (fun e => decide (2 < e.windows))
    [stackingRoute "pong", oneLane "pong" "e" ["f"]] ⟨trivial, trivial, trivial⟩ (by decide +kernel)
  exact ⟨endpoint, hreach, of_decide_eq_true hover⟩

end Rlmesh.Engine
