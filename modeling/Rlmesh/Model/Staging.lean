import Rlmesh.Model.Held
/-!
# Grouped predicts grow routes

Whatever the schedule, a grouped predict only adds episodes to the buffers of
the routes it names (`Grown`), and a group it has assembled finds the episodes
of its rows held (`Ready`). Serving a bucket then opens no further episode.
-/
open Rlmesh.Lib Rlmesh.Lib.Fallible Rlmesh.Adapters

namespace Rlmesh.Engine

variable {V : Values}

/-! ## Routes that grow -/

/-- A route after more of its episodes were opened. -/
structure RouteEntry.Grown (before after : RouteEntry V) : Prop where
  config : after.config = before.config
  laneBytes : after.laneBytes = before.laneBytes
  holds : ∀ id, before.buffers.holds id = true → after.buffers.holds id = true

/-- The same routes, each grown. -/
structure Grown (before after : Endpoint V) : Prop where
  present : ∀ envId entry, before.routes.lookup envId = some entry →
    ∃ entry', after.routes.lookup envId = some entry' ∧ entry.Grown entry'
  absent : ∀ envId, before.routes.lookup envId = none → after.routes.lookup envId = none
  limit : after.historyLimit = before.historyLimit
  horizons : after.specLessHorizons = before.specLessHorizons

theorem RouteEntry.Grown.refl (entry : RouteEntry V) : entry.Grown entry := ⟨rfl, rfl, fun _ h => h⟩

theorem RouteEntry.Grown.trans {a b c : RouteEntry V} (hab : a.Grown b) (hbc : b.Grown c) : a.Grown c :=
  ⟨hbc.config.trans hab.config, hbc.laneBytes.trans hab.laneBytes, fun id h => hbc.holds id (hab.holds id h)⟩

theorem Grown.refl (endpoint : Endpoint V) : Grown endpoint endpoint :=
  ⟨fun _ entry h => ⟨entry, h, .refl entry⟩, fun _ h => h, rfl, rfl⟩

theorem Grown.trans {a b c : Endpoint V} (hab : Grown a b) (hbc : Grown b c) : Grown a c := by
  refine ⟨fun envId entry h => ?_, fun envId h => hbc.absent envId (hab.absent envId h),
    hbc.limit.trans hab.limit, hbc.horizons.trans hab.horizons⟩
  obtain ⟨entry', h', hgrown⟩ := hab.present envId entry h
  obtain ⟨entry'', h'', hgrown'⟩ := hbc.present envId entry' h'
  exact ⟨entry'', h'', hgrown.trans hgrown'⟩

theorem grown_setRoute {endpoint : Endpoint V} {envId : String} {entry : RouteEntry V} {s : RouteEntry V × Cells}
    (hroute : endpoint.routes.lookup envId = some entry) (h : entry.Grown s.1) :
    Grown endpoint (endpoint.setRoute envId s) := by
  refine ⟨fun other route hother => ?_, fun other hother => ?_, rfl, rfl⟩
  · by_cases hne : other = envId
    · subst hne
      rw [hroute] at hother
      cases hother
      exact ⟨s.1, AList.lookup_insert _, h⟩
    · exact ⟨route, by rw [Endpoint.setRoute, AList.lookup_insert_ne hne, hother], .refl route⟩
  · have hne : other ≠ envId := by
      rintro rfl
      rw [hroute] at hother
      cases hother
    rw [Endpoint.setRoute, AList.lookup_insert_ne hne, hother]

variable {α : Type} {observations : List (ModelObservation V)} {staging : Staging V} {index : Nat}
  {group : Prepared V}

theorem keeps_grown_publishing {m : RouteConfig V → Fallible (FrameBuffers V) EngineError α}
    (hm : ∀ config key, Keeps (fun buffers : FrameBuffers V => buffers.holds key = true) (m config))
    (entry : RouteEntry V) : Keeps (fun s : RouteEntry V × Nat => entry.Grown s.1) (publishing m) := by
  refine ensures_of_left (fun s hs => hs.trans ⟨rfl, rfl, fun id hid => ?_⟩)
  exact (hm s.1.config id).exec hid

theorem grown_onHeld {endpoint : Endpoint V} {envId : String} {absent : Endpoint V → Except EngineError α}
    {m : RouteConfig V → Fallible (FrameBuffers V) EngineError α}
    (hm : ∀ config key, Keeps (fun buffers : FrameBuffers V => buffers.holds key = true) (m config)) :
    Grown endpoint ((onRoute envId absent (onHeld (publishing m))).exec endpoint).2 := by
  rw [onRoute, exec_ofFun]
  split
  · rename_i entry hroute
    exact grown_setRoute hroute ((keeps_grown_publishing hm entry).exec (s := (entry, _)) (.refl entry))
  · exact .refl endpoint

theorem finishFrames_keeps_holds (config : RouteConfig V) (frames : List (List V.Value)) (episodes : List EpisodeInfo)
    (key : String) : Keeps (fun buffers : FrameBuffers V => buffers.holds key = true) (finishFrames config frames episodes) :=
  keeps_finishFrames (P := fun _ => True) (fun id _ _ episode h => FrameBuffers.set_keeps_holds h id episode) config
    frames episodes (fun _ _ _ => trivial)

theorem grown_seedRoute (endpoint : Endpoint V) (observation : ModelObservation V) :
    Grown endpoint ((seedRoute observation).exec endpoint).2 :=
  grown_onHeld (fun config key => assembleInputs_keeps_holds config observation key)

theorem grown_finishGroup (endpoint : Endpoint V) (group : Prepared V) (frames : List (List V.Value)) :
    Grown endpoint ((finishGroup group frames).exec endpoint).2 :=
  grown_onHeld (fun config key => finishFrames_keeps_holds config frames group.episodes key)

/-! ## Assembled groups -/

/-- The inputs of a request were assembled on its route, whose episodes are still held. -/
def Ready (endpoint : Endpoint V) (observation : ModelObservation V) (inputs : List V.Value) : Prop :=
  ∃ entry, endpoint.routes.lookup observation.envId = some entry ∧ inputs.length = observation.numEnvs ∧
    ∀ index < observation.numEnvs, ∃ id, laneEpisode observation index = .ok id ∧
      (entry.config.Stateful → entry.buffers.holds id = true)

theorem Ready.grown {before after : Endpoint V} {observation : ModelObservation V} {inputs : List V.Value}
    (h : Ready before observation inputs) (hgrown : Grown before after) : Ready after observation inputs := by
  obtain ⟨entry, hroute, hlength, hrows⟩ := h
  obtain ⟨entry', hroute', hentry⟩ := hgrown.present _ entry hroute
  refine ⟨entry', hroute', hlength, fun index hindex => ?_⟩
  obtain ⟨id, hid, hheld⟩ := hrows index hindex
  exact ⟨id, hid, fun hstateful => hentry.holds id (hheld (hentry.config ▸ hstateful))⟩

theorem ready_seedRoute {endpoint left : Endpoint V} {observation : ModelObservation V} {inputs : List V.Value}
    (h : (seedRoute observation).exec endpoint = (.ok inputs, left)) : Ready left observation inputs := by
  rw [seedRoute, onRoute, exec_ofFun] at h
  split at h
  · rename_i entry hroute
    obtain ⟨hresult, rfl⟩ := Prod.mk.inj h
    have hran : (assembleInputs entry.config observation).exec entry.buffers =
        (.ok inputs, ((assembleInputs entry.config observation).exec entry.buffers).2) := Prod.ext hresult rfl
    obtain ⟨hlength, hrows⟩ := assembleInputs_rows hran
    exact ⟨_, AList.lookup_insert _, hlength, hrows⟩
  · cases (Prod.mk.inj h).1

/-- What holds of a staging at every point. -/
structure Staged (observations : List (ModelObservation V)) (start : Endpoint V) (staging : Staging V) : Prop where
  grown : Grown start staging.endpoint
  ready : ∀ index observation inputs, observations[index]? = some observation →
    staging.stages index = some (.assembled (.ok inputs)) → Ready staging.endpoint observation inputs

theorem Staged.mark {start : Endpoint V} (h : Staged observations start staging) (mark : Mark) :
    Staged observations start (stageMark observations staging mark) := by
  generalize hnext : stageMark observations staging mark = next
  cases hnext ▸ marked observations staging mark with
  | unrouted _ | unseeded _ => exact h
  | @judged index observation entry hobservation hroute =>
    refine ⟨h.grown, fun other observation' inputs hother hstage => ?_⟩
    dsimp only at hstage
    by_cases hne : other = index
    · rw [hne, Function.update_self, verdict] at hstage
      split at hstage <;> cases hstage
    · rw [Function.update_of_ne hne] at hstage
      exact h.ready other observation' inputs hother hstage
  | @seeded index observation hobservation hstage =>
    have hstep := grown_seedRoute staging.endpoint observation
    refine ⟨h.grown.trans hstep, fun other observation' inputs hother hassembled => ?_⟩
    dsimp only at hassembled
    by_cases hne : other = index
    · rw [hne, hobservation] at hother
      cases hother
      rw [hne, Function.update_self] at hassembled
      injection hassembled with hassembled
      injection hassembled with hok
      exact ready_seedRoute (Prod.ext hok rfl)
    · rw [Function.update_of_ne hne] at hassembled
      exact (h.ready other observation' inputs hother hassembled).grown hstep

theorem staged_stageAll (observations : List (ModelObservation V)) (endpoint : Endpoint V) (marks : List Mark) :
    Staged observations endpoint (stageAll observations endpoint marks) := by
  refine List.foldlRecOn marks (stageMark observations) ?_ (fun staging h mark _ => h.mark mark)
  exact ⟨.refl endpoint, fun index observation inputs _ h => nomatch h⟩

/-! ## The rest of a schedule -/

/-- The marks of one group. -/
def marksOf (marks : List Mark) (index : Nat) : List Mark := marks.filter (fun mark => mark.index = index)

/-- What is left of a schedule: of each group both marks, the second one, or none. -/
def Rest (marks : List Mark) : Prop := ∀ index, marksOf marks index <:+ [.admits index, .seed index]

theorem Interleaving.rest {count : Nat} {marks : List Mark} (h : Interleaving count marks) : Rest marks := by
  intro index
  have hmarks := h index
  unfold marksOf
  split at hmarks
  · exact hmarks ▸ List.suffix_rfl
  · exact hmarks ▸ List.nil_suffix

theorem marksOf_cons (mark : Mark) (rest : List Mark) (index : Nat) :
    marksOf (mark :: rest) index = if mark.index = index then mark :: marksOf rest index else marksOf rest index := by
  unfold marksOf
  by_cases h : mark.index = index <;> simp [h]

theorem Rest.tail {mark : Mark} {rest : List Mark} (h : Rest (mark :: rest)) : Rest rest := by
  intro index
  have hmarks := h index
  rw [marksOf_cons] at hmarks
  split at hmarks
  · exact (List.suffix_cons _ _).trans hmarks
  · exact hmarks

theorem Rest.after_seed {rest : List Mark} (h : Rest (.seed index :: rest)) : marksOf rest index = [] := by
  have hmarks := h index
  rw [marksOf_cons, Mark.index, if_pos rfl] at hmarks
  rcases List.suffix_cons_iff.1 hmarks with hsame | hsuffix
  · cases hsame
  · rcases List.suffix_cons_iff.1 hsuffix with hsame | hsuffix
    · exact (List.cons.inj hsame).2
    · exact absurd (List.suffix_nil.1 hsuffix) nofun

theorem stages_of_ne {mark : Mark} (h : mark.index ≠ index) :
    (stageMark observations staging mark).stages index = staging.stages index := by
  generalize hnext : stageMark observations staging mark = next
  cases hnext ▸ marked observations staging mark with
  | unrouted _ | unseeded _ => rfl
  | judged _ _ | seeded _ _ => exact Function.update_of_ne (Ne.symm h) _ _

theorem stages_of_marksOf_nil {marks : List Mark} (h : marksOf marks index = []) (staging : Staging V) :
    (marks.foldl (stageMark observations) staging).stages index = staging.stages index := by
  induction marks generalizing staging with
  | nil => rfl
  | cons mark rest ih =>
    rw [marksOf_cons] at h
    split at h
    · cases h
    · rename_i hne
      rw [List.foldl_cons, ih h, stages_of_ne hne]

/-! ## Buckets -/

/-- A prepared group whose episodes are held by its route. -/
def Prepared.Ready (group : Prepared V) (endpoint : Endpoint V) : Prop :=
  ∃ entry, endpoint.routes.lookup group.envId = some entry ∧ group.inputs.length = group.numEnvs ∧
    (entry.config.adapter.readsPreviousAction = true → ∀ index < group.numEnvs,
      entry.buffers.holds (rowEpisode group.episodes index) = true)

theorem Prepared.Ready.grown {before after : Endpoint V} (h : group.Ready before) (hgrown : Grown before after) :
    group.Ready after := by
  obtain ⟨entry, hroute, hlength, hrows⟩ := h
  obtain ⟨entry', hroute', hentry⟩ := hgrown.present _ entry hroute
  refine ⟨entry', hroute', hlength, fun hreads index hindex => ?_⟩
  exact hentry.holds _ (hrows (hentry.config ▸ hreads) index hindex)

theorem mem_preparedGroups :
    group ∈ preparedGroups staging observations ↔ ∃ index observation entry inputs,
      observations[index]? = some observation ∧ staging.endpoint.routes.lookup observation.envId = some entry ∧
      staging.stages index = some (.assembled (.ok inputs)) ∧ group =
        { index, inputs, episodes := observation.episodes, envId := observation.envId
          horizon := max entry.config.executionHorizon 1, numEnvs := observation.numEnvs } := by
  unfold preparedGroups
  rw [List.mem_filterMap]
  constructor
  · rintro ⟨⟨observation, index⟩, hmem, h⟩
    rw [List.mem_zipIdx_iff_getElem?] at hmem
    dsimp only at h hmem
    split at h
    · rename_i entry inputs hroute hstage
      cases h
      exact ⟨index, observation, entry, inputs, hmem, hroute, hstage, rfl⟩
    · cases h
  · rintro ⟨index, observation, entry, inputs, hobservation, hroute, hstage, rfl⟩
    refine ⟨(observation, index), List.mem_zipIdx_iff_getElem?.2 hobservation, ?_⟩
    dsimp only
    rw [hroute, hstage]

theorem ready_of_prepared {start : Endpoint V} (h : Staged observations start staging)
    (hgroup : group ∈ preparedGroups staging observations) : group.Ready staging.endpoint := by
  obtain ⟨index, observation, entry, inputs, hobservation, hroute, hstage, rfl⟩ := mem_preparedGroups.1 hgroup
  obtain ⟨entry', hroute', hlength, hrows⟩ := h.ready index observation inputs hobservation hstage
  rw [hroute] at hroute'
  cases hroute'
  refine ⟨entry, hroute, hlength, fun hreads lane hlane => ?_⟩
  obtain ⟨id, hid, hheld⟩ := hrows lane hlane
  rw [rowEpisode_eq hid]
  exact hheld (.inl hreads)

theorem mem_splitLanes {groups : List (Prepared V)} {frames : List (List V.Value)}
    {cut : Prepared V × List (List V.Value)} (h : cut ∈ splitLanes groups frames) :
    cut.1 ∈ groups ∧ cut.2.length ≤ cut.1.inputs.length := by
  induction groups generalizing frames with
  | nil => cases h
  | cons group rest ih =>
    rw [splitLanes] at h
    rcases List.mem_cons.1 h with rfl | h
    · exact ⟨List.mem_cons_self, List.length_take_le _ _⟩
    · exact ⟨List.mem_cons_of_mem _ (ih h).1, (ih h).2⟩

theorem warning_ok {m : Fallible (List String) EngineError α} {endpoint left : Endpoint V} {a : α}
    (h : (warning m).exec endpoint = (.ok a, left)) : ∃ warned, m.exec endpoint.cells.warned = (.ok a, warned) := by
  rw [warning, exec_zoom] at h
  exact ⟨_, Prod.ext (Prod.mk.inj h).1 rfl⟩

section

variable {J : Endpoint V → Prop} (predict : PredictFn V) {bucket : Nat × List (Prepared V)}
  (hinputs : ∀ group ∈ bucket.2, group.inputs.length = group.numEnvs)
  (hwarned : ∀ endpoint warned, J endpoint → J { endpoint with cells := { endpoint.cells with warned } })
  (hfinished : ∀ group ∈ bucket.2, ∀ frames : List (List V.Value), frames.length ≤ group.numEnvs →
    Keeps J (finishGroup group frames))
include hinputs hwarned hfinished

theorem keeps_serveGroup {group : Prepared V} (hgroup : group ∈ bucket.2) :
    Keeps J (serveGroup predict bucket.1 group) := by
  refine ensures_bind (Q := fun frames endpoint => J endpoint ∧ frames.length = group.numEnvs) ?_ (fun frames => ?_)
  · rw [ensures_iff]
    refine ⟨fun endpoint frames left hj hr => ?_, fun endpoint error left hj hr => ?_⟩
    · obtain ⟨warned, hcall⟩ := warning_ok hr
      rw [dispatchRouteCorners, exec_mapError_ok] at hcall
      refine ⟨?_, dispatchCorners_length (hinputs group hgroup) hcall⟩
      rw [warning, exec_zoom] at hr
      exact (Prod.mk.inj hr).2 ▸ hwarned endpoint _ hj
    · rw [warning, exec_zoom] at hr
      exact (Prod.mk.inj hr).2 ▸ hwarned endpoint _ hj
  · exact ensures_of_left fun endpoint h => (hfinished group hgroup frames h.2.le).exec h.1

theorem serveBucket_keeps {endpoint : Endpoint V} (h : J endpoint) : J (serveBucket predict bucket endpoint).2 := by
  unfold serveBucket
  split
  · have hcalled : J ((warning (fusedCall predict bucket.1 bucket.2)).exec endpoint).2 := hwarned endpoint _ h
    unfold serveFused
    dsimp only
    split
    · refine inTurn_keeps J _ _ (fun cut hcut e he => ?_) hcalled
      obtain ⟨hgroup, hlength⟩ := mem_splitLanes hcut
      exact (hfinished cut.1 hgroup cut.2 (hinputs cut.1 hgroup ▸ hlength)).exec he
    · exact hcalled
  · refine inTurn_keeps J _ _ (fun group hgroup e he => ?_) h
    exact (keeps_serveGroup predict hinputs hwarned hfinished hgroup).exec he

end

theorem grown_predictChunked (endpoint : Endpoint V) (predict : PredictFn V) (observation : ModelObservation V) :
    Grown endpoint ((predictChunked predict observation).exec endpoint).2 := by
  rw [predictChunked, onRoute, exec_ofFun]
  split
  · rename_i entry hroute
    have hkeeps := keeps_predictRoute_of predict (keeps_grown_publishing
      (fun config key => assembleInputs_keeps_holds config observation key) entry)
      (fun frames => keeps_grown_publishing
        (fun config key => finishFrames_keeps_holds config frames observation.episodes key) entry)
    exact grown_setRoute hroute (hkeeps.exec (s := (entry, endpoint.cells)) (RouteEntry.Grown.refl entry))
  · exact .refl endpoint

theorem grown_predictGrouped (endpoint : Endpoint V) (predict : PredictFn V) (marks : List Mark)
    (observations : List (ModelObservation V)) : Grown endpoint (predictGrouped predict marks observations endpoint).2 := by
  unfold predictGrouped
  split
  · exact inTurn_keeps (Grown endpoint) (fun observation => (predictChunked predict observation).exec) observations
      (fun observation _ e he => he.trans (grown_predictChunked e predict observation)) (.refl endpoint)
  · have hstaged := staged_stageAll observations endpoint marks
    refine inTurn_keeps (Grown endpoint) (serveBucket predict)
      (bucketed (preparedGroups (stageAll observations endpoint marks) observations)) (fun bucket hbucket e he => ?_)
      hstaged.grown
    refine serveBucket_keeps (J := Grown endpoint) predict (fun group hgroup => ?_)
      (fun e' warned he' => ⟨he'.present, he'.absent, he'.limit, he'.horizons⟩)
      (fun group _ frames _ => ensures_of_left fun e' he' => he'.trans (grown_finishGroup e' group frames)) he
    rw [mem_groupByKey hbucket] at hgroup
    obtain ⟨_, _, hlength, _⟩ := ready_of_prepared hstaged (List.mem_filter.1 hgroup).1
    exact hlength

end Rlmesh.Engine
