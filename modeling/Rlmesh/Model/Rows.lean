import Rlmesh.Adapters.Held
import Rlmesh.Lib.Results
import Rlmesh.Model.Engine
/-!
# The episodes a request touches

Assembling a request touches the entries of the episodes its own rows name and,
on a route that negotiated history, of those its history rows name; turning the
model's frames into actions touches those of its own rows.
-/
open Rlmesh.Lib Rlmesh.Lib.Fallible Rlmesh.Adapters

namespace Rlmesh.Engine

variable {V : Values}

theorem laneEpisode_ok {observation : ModelObservation V} {index : Nat} {id : String} :
    laneEpisode observation index = .ok id ↔
      (∃ episode, observation.episodes[index]? = some episode ∧ episode.episodeId = id) ∧ id ≠ "" := by
  unfold laneEpisode
  cases hrow : observation.episodes[index]? with
  | none => simp
  | some episode =>
    by_cases hid : episode.episodeId = ""
    · simp only [Option.map_some, Option.filter, hid, ne_eq, not_true_eq_false, decide_false, Bool.false_eq_true, if_false]
      constructor
      · intro h
        cases h
      · rintro ⟨⟨_, hsome, hname⟩, hne⟩
        cases hsome
        exact absurd (hname.symm.trans hid) hne
    · simp only [Option.map_some, Option.filter, hid, ne_eq, not_false_eq_true, decide_true, if_true]
      constructor
      · intro h
        cases h
        exact ⟨⟨episode, rfl, rfl⟩, hid⟩
      · rintro ⟨⟨_, hsome, hname⟩, -⟩
        cases hsome
        rw [hname]

/-! ## Assembly -/

section

variable {P : String → Prop} {I : FrameBuffers V → Prop}
  (hset : ∀ id, P id → ∀ buffers episode, I buffers → I (buffers.set id episode)) (config : RouteConfig V)
include hset

theorem keeps_ingestRow (step : Int) (row : V.Lane × EpisodeInfo) (hrow : row.2.episodeId ≠ "" → P row.2.episodeId) :
    Keeps I (ingestRow config step row) := by
  unfold ingestRow
  dsimp only
  split
  · exact keeps_throw _
  · rename_i hid
    have hthis := hset _ (hrow hid)
    refine keeps_bind (keeps_mapError (keeps_onEpisode hthis _)) (fun _ => ?_)
    exact keeps_bind (keeps_ofResult _) (fun raw => keeps_mapError (keeps_observeObs hthis _ raw))

theorem keeps_ingestFrame (frame : HistoryFrame V)
    (hframe : ∀ episode ∈ frame.episodes, episode.episodeId ≠ "" → P episode.episodeId) :
    Keeps I (ingestFrame config frame) := by
  refine keeps_bind (keeps_ofResult _) (fun lanes => ?_)
  split
  · exact keeps_throw _
  · refine keeps_bind (keeps_mapM (fun row hrow => ?_)) (fun _ => keeps_pure _)
    exact keeps_ingestRow hset config frame.step row (hframe row.2 (List.of_mem_zip hrow).2)

variable (observation : ModelObservation V)
  (hhistory : config.deliversHistory = true → ∀ frame ∈ observation.history, ∀ episode ∈ frame.episodes,
    episode.episodeId ≠ "" → P episode.episodeId)
include hhistory

theorem keeps_stampedStep : Keeps I (stampedStep config observation) := by
  unfold stampedStep
  split
  · rename_i hdelivers
    refine keeps_bind ?_ (fun _ => ?_)
    · refine keeps_bind (keeps_mapM (fun frame hframe => ?_)) (fun _ => keeps_pure _)
      exact keeps_ingestFrame hset config frame (hhistory hdelivers frame hframe)
    · split
      · exact keeps_pure _
      · exact keeps_throw _
  · split
    · exact keeps_pure _
    · exact keeps_throw _

omit hhistory in
theorem keeps_assembleLane (stamped : Option Int) (lane : V.Lane × Nat)
    (hown : ∀ id, laneEpisode observation lane.2 = .ok id → P id) :
    Keeps I (assembleLane config observation stamped lane) := by
  refine keeps_ofResult_bind (fun id hlane => ?_)
  have hthis := hset id (hown id hlane)
  refine keeps_bind (keeps_bind keeps_get (fun _ => keeps_pure _)) (fun step => ?_)
  refine keeps_bind ?_ (fun _ => ?_)
  · unfold countStep
    split
    · exact keeps_mapError (keeps_onEpisode hthis _)
    · exact keeps_pure _
  · exact keeps_bind (keeps_ofResult _) (fun raw => keeps_mapError (keeps_assembleObs hthis _ raw step))

theorem keeps_assembleInputs (hown : ∀ index id, laneEpisode observation index = .ok id → P id) :
    Keeps I (assembleInputs config observation) := by
  refine keeps_bind (keeps_ofResult _) (fun _ => ?_)
  refine keeps_bind (keeps_stampedStep hset config observation hhistory) (fun stamped => ?_)
  refine keeps_bind (keeps_ofResult _) (fun decoded => ?_)
  exact keeps_mapM (fun lane _ => keeps_assembleLane hset config observation stamped lane (hown lane.2))

end

theorem assembleInputs_keeps_holds (config : RouteConfig V) (observation : ModelObservation V) (key : String) :
    Keeps (fun buffers : FrameBuffers V => buffers.holds key = true) (assembleInputs config observation) :=
  keeps_assembleInputs (P := fun _ => True) (fun id _ _ episode h => FrameBuffers.set_keeps_holds h id episode) config
    observation (fun _ _ _ _ _ _ => trivial) (fun _ _ _ => trivial)

/-- The route keeps something for the episodes of its rows. -/
def RouteConfig.Stateful (config : RouteConfig V) : Prop :=
  config.adapter.readsPreviousAction = true ∨ config.adapter.stacked ≠ []

theorem assembleLane_holds {config : RouteConfig V} {observation : ModelObservation V} {stamped : Option Int}
    {lane : V.Lane × Nat} {buffers left : FrameBuffers V} {input : V.Value}
    (h : (assembleLane config observation stamped lane).exec buffers = (.ok input, left)) :
    ∃ id, laneEpisode observation lane.2 = .ok id ∧ (config.Stateful → left.holds id = true) := by
  obtain ⟨id, buffers₁, hlane, h⟩ := exec_bind_ok.1 h
  obtain ⟨step, buffers₂, -, h⟩ := exec_bind_ok.1 h
  obtain ⟨counted, buffers₃, hcount, h⟩ := exec_bind_ok.1 h
  obtain ⟨raw, buffers₄, hraw, h⟩ := exec_bind_ok.1 h
  rw [exec_mapError_ok] at h
  refine ⟨id, (Prod.mk.inj hlane).1, ?_⟩
  rintro (hreads | hstacked)
  · have hheld : buffers₃.holds id = true := by
      rw [countStep, if_pos (by simp [hreads]), exec_mapError_ok] at hcount
      exact holds_onEpisode hcount
    have hkeeps := keeps_assembleObs (I := fun b : FrameBuffers V => b.holds id = true)
      (fun b episode hb => FrameBuffers.set_keeps_holds hb id episode) config.adapter raw step
    rw [exec_ofResult] at hraw
    exact hkeeps.ok ((Prod.mk.inj hraw).2 ▸ hheld) h
  · exact holds_assembleObs hstacked h

/-- What an assembled request is: an input per lane, and a named episode behind each. -/
theorem assembleInputs_rows {config : RouteConfig V} {observation : ModelObservation V} {buffers left : FrameBuffers V}
    {inputs : List V.Value} (h : (assembleInputs config observation).exec buffers = (.ok inputs, left)) :
    inputs.length = observation.numEnvs ∧ ∀ index < observation.numEnvs,
      ∃ id, laneEpisode observation index = .ok id ∧ (config.Stateful → left.holds id = true) := by
  obtain ⟨decodable, buffers₁, -, h⟩ := exec_bind_ok.1 h
  obtain ⟨stamped, buffers₂, -, h⟩ := exec_bind_ok.1 h
  obtain ⟨decoded, buffers₃, hlanes, h⟩ := exec_bind_ok.1 h
  rw [exec_ofResult] at hlanes
  have hcount := observation.laneCount decoded (Prod.mk.inj hlanes).1
  refine ⟨by rw [length_mapM h, List.length_zipIdx, hcount], fun index hindex => ?_⟩
  have hlane : (decoded[index], index) ∈ decoded.zipIdx := by
    rw [List.mem_zipIdx_iff_getElem?]
    exact List.getElem?_eq_getElem (by omega)
  have hall := mapM_establishes (Q := fun (lane : V.Lane × Nat) (b : FrameBuffers V) =>
    ∃ id, laneEpisode observation lane.2 = .ok id ∧ (config.Stateful → b.holds id = true))
    (fun lane _ s b s' hs => assembleLane_holds hs) ?_ h
  · exact hall _ hlane
  · intro lane _ other _
    refine ensures_of_left (fun s hs => ?_)
    obtain ⟨id, hid, hheld⟩ := hs
    refine ⟨id, hid, fun hstateful => ?_⟩
    have hkeeps := keeps_assembleLane (P := fun _ => True) (I := fun b : FrameBuffers V => b.holds id = true)
      (fun key _ _ episode hb => FrameBuffers.set_keeps_holds hb key episode) config observation stamped lane
      (fun _ _ => trivial)
    exact hkeeps.exec (hheld hstateful)

/-! ## Frames -/

/-- The episode whose actions a lane's frames are recorded for. -/
def rowEpisode (episodes : List EpisodeInfo) (index : Nat) : String := episodes[index]?.elim "" (·.episodeId)

theorem rowEpisode_eq {observation : ModelObservation V} {index : Nat} {id : String}
    (h : laneEpisode observation index = .ok id) : rowEpisode observation.episodes index = id := by
  obtain ⟨⟨episode, hrow, hname⟩, -⟩ := laneEpisode_ok.1 h
  rw [rowEpisode, hrow, Option.elim_some, hname]

theorem keeps_finishFrames {P : String → Prop} {I : FrameBuffers V → Prop}
    (hset : ∀ id, P id → ∀ buffers episode, I buffers → I (buffers.set id episode)) (config : RouteConfig V)
    (frames : List (List V.Value)) (episodes : List EpisodeInfo)
    (hown : config.adapter.readsPreviousAction = true → ∀ index < frames.length, P (rowEpisode episodes index)) :
    Keeps I (finishFrames config frames episodes) := by
  refine keeps_bind (keeps_mapM (fun lane hlane => ?_)) (fun _ => keeps_pure _)
  have hindex : lane.2 < frames.length := List.snd_lt_of_mem_zipIdx hlane
  refine keeps_bind keeps_get (fun buffers => ?_)
  refine keeps_bind (keeps_mapError (keeps_mapM (fun frame _ => ?_))) (fun applied => ?_)
  · exact keeps_applyActions config.adapter (fun hreads => hset _ (hown hreads lane.2 hindex)) frame.1 _
  · split
    · exact keeps_pure _
    · exact keeps_throw _

theorem dispatchCorners_length {predict : PredictFn V} {inputs : List V.Value} {episodes : List EpisodeInfo}
    {horizon numEnvs : Nat} (hinputs : inputs.length = numEnvs) {warned left : List String}
    {frames : List (List V.Value)}
    (h : (dispatchCorners predict inputs episodes horizon numEnvs).exec warned = (.ok frames, left)) :
    frames.length = numEnvs := by
  have hrows : ∀ {corner what : String} {answers : Except EngineError (List V.Value)} {rows : List V.Value},
      rowsOf corner what answers numEnvs = .ok rows → rows.length = numEnvs := by
    intro corner what answers rows hrows
    obtain ⟨rows', -, hrows⟩ := bind_ok.1 hrows
    split at hrows
    · cases hrows
    · rename_i hlen
      cases hrows
      exact not_not.1 hlen
  unfold dispatchCorners at h
  split_ifs at h
  · cases h
  · obtain ⟨chunks, warned₁, hchunks, h⟩ := exec_bind_ok.1 h
    rw [length_mapM h, List.length_zipIdx, hrows (Prod.mk.inj hchunks).1]
  · rw [length_mapM h, List.length_zipIdx, hinputs]
  · obtain ⟨actions, warned₁, hactions, h⟩ := exec_bind_ok.1 h
    cases h
    rw [List.length_map, hrows (Prod.mk.inj hactions).1]
  · rw [length_mapM h, List.length_zipIdx, hinputs]

end Rlmesh.Engine
