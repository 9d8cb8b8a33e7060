import Rlmesh.Adapters.Stateful
/-!
# Which episodes the buffers hold

Every operation of the per-lane seam touches the entry of the one episode it is
given. So whatever survives a change of that entry survives the operation; two
such conditions are used, that no episode outside a set is held (`Within`) and
that a given one is.
-/
open Rlmesh.Lib.Fallible

namespace Rlmesh.Adapters

variable {V : Values}

namespace FrameBuffers

theorem holds_iff {buffers : FrameBuffers V} {id : String} : buffers.holds id = true ↔ id ∈ buffers.inner.keys := by
  rw [holds, AList.lookup_isSome, AList.mem_keys]

theorem holds_set {buffers : FrameBuffers V} {id key : String} {episode : EpisodeWindows V} :
    (buffers.set id episode).holds key = true ↔ key = id ∨ buffers.holds key = true := by
  rw [holds_iff, holds_iff, ← AList.mem_keys, set, AList.mem_insert, AList.mem_keys]

/-- Only episodes in `P` are held. -/
def Within (P : String → Prop) (buffers : FrameBuffers V) : Prop := ∀ id, buffers.holds id = true → P id

theorem Within.set {P : String → Prop} {buffers : FrameBuffers V} (h : Within P buffers) {id : String} (hid : P id)
    (episode : EpisodeWindows V) : Within P (buffers.set id episode) := by
  intro key hkey
  rcases holds_set.1 hkey with rfl | hkey
  · exact hid
  · exact h key hkey

theorem set_keeps_holds {buffers : FrameBuffers V} {key : String} (h : buffers.holds key = true) (id : String)
    (episode : EpisodeWindows V) : (buffers.set id episode).holds key = true := holds_set.2 (.inr h)

/-- At most the episodes of a list are held: no more of them than the list is long. -/
theorem episodes_le {buffers : FrameBuffers V} {ids : List String} (h : Within (· ∈ ids) buffers) :
    buffers.episodes ≤ ids.length :=
  (List.subperm_of_subset buffers.inner.keys_nodup (fun id hid => h id (holds_iff.2 hid))).length_le

end FrameBuffers

/-! ## The seam touches one entry -/

section

variable {I : FrameBuffers V → Prop} {id : String} (hset : ∀ buffers episode, I buffers → I (buffers.set id episode))
  (adapter : ResolvedAdapter V)
include hset

theorem keeps_onEpisode {α : Type} (change : EpisodeWindows V → Except ApplyError α × EpisodeWindows V) :
    Keeps I (onEpisode id change) :=
  ensures_of_left fun buffers h => hset buffers _ h

theorem keeps_readPrevious (step : Int) : Keeps I (readPrevious adapter id step) := by
  unfold readPrevious
  split
  · exact keeps_onEpisode hset _
  · exact keeps_pure _

theorem keeps_stackFrames (entries : List (StackedPlacement V)) (payload : V.Value) :
    Keeps I (stackFrames adapter id entries payload) := by
  induction entries generalizing payload with
  | nil => exact keeps_pure _
  | cons entry rest ih =>
    unfold stackFrames
    refine keeps_bind (keeps_ofResult _) (fun frame => ?_)
    refine keeps_bind (keeps_onEpisode hset _) (fun frames => ?_)
    exact keeps_bind (keeps_ofResult _) (fun stacked => ih _)

theorem keeps_stackPayload (payload : V.Value) : Keeps I (stackPayload adapter id payload) := by
  unfold stackPayload
  split
  · exact keeps_pure _
  · exact keeps_bind (keeps_onEpisode hset _) (fun _ => keeps_stackFrames hset adapter _ _)

theorem keeps_assembleObs (raw : V.Obs) (step : Int) : Keeps I (assembleObs adapter raw id step) := by
  refine keeps_bind (keeps_readPrevious hset adapter step) (fun previous => ?_)
  exact keeps_bind (keeps_ofResult _) (fun payload => keeps_stackPayload hset adapter payload)

theorem keeps_observeObs (raw : V.Obs) : Keeps I (observeObs adapter raw id) := by
  unfold observeObs
  split
  · exact keeps_pure _
  · refine keeps_bind (keeps_ofResult _) (fun frames => ?_)
    refine keeps_bind (keeps_onEpisode hset _) (fun _ => ?_)
    exact keeps_bind (keeps_mapM (fun pair _ => keeps_onEpisode hset _)) (fun _ => keeps_pure _)

end

theorem keeps_recordAction {I : FrameBuffers V → Prop} {id : String} (adapter : ResolvedAdapter V)
    (hset : adapter.readsPreviousAction = true → ∀ buffers episode, I buffers → I (buffers.set id episode))
    (raw : V.Value) (step : Int) : Keeps I (recordAction adapter raw id step) := by
  unfold recordAction
  split
  · rename_i hreads
    refine keeps_bind (keeps_ofResult _) (fun row => ?_)
    split
    · exact keeps_throw _
    · exact keeps_onEpisode (hset hreads) _
  · exact keeps_pure _

theorem keeps_applyActions {I : FrameBuffers V → Prop} {id : String} (adapter : ResolvedAdapter V)
    (hset : adapter.readsPreviousAction = true → ∀ buffers episode, I buffers → I (buffers.set id episode))
    (raw : V.Value) (step : Int) : Keeps I (applyActions adapter raw id step) := by
  refine keeps_bind (keeps_ofResult _) (fun action => ?_)
  refine keeps_bind (keeps_ofResult _) (fun value => ?_)
  exact keeps_bind (keeps_recordAction adapter hset action step) (fun _ => keeps_pure _)

/-! ## The episode an operation leaves held -/

theorem holds_onEpisode {α : Type} {id : String} {change : EpisodeWindows V → Except ApplyError α × EpisodeWindows V}
    {buffers left : FrameBuffers V} {a : α} (h : (onEpisode id change).exec buffers = (.ok a, left)) :
    left.holds id = true := by
  rw [onEpisode, exec_ofFun] at h
  rw [← (Prod.mk.inj h).2]
  exact FrameBuffers.holds_set.2 (.inl rfl)

theorem holds_assembleObs {adapter : ResolvedAdapter V} (hstacked : adapter.stacked ≠ []) {raw : V.Obs} {id : String}
    {step : Int} {buffers left : FrameBuffers V} {payload : V.Value}
    (h : (assembleObs adapter raw id step).exec buffers = (.ok payload, left)) : left.holds id = true := by
  obtain ⟨previous, buffers₁, -, h⟩ := exec_bind_ok.1 h
  obtain ⟨input, buffers₂, -, h⟩ := exec_bind_ok.1 h
  rw [stackPayload, if_neg (by simpa using hstacked)] at h
  obtain ⟨opened, buffers₃, hopen, h⟩ := exec_bind_ok.1 h
  have hkeeps : Keeps (fun b : FrameBuffers V => b.holds id = true) (stackFrames adapter id adapter.stacked input) :=
    keeps_stackFrames (fun b episode hb => FrameBuffers.set_keeps_holds hb id episode) adapter _ _
  exact hkeeps.ok (holds_onEpisode hopen) h

end Rlmesh.Adapters
