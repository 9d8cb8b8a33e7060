import Rlmesh.Adapters.Held
import Rlmesh.Adapters.Images
import Rlmesh.Lib.Results
import Rlmesh.Lib.Runs
import Rlmesh.Lib.Window
/-!
# A stacked input is the declared window over the episode's ticks

An assembled or observed step of an episode is a tick of it: it pushes one
processed frame per stacked input. A run keeps beside the buffers the frames of
every episode's ticks since its entry was created, and the theorem reads a stacked
input off them. A call that fails after its first push has advanced some windows
and not the others, so the runs it speaks of have none.
-/
open Rlmesh.Lib Rlmesh.Lib.Fallible

namespace Rlmesh.Adapters

variable {V : Values}

/-! ## The declared window -/

/-- What stands for the ticks before the first one. -/
def padFrame (entry : StackedPlacement V) (first : V.Tensor) : Except ApplyError V.Tensor :=
  match entry.stackPad with
  | .first => .ok first
  | .black => entry.blackFrame first

/-- The offsets a stack gathers; without declared ones, those of the last `depth` ticks. -/
def offsetsOf (entry : StackedPlacement V) : List Int :=
  entry.offsets.getD ((List.range entry.depth).map (fun (position : Nat) => (position : Int) + 1 - entry.depth))

/-- The frame of a tick, of all the frames of the episode so far. -/
def tickFrame (entry : StackedPlacement V) (frames : List V.Tensor) (tick : Int) : Except ApplyError V.Tensor :=
  if 0 ≤ tick then frames[tick.toNat]?.elim (.error { message := "no such tick" }) .ok
  else frames.head?.elim (.error { message := "no tick yet" }) (padFrame entry)

/-- The frames of the declared window at the newest tick, oldest first. -/
def declaredFrames (entry : StackedPlacement V) (frames : List V.Tensor) : Except ApplyError (List V.Tensor) :=
  (offsetsOf entry).mapM (fun offset => tickFrame entry frames (frames.length - 1 + offset))

/-- A window no offset reaches past. -/
structure LawfulWindow (entry : StackedPlacement V) : Prop where
  span : 0 < entry.span
  contiguous : entry.offsets = none → entry.span = entry.depth
  reach : ∀ offsets, entry.offsets = some offsets → ∀ offset ∈ offsets, offset ≤ 0 ∧ offset.natAbs < entry.span

/-! ## The ring against the ticks -/

/-- The ring holds the newest of the frames pushed so far. -/
def Shows (entry : StackedPlacement V) (frames window : List V.Tensor) : Prop :=
  (frames = [] ∧ window = []) ∨ ∃ first pad, frames.head? = some first ∧ padFrame entry first = .ok pad ∧
    window = windowOf entry.span pad frames

section

variable {entry : StackedPlacement V} {frames window next : List V.Tensor} {frame : V.Tensor}

theorem pushFrame_nil (entry : StackedPlacement V) (frame : V.Tensor) : pushFrame entry [] frame =
    (padFrame entry frame).map (fun pad => pushed entry.span (List.replicate (entry.span - 1) pad) frame) := by
  unfold pushFrame padFrame
  cases entry.stackPad with
  | first => rfl
  | black => cases entry.blackFrame frame <;> rfl

theorem pushFrame_of_ne (h : window ≠ []) (frame : V.Tensor) :
    pushFrame entry window frame = .ok (pushed entry.span window frame) := by
  unfold pushFrame
  rw [if_neg (by simpa using h)]
  rfl

theorem Shows.push (hspan : 0 < entry.span) (h : Shows entry frames window)
    (hpush : pushFrame entry window frame = .ok next) : Shows entry (frames ++ [frame]) next := by
  rcases h with ⟨rfl, rfl⟩ | ⟨first, pad, hfirst, hpad, rfl⟩
  · rw [pushFrame_nil] at hpush
    cases hpad : padFrame entry frame with
    | error error =>
      rw [hpad] at hpush
      cases hpush
    | ok pad =>
      rw [hpad] at hpush
      cases hpush
      refine .inr ⟨frame, pad, rfl, hpad, ?_⟩
      show pushed entry.span (List.replicate (entry.span - 1) pad) frame = _
      rw [← windowOf_nil, pushed_windowOf hspan]
  · have hframes : frames ≠ [] := by
      rintro rfl
      cases hfirst
    have hwindow : windowOf entry.span pad frames ≠ [] := by
      rw [← List.length_pos_iff_ne_nil, length_windowOf hspan hframes]
      exact hspan
    rw [pushFrame_of_ne hwindow] at hpush
    cases hpush
    exact .inr ⟨first, pad, by rw [List.head?_append, hfirst]; rfl, hpad, pushed_windowOf hspan pad frames frame⟩

theorem tickFrame_of_window {pad first : V.Tensor} (hfirst : frames.head? = some first)
    (hpad : padFrame entry first = .ok pad) {back : Nat} (hback : back < entry.span)
    (h : (windowOf entry.span pad frames)[entry.span - 1 - back]? = some frame) :
    tickFrame entry frames (frames.length - 1 + -(back : Int)) = .ok frame := by
  have hframes : frames ≠ [] := by
    rintro rfl
    cases hfirst
  have hpos : 0 < frames.length := List.length_pos_of_ne_nil hframes
  rw [windowOf_getElem? hframes hback] at h
  unfold tickFrame
  split at h
  · rw [if_pos (by omega), show ((frames.length : Int) - 1 + -(back : Int)).toNat = frames.length - 1 - back by omega, h]
    rfl
  · rw [if_neg (by omega), hfirst]
    cases h
    exact hpad

/-- The frame of a ring at an offset back from its newest one. -/
def pickFrame (entry : StackedPlacement V) (window : List V.Tensor) (offset : Int) : Except ApplyError V.Tensor :=
  match if offset.natAbs ≤ window.length - 1 then window[window.length - 1 - offset.natAbs]? else none with
  | some frame => .ok frame
  | none => .error { message := s!"frame window for '{entry.key}' holds {window.length} frame(s), too few to reach offset {offset}" }

theorem gather_offsets {offsets : List Int} (h : entry.offsets = some offsets) (window : List V.Tensor) :
    gather entry window = (do
      let picked ← offsets.mapM (pickFrame entry window)
      (V.stack picked).mapError (fun error => { message := s!"frame-stack failed: {error}" })) := by
  unfold gather
  rw [h]
  rfl

/-- No offset reaches past a full ring: the frames at the offsets are stacked. -/
theorem gather_full (hlaw : LawfulWindow entry) (hlength : window.length = entry.span) :
    ∃ picks, List.Forall₂ (fun offset frame => offset ≤ 0 ∧ offset.natAbs < entry.span ∧
        window[entry.span - 1 - offset.natAbs]? = some frame) (offsetsOf entry) picks ∧
      gather entry window = (V.stack picks).mapError (fun error => { message := s!"frame-stack failed: {error}" }) := by
  unfold offsetsOf
  cases hoffsets : entry.offsets with
  | none =>
    have hdepth := hlaw.contiguous hoffsets
    refine ⟨window, ?_, by unfold gather; rw [hoffsets]; rfl⟩
    rw [Option.getD_none, List.forall₂_map_left_iff, List.forall₂_iff_get]
    refine ⟨by rw [List.length_range, hlength, hdepth], fun position hposition hposition' => ?_⟩
    rw [List.length_range] at hposition
    rw [List.get_eq_getElem, List.getElem_range, List.get_eq_getElem]
    dsimp only
    refine ⟨by omega, by omega, ?_⟩
    rw [show entry.span - 1 - ((position : Int) + 1 - entry.depth).natAbs = position by omega]
    exact List.getElem?_eq_getElem hposition'
  | some offsets =>
    have hfound : ∀ offset ∈ offsets, ∃ frame, pickFrame entry window offset = .ok frame ∧
        window[entry.span - 1 - offset.natAbs]? = some frame := by
      intro offset hoffset
      have hreach := (hlaw.reach offsets hoffsets offset hoffset).2
      obtain ⟨frame, hframe⟩ : ∃ frame, window[entry.span - 1 - offset.natAbs]? = some frame :=
        ⟨_, List.getElem?_eq_getElem (by omega)⟩
      exact ⟨frame, by rw [pickFrame, hlength, if_pos (by omega), hframe], hframe⟩
    obtain ⟨picks, hpicks⟩ := mapM_total (fun offset hoffset => (hfound offset hoffset).imp fun _ => And.left)
    refine ⟨picks, ?_, by rw [gather_offsets hoffsets, hpicks]; rfl⟩
    refine forall₂_imp_mem (fun offset hoffset frame _ hpick => ?_) (mapM_ok.1 hpicks)
    obtain ⟨hneg, hreach⟩ := hlaw.reach offsets hoffsets offset hoffset
    obtain ⟨found, hfound, hframe⟩ := hfound offset hoffset
    rw [hfound] at hpick
    cases hpick
    exact ⟨hneg, hreach, hframe⟩

theorem gather_shows (hlaw : LawfulWindow entry) (h : Shows entry frames window) (hframes : frames ≠ []) :
    ∃ picks, declaredFrames entry frames = .ok picks ∧
      gather entry window = (V.stack picks).mapError (fun error => { message := s!"frame-stack failed: {error}" }) := by
  rcases h with ⟨hnil, -⟩ | ⟨first, pad, hfirst, hpad, rfl⟩
  · exact absurd hnil hframes
  obtain ⟨picks, hpicks, hgather⟩ := gather_full hlaw (length_windowOf hlaw.span hframes)
  refine ⟨picks, ?_, hgather⟩
  rw [declaredFrames, mapM_ok]
  refine hpicks.imp (fun offset frame hpick => ?_)
  obtain ⟨hneg, hreach, hframe⟩ := hpick
  rw [← tickFrame_of_window hfirst hpad hreach hframe]
  congr 1
  omega

end

/-! ## Windows of a resolved adapter -/

theorem ordered_pairwise {offsets : List Int} (h : ordered offsets = true) : offsets.Pairwise (· < ·) := by
  rw [← List.isChain_iff_pairwise]
  induction offsets with
  | nil => exact .nil
  | cons first rest ih =>
    cases rest with
    | nil => exact .singleton first
    | cons second rest =>
      rw [ordered, Bool.and_eq_true, decide_eq_true_eq] at h
      exact .cons_cons h.1 (ih h.2)

theorem ordered_bounds {first last : Int} {rest : List Int} (h : ordered (first :: rest) = true)
    (hlast : (first :: rest).getLast? = some last) {offset : Int} (hoffset : offset ∈ first :: rest) :
    first ≤ offset ∧ offset ≤ last := by
  have hpairwise := ordered_pairwise h
  constructor
  · rcases List.mem_cons.1 hoffset with rfl | hrest
    · exact le_rfl
    · exact (List.rel_of_pairwise_cons hpairwise hrest).le
  · obtain ⟨front, hfront⟩ := List.getLast?_eq_some_iff.1 hlast
    rw [hfront] at hoffset hpairwise
    rcases List.mem_append.1 hoffset with hin | hin
    · exact ((List.pairwise_append.1 hpairwise).2.2 offset hin last (List.mem_singleton.2 rfl)).le
    · exact (List.mem_singleton.1 hin).le

/-- What `stack_window` accepts: no offsets, or offsets under their law. -/
theorem stackWindow_ok {model : Image} {location : String} {result : Option (List Int)}
    (h : stackWindow model location = .ok result) : result = none ∨ ∃ oldest rest,
      result = some (oldest :: rest) ∧ model.offsets = some (oldest :: rest) ∧ ordered (oldest :: rest) = true ∧
      (oldest :: rest).getLast? = some 0 ∧ oldest ≤ 0 := by
  unfold stackWindow at h
  split at h
  · cases h
  · split at h
    · exact .inl (Except.ok.inj h).symm
    · rename_i offsets hoffsets
      dsimp only at h
      split at h
      · cases h
      · rename_i hlaw
        split at h
        · cases h
        · split at h
          · cases h
          · cases offsets with
            | nil => simp at hlaw
            | cons oldest rest =>
              simp only [List.isEmpty_cons, Bool.false_or, Bool.or_eq_true, Bool.not_eq_true', decide_eq_true_eq,
                not_or, Bool.not_eq_false, List.headD_cons, ne_eq, not_not] at hlaw
              exact .inr ⟨oldest, rest, (Except.ok.inj h).symm, hoffsets, hlaw.1.1, hlaw.1.2,
                not_lt.1 fun hpos => hlaw.2 (decide_eq_true hpos)⟩

/-- What `stack_window` accepts never reaches past the span it is given. -/
theorem lawful_of_stackWindow {model : Image} {location key : String} {plan : ImagePlan}
    (hwindow : stackWindow model location = .ok plan.offsets)
    {blackFrame : V.Tensor → Except ApplyError V.Tensor} {entry : StackedPlacement V}
    (h : plan.stackedPlacement key blackFrame = some entry) : LawfulWindow entry := by
  unfold ImagePlan.stackedPlacement at h
  split at h
  · rename_i hdepth
    cases h
    rcases stackWindow_ok hwindow with hnone | ⟨oldest, rest, hsome, hoffsets, hordered, hlast, holdest⟩
    · refine ⟨?_, fun _ => ?_, fun offsets hsome => ?_⟩
      · simp only [hnone]
        exact Nat.lt_of_succ_lt hdepth
      · simp [hnone]
      · rw [hnone] at hsome
        cases hsome
    · have hfit := model.offsetsFit _ hoffsets oldest List.mem_cons_self
      -- the span is the distance to the oldest offset: nothing wraps
      have hspan : ((1 - oldest) % 2 ^ 32).toNat = (1 - oldest).toNat := by
        rw [Int.emod_eq_of_lt (by omega) (by omega)]
      refine ⟨?_, fun hnone => ?_, fun declared hdeclared offset hoffset => ?_⟩
      · simp only [hsome, Option.bind_some, List.head?_cons, Option.elim_some, hspan]
        omega
      · rw [hsome] at hnone
        cases hnone
      · simp only [hsome, Option.bind_some, List.head?_cons, Option.elim_some, hspan]
        rw [hsome] at hdeclared
        cases hdeclared
        obtain ⟨hlow, hhigh⟩ := ordered_bounds hordered hlast hoffset
        omega
  · cases h

/-- An adapter as the resolver leaves it. -/
structure Resolved (adapter : ResolvedAdapter V) : Prop where
  /-- Every stacked input is the placement of an image plan whose window was accepted. -/
  placed : ∀ entry ∈ adapter.stacked, ∃ (model : Image) (location : String) (plan : ImagePlan),
    stackWindow model location = .ok plan.offsets ∧
    plan.stackedPlacement entry.key entry.blackFrame = some entry
  /-- Placements are positions of one tree. -/
  distinct : (adapter.stacked.map (·.key)).Nodup
  slotSet : ∀ payload key old tensor, adapter.slot payload key = .ok (some old) →
    adapter.slot (adapter.setSlot payload key tensor) key = .ok (some tensor)
  slotOther : ∀ payload tensor, ∀ entry ∈ adapter.stacked, ∀ other ∈ adapter.stacked, other.key ≠ entry.key →
    adapter.slot (adapter.setSlot payload entry.key tensor) other.key = adapter.slot payload other.key
  historyLength : ∀ raw frames, adapter.historyFrames raw = .ok frames → frames.length = adapter.stacked.length

theorem Resolved.lawful {adapter : ResolvedAdapter V} (h : Resolved adapter) {entry : StackedPlacement V}
    (hentry : entry ∈ adapter.stacked) : LawfulWindow entry := by
  obtain ⟨model, location, plan, hwindow, hplaced⟩ := h.placed entry hentry
  exact lawful_of_stackWindow hwindow hplaced

/-! ## Pushes -/

/-- An episode's window for a placement. -/
def FrameBuffers.window (buffers : FrameBuffers V) (id key : String) : List V.Tensor :=
  ((buffers.episode id).windows.lookup key).getD []

theorem episode_set (buffers : FrameBuffers V) (id other : String) (episode : EpisodeWindows V) :
    (buffers.set id episode).episode other = if other = id then episode else buffers.episode other := by
  unfold FrameBuffers.set FrameBuffers.episode
  split
  · rename_i h
    rw [h, AList.lookup_insert]
    rfl
  · rename_i h
    rw [AList.lookup_insert_ne h]

/-- One window of one episode got a frame, and no other changed. -/
structure Pushes (id : String) (entry : StackedPlacement V) (frame : V.Tensor) (before after : FrameBuffers V) : Prop where
  pushed : pushFrame entry (before.window id entry.key) frame = .ok (after.window id entry.key)
  other : ∀ other key, other ≠ id ∨ key ≠ entry.key → after.window other key = before.window other key

variable {before after : FrameBuffers V}

theorem pushes_onEpisode {id : String} {entry : StackedPlacement V} {frame : V.Tensor} {frames : List V.Tensor}
    (h : (onEpisode id (·.push entry frame)).exec before = (.ok frames, after)) :
    Pushes id entry frame before after ∧ frames = after.window id entry.key := by
  unfold onEpisode EpisodeWindows.push at h
  rw [exec_ofFun] at h
  dsimp only at h
  cases hpush : pushFrame entry (((before.episode id).windows.lookup entry.key).getD []) frame with
  | error error =>
    rw [hpush] at h
    cases (Prod.mk.inj h).1
  | ok next =>
    rw [hpush] at h
    obtain ⟨hnext, hafter⟩ := Prod.mk.inj h
    obtain rfl := Except.ok.inj hnext
    have hwindow : after.window id entry.key = next := by
      rw [← hafter, FrameBuffers.window, episode_set, if_pos rfl, lookup_insertKey, if_pos rfl]
      rfl
    refine ⟨⟨by rw [hwindow]; exact hpush, fun other key hne => ?_⟩, hwindow.symm⟩
    rw [← hafter, FrameBuffers.window, FrameBuffers.window, episode_set]
    split
    · rename_i hother
      rw [lookup_insertKey, if_neg (hne.resolve_left (fun h => h hother)), hother]
    · rfl

/-- Every window of a list got its frame, and no other changed. -/
structure PushesAll (id : String) (pairs : List (StackedPlacement V × V.Tensor)) (before after : FrameBuffers V) : Prop where
  pushed : ∀ pair ∈ pairs, pushFrame pair.1 (before.window id pair.1.key) pair.2 = .ok (after.window id pair.1.key)
  other : ∀ other key, (other ≠ id ∨ ∀ pair ∈ pairs, key ≠ pair.1.key) → after.window other key = before.window other key

theorem PushesAll.nil (id : String) (buffers : FrameBuffers V) : PushesAll id [] buffers buffers :=
  ⟨fun _ h => (nomatch h), fun _ _ _ => rfl⟩

theorem PushesAll.cons {id : String} {pair : StackedPlacement V × V.Tensor}
    {pairs : List (StackedPlacement V × V.Tensor)} {middle : FrameBuffers V}
    (h : Pushes id pair.1 pair.2 before middle) (hrest : PushesAll id pairs middle after)
    (hkey : ∀ other ∈ pairs, other.1.key ≠ pair.1.key) : PushesAll id (pair :: pairs) before after := by
  refine ⟨fun other hother => ?_, fun other key hne => ?_⟩
  · rcases List.mem_cons.1 hother with rfl | hin
    · rw [hrest.other id _ (.inr fun pair' hpair' => (hkey pair' hpair').symm)]
      exact h.pushed
    · rw [← h.other id _ (.inr (hkey other hin))]
      exact hrest.pushed other hin
  · rw [hrest.other other key (hne.imp_right fun h pair' hpair' => h pair' (List.mem_cons_of_mem _ hpair')),
      h.other other key (hne.imp_right fun h => h pair List.mem_cons_self)]

theorem frameOf_ok {adapter : ResolvedAdapter V} {payload : V.Value} {entry : StackedPlacement V} {frame : V.Tensor} :
    adapter.frameOf payload entry = .ok frame ↔ adapter.slot payload entry.key = .ok (some frame) := by
  unfold ResolvedAdapter.frameOf
  rw [bind_ok]
  constructor
  · rintro ⟨slot, hslot, h⟩
    cases slot with
    | none => cases h
    | some found =>
      cases h
      exact hslot
  · exact fun h => ⟨some frame, h, rfl⟩

/-- What a successful stacking pass did: the frames are those of the payload it
was given, each went into its window, and each slot then holds the stack. -/
theorem stackFrames_ok {adapter : ResolvedAdapter V} (hadapter : Resolved adapter) {id : String}
    {entries : List (StackedPlacement V)} (hentries : ∀ entry ∈ entries, entry ∈ adapter.stacked)
    (hkeys : (entries.map (·.key)).Nodup) {payload payload' : V.Value}
    (h : (stackFrames adapter id entries payload).exec before = (.ok payload', after)) :
    ∃ frames, entries.mapM (adapter.frameOf payload) = .ok frames ∧ PushesAll id (entries.zip frames) before after ∧
      (∀ entry ∈ entries, ∃ tensor, gather entry (after.window id entry.key) = .ok tensor ∧
        adapter.slot payload' entry.key = .ok (some tensor)) ∧
      ∀ entry ∈ adapter.stacked, entry.key ∉ entries.map (·.key) →
        adapter.slot payload' entry.key = adapter.slot payload entry.key := by
  induction entries generalizing payload before with
  | nil =>
    cases h
    exact ⟨[], rfl, .nil id _, fun _ h => (nomatch h), fun _ _ _ => rfl⟩
  | cons entry rest ih =>
    obtain ⟨hnotin, hrest⟩ := List.nodup_cons.1 hkeys
    have hentry := hentries entry List.mem_cons_self
    unfold stackFrames at h
    obtain ⟨frame, hframe, h⟩ := exec_ofResult_bind_ok.1 h
    obtain ⟨window, middle, hpush, h⟩ := exec_bind_ok.1 h
    obtain ⟨stacked, hgather, h⟩ := exec_ofResult_bind_ok.1 h
    obtain ⟨hpushes, hwindow⟩ := pushes_onEpisode hpush
    rw [hwindow] at hgather
    obtain ⟨frames, hframes, hall, hslots, hother⟩ := ih (fun other hin => hentries other (List.mem_cons_of_mem _ hin)) hrest h
    have hne : ∀ other ∈ rest, other.key ≠ entry.key := fun other hin heq => hnotin (List.mem_map.2 ⟨other, hin, heq⟩)
    -- the frames after this one are untouched by its stack
    have hsame : ∀ other ∈ rest, adapter.frameOf (adapter.setSlot payload entry.key stacked) other =
        adapter.frameOf payload other := by
      intro other hin
      unfold ResolvedAdapter.frameOf
      rw [hadapter.slotOther payload stacked entry hentry other (hentries other (List.mem_cons_of_mem _ hin)) (hne other hin)]
    refine ⟨frame :: frames, ?_, ?_, fun other hin => ?_, fun other hin hout => ?_⟩
    · rw [mapM_ok] at hframes ⊢
      exact .cons hframe (forall₂_imp_mem (fun other hin _ _ hother => (hsame other hin).symm.trans hother) hframes)
    · refine .cons hpushes hall (fun pair hpair => hne pair.1 ?_)
      exact (List.of_mem_zip hpair).1
    · rcases List.mem_cons.1 hin with rfl | hin
      · refine ⟨stacked, ?_, ?_⟩
        · rw [hall.other id _ (.inr fun pair hpair => (hne pair.1 (List.of_mem_zip hpair).1).symm)]
          exact hgather
        · rw [hother _ hentry hnotin]
          exact hadapter.slotSet payload _ frame stacked (frameOf_ok.1 hframe)
      · exact hslots other hin
    · rw [List.map_cons, List.mem_cons, not_or] at hout
      rw [hother other hin hout.2, hadapter.slotOther payload stacked entry hentry other hin hout.1]

theorem mapM_push_ok {id : String} {pairs : List (StackedPlacement V × V.Tensor)}
    (hkeys : (pairs.map (·.1.key)).Nodup) {windows : List (List V.Tensor)}
    (h : (pairs.mapM (fun pair => onEpisode id (·.push pair.1 pair.2))).exec before = (.ok windows, after)) :
    PushesAll id pairs before after := by
  induction pairs generalizing before windows with
  | nil =>
    cases h
    exact .nil id _
  | cons pair rest ih =>
    obtain ⟨hnotin, hrest⟩ := List.nodup_cons.1 hkeys
    rw [List.mapM_cons] at h
    obtain ⟨_, middle, hpush, h⟩ := exec_bind_ok.1 h
    obtain ⟨_, left, htail, h⟩ := exec_bind_ok.1 h
    cases h
    exact .cons (pushes_onEpisode hpush).1 (ih hrest htail) (fun other hin heq => hnotin (List.mem_map.2 ⟨other, hin, heq⟩))

/-! ## Ticks -/

/-- The buffers of a route, with the frames of every episode's ticks since its
entry was created; a tick has one frame per stacked input. -/
structure Track (V : Values) where
  buffers : FrameBuffers V := {}
  ticks : String → List (List V.Tensor) := fun _ => []

/-- What may happen to the buffers of a route. -/
inductive Call (V : Values) where
  | assemble (raw : V.Obs) (id : String) (step : Int)
  | observe (raw : V.Obs) (id : String)
  | advance (id : String) (step : Int)
  | apply (raw : V.Value) (id : String) (step : Int)
  | evict (id : String)
  | clear

section

variable (adapter : ResolvedAdapter V)

/-- The observation a transform makes of a raw one, read with the previous action. -/
def transformed (raw : V.Obs) (id : String) (step : Int) : Fallible (FrameBuffers V) ApplyError V.Value := do
  let previous ← readPrevious adapter id step
  .ofResult (adapter.transformObs raw previous)

/-- The frames a payload holds for the stacked inputs. -/
def ResolvedAdapter.framesOf (payload : V.Value) : Except ApplyError (List V.Tensor) :=
  adapter.stacked.mapM (adapter.frameOf payload)

/-- The frames of an assembled step. -/
def assembledFrames (raw : V.Obs) (id : String) (step : Int) (buffers : FrameBuffers V) : Except ApplyError (List V.Tensor) :=
  ((transformed adapter raw id step).exec buffers).1 >>= adapter.framesOf

/-- Note a tick of an episode, for a call that succeeded. -/
def Track.tick {α : Type} (track : Track V) (id : String) (ran : Except ApplyError α × FrameBuffers V)
    (frames : Except ApplyError (List V.Tensor)) : Track V :=
  { buffers := ran.2
    ticks := match ran.1, frames with
      | .ok _, .ok frames => Function.update track.ticks id (track.ticks id ++ [frames])
      | _, _ => track.ticks }

def Track.call (track : Track V) : Call V → Track V
  | .assemble raw id step =>
    track.tick id ((assembleObs adapter raw id step).exec track.buffers) (assembledFrames adapter raw id step track.buffers)
  | .observe raw id => track.tick id ((observeObs adapter raw id).exec track.buffers) (adapter.historyFrames raw)
  | .advance id step => { track with buffers := ((onEpisode id (·.advanceStep id step)).exec track.buffers).2 }
  | .apply raw id step => { track with buffers := ((applyActions adapter raw id step).exec track.buffers).2 }
  | .evict id => { buffers := track.buffers.evict id, ticks := Function.update track.ticks id [] }
  | .clear => {}

/-- The calls on one route, in any order. -/
def windowed : System (Track V) (Call V) :=
  { init := {}, step := fun track call => some (track.call adapter call) }

/-- A call that fails, if it fails, before it has pushed a frame. -/
def CleanlyFails (track : Track V) : Call V → Prop
  | .assemble raw id step => (∃ payload, ((assembleObs adapter raw id step).exec track.buffers).1 = .ok payload) ∨
      ∃ error, ((transformed adapter raw id step).exec track.buffers).1 = .error error
  | .observe raw id => ((observeObs adapter raw id).exec track.buffers).1 = .ok () ∨
      ∃ error, adapter.historyFrames raw = .error error
  | _ => True

/-- Every ring shows the ticks of its episode. -/
structure Tracked (track : Track V) : Prop where
  full : ∀ id, ∀ tick ∈ track.ticks id, tick.length = adapter.stacked.length
  shows : ∀ (id : String) (position : Nat) (entry : StackedPlacement V), adapter.stacked[position]? = some entry →
    Shows entry ((track.ticks id).filterMap (·[position]?)) (track.buffers.window id entry.key)

end

/-- Two states of the buffers with the same windows. -/
def SameWindows (before after : FrameBuffers V) : Prop := ∀ id key, after.window id key = before.window id key

theorem keeps_sameWindows {α : Type} {start : FrameBuffers V} {id : String}
    {change : EpisodeWindows V → Except ApplyError α × EpisodeWindows V}
    (h : ∀ episode, (change episode).2.windows = episode.windows) : Keeps (SameWindows start) (onEpisode id change) := by
  refine ensures_of_left fun buffers hsame other key => ?_
  rw [onEpisode, exec_ofFun, ← hsame other key, FrameBuffers.window, FrameBuffers.window, episode_set]
  split
  · rename_i hother
    rw [h, hother]
  · rfl

theorem windows_previousAction (episode : EpisodeWindows V) (id : String) (step : Int) :
    (episode.previousAction id step).2.windows = episode.windows := by
  unfold EpisodeWindows.previousAction
  dsimp only
  split
  · rfl
  · split <;> rfl

theorem windows_advanceStep (episode : EpisodeWindows V) (id : String) (step : Int) :
    (episode.advanceStep id step).2.windows = episode.windows := by
  unfold EpisodeWindows.advanceStep
  split
  · split <;> rfl
  · rfl

section

variable {adapter : ResolvedAdapter V} {start : FrameBuffers V} {id : String}

theorem keeps_transformed (raw : V.Obs) (step : Int) : Keeps (SameWindows start) (transformed adapter raw id step) := by
  refine keeps_bind ?_ (fun previous => keeps_ofResult _)
  unfold readPrevious
  split
  · exact keeps_sameWindows (fun episode => windows_previousAction episode id step)
  · exact keeps_pure _

theorem keeps_windows_applyActions (raw : V.Value) (step : Int) :
    Keeps (SameWindows start) (applyActions adapter raw id step) := by
  refine keeps_bind (keeps_ofResult _) (fun action => keeps_bind (keeps_ofResult _) (fun value => ?_))
  refine keeps_bind ?_ (fun _ => keeps_pure _)
  unfold recordAction
  split
  · refine keeps_bind (keeps_ofResult _) (fun row => ?_)
    split
    · exact keeps_throw _
    · exact keeps_sameWindows (fun _ => rfl)
  · exact keeps_pure _

variable {after before : FrameBuffers V} {raw : V.Obs} {step : Int} {track : Track V}

theorem PushesAll.of_same {pairs : List (StackedPlacement V × V.Tensor)} {middle : FrameBuffers V}
    (hsame : SameWindows start middle) (h : PushesAll id pairs middle after) : PushesAll id pairs start after :=
  ⟨fun pair hpair => hsame id pair.1.key ▸ h.pushed pair hpair, fun other key hne => (h.other other key hne).trans (hsame other key)⟩

theorem assembleObs_eq (raw : V.Obs) (step : Int) :
    assembleObs adapter raw id step = transformed adapter raw id step >>= stackPayload adapter id := by
  unfold assembleObs transformed
  rw [bind_assoc]

theorem assembleObs_ok (hadapter : Resolved adapter) {payload' : V.Value}
    (h : (assembleObs adapter raw id step).exec before = (.ok payload', after)) :
    ∃ frames, assembledFrames adapter raw id step before = .ok frames ∧
      PushesAll id (adapter.stacked.zip frames) before after ∧
      ∀ entry ∈ adapter.stacked, ∃ tensor, gather entry (after.window id entry.key) = .ok tensor ∧
        adapter.slot payload' entry.key = .ok (some tensor) := by
  rw [assembleObs_eq] at h
  obtain ⟨payload, middle, htransformed, h⟩ := exec_bind_ok.1 h
  have hmiddle : SameWindows before middle := (keeps_transformed raw step).ok (fun _ _ => rfl) htransformed
  have hframes : assembledFrames adapter raw id step before = adapter.framesOf payload := by
    unfold assembledFrames
    rw [htransformed]
    rfl
  unfold stackPayload at h
  split at h
  · rename_i hempty
    rw [List.isEmpty_iff] at hempty
    cases h
    rw [hframes, ResolvedAdapter.framesOf, hempty]
    exact ⟨[], rfl, (PushesAll.nil id _).of_same hmiddle, fun _ h => (nomatch h)⟩
  · obtain ⟨_, opened, hopen, h⟩ := exec_bind_ok.1 h
    have hopened : SameWindows before opened := (keeps_sameWindows (fun _ => rfl)).ok hmiddle hopen
    obtain ⟨frames, hread, hall, hslots, -⟩ := stackFrames_ok hadapter (fun _ hin => hin) hadapter.distinct h
    exact ⟨frames, hframes.trans hread, hall.of_same hopened, hslots⟩

theorem observeObs_ok (hadapter : Resolved adapter) (h : (observeObs adapter raw id).exec before = (.ok (), after))
    (hstacked : adapter.stacked ≠ []) :
    ∃ frames, adapter.historyFrames raw = .ok frames ∧ PushesAll id (adapter.stacked.zip frames) before after := by
  unfold observeObs at h
  rw [if_neg (by simpa using hstacked)] at h
  obtain ⟨frames, hframes, h⟩ := exec_ofResult_bind_ok.1 h
  obtain ⟨_, opened, hopen, h⟩ := exec_bind_ok.1 h
  have hopened : SameWindows before opened := (keeps_sameWindows (fun _ => rfl)).ok (fun _ _ => rfl) hopen
  obtain ⟨_, left, hpushes, h⟩ := exec_bind_ok.1 h
  cases h
  refine ⟨frames, hframes, (mapM_push_ok ?_ hpushes).of_same hopened⟩
  rw [show (adapter.stacked.zip frames).map (·.1.key) = ((adapter.stacked.zip frames).map (·.1)).map (·.key) from
    (List.map_map ..).symm, List.map_fst_zip (hadapter.historyLength raw frames hframes).ge]
  exact hadapter.distinct

/-! ## Every ring shows its episode's ticks -/

theorem Tracked.tick (hadapter : Resolved adapter) (h : Tracked adapter track) {frames : List V.Tensor}
    (hlength : frames.length = adapter.stacked.length)
    (hall : PushesAll id (adapter.stacked.zip frames) track.buffers after) :
    Tracked adapter { buffers := after, ticks := Function.update track.ticks id (track.ticks id ++ [frames]) } := by
  refine ⟨fun other tick htick => ?_, fun other position entry hentry => ?_⟩
  · dsimp only at htick
    by_cases hother : other = id
    · rw [hother, Function.update_self, List.mem_append, List.mem_singleton] at htick
      rcases htick with htick | rfl
      · exact h.full id tick htick
      · exact hlength
    · rw [Function.update_of_ne hother] at htick
      exact h.full other tick htick
  · dsimp only
    by_cases hother : other = id
    · obtain ⟨hposition, rfl⟩ := List.getElem?_eq_some_iff.1 hentry
      obtain ⟨frame, hframe⟩ : ∃ frame, frames[position]? = some frame := ⟨_, List.getElem?_eq_getElem (hlength ▸ hposition)⟩
      have hpair : (adapter.stacked[position], frame) ∈ adapter.stacked.zip frames :=
        List.mem_of_getElem? (i := position) (by rw [List.getElem?_zip_eq_some]; exact ⟨hentry, hframe⟩)
      rw [hother, Function.update_self, List.filterMap_append]
      have hnew : [frames].filterMap (fun tick : List V.Tensor => tick[position]?) = [frame] := by
        rw [List.filterMap_cons, hframe]
        rfl
      rw [hnew]
      exact (h.shows id position _ hentry).push (hadapter.lawful (List.mem_of_getElem? hentry)).span (hall.pushed _ hpair)
    · rw [Function.update_of_ne hother, hall.other other entry.key (.inl hother)]
      exact h.shows other position entry hentry

theorem Tracked.same (h : Tracked adapter track) (hsame : SameWindows track.buffers after) :
    Tracked adapter { track with buffers := after } :=
  ⟨h.full, fun other position entry hentry => (hsame other entry.key).symm ▸ h.shows other position entry hentry⟩

theorem sameWindows_of_failed {failed : ApplyError}
    (h : ((transformed adapter raw id step).exec before).1 = .error failed) :
    SameWindows before ((assembleObs adapter raw id step).exec before).2 := by
  rw [assembleObs_eq, exec_bind]
  have hkeeps : Keeps (SameWindows before) (transformed adapter raw id step) := keeps_transformed raw step
  have hkept := hkeeps.exec (s := before) (fun _ _ => rfl)
  rcases hran : (transformed adapter raw id step).exec before with ⟨error | payload, middle⟩
  · rw [hran] at hkept
    exact hkept
  · rw [hran] at h
    cases h

theorem length_assembledFrames {frames : List V.Tensor} (h : assembledFrames adapter raw id step before = .ok frames) :
    frames.length = adapter.stacked.length := by
  obtain ⟨payload, -, hframes⟩ := bind_ok.1 h
  exact (mapM_ok.1 hframes).length_eq.symm

theorem window_evict_self (buffers : FrameBuffers V) (id key : String) : (buffers.evict id).window id key = [] := by
  rw [FrameBuffers.window, FrameBuffers.episode, FrameBuffers.evict, AList.lookup_erase]
  rfl

theorem window_evict_ne {other : String} (h : other ≠ id) (buffers : FrameBuffers V) (key : String) :
    (buffers.evict id).window other key = buffers.window other key := by
  rw [FrameBuffers.window, FrameBuffers.episode, FrameBuffers.evict, AList.lookup_erase_ne h]
  rfl

theorem Tracked.evict (h : Tracked adapter track) (id : String) :
    Tracked adapter { buffers := track.buffers.evict id, ticks := Function.update track.ticks id [] } := by
  refine ⟨fun other tick htick => ?_, fun other position entry hentry => ?_⟩
  · dsimp only at htick
    by_cases hother : other = id
    · rw [hother, Function.update_self] at htick
      cases htick
    · rw [Function.update_of_ne hother] at htick
      exact h.full other tick htick
  · dsimp only
    by_cases hother : other = id
    · rw [hother, Function.update_self, window_evict_self]
      exact .inl ⟨rfl, rfl⟩
    · rw [Function.update_of_ne hother, window_evict_ne hother]
      exact h.shows other position entry hentry

theorem Tracked.call (hadapter : Resolved adapter) (h : Tracked adapter track) {call : Call V}
    (hclean : CleanlyFails adapter track call) : Tracked adapter (track.call adapter call) := by
  cases call with
  | assemble raw id step =>
    show Tracked adapter (track.tick id _ _)
    rcases hran : (assembleObs adapter raw id step).exec track.buffers with ⟨error | payload, after⟩
    · obtain ⟨payload, hok⟩ | ⟨failed, hfailed⟩ := hclean
      · rw [hran] at hok
        cases hok
      · have hsame := sameWindows_of_failed hfailed
        rw [hran] at hsame
        exact h.same hsame
    · obtain ⟨frames, hframes, hall, -⟩ := assembleObs_ok hadapter hran
      rw [hframes]
      exact h.tick hadapter (length_assembledFrames hframes) hall
  | observe raw id =>
    show Tracked adapter (track.tick id _ _)
    rcases hran : (observeObs adapter raw id).exec track.buffers with ⟨error | _, after⟩
    · obtain hok | ⟨failed, hfailed⟩ := hclean
      · rw [hran] at hok
        cases hok
      · -- the frames could not be made, and nothing was touched
        have hafter : after = track.buffers := by
          unfold observeObs at hran
          split at hran
          · cases hran
          · rw [exec_bind, exec_ofResult, hfailed] at hran
            exact (Prod.mk.inj hran).2.symm
        exact h.same (hafter ▸ fun _ _ => rfl)
    · by_cases hstacked : adapter.stacked = []
      · have hafter : after = track.buffers := by
          rw [observeObs, hstacked, List.isEmpty_nil, if_pos rfl] at hran
          exact (Prod.mk.inj hran).2.symm
        cases hframes : adapter.historyFrames raw with
        | error failed => exact h.same (hafter ▸ fun _ _ => rfl)
        | ok frames =>
          refine h.tick hadapter (hadapter.historyLength raw frames hframes) ?_
          rw [hstacked, hafter]
          exact .nil id _
      · obtain ⟨frames, hframes, hall⟩ := observeObs_ok hadapter hran hstacked
        rw [hframes]
        exact h.tick hadapter (hadapter.historyLength raw frames hframes) hall
  | advance id step =>
    exact h.same ((keeps_sameWindows (fun episode => windows_advanceStep episode id step)).exec (fun _ _ => rfl))
  | apply raw id step => exact h.same ((keeps_windows_applyActions raw step).exec (fun _ _ => rfl))
  | evict id => exact h.evict id
  | clear => exact ⟨fun _ _ htick => (nomatch htick), fun _ _ _ _ => .inl ⟨rfl, rfl⟩⟩

/-! ## Rings are empty or full -/

/-- Every ring of a stacked input is empty or as long as its span. -/
def Sized (adapter : ResolvedAdapter V) (buffers : FrameBuffers V) : Prop :=
  ∀ id, ∀ entry ∈ adapter.stacked, buffers.window id entry.key = [] ∨ (buffers.window id entry.key).length = entry.span

theorem length_pushFrame {entry : StackedPlacement V} (hspan : 0 < entry.span) {window next : List V.Tensor}
    {frame : V.Tensor} (hwindow : window = [] ∨ window.length = entry.span)
    (h : pushFrame entry window frame = .ok next) : next.length = entry.span := by
  rcases hwindow with rfl | hlength
  · rw [pushFrame_nil] at h
    cases hpad : padFrame entry frame with
    | error error =>
      rw [hpad] at h
      cases h
    | ok pad =>
      rw [hpad] at h
      cases h
      simp only [pushed, List.length_append, List.length_replicate, List.length_singleton]
      rw [if_neg (by omega), List.length_replicate]
      omega
  · rw [pushFrame_of_ne (by rintro rfl; exact hspan.ne hlength)] at h
    cases h
    rw [pushed, if_pos hlength, List.length_append, List.length_drop, hlength, List.length_singleton]
    omega

theorem Resolved.entry_of_key (hadapter : Resolved adapter) {entry other : StackedPlacement V}
    (hentry : entry ∈ adapter.stacked) (hother : other ∈ adapter.stacked) (h : other.key = entry.key) : other = entry :=
  List.inj_on_of_nodup_map hadapter.distinct hother hentry h

theorem keeps_sized_push (hadapter : Resolved adapter) {entry : StackedPlacement V} (hentry : entry ∈ adapter.stacked)
    (frame : V.Tensor) : Keeps (Sized adapter) (onEpisode id (·.push entry frame)) := by
  refine ensures_of_left fun buffers hsized other entry' hentry' => ?_
  have hold := hsized other entry' hentry'
  rw [onEpisode, exec_ofFun]
  dsimp only
  rw [FrameBuffers.window, episode_set]
  split
  · rename_i hother
    rw [FrameBuffers.window, hother] at hold
    unfold EpisodeWindows.push
    dsimp only
    split
    · rename_i next hnext
      rw [lookup_insertKey]
      split
      · rename_i hkey
        obtain rfl := hadapter.entry_of_key hentry hentry' hkey
        exact .inr (length_pushFrame (hadapter.lawful hentry).span hold hnext)
      · exact hold
    · rw [lookup_insertKey]
      split
      · rename_i hkey
        rw [hkey] at hold
        exact hold
      · exact hold
  · exact hold

theorem keeps_sized_of_same {α : Type} {m : Fallible (FrameBuffers V) ApplyError α}
    (h : ∀ start : FrameBuffers V, Keeps (SameWindows start) m) : Keeps (Sized adapter) m :=
  ensures_of_left fun buffers hsized other entry hentry => by
    rw [(h buffers).exec (fun _ _ => rfl) other entry.key]
    exact hsized other entry hentry

theorem keeps_sized_stackFrames (hadapter : Resolved adapter) {entries : List (StackedPlacement V)}
    (hentries : ∀ entry ∈ entries, entry ∈ adapter.stacked) (payload : V.Value) :
    Keeps (Sized adapter) (stackFrames adapter id entries payload) := by
  induction entries generalizing payload with
  | nil => exact keeps_pure _
  | cons entry rest ih =>
    unfold stackFrames
    refine keeps_bind (keeps_ofResult _) (fun frame => ?_)
    refine keeps_bind (keeps_sized_push hadapter (hentries entry List.mem_cons_self) frame) (fun _ => ?_)
    exact keeps_bind (keeps_ofResult _) (fun _ => ih (fun other hin => hentries other (List.mem_cons_of_mem _ hin)) _)

theorem sized_call (hadapter : Resolved adapter) (h : Sized adapter track.buffers) (call : Call V) :
    Sized adapter (track.call adapter call).buffers := by
  have hopen : ∀ id, Keeps (Sized adapter) (openEpisode (V := V) id) := fun id =>
    keeps_sized_of_same fun start => keeps_sameWindows fun _ => rfl
  cases call with
  | assemble raw id step =>
    have hkeeps : Keeps (Sized adapter) (assembleObs adapter raw id step) := by
      rw [assembleObs_eq]
      refine keeps_bind (keeps_sized_of_same fun start => keeps_transformed raw step) (fun payload => ?_)
      unfold stackPayload
      split
      · exact keeps_pure _
      · exact keeps_bind (hopen id) (fun _ => keeps_sized_stackFrames hadapter (fun _ hin => hin) payload)
    exact hkeeps.exec h
  | observe raw id =>
    have hkeeps : Keeps (Sized adapter) (observeObs adapter raw id) := by
      unfold observeObs
      split
      · exact keeps_pure _
      · refine keeps_bind (keeps_ofResult _) (fun frames => keeps_bind (hopen id) (fun _ => ?_))
        refine keeps_bind (keeps_mapM fun pair hpair => ?_) (fun _ => keeps_pure _)
        exact keeps_sized_push hadapter (List.of_mem_zip hpair).1 pair.2
    exact hkeeps.exec h
  | advance id step =>
    exact (keeps_sized_of_same fun start => keeps_sameWindows fun episode => windows_advanceStep episode id step).exec h
  | apply raw id step =>
    exact (keeps_sized_of_same fun start => keeps_windows_applyActions raw step).exec h
  | evict id =>
    intro other entry hentry
    by_cases hother : other = id
    · exact .inl (by rw [hother]; exact window_evict_self track.buffers id entry.key)
    · rw [show (track.call adapter (.evict id)).buffers.window other entry.key = _ from
        window_evict_ne hother track.buffers entry.key]
      exact h other entry hentry
  | clear => exact fun _ _ _ => .inl rfl

/-! ## Runs -/

end

/-! ## Two cameras -/

/-- Frames as a size and a content; only frames of one size stack. -/
def cameraValues : Values :=
  { Lane := Unit, Obs := (Nat × List Nat) × (Nat × List Nat), Value := List (String × (Nat × List Nat))
    Tensor := Nat × List Nat, Action := Unit, Num := Unit
    stack := fun frames =>
      if frames.all (fun frame => frame.1 = (frames.headD (0, [])).1) then
        .ok ((frames.headD (0, [])).1, frames.flatMap (·.2))
      else .error "stack requires uniform dtype and shape; tensor 1 differs"
    splitChunk := fun _ => .ok [], valueSummary := fun _ => "" }

def cameraPlan : ImagePlan :=
  { size := none, fit := .stretch, crop := none, stack := 2, offsets := none, stackPad := .first, frameBytes := 0 }

def cameraEntry (key : String) : StackedPlacement cameraValues :=
  { key, depth := 2, span := 2, offsets := none, stackPad := .first, blackFrame := .ok, frameBytes := 0 }

/-- Two stacked inputs, the left camera's first. -/
def twoCameras : ResolvedAdapter cameraValues :=
  { transformObs := fun raw _ => .ok [("left", raw.1), ("right", raw.2)]
    stacked := [cameraEntry "left", cameraEntry "right"]
    previous := []
    historyFrames := fun raw => .ok [raw.1, raw.2]
    slot := fun payload key => .ok (payload.lookup key)
    setSlot := fun payload key tensor => insertKey key tensor payload
    repackAction := .ok
    transformAction := fun _ => .ok ()
    numericVector := fun _ => .ok []
    inDim := 0
    hasCustoms := false }

theorem resolved_twoCameras : Resolved twoCameras where
  placed := by
    have hplaced : ∀ key, ∃ (model : Image) (location : String) (plan : ImagePlan),
        stackWindow model location = .ok plan.offsets ∧
          plan.stackedPlacement key (V := cameraValues) .ok = some (cameraEntry key) := fun key =>
      ⟨{ height := none, width := none, channels := none, dtype := "uint8", resample := "bilinear", allowUpscale := false
         fit := none, optional := false, fill := none, stack := 2, crop := none, cropArea := none, cropMode := "zoom"
         jpegQuality := none, channelOrder := "rgb", render := none, offsets := none, stackPad := .first },
        key, cameraPlan, rfl, rfl⟩
    intro entry hentry
    simp only [twoCameras, List.mem_cons, List.not_mem_nil, or_false] at hentry
    rcases hentry with rfl | rfl
    · exact hplaced "left"
    · exact hplaced "right"
  distinct := by decide
  slotSet := fun payload key old tensor _ => congrArg Except.ok ((lookup_insertKey key tensor payload key).trans (if_pos rfl))
  slotOther := fun payload tensor entry _ other _ hne =>
    congrArg Except.ok ((lookup_insertKey entry.key tensor payload other.key).trans (if_neg hne))
  historyLength := fun raw frames h => by cases h; rfl

end Rlmesh.Adapters
