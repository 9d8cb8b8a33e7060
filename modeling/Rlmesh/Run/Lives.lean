import Rlmesh.Run.Session
/-!
# The episodes a session's model sees

The model is asked for predicts under an episode id and told once that the
episode has ended, as long as the session's caller predicts within an episode: a
predict before the first reset, or after a run or a failed reset, goes under an id
that is never ended or has been ended already.
-/
open Rlmesh.Wire Rlmesh.Lib Rlmesh.Lib.Fallible Rlmesh.Model

set_option linter.unusedSectionVars false

namespace Rlmesh.Run

variable {ω ε Id Obs Raw Act Info R : Type}

section

variable [Inhabited Id] [DecidableEq Id] [Zero R] [Add R]

/-- Every id is marked as used and then ended once, the open episode's still to come. -/
structure Lives (ids : Minter Id) (s : Core ω Id Obs Act R) : Prop where
  orderly : Orderly s.marks
  drawn : ∀ mark ∈ s.marks, ∃ n < s.minted, mark.id = ids.id n
  current : s.episode.isOpen = true → ∃ n < s.minted, s.episode.id = ids.id n
  unended : s.episode.isOpen = true → .ended s.episode.id ∉ s.marks
  used : ∀ id, .used id ∈ s.marks → .ended id ∈ s.marks ∨ (s.episode.isOpen = true ∧ id = s.episode.id)

/-- `Lives`, in an open episode. -/
def Running (ids : Minter Id) (s : Core ω Id Obs Act R) : Prop :=
  Lives ids s ∧ s.episode.isOpen = true

/-- Neither the marks nor the episode they are made for has changed. -/
structure SameEpisode (s s' : Core ω Id Obs Act R) : Prop where
  marks : s'.marks = s.marks
  minted : s'.minted = s.minted
  isOpen : s'.episode.isOpen = s.episode.isOpen
  id : s'.episode.id = s.episode.id

/-- A condition on nothing else. -/
def OfEpisode (I : Core ω Id Obs Act R → Prop) : Prop :=
  ∀ s s', SameEpisode s s' → I s → I s'

variable {ids : Minter Id} {s s' : Core ω Id Obs Act R} {I : Core ω Id Obs Act R → Prop}

theorem lives_ofEpisode : OfEpisode (Lives ids : Core ω Id Obs Act R → Prop) := by
  rintro s s' ⟨hmarks, hminted, hopen, hid⟩ ⟨orderly, drawn, current, unended, used⟩
  constructor
  · rwa [hmarks]
  · rwa [hmarks, hminted]
  · rwa [hopen, hid, hminted]
  · rwa [hopen, hid, hmarks]
  · rwa [hopen, hid, hmarks]

theorem running_ofEpisode : OfEpisode (Running ids : Core ω Id Obs Act R → Prop) :=
  fun s s' hsame h => ⟨lives_ofEpisode s s' hsame h.1, hsame.isOpen.trans h.2⟩

theorem Lives.unmarked (h : Lives ids s) {mark : Mark Id} (hmark : mark.id = ids.id s.minted) : mark ∉ s.marks := by
  intro hin
  obtain ⟨n, hn, heq⟩ := h.drawn mark hin
  rw [hmark] at heq
  exact absurd (ids.injective heq) (Nat.ne_of_gt hn)

theorem Lives.opened (h : Lives ids s) (hclosed : s.episode.isOpen = false) {t : Core ω Id Obs Act R}
    (hmarks : t.marks = s.marks) (hminted : t.minted = s.minted + 1) (hid : t.episode.id = ids.id s.minted)
    (hopen : t.episode.isOpen = true) : Running ids t := by
  refine ⟨⟨?_, ?_, fun _ => ?_, fun _ => ?_, ?_⟩, hopen⟩
  · rw [hmarks]
    exact h.orderly
  · rw [hmarks, hminted]
    intro mark hmark
    obtain ⟨n, hn, heq⟩ := h.drawn mark hmark
    exact ⟨n, Nat.lt_succ_of_lt hn, heq⟩
  · exact ⟨s.minted, by rw [hminted]; exact Nat.lt_succ_self _, hid⟩
  · rw [hmarks]
    exact h.unmarked hid
  · rw [hmarks]
    intro id hused
    rcases h.used id hused with hended | ⟨hcontra, -⟩
    · exact .inl hended
    · rw [hclosed] at hcontra
      cases hcontra

theorem Running.used (h : Running ids s) {t : Core ω Id Obs Act R}
    (hmarks : t.marks = s.marks ++ [.used s.episode.id]) (hminted : t.minted = s.minted)
    (hepisode : t.episode = s.episode) : Running ids t := by
  obtain ⟨h, hopen⟩ := h
  refine ⟨⟨?_, ?_, ?_, ?_, ?_⟩, hepisode ▸ hopen⟩
  · rw [hmarks]
    exact h.orderly.snoc (h.unended hopen)
  · rw [hmarks, hminted]
    intro mark hmark
    rcases List.mem_append.1 hmark with hmark | hmark
    · exact h.drawn mark hmark
    · obtain rfl : mark = .used s.episode.id := by simpa using hmark
      exact h.current hopen
  · rw [hepisode, hminted]
    exact h.current
  · rw [hepisode, hmarks]
    simpa using h.unended
  · rw [hepisode, hmarks]
    intro id hid
    rcases List.mem_append.1 hid with hid | hid
    · exact (h.used id hid).imp_left (List.mem_append_left _)
    · obtain ⟨rfl⟩ : id = s.episode.id := by simpa using hid
      exact .inr ⟨hopen, rfl⟩

namespace Session

variable (W : World ω ε Id Obs Raw Act Info R)

/-! ## What leaves the episode alone -/

theorem keeps_ask (h : OfEpisode I) {α : Type} (f : ω → Except ε α × ω) : Keeps I (ask f) :=
  keeps_zoom f fun s _ hs => h s _ ⟨rfl, rfl, rfl, rfl⟩ hs

theorem keeps_modify (h : OfEpisode I) (f : Core ω Id Obs Act R → Core ω Id Obs Act R)
    (hf : ∀ s, SameEpisode s (f s)) : Keeps I (modify f : Fallible _ ε Unit) :=
  ensures_modify f fun s hs => h s _ (hf s) hs

theorem keeps_lift {α : Type} (r : Except ε α) : Keeps I (ExceptT.mk (pure r) : Fallible _ ε α) := by
  intro s hs
  cases r <;> exact hs

theorem keeps_ensureConnected (h : OfEpisode I) : Keeps I (ensureConnected (R := R) W) := by
  refine ensures_get_bind fun s hs => ?_
  split
  · exact ensures_pure _ fun _ heq => heq ▸ hs
  · refine ensures_bind ((keeps_ask h _).pre fun _ heq => heq ▸ hs) fun connected => ?_
    refine ensures_bind (keeps_modify h _ fun _ => ⟨rfl, rfl, rfl, rfl⟩) fun _ => ?_
    exact ensures_pure _ fun _ => id

theorem keeps_truncateIf (h : OfEpisode I) (cut : Bool) :
    Keeps I (truncateIf cut : Fallible (Core ω Id Obs Act R) ε Unit) :=
  keeps_modify h _ fun _ => ⟨rfl, rfl, rfl, rfl⟩

theorem keeps_feedView (h : OfEpisode I) (observation : Obs) : Keeps I (feedView (R := R) W observation) :=
  ensures_bind (keeps_ask h _) fun skip => keeps_truncateIf h skip

theorem keeps_trialOptions (h : OfEpisode I) (connected : Connected) (trial : Option Int) :
    Keeps I (trialOptions (R := R) W connected trial) := by
  unfold trialOptions
  split
  · exact ensures_pure _ fun _ => id
  · split
    · exact ensures_pure _ fun _ => id
    · exact ensures_bind (keeps_ask h _) fun _ => ensures_pure _ fun _ => id

theorem keeps_pushReplay (h : OfEpisode I) (frames : List (List Raw)) : Keeps I (pushReplay (R := R) W frames) := by
  induction frames with
  | nil => exact ensures_pure _ fun _ => id
  | cons frame frames ih =>
    cases frame with
    | nil => exact ih
    | cons lane rest =>
      refine ensures_bind (keeps_lift _) fun action => ?_
      exact ensures_bind (keeps_modify h _ fun _ => ⟨rfl, rfl, rfl, rfl⟩) fun _ => ih

theorem keeps_replayAction (h : OfEpisode I) (connected : Connected) (row : EpisodeRow Id) (observation : Obs)
    (action : Act) (rest : List Act) : Keeps I (replayAction (R := R) W connected row observation action rest) := by
  refine ensures_bind (keeps_modify h _ fun _ => ⟨rfl, rfl, rfl, rfl⟩) fun _ => ?_
  split
  · refine ensures_bind (keeps_ask h _) fun _ => ?_
    exact ensures_bind (keeps_modify h _ fun _ => ⟨rfl, rfl, rfl, rfl⟩) fun _ => ensures_pure _ fun _ => id
  · exact ensures_pure _ fun _ => id

theorem keeps_step (h : OfEpisode I) (action : Act) : Keeps I (step (R := R) W action) := by
  refine ensures_bind (keeps_ask h _) fun _ => ?_
  refine ensures_bind (keeps_ensureConnected W h) fun _ => ?_
  refine ensures_bind (keeps_ask h _) fun answer => ?_
  refine ensures_bind (keeps_modify h _ fun _ => ⟨rfl, rfl, rfl, rfl⟩) fun _ => ?_
  refine ensures_bind (keeps_feedView W h _) fun _ => ?_
  refine ensures_bind (keeps_ask h _) fun _ => ?_
  exact ensures_get_bind fun s hs => ensures_pure _ fun _ heq => heq ▸ hs

/-! ## Marks -/

theorem ensures_endEpisode : Ensures (Lives ids) (endEpisode (R := R) W)
    (fun _ s => Lives ids s ∧ s.episode.isOpen = false) (fun s => Lives ids s ∧ s.episode.isOpen = false) := by
  refine ensures_get_bind fun s hs => ?_
  split
  · rename_i hopen
    have hclosed : OfEpisode fun s : Core ω Id Obs Act R => Lives ids s ∧ s.episode.isOpen = false :=
      fun s s' hsame h => ⟨lives_ofEpisode s s' hsame h.1, hsame.isOpen.trans h.2⟩
    refine ensures_bind (ensures_modify _ ?_) fun _ => keeps_ask hclosed _
    rintro t rfl
    refine ⟨⟨hs.orderly.snoc (hs.unended hopen), ?_, nofun, nofun, ?_⟩, rfl⟩
    · intro mark hmark
      rcases List.mem_append.1 hmark with hmark | hmark
      · exact hs.drawn mark hmark
      · obtain rfl : mark = .ended t.episode.id := by simpa using hmark
        exact hs.current hopen
    · intro id hid
      have hmem : .used id ∈ t.marks := by simpa using hid
      rcases hs.used id hmem with hended | ⟨-, rfl⟩
      · exact .inl (List.mem_append_left _ hended)
      · exact .inl (List.mem_append_right _ (List.mem_singleton_self _))
  · rename_i hopen
    refine ensures_pure _ ?_
    rintro _ rfl
    exact ⟨hs, by simpa using hopen⟩

theorem ensures_mintId {P : Core ω Id Obs Act R → Prop} {E : Core ω Id Obs Act R → Prop} (ids : Minter Id) :
    Ensures P (mintId ids : Fallible _ ε Id)
      (fun id t => ∃ s, P s ∧ id = ids.id s.minted ∧ t = { s with minted := s.minted + 1 }) E :=
  fun s hs => ⟨s, hs, rfl, rfl⟩

theorem ensures_reset (seed trialIndex : Option Int) : Ensures (Lives ids) (reset W ids seed trialIndex)
    (fun _ s => Running ids s) (Lives ids) := by
  have hclosed : OfEpisode fun s : Core ω Id Obs Act R => Lives ids s ∧ s.episode.isOpen = false :=
    fun s s' hsame h => ⟨lives_ofEpisode s s' hsame h.1, hsame.isOpen.trans h.2⟩
  refine ensures_bind (keeps_ensureConnected W lives_ofEpisode) fun connected => ?_
  refine ensures_bind ((ensures_endEpisode W).failing fun _ h => h.1) fun _ => ?_
  refine ensures_bind ((keeps_trialOptions W hclosed _ _).failing fun _ h => h.1)
    fun options => ?_
  refine ensures_bind ((keeps_ask hclosed _).failing fun _ h => h.1) fun answer => ?_
  refine ensures_bind (ensures_mintId ids) fun episodeId => ?_
  refine ensures_bind (Q := fun _ => Running ids) (ensures_modify _ ?_) fun _ => ?_
  · rintro _ ⟨s, ⟨hs, hclosed⟩, rfl, rfl⟩
    exact hs.opened hclosed rfl rfl rfl rfl
  · refine ensures_bind ((keeps_feedView W running_ofEpisode _).failing fun _ h => h.1)
      fun _ => ?_
    exact ensures_pure _ fun _ => id

theorem ensures_episodeId (ids : Minter Id) :
    Ensures (Running ids) (episodeId ids : Fallible (Core ω Id Obs Act R) ε Id)
      (fun id s => Running ids s ∧ id = s.episode.id) (Running ids) := by
  refine ensures_get_bind fun s hs => ?_
  have hid : s.episode.id ≠ default := by
    obtain ⟨n, -, hn⟩ := hs.1.current hs.2
    rw [hn]
    exact ids.nonempty n
  rw [if_neg hid]
  refine ensures_pure _ ?_
  rintro t rfl
  exact ⟨hs, rfl⟩

theorem ensures_predictFresh (connected : Connected) (row : EpisodeRow Id) (observation : Obs) :
    Ensures (fun s => Running ids s ∧ row.episodeId = s.episode.id) (predictFresh W connected row observation)
      (fun _ => Running ids) (Running ids) := by
  have hrow : OfEpisode fun s : Core ω Id Obs Act R => Running ids s ∧ row.episodeId = s.episode.id :=
    fun s s' hsame h => ⟨running_ofEpisode s s' hsame h.1, h.2.trans hsame.id.symm⟩
  have hsame : OfEpisode (Running ids : Core ω Id Obs Act R → Prop) := running_ofEpisode
  refine ensures_bind ((keeps_ask hrow _).failing fun _ h => h.1) fun _ => ?_
  refine ensures_get_bind fun s hs => ?_
  refine ensures_bind (Q := fun _ t => Running ids t ∧ row.episodeId = t.episode.id) (ensures_modify _ ?_) fun _ => ?_
  · rintro t rfl
    exact hrow t _ ⟨rfl, rfl, rfl, rfl⟩ hs
  refine ensures_bind ((keeps_ask hrow _).failing fun _ h => h.1) fun _ => ?_
  refine ensures_bind (Q := fun _ => Running ids) (ensures_modify _ ?_) fun _ => ?_
  · rintro t ⟨ht, hid⟩
    exact ht.used (by rw [hid]) rfl rfl
  refine ensures_bind (keeps_ask hsame _) fun frames => ?_
  split
  · exact ensures_throw _ fun _ => id
  · exact ensures_bind (keeps_pushReplay W hsame _) fun _ => keeps_lift _

theorem keeps_predict (observation : Obs) : Keeps (Running ids) (predict W ids observation) := by
  have hsame : OfEpisode (Running ids : Core ω Id Obs Act R → Prop) := running_ofEpisode
  refine ensures_bind (keeps_ask hsame _) fun _ => ?_
  refine ensures_bind (keeps_ensureConnected W hsame) fun connected => ?_
  refine ensures_bind (ensures_episodeId ids) fun episodeId => ?_
  refine ensures_get_bind fun s hs => ?_
  obtain ⟨hs, rfl⟩ := hs
  have hfrom : ∀ t, t = s → Running ids t := by
    rintro t rfl
    exact hs
  split
  · exact (keeps_replayAction W hsame _ _ _ _ _).pre hfrom
  · exact (ensures_predictFresh W connected _ _).pre fun t ht => ⟨hfrom t ht, by rw [ht]⟩

/-! ## Runs of episodes -/

theorem keeps_round (index : Nat) (seed : Option Int) (stepCap : Nat) (observation : Obs) :
    Keeps (Running ids) (round W ids index seed stepCap observation) := by
  have hsame : OfEpisode (Running ids : Core ω Id Obs Act R → Prop) := running_ofEpisode
  refine ensures_get_bind fun s hs => ?_
  refine ensures_bind ((keeps_predict W observation).pre fun _ heq => heq ▸ hs) fun action => ?_
  refine ensures_bind (keeps_step W hsame action) fun answer => ?_
  refine ensures_get_bind fun s hs => ?_
  refine ensures_bind ((keeps_truncateIf hsame _).pre fun _ heq => heq ▸ hs) fun _ => ?_
  exact ensures_bind (keeps_ask hsame _) fun _ => ensures_pure _ fun _ => id

theorem keeps_rounds (index : Nat) (seed : Option Int) (stepCap fuel : Nat) (observation : Obs) (info : Info) :
    Keeps (Running ids) (rounds W ids index seed stepCap fuel observation info) := by
  have hsame : OfEpisode (Running ids : Core ω Id Obs Act R → Prop) := running_ofEpisode
  induction fuel generalizing observation info with
  | zero => exact ensures_pure _ fun _ => id
  | succ fuel ih =>
    refine ensures_get_bind fun s hs => ?_
    split
    · exact ensures_pure _ fun _ heq => heq ▸ hs
    · refine ensures_bind ((keeps_ask hsame _).pre fun _ heq => heq ▸ hs) fun _ => ?_
      refine ensures_bind (keeps_ask hsame _) fun up => ?_
      split
      · exact ensures_pure _ fun _ => id
      · exact ensures_bind (keeps_round W index seed stepCap observation) fun answer => ih answer.1 answer.2

/-- An episode of a run begins with a reset, so its predicts are all in it. -/
theorem keeps_runEpisode (plan : RunPlan) (walksTrials : Bool) (index : Nat) :
    Keeps (Lives ids) (runEpisode W ids plan walksTrials index) := by
  have hsame : OfEpisode (Running ids : Core ω Id Obs Act R → Prop) := running_ofEpisode
  suffices hrun : Ensures (Lives ids) (runEpisode W ids plan walksTrials index) (fun _ => Running ids) (Lives ids) from
    hrun.mono (fun _ => id) (fun _ _ h => h.1) (fun _ => id)
  refine ensures_bind (ensures_reset W _ _) fun answer => ?_
  have hlives : ∀ s : Core ω Id Obs Act R, Running ids s → Lives ids s := fun _ h => h.1
  refine ensures_bind ((keeps_ask hsame _).failing hlives) fun _ => ?_
  refine ensures_bind ((keeps_rounds W _ _ _ _ _ _).failing hlives) fun info => ?_
  refine ensures_get_bind fun s hs => ?_
  refine ensures_bind (((keeps_truncateIf hsame _).failing hlives).pre fun _ heq => heq ▸ hs) fun _ => ?_
  refine ensures_get_bind fun s hs => ?_
  refine ensures_bind (Q := fun _ => Running ids) (ensures_modify _ ?_) fun _ => ?_
  · rintro t rfl
    exact hsame t _ ⟨rfl, rfl, rfl, rfl⟩ hs
  refine ensures_bind ((keeps_ask hsame _).failing hlives) fun _ => ?_
  exact (keeps_ask hsame _).failing hlives

theorem keeps_episodesFrom (plan : RunPlan) (walksTrials : Bool) (index left : Nat) :
    Keeps (Lives ids) (episodesFrom W ids plan walksTrials index left) := by
  induction left generalizing index with
  | zero => exact ensures_pure _ fun _ => id
  | succ left ih =>
    refine ensures_bind (keeps_runEpisode W plan walksTrials index) fun quit => ?_
    split
    · exact ensures_pure _ fun _ => id
    · exact ih (index + 1)

theorem keeps_endEpisode : Keeps (Lives ids) (endEpisode (R := R) W) :=
  (ensures_endEpisode W).mono (fun _ => id) (fun _ _ h => h.1) (fun _ h => h.1)

theorem keeps_attempt {α : Type} {m : Fallible (Core ω Id Obs Act R) ε α} (h : Keeps I m) : Keeps I (attempt m) :=
  ensures_attempt (h.failing fun _ hs _ => hs)

theorem keeps_run (plan : RunPlan) : Keeps (Lives ids) (run W ids plan) := by
  have hsame : OfEpisode (Lives ids : Core ω Id Obs Act R → Prop) := lives_ofEpisode
  refine ensures_bind (keeps_ask hsame _) fun _ => ?_
  refine ensures_bind (keeps_ensureConnected W hsame) fun connected => ?_
  refine ensures_bind (keeps_modify hsame _ fun _ => ⟨rfl, rfl, rfl, rfl⟩) fun _ => ?_
  refine ensures_bind (keeps_attempt ?_) fun outcome => ?_
  · exact ensures_bind (keeps_ask hsame _) fun _ => keeps_episodesFrom W plan _ _ _
  refine ensures_get_bind fun s hs => ?_
  refine ensures_bind ((keeps_attempt (keeps_ask hsame _)).pre fun _ heq => heq ▸ hs) fun runEnd => ?_
  refine ensures_bind (keeps_attempt (keeps_endEpisode W)) fun ended => ?_
  refine ensures_bind (keeps_lift _) fun _ => ?_
  refine ensures_bind (keeps_lift _) fun _ => ?_
  exact ensures_bind (keeps_lift _) fun _ => ensures_pure _ fun _ => id

theorem ensures_release (closeEnv : Bool) : Ensures (Lives ids) (release (R := R) W closeEnv)
    (fun _ s => Lives ids s ∧ s.episode.isOpen = false) (fun s => Lives ids s ∧ s.episode.isOpen = false) := by
  have hclosed : OfEpisode fun s : Core ω Id Obs Act R => Lives ids s ∧ s.episode.isOpen = false :=
    fun s s' hsame h => ⟨lives_ofEpisode s s' hsame h.1, hsame.isOpen.trans h.2⟩
  refine ensures_bind (Q := fun _ s => Lives ids s ∧ s.episode.isOpen = false)
    (ensures_attempt ((ensures_endEpisode W).failing fun _ hs _ => hs)) fun ended => ?_
  refine ensures_get_bind fun s hs => ?_
  refine ensures_bind (Q := fun _ s => Lives ids s ∧ s.episode.isOpen = false)
    ((keeps_attempt ?_).pre fun _ heq => heq ▸ hs) fun route => ?_
  · split
    · exact keeps_ask hclosed _
    · exact ensures_pure _ fun _ => id
  refine ensures_bind (keeps_attempt (keeps_ask hclosed _)) fun env => ?_
  refine ensures_bind (keeps_modify hclosed _ fun _ => ⟨rfl, rfl, rfl, rfl⟩) fun _ => ?_
  refine ensures_bind (keeps_lift _) fun _ => ?_
  exact ensures_bind (keeps_lift _) fun _ => keeps_lift _

end Session

/-! ## Whole sessions -/

/-- Every run of a session's calls. -/
def sessionCalls (W : World ω ε Id Obs Raw Act Info R) (ids : Minter Id) (world : ω) :
    System (Core ω Id Obs Act R) (SessionCall Obs Act) where
  init := .init Id Obs Act R world
  step s call := some (Session.after W ids s call)

/-- The caller predicts within an episode. -/
def PredictsOpen (s : Core ω Id Obs Act R) : SessionCall Obs Act → Prop
  | .predict _ => s.episode.isOpen = true
  | _ => True

variable {W : World ω ε Id Obs Raw Act Info R} {world : ω}

theorem lives_after {call : SessionCall Obs Act} (h : Lives ids s) (hopen : PredictsOpen s call) :
    Lives ids (Session.after W ids s call) := by
  cases call with
  | reset seed trialIndex =>
    exact Keeps.exec ((Session.ensures_reset W seed trialIndex).mono (fun _ => id) (fun _ _ h => h.1) (fun _ => id)) h
  | predict observation => exact (Keeps.exec (Session.keeps_predict W observation) ⟨h, hopen⟩).1
  | step action => exact Keeps.exec (Session.keeps_step W lives_ofEpisode action) h
  | run plan => exact Keeps.exec (Session.keeps_run W plan) h
  | release closeEnv =>
    exact Keeps.exec ((Session.ensures_release W closeEnv).mono (fun _ => id) (fun _ _ h => h.1) (fun _ h => h.1)) h

theorem lives_init : Lives ids (.init Id Obs Act R world) := by
  constructor <;> simp [Core.init, Episode.none, orderly_nil]

theorem reach_lives (h : (sessionCalls W ids world).Reach PredictsOpen s) : Lives ids s := by
  refine h.inv (Lives ids) lives_init fun s call s' hs hopen hstep => ?_
  obtain rfl := Option.some.inj hstep
  exact lives_after hs hopen

/-- Once a session is released, every episode its model was asked about has been ended. -/
theorem Lives.complete_of_release (h : Lives ids s) {closeEnv : Bool}
    (hr : Fallible.exec (Session.release W closeEnv) s = (.ok (), s')) : Complete s'.marks := by
  obtain ⟨hlives, hclosed⟩ := (Session.ensures_release W closeEnv).ok h hr
  intro id hid
  rcases hlives.used id hid with hended | ⟨hopen, -⟩
  · exact hended
  · rw [hclosed] at hopen
    cases hopen

/-- Outside the driver too, a model sees predicts and then one end per episode id. In every run of a session's calls
whose predicts are made within an episode, and in every run of the calls on a served model's client whose ends all
reach the model: no id is predicted under or ended once it has been ended, and when a release or a close returns
without error every id that was predicted under has been ended. Any call into the env, the model or the server may
fail. -/
theorem episodes_end_once {ω' ε' Obs' Raw' Act' : Type} (W : World ω ε Id Obs Raw Act Info R)
    (S : Served ω' ε' Id Obs' Raw' Act') (ids : Minter Id) (world : ω) (world' : ω')
    (hreach : ∀ ended world, (S.resetAdapter ended world).1.reached = true) :
    (∀ s, (sessionCalls W ids world).Reach PredictsOpen s → Orderly s.marks ∧
      ∀ closeEnv s', exec (Session.release W closeEnv) s = (.ok (), s') → Complete s'.marks) ∧
    ∀ s, (clientCalls S ids world').Reach (fun _ _ => True) s → Orderly s.marks ∧
      ∀ s', exec (ModelClient.close S) s = (.ok (), s') → Complete s'.marks := by
  constructor
  · intro s hs
    have hlives := reach_lives hs
    exact ⟨hlives.orderly, fun _ _ hr => hlives.complete_of_release hr⟩
  · intro s hs
    have hdues := reach_dues hreach hs
    exact ⟨hdues.1.orderly, fun s' hr => ((ModelClient.ensures_close S hreach).ok hdues hr).2⟩

end

/-! ## Predicts outside an episode, and ends that are lost -/

/-- A world in which every call succeeds. -/
def quiet : World Unit Unit Nat Unit Unit Unit Unit Int where
  connect world := (.ok { trialOption := false, horizon := 1, wantsHistory := false }, world)
  admits world := (.ok (), world)
  warnTrial world := (.ok (), world)
  reset _ _ world := (.ok ((), ()), world)
  step _ world := (.ok ((), 1, false, false, ()), world)
  feedView _ world := (.ok false, world)
  pace world := (.ok (), world)
  viewQuit world := (.ok false, world)
  encode _ world := (.ok (), world)
  predict _ world := (.ok { actions := [()], replay := [] }, world)
  decode _ := .ok ()
  noAction := ()
  episodeEnd _ world := (.ok (), world)
  hook _ world := (.ok (), world)
  checkCancelled world := (.ok (), world)
  timeUp world := (.ok false, world)
  releaseRoute world := (.ok (), world)
  releaseEnv _ world := (.ok (), world)
  success _ := none

/-- A served model whose answers are all successes, but for the ends that do not reach it. -/
def served (reaches : Bool) : Served Unit Unit Nat Unit Unit Unit where
  resolveAdapter world := (.ok false, world)
  resetAdapter _ world := ({ reached := reaches, result := if reaches then .ok () else .error () }, world)
  predict _ world := ({ reached := true, result := .ok [()] }, world)
  releaseAdapter world := (.ok (), world)
  encode _ := .ok ()
  decode _ := .ok ()
  notReset := ()
  noActions := ()

/-- A call that succeeded and left an episode open. -/
def leavesOpen {S ε : Type} (marks : S → List (Mark Nat)) : Except ε Unit × S → Bool
  | (.ok _, s) => !decide (Complete (marks s))
  | (.error _, _) => false

theorem leavesOpen_ok {S ε : Type} {marks : S → List (Mark Nat)} {result : Except ε Unit × S}
    (h : leavesOpen marks result = true) : ∃ s, result = (.ok (), s) ∧ ¬ Complete (marks s) := by
  obtain ⟨outcome, s⟩ := result
  cases outcome with
  | ok => exact ⟨s, rfl, by simpa [leavesOpen] using h⟩
  | error => simp [leavesOpen] at h

/-- A session that predicts before its first reset and one that predicts after a run; a client that closes again after
a close whose ends were lost. -/
theorem episodes_left_open :
    (¬ ∀ s, (sessionCalls quiet .nat ()).Reach (fun _ _ => True) s →
      ∀ closeEnv s', exec (Session.release quiet closeEnv) s = (.ok (), s') → Complete s'.marks) ∧
    (¬ ∀ s, (sessionCalls quiet .nat ()).Reach (fun _ _ => True) s → Orderly s.marks) ∧
    ¬ ∀ s, (clientCalls (served false) .nat ()).Reach (fun _ _ => True) s →
      ∀ s', exec (ModelClient.close (served false)) s = (.ok (), s') → Complete s'.marks := by
  refine ⟨fun h => ?_, fun h => ?_, fun h => ?_⟩
  · obtain ⟨s, hreach, hs⟩ := System.exists_reach_of_runFrom (sessionCalls quiet .nat ()) (fun _ _ => True)
      (fun s => leavesOpen (·.marks) (exec (Session.release quiet false) s))
      [.predict ()] (by decide +kernel) (by decide +kernel)
    obtain ⟨s', hr, hopen⟩ := leavesOpen_ok hs
    exact hopen (h s hreach false s' hr)
  · obtain ⟨s, hreach, hs⟩ := System.exists_reach_of_runFrom (sessionCalls quiet .nat ()) (fun _ _ => True)
      (fun s => decide (s.marks = [.used 1, .ended 1, .used 1]))
      [.run { episodes := 1, seeds := none, maxEpisodeSteps := some 1, trialIndexBase := 0 }, .predict ()]
      (by decide +kernel) (by decide +kernel)
    have hmarks := h s hreach
    rw [of_decide_eq_true hs] at hmarks
    simp [Orderly, Mark.id] at hmarks
  · obtain ⟨s, hreach, hs⟩ := System.exists_reach_of_runFrom (clientCalls (served false) .nat ()) (fun _ _ => True)
      (fun s => leavesOpen (·.marks) (exec (ModelClient.close (served false)) s))
      [.reset none, .predict (), .close] (by decide +kernel) (by decide +kernel)
    obtain ⟨s', hr, hopen⟩ := leavesOpen_ok hs
    exact hopen (h s hreach s' hr)

/-- A reset, a predict, a run of two episodes and a release. -/
theorem episodes_end_once_after_run :
    ∃ s, (sessionCalls quiet .nat ()).Reach PredictsOpen s ∧ s.marks.length = 6 ∧
      ∀ closeEnv s', exec (Session.release quiet closeEnv) s = (.ok (), s') → Complete s'.marks := by
  obtain ⟨s, hreach, hs⟩ := System.exists_reach_of_runFrom (sessionCalls quiet .nat ()) PredictsOpen
    (fun s => decide (s.marks.length = 6))
    [.reset none none, .predict (), .run { episodes := 2, seeds := none, maxEpisodeSteps := some 1, trialIndexBase := 0 }]
    ⟨trivial, rfl, trivial, trivial⟩ (by decide +kernel)
  exact ⟨s, hreach, of_decide_eq_true hs, ((episodes_end_once quiet (served true) .nat () () (fun _ _ => rfl)).1 s hreach).2⟩

end Rlmesh.Run
