import Rlmesh.Env.Join
/-!
# After a non-recoverable error

A non-recoverable error of a request handled in the read loop ends the loop. One
of a lane request is answered by the request's own task, which the loop does not
hear of: it reads on, and what it reads is handled.
-/
open Rlmesh.Wire Rlmesh.Lib

namespace Rlmesh.Env

variable {Id R : Type}

namespace JoinSession

/-- The request at a place has been taken up: its operation runs, or it has been handled. -/
def Touched (session : JoinSession Id R) (place : Nat) : Prop :=
  place ∈ session.handling ∨ session.phase = .serving place ∨ place ∈ session.handled.map (·.place)

/-- The Join reads nothing more: the loop is left, or handles a Close. -/
def Leaving (session : JoinSession Id R) : Prop :=
  match session.phase with
  | .reading | .answering _ _ => False
  | .draining place | .serving place => (session.messages[place]?.map fun message => isClose message.request) = some true
  | .ending _ | .swept _ | .released _ | .gone => True

instance (session : JoinSession Id R) : Decidable session.Leaving := by
  unfold Leaving
  split <;> infer_instance

/-- What is taken up has been read, and after a non-recoverable error nothing more is. -/
structure Halts (session : JoinSession Id R) : Prop where
  handling : ∀ place ∈ session.handling, place < session.messages.length
  pending : ∀ place, session.phase = .draining place ∨ session.phase = .serving place →
    place < session.messages.length
  handled : ∀ exchanged ∈ session.handled, exchanged.place < session.messages.length
  fatal : ∀ n, session.fatalAt = some n → session.messages.length = n ∧ session.Leaving

theorem halts_none : (none : JoinSession Id R).Halts := by
  constructor <;> simp [none]

theorem halts_opened : (opened : JoinSession Id R).Halts := by
  constructor <;> simp [opened, none]

theorem Halts.untouched {session : JoinSession Id R} (h : session.Halts) {place : Nat}
    (hplace : session.messages.length ≤ place) : ¬ session.Touched place := by
  rintro (hin | hphase | hin)
  · exact absurd (h.handling place hin) (not_lt.2 hplace)
  · exact absurd (h.pending place (.inr hphase)) (not_lt.2 hplace)
  · obtain ⟨exchanged, hexchanged, rfl⟩ := List.mem_map.1 hin
    exact absurd (h.handled exchanged hexchanged) (not_lt.2 hplace)

/-- A step that reads and handles nothing, and leaves a Join that is leaving so. -/
theorem Halts.of_same {session session' : JoinSession Id R} (h : session.Halts)
    (hmessages : session'.messages = session.messages) (hhandled : session'.handled = session.handled)
    (hfatal : session'.fatalAt = session.fatalAt) (hhandling : session'.handling ⊆ session.handling)
    (hpending : ∀ place, session'.phase = .draining place ∨ session'.phase = .serving place →
      session.phase = .draining place ∨ session.phase = .serving place)
    (hleaving : session.Leaving → session'.Leaving) : session'.Halts where
  handling place hplace := by
    rw [hmessages]
    exact h.handling place (hhandling hplace)
  pending place hplace := by
    rw [hmessages]
    exact h.pending place (hpending place hplace)
  handled := by
    rw [hmessages, hhandled]
    exact h.handled
  fatal n hn := by
    rw [hfatal] at hn
    rw [hmessages]
    exact ⟨(h.fatal n hn).1, hleaving (h.fatal n hn).2⟩

/-- The loop only reads while no non-recoverable error has been produced. -/
theorem Halts.read {session : JoinSession Id R} (h : session.Halts) (cfg : ServerConfig) (message : Message Id R)
    (hphase : session.phase = .reading) : (session.read cfg message).Halts := by
  have hnone : session.fatalAt = .none := by
    cases hfatal : session.fatalAt with
    | none => rfl
    | some n =>
      have hleaving := (h.fatal n hfatal).2
      simp only [Leaving, hphase] at hleaving
  have hlen : (session.messages ++ [message]).length = session.messages.length + 1 := by simp
  have hhandling : ∀ place ∈ session.handling, place < session.messages.length + 1 :=
    fun place hplace => Nat.lt_succ_of_lt (h.handling place hplace)
  have hhandled : ∀ exchanged ∈ session.handled, exchanged.place < session.messages.length + 1 :=
    fun exchanged hin => Nat.lt_succ_of_lt (h.handled exchanged hin)
  unfold JoinSession.read
  dsimp only
  split
  · refine ⟨?_, ?_, ?_, ?_⟩ <;> dsimp only <;> rw [hlen]
    · intro place hplace
      rcases List.mem_append.1 hplace with hplace | hplace
      · exact hhandling place hplace
      · obtain rfl : place = session.messages.length := by simpa using hplace
        exact Nat.lt_succ_self _
    · rw [hphase]
      rintro place (h | h) <;> cases h
    · exact hhandled
    · rw [hnone]
      exact nofun
  · refine ⟨?_, ?_, ?_, ?_⟩ <;> dsimp only <;> rw [hlen]
    · exact hhandling
    · rintro place (⟨⟨⟩⟩ | h)
      · exact Nat.lt_succ_self _
      · cases h
    · exact hhandled
    · rw [hnone]
      exact nofun

/-- A request is handled; if it fails beyond recovery, the Join is leaving. -/
theorem Halts.handle {session session' : JoinSession Id R} (h : session.Halts) {exchanged : Exchanged Id R}
    (hplace : exchanged.place < session.messages.length)
    (hmessages : session'.messages = session.messages)
    (hhandled : session'.handled = (session.record exchanged).handled)
    (hfatal : session'.fatalAt = (session.record exchanged).fatalAt) (hhandling : session'.handling ⊆ session.handling)
    (hpending : ∀ place, session'.phase = .draining place ∨ session'.phase = .serving place →
      session.phase = .draining place ∨ session.phase = .serving place)
    (hleaving : session.Leaving → session'.Leaving) (hends : isFatal exchanged.reply = true → session'.Leaving) :
    session'.Halts where
  handling place hin := by
    rw [hmessages]
    exact h.handling place (hhandling hin)
  pending place hphase := by
    rw [hmessages]
    exact h.pending place (hpending place hphase)
  handled other hin := by
    rw [hhandled] at hin
    rw [hmessages]
    rcases List.mem_append.1 hin with hin | hin
    · exact h.handled other hin
    · obtain rfl : other = exchanged := by simpa using hin
      exact hplace
  fatal n hn := by
    rw [hfatal, record] at hn
    dsimp only at hn
    rw [hmessages]
    split at hn
    · rename_i hnew
      rw [Bool.and_eq_true] at hnew
      exact ⟨Option.some.inj hn, hends hnew.1⟩
    · exact ⟨(h.fatal n hn).1, hleaving (h.fatal n hn).2⟩

end JoinSession

namespace EnvJoin

variable [Zero R] [Add R] [BEq R] [Inhabited Id] {cfg : ServerConfig} {s s' : EnvJoin Id R} {e : EnvJoinEvent Id R}

/-- When a lane request fails beyond recovery, the Join it came from reads nothing more. -/
def LaneFailuresLast (cfg : ServerConfig) (s : EnvJoin Id R) : EnvJoinEvent Id R → Prop
  | .finishLane k place now answer => ∀ message ∈ (s.session k).messages[place]?,
    isFatal (handleEnvRequest cfg now answer s.tracker message.request).1 = true → (s.session k).Leaving
  | _ => True

theorem halts_moves (h : ∀ k, (s.session k).Halts) (hm : Moves cfg s e s') (he : LaneFailuresLast cfg s e) (j : Nat) :
    (s'.session j).Halts := by
  cases hm with
  | refused htaken => exact h j
  | admitted hfree => exact forall_put h JoinSession.halts_opened j
  | read message hphase => exact forall_put h ((h _).read cfg message hphase) j
  | hangUp k =>
    refine forall_put h ?_ j
    exact (h k).of_same rfl rfl rfl (List.Subset.refl _) (fun _ => id) id
  | finishLane now answer hmessage hplace =>
    refine forall_put h ?_ j
    exact (h _).handle ((h _).handling _ hplace) rfl rfl rfl List.erase_subset (fun _ => id) id (he _ hmessage)
  | replyLane hreply =>
    refine forall_put h ?_ j
    refine (h _).of_same (JoinSession.send_messages ..) (JoinSession.send_handled ..) (JoinSession.send_fatalAt ..)
      (by simp) ?_ ?_
    · intro place hplace
      simpa using hplace
    · simp only [JoinSession.Leaving, JoinSession.send_phase, JoinSession.send_messages]
      exact id
  | panicLane hplace =>
    refine forall_put h ?_ j
    exact (h _).of_same rfl rfl rfl List.erase_subset (fun _ => id) id
  | serve hphase hquiet =>
    refine forall_put h ?_ j
    refine (h _).of_same rfl rfl rfl (List.Subset.refl _) ?_ ?_
    · rintro place (hplace | ⟨⟨⟩⟩)
      · cases hplace
      · exact .inl hphase
    · simp only [JoinSession.Leaving, hphase]
      exact id
  | @finishServe k place message now answer hphase hmessage =>
    refine forall_put h ?_ j
    have hcloses : (s.session k).Leaving → isClose message.request = true := by
      simp only [JoinSession.Leaving, hphase, hmessage, Option.map_some, Option.some.injEq]
      exact id
    refine (h k).handle ((h k).pending place (.inr hphase)) rfl rfl rfl (List.Subset.refl _) ?_ ?_ ?_
    · intro other
      dsimp only
      split <;> rintro (hother | hother) <;> cases hother
    · intro hleaving
      simp only [JoinSession.Leaving, hcloses hleaving, Bool.true_or, if_true]
    · intro hfatal
      simp only [JoinSession.Leaving, hfatal, Bool.or_true, if_true]
  | reply hphase =>
    refine forall_put h ?_ j
    refine (h _).of_same (JoinSession.send_messages ..) (JoinSession.send_handled ..) (JoinSession.send_fatalAt ..)
      (by simp) ?_ ?_
    · intro place
      dsimp only
      split <;> rintro (hplace | hplace) <;> cases hplace
    · intro hleaving
      simp only [JoinSession.Leaving, hphase] at hleaving
  | sendTerminal hphase =>
    refine forall_put h ?_ j
    refine (h _).of_same (JoinSession.send_messages ..) (JoinSession.send_handled ..) (JoinSession.send_fatalAt ..)
      (by simp) ?_ (fun _ => trivial)
    rintro place (hplace | hplace) <;> cases hplace
  | streamEnd hphase | panicServe hphase | sweep now hphase hquiet | release hphase | leave hphase =>
    refine forall_put h ?_ j
    refine (h _).of_same rfl rfl rfl (List.Subset.refl _) ?_ (fun _ => trivial)
    rintro place (hplace | hplace) <;> cases hplace

end EnvJoin

/-- The event is a message being read. -/
def EnvJoinEvent.reads : EnvJoinEvent Id R → Bool
  | .read _ _ => true
  | _ => false

section

variable [Zero R] [Add R] [BEq R] [Inhabited Id] {cfg : ServerConfig} {s : EnvJoin Id R}

theorem reach_halts (h : (envJoins Id R cfg).Reach (EnvJoin.LaneFailuresLast cfg) s) : ∀ k, (s.session k).Halts :=
  h.inv (fun s => ∀ k, (s.session k).Halts) (fun _ => JoinSession.halts_none)
    (fun _ _ _ hi he hs => EnvJoin.halts_moves hi (EnvJoin.step_moves hs) he)

/-- The Join's stream ends with nothing more read. -/
def EnvJoin.Ends (cfg : ServerConfig) (s : EnvJoin Id R) (k : Nat) : Prop :=
  ∃ es s', (∀ e ∈ es, EnvJoinEvent.reads e = false) ∧ (envJoins Id R cfg).runFrom s es = some s' ∧
    (s'.session k).phase = .gone

theorem EnvJoin.Ends.cons {k : Nat} (e : EnvJoinEvent Id R) (he : e.reads = false)
    (h : ∃ s', s.step cfg e = some s' ∧ s'.Ends cfg k) : s.Ends cfg k := by
  obtain ⟨s', hstep, es, s'', hreads, hrun, hgone⟩ := h
  refine ⟨e :: es, s'', ?_, ?_, hgone⟩
  · intro other hother
    rcases List.mem_cons.1 hother with rfl | hother
    · exact he
    · exact hreads other hother
  · simp only [System.runFrom, envJoins, hstep, Option.bind_some]
    exact hrun

variable {k : Nat} {terminal : Option (Nat × JoinResponse Id R)}

theorem EnvJoin.ends_of_gone (h : (s.session k).phase = .gone) : s.Ends cfg k :=
  ⟨[], s, fun _ he => absurd he List.not_mem_nil, rfl, h⟩

theorem EnvJoin.ends_of_released (h : (s.session k).phase = .released terminal) : s.Ends cfg k := by
  refine .cons (.sendTerminal k) rfl ?_
  cases terminal with
  | none =>
    simp only [step, h, Option.some.injEq, exists_eq_left']
    exact ends_of_gone (by rw [put_self])
  | some entry =>
    simp only [step, h, Option.some.injEq, exists_eq_left']
    exact ends_of_gone (by rw [put_self])

theorem EnvJoin.ends_of_swept (h : (s.session k).phase = .swept terminal) : s.Ends cfg k := by
  refine .cons (.release k) rfl ?_
  simp only [step, h, Option.some.injEq, exists_eq_left']
  apply ends_of_released
  rw [put_self]

theorem EnvJoin.ends_of_ending (h : (s.session k).phase = .ending terminal) (hquiet : (s.session k).Quiet) :
    s.Ends cfg k := by
  refine .cons (.sweep k 0) rfl ?_
  simp only [step, h, hquiet, if_true, Option.some.injEq, exists_eq_left']
  apply ends_of_swept
  rw [put_self]

/-- An env all of whose operations fail. -/
def failing (Id R : Type) : EnvAnswer Id R where
  late := false
  reset := .error (.new .internal "")
  step := .error (.new .internal "")
  render := .error (.new .internal "")

theorem EnvJoin.ends_of_serving {place : Nat} (h : (s.session k).phase = .serving place)
    (hclose : ((s.session k).messages[place]?.map fun message => isClose message.request) = some true)
    (hquiet : (s.session k).Quiet) : s.Ends cfg k := by
  obtain ⟨message, hmessage, hclose⟩ := Option.map_eq_some_iff.1 hclose
  refine .cons (.finishServe k 0 (failing Id R)) rfl ?_
  simp only [step, h, hmessage, hclose, Bool.true_or, if_true, Option.some.injEq, exists_eq_left']
  apply ends_of_ending
  · rw [put_self]
  · rw [put_self]
    exact hquiet

theorem EnvJoin.ends_of_draining {place : Nat} (h : (s.session k).phase = .draining place)
    (hclose : ((s.session k).messages[place]?.map fun message => isClose message.request) = some true)
    (hquiet : (s.session k).Quiet) : s.Ends cfg k := by
  refine .cons (.serve k) rfl ?_
  simp only [step, h, hquiet, if_true, Option.some.injEq, exists_eq_left']
  apply ends_of_serving
  · rw [put_self]
  · rw [put_self]
    exact hclose
  · rw [put_self]
    exact hquiet

theorem EnvJoin.ends_of_leaving (h : (s.session k).Leaving) (hquiet : (s.session k).Quiet) : s.Ends cfg k := by
  unfold JoinSession.Leaving at h
  split at h
  · exact h.elim
  · exact h.elim
  · exact ends_of_draining ‹_› h hquiet
  · exact ends_of_serving ‹_› h hquiet
  · exact ends_of_ending ‹_› hquiet
  · exact ends_of_swept ‹_›
  · exact ends_of_released ‹_›
  · exact ends_of_gone ‹_›

end

/-- A lane endpoint of two lanes. -/
def laneEndpoint : ServerConfig where
  numEnvs := 2
  autoresetMode := .disabled
  supportsLanes := true
  retainsEdition _ := true
  supportedEditions := []

def laneStep (lane : Nat) : JoinRequest Nat Int :=
  .step { action := none, timeoutMs := 0, envIndices := [lane], episodeIds := [] }

end Rlmesh.Env
