import Rlmesh.Runtime.Ids
/-!
# Invariants of the driver

Some properties are about the whole driver: the model's evictions, the hook
events, the scores. `Kept` lists what such a property has to be kept by: the few
transitions that do something to the route's bookkeeping, and the small changes
the others are made of. What is kept holds along every run (`Kept.reach`).
-/
open Rlmesh.Wire

set_option linter.unusedSectionVars false

namespace Rlmesh.Runtime

variable {Id R : Type} [DecidableEq Id] [Inhabited Id] [Zero R] [Add R] [BEq R]

/-! ## Small changes -/

/-- A group changed in nothing but its plans, its observations and its operation;
it may have been ready and step now. -/
structure Alike (group after : Group Id R) : Prop where
  phase : after.phase = group.phase ∨ (group.phase = .ready ∧ after.phase = .stepping)
  pendingRoll : after.pendingRoll = group.pendingRoll
  pendingStart : after.pendingStart = group.pendingStart

variable {cfg : DriverConfig Id R} {gid g : Nat} {d d' : Driver Id R} {group after : Group Id R}

theorem Alike.refl (group : Group Id R) : Alike group group := ⟨.inl rfl, rfl, rfl⟩

theorem Alike.takeFrame {lead : Nat} {deliver : Bool} {frame : Option (Frame Id)}
    (h : group.takeFrame lead deliver = (frame, after)) : Alike group after := by
  cases frame with
  | some frame =>
    obtain ⟨_, _, _, rfl, -⟩ := group.takeFrame_some lead deliver h
    exact ⟨.inl rfl, rfl, rfl⟩
  | none =>
    unfold Group.takeFrame at h
    split at h
    · rw [Prod.mk.injEq] at h
      rw [← h.2]
      unfold Group.refill
      split <;> exact ⟨.inl rfl, rfl, rfl⟩
    · cases h

theorem Alike.stepping (frame : Frame Id) (request : StepRequest Id) (h : group.phase = .ready) :
    Alike group (group.stepping frame request) := ⟨.inr ⟨h, rfl⟩, rfl, rfl⟩

theorem Alike.landed (group : Group Id R) (deliver : Bool) (frames : List (Frame Id)) :
    Alike group (group.landed deliver frames) := by
  rcases group.landed_cases deliver frames with ⟨-, _, -, -, -, he⟩ | ⟨-, -, he⟩ | ⟨-, -, he⟩ | ⟨-, -, he⟩ | ⟨-, he⟩ <;>
    rw [he] <;> exact ⟨.inl rfl, rfl, rfl⟩

theorem Alike.observe {deliver : Bool} {msg : PredictRequest Id} (hready : group.phase = .ready)
    (h : group.observe deliver msg = some after) : Alike group after := by
  obtain ⟨_, _, _, rfl, -⟩ := group.observe_some deliver h
  exact ⟨.inl hready.symm, rfl, rfl⟩

theorem emit_emit (events more : List (HookEvent Id R)) : (d.emit events).emit more = d.emit (events ++ more) := by
  simp [Driver.emit]

/-- The driver once it has handed out a request id. -/
def Driver.asked (d : Driver Id R) : Driver Id R :=
  { d with route := { d.route with requestSeq := d.route.requestSeq + 1 } }

/-- An observation hands out a request id, emits its events, and is taken in by
the group or fails. -/
theorem observe_cases (cfg : DriverConfig Id R) (gid : Nat) (d : Driver Id R) (observation : Option Leaves)
    (infos : Option (MetaMap R)) (phase : RequestPhase) (isReset : Bool) (transformed : Transformed) :
    ∃ events : List (HookEvent Id R),
      (∃ e, cfg.observe gid observation infos phase isReset transformed d = (d.asked.emit events, some e)) ∨
      (∃ msg group, (d.groups gid).observe cfg.deliverHistory msg = some group ∧
        cfg.observe gid observation infos phase isReset transformed d =
          ((d.asked.emit events).updateGroup gid (fun _ => group), none)) := by
  cases transformed with
  | error e => exact ⟨_, .inl ⟨e, rfl⟩⟩
  | ok leaves =>
    unfold DriverConfig.observe
    dsimp only
    rw [emit_emit]
    split
    · exact ⟨_, .inl ⟨_, rfl⟩⟩
    · rename_i group hobs
      exact ⟨_, .inr ⟨_, group, hobs, rfl⟩⟩

/-! ## What is kept -/

/-- The driver once a reset's episodes have started, its group ready for their first observation. -/
def DriverConfig.startReset (cfg : DriverConfig Id R) (gid : Nat) (initial : Bool) (now : Int) (ids : List Id)
    (slots : List Nat) (d : Driver Id R) : Driver Id R :=
  let started := d.route.startEpisodesAt now (cfg.spec.lanes gid) ids (!initial) slots
  ({ d with route := started.2 }.updateGroup gid (fun group =>
    { group with op := none, pendingStart := none, phase := .ready })).emit (cfg.startedEvents gid started.1 started.2)

/-- The driver once a group's request is in flight. -/
def DriverConfig.sendRequest (cfg : DriverConfig Id R) (gid : Nat) (msg : PredictRequest Id) (d : Driver Id R) :
    Driver Id R :=
  { d with
    route := d.route.markPredicted (cfg.spec.lanes gid)
    groups := Function.update d.groups gid { d.groups gid with predict := .inFlight false }
    wire := d.wire ++ [.predict gid msg] }

/-- A step comes back to a run that goes on. -/
structure StepBack (cfg : DriverConfig Id R) (K : Bool → Driver Id R → Prop) (C : Session Id R → Event Id R → Prop)
    (I : Bool → Driver Id R → Prop) (s : Session Id R) (gid : Nat) (response : StepResponse Id R) (now : Int) : Prop where
  parked : s.control = .parked
  group : gid < cfg.spec.groupCount
  op : ∃ frame request, (s.driver.groups gid).op = some (.step frame request)
  meets : ∃ transformed, C s (.stepDone gid (.ok response) now transformed)
  known : K true s.driver
  kept : I true s.driver

/-- What a property `I` of the driver has to be kept by, `I true` while the run
is on and `I false` once it is over. `K` is what is known of the stations, and
`C` what the steps of the run meet. -/
structure Kept (cfg : DriverConfig Id R) (K : Bool → Driver Id R → Prop) (C : Session Id R → Event Id R → Prop)
    (I : Bool → Driver Id R → Prop) : Prop where
  launch : ∀ now, I true (cfg.launch now)
  refuse : ∀ now, I false ((Driver.new now).emit [.sessionStarted])
  die : ∀ {d : Driver Id R} groups, I true d → I false { d with groups }
  alike : ∀ {d : Driver Id R} {gid group}, I true d → Alike (d.groups gid) group →
    I true (d.updateGroup gid (fun _ => group))
  seq : ∀ {d : Driver Id R} requestSeq, I true d → I true { d with route := { d.route with requestSeq } }
  predicts : ∀ {d : Driver Id R} predicts, I true d → I true { d with predicts }
  emit : ∀ {d : Driver Id R} events, I true d → I true (d.emit events)
  flush : ∀ {d : Driver Id R}, I true d → I true (cfg.flushEvictions d)
  /-- `d0` is the driver before the turn's first request went out. -/
  send : ∀ {d d0 : Driver Id R} {gid msg}, gid < cfg.spec.groupCount → K true d0 → d.groups gid = d0.groups gid →
    (∀ lane, d.route.slotId lane = d0.route.slotId lane) → I true d → (d.groups gid).predict = .wanted msg →
    I true (cfg.sendRequest gid msg d)
  release : ∀ {d : Driver Id R} gid, I true d → I true (d.release gid)
  start : ∀ {d : Driver Id R} {gid initial request ids slots} now, gid < cfg.spec.groupCount → K true d → I true d →
    (d.groups gid).op = some (.reset initial request) → (d.groups gid).pendingStart = some (ids, slots) →
    I true (cfg.startReset gid initial now ids slots d)
  stop : ∀ {s gid response now}, StepBack cfg K C I s gid response now →
    cfg.stops gid (cfg.settled gid response now s.driver).route = true →
    I true (cfg.stop gid (cfg.settled gid response now s.driver))
  restart : ∀ {s gid response now}, StepBack cfg K C I s gid response now → cfg.spec.driverOwnsResets = true →
    cfg.stepEnds gid response now s.driver ≠ [] →
    I true (cfg.beginReset gid false (cfg.settled gid response now s.driver))
  settle : ∀ {s gid response now}, StepBack cfg K C I s gid response now →
    cfg.goesOn gid response now s.driver = true → I true (cfg.settled gid response now s.driver)
  finish : ∀ {s : Session Id R} {result} abandoned, s.control = .ended result → C s (.finish abandoned) →
    K false s.driver → I false s.driver → I false (cfg.finish abandoned result s.driver).driver

variable {K : Bool → Driver Id R → Prop} {C : Session Id R → Event Id R → Prop} {I : Bool → Driver Id R → Prop}

namespace Kept

theorem fail (h : Kept cfg K C I) (hi : I true d) : I false d := h.die d.groups hi

/-- An observation is handed to a group that is ready for it, whatever phase it was left in. -/
theorem observe (h : Kept cfg K C I) (phase : EnvPhase)
    (hready : (d.groups gid).phase = .ready) (hi : I true d) (observation : Option Leaves) (infos : Option (MetaMap R))
    (requestPhase : RequestPhase) (isReset : Bool) (transformed : Transformed) :
    I (cfg.observe gid observation infos requestPhase isReset transformed
        (d.updateGroup gid (fun group => { group with phase }))).2.isNone
      (cfg.observe gid observation infos requestPhase isReset transformed
        (d.updateGroup gid (fun group => { group with phase }))).1 := by
  obtain ⟨events, ⟨e, he⟩ | ⟨msg, group, hobs, he⟩⟩ := observe_cases cfg gid
    (d.updateGroup gid (fun group => { group with phase })) observation infos requestPhase isReset transformed
  all_goals
    have hemitted : I true (d.asked.emit events) := h.emit events (h.seq _ hi)
    rw [he]
  · exact h.die _ hemitted
  · rw [updateGroup_self] at hobs
    have halike : Alike (d.groups gid) group := Alike.observe hready hobs
    have hobserved := h.alike hemitted halike
    have hsame : ((d.updateGroup gid (fun group => { group with phase })).asked.emit events).updateGroup gid
        (fun _ => group) = (d.asked.emit events).updateGroup gid (fun _ => group) := by
      simp [Driver.updateGroup, Driver.emit, Driver.asked]
    rw [hsame]
    exact hobserved

/-! ## A turn -/

theorem dispatchStep (h : Kept cfg K C I) (gid : Nat) (hi : I true d) (transformed : Transformed) :
    I (cfg.dispatchStep gid transformed d).2.isNone (cfg.dispatchStep gid transformed d).1 := by
  unfold DriverConfig.dispatchStep
  split
  · rename_i hready
    split
    · rename_i group ht
      exact h.alike hi (.takeFrame ht)
    · rename_i frame group ht
      have htaken := h.alike hi (.takeFrame ht)
      have hphase : ((d.updateGroup gid (fun _ => group)).groups gid).phase = .ready := by
        rw [updateGroup_self]
        obtain ⟨_, _, _, rfl, -⟩ := (d.groups gid).takeFrame_some _ _ ht
        exact hready
      dsimp only
      split
      · exact h.fail (h.emit _ htaken)
      · exact h.alike (h.emit _ (h.emit _ htaken)) (Alike.stepping frame _ hphase)
  · exact hi

/-- The steps of a turn go out; what is known of the stations stays known. -/
theorem dispatchSteps (h : Kept cfg K C I) (hK : ∀ {d : Driver Id R} {gid transformed}, gid < cfg.spec.groupCount → K true d →
      (cfg.dispatchStep gid transformed d).2 = none → K true (cfg.dispatchStep gid transformed d).1)
    (transformed : Nat → Transformed) (gids : List Nat) (hgids : ∀ gid ∈ gids, gid < cfg.spec.groupCount)
    (hk : K true d) (hi : I true d) :
    I (cfg.dispatchSteps transformed gids d).2.isNone (cfg.dispatchSteps transformed gids d).1 ∧
      ((cfg.dispatchSteps transformed gids d).2 = none → K true (cfg.dispatchSteps transformed gids d).1) := by
  induction gids generalizing d with
  | nil => exact ⟨hi, fun _ => hk⟩
  | cons gid rest ih =>
    have hstep := h.dispatchStep gid hi (transformed gid)
    unfold DriverConfig.dispatchSteps
    split
    · rename_i after e he
      rw [he] at hstep
      exact ⟨hstep, nofun⟩
    · rename_i after he
      have hkept := hK (hgids gid List.mem_cons_self) hk (congrArg Prod.snd he)
      rw [he] at hstep hkept
      exact ih (fun gid hmem => hgids gid (List.mem_cons_of_mem _ hmem)) hkept hstep

theorem sendPredicts (h : Kept cfg K C I) {d0 : Driver Id R} (hk : K true d0) (chosen : List Nat)
    (hchosen : ∀ gid ∈ chosen, gid < cfg.spec.groupCount) {requests : List (Nat × PredictRequest Id)}
    (hids : ∀ lane, d.route.slotId lane = d0.route.slotId lane)
    (hgroups : ∀ gid, (d.groups gid).predict.isWanted = true → d.groups gid = d0.groups gid) (hi : I true d)
    (hs : cfg.sendPredicts chosen d = some (requests, d')) : I true d' := by
  induction chosen generalizing d requests with
  | nil =>
    rw [DriverConfig.sendPredicts, Option.some.injEq, Prod.mk.injEq] at hs
    exact hs.2 ▸ hi
  | cons gid rest ih =>
    unfold DriverConfig.sendPredicts at hs
    split at hs
    · cases hs
    · rename_i msg sent hsend
      split at hs
      · cases hs
      · rename_i others after hrest
        cases hs
        unfold DriverConfig.sendPredict at hsend
        split at hsend
        · rename_i wanted hw
          cases hsend
          have hsame := hgroups gid (by rw [hw]; rfl)
          refine ih (fun gid hmem => hchosen gid (List.mem_cons_of_mem _ hmem)) (fun lane => ?_) (fun g hwanted => ?_)
            (h.send (hchosen gid List.mem_cons_self) hk hsame hids hi hw) hrest
          · rw [← hids lane]
            exact d.route.slotId_markPredicted _ lane
          · -- A group whose request went out wants nothing more.
            by_cases hg : g = gid
            · subst hg
              simp [DriverConfig.sendRequest, PredictState.isWanted] at hwanted
            · simp only [DriverConfig.sendRequest, Function.update_of_ne hg] at hwanted ⊢
              exact hgroups g hwanted
        · cases hsend

theorem dispatchPredict (h : Kept cfg K C I) (hk : K true d) (hi : I true d) (plan : List Nat) (force : Bool) :
    I (cfg.dispatchPredict plan force d).2.isNone (cfg.dispatchPredict plan force d).1 := by
  rw [dispatchPredict_eq]
  split
  · exact hi
  · split
    · exact hi
    · have hwaiting : ∀ gid ∈ cfg.chosen plan force d, gid < cfg.spec.groupCount := by
        intro gid hmem
        have hmem' : gid ∈ cfg.waiting d := by
          unfold DriverConfig.chosen at hmem
          split at hmem
          · exact hmem
          · simpa using (List.mem_filter.mp hmem).2
        exact List.mem_range.mp (List.mem_filter.mp hmem').1
      split
      · exact h.fail hi
      · rename_i requests sent hsend
        exact h.predicts _ (h.sendPredicts hk _ hwaiting (fun _ => rfl) (fun _ _ => rfl) hi hsend)

/-! ## What comes back -/

theorem landAll (h : Kept cfg K C I) (hi : I true d)
    (entries : List ((Nat × PredictRequest Id) × Except RuntimeError PredictResponse)) :
    I (cfg.landAll entries d).2.isNone (cfg.landAll entries d).1 := by
  induction entries generalizing d with
  | nil => exact hi
  | cons entry rest ih =>
    unfold DriverConfig.landAll
    rcases land_cases cfg d entry.1.1 entry.1.2 entry.2 with ⟨e, he⟩ | ⟨frames, -, -, -, he⟩
    · rw [he]
      exact h.fail hi
    · rw [he]
      exact ih (h.release entry.1.1 (h.alike hi (.landed _ cfg.deliverHistory frames)))

theorem onPredictOutcome (h : Kept cfg K C I) (hi : I true d) (requests : List (Nat × PredictRequest Id))
    (result : Except RuntimeError (List (Except RuntimeError PredictResponse))) :
    I (cfg.onPredictOutcome requests result d).2.isNone (cfg.onPredictOutcome requests result d).1 := by
  unfold DriverConfig.onPredictOutcome
  split
  · exact h.fail hi
  · split
    · exact h.fail hi
    · exact h.landAll hi _

theorem onReset (h : Kept cfg K C I) (hgid : gid < cfg.spec.groupCount) (hk : K true d) (hi : I true d) {initial : Bool}
    {request : ResetRequest Id R} (hop : (d.groups gid).op = some (.reset initial request))
    (answer : Except RuntimeError (ResetResponse R)) (now : Int) (transformed : Transformed) :
    I (cfg.onReset gid initial answer now transformed d).2.isNone (cfg.onReset gid initial answer now transformed d).1 := by
  unfold DriverConfig.onReset
  cases answer with
  | error e => exact h.die _ hi
  | ok response =>
    dsimp only
    rw [updateGroup_self]
    cases hp : (d.groups gid).pendingStart with
    | none => exact h.die _ hi
    | some staged =>
      have hstart := h.start now hgid hk hi hop hp
      have hobserved := h.observe (d.groups gid).phase
        (by rw [DriverConfig.startReset, Driver.emit, updateGroup_self]) hstart response.observation response.infos
        .resetObservation true transformed
      have hsame : (cfg.startReset gid initial now staged.1 staged.2 d).updateGroup gid
          (fun group => { group with phase := (d.groups gid).phase }) =
          Driver.emit (cfg.startedEvents gid (d.route.startEpisodesAt now (cfg.spec.lanes gid) staged.1 (!initial) staged.2).1
            (d.route.startEpisodesAt now (cfg.spec.lanes gid) staged.1 (!initial) staged.2).2)
          (Driver.updateGroup gid (fun group => { group with pendingStart := none })
            { d.updateGroup gid (fun group => { group with op := none }) with
              route := (d.route.startEpisodesAt now (cfg.spec.lanes gid) staged.1 (!initial) staged.2).2 }) := by
        simp [DriverConfig.startReset, Driver.updateGroup, Driver.emit]
      rw [hsame] at hobserved
      exact hobserved

theorem onStep (h : Kept cfg K C I) {s : Session Id R} (hs : s.control = .parked) (hgid : gid < cfg.spec.groupCount)
    {frame : Frame Id} {request : StepRequest Id} (hop : (s.driver.groups gid).op = some (.step frame request))
    (answer : Except RuntimeError (StepResponse Id R)) (now : Int) (transformed : Transformed)
    (hC : C s (.stepDone gid answer now transformed)) (hk : K true s.driver) (hi : I true s.driver) :
    I (cfg.onStep gid answer now transformed s.driver).2.isNone (cfg.onStep gid answer now transformed s.driver).1 := by
  cases answer with
  | error e => exact h.die _ hi
  | ok response =>
    have hback : StepBack cfg K C I s gid response now := ⟨hs, hgid, ⟨frame, request, hop⟩, ⟨transformed, hC⟩, hk, hi⟩
    rw [onStep_eq]
    split
    · rename_i hstops
      exact h.stop hback hstops
    · rename_i hstops
      split
      · rename_i hrestart
        rw [Bool.and_eq_true] at hrestart
        exact h.restart hback hrestart.1 (by simpa using hrestart.2)
      · rename_i hrestart
        have hgoes : cfg.goesOn gid response now s.driver = true := by
          rw [DriverConfig.goesOn, Bool.and_eq_true, Bool.not_eq_true', Bool.not_eq_true']
          exact ⟨Bool.eq_false_iff.mpr hstops, Bool.eq_false_iff.mpr hrestart⟩
        have hsettled := h.settle hback hgoes
        have hready : ((cfg.settled gid response now s.driver).groups gid).phase = .ready := by
          obtain ⟨-, rolls, events, -, -, hst⟩ :=
            settle_station cfg gid s.driver true response (cfg.stepEnds gid response now s.driver) now
          have hgroup : (cfg.settled gid response now s.driver).groups gid = _ := congrArg Station.group hst
          rw [hgroup]
          unfold Station.settle
          dsimp only
          split <;> rfl
        have hobserved := h.observe .ready hready hsettled response.observation
          (if !(s.driver.groups gid).pendingRoll.isEmpty then response.infos else none) .stepObservation false transformed
        have hsame : (cfg.settled gid response now s.driver).updateGroup gid (fun group => { group with phase := .ready }) =
            cfg.settled gid response now s.driver := by
          have hsame : ({ (cfg.settled gid response now s.driver).groups gid with phase := .ready } : Group Id R) =
              (cfg.settled gid response now s.driver).groups gid := by rw [← hready]
          rw [Driver.updateGroup, hsame, Function.update_eq_self]
        rw [hsame] at hobserved
        exact hobserved

theorem turn (h : Kept cfg K C I) (hK : ∀ {d : Driver Id R} {gid transformed}, gid < cfg.spec.groupCount → K true d →
      (cfg.dispatchStep gid transformed d).2 = none → K true (cfg.dispatchStep gid transformed d).1)
    (hflush : ∀ {d : Driver Id R}, K true d → K true (cfg.turnFlush d)) (plan : List Nat)
    (transformed : Nat → Transformed) (hk : K true d) (hi : I true d) :
    I (cfg.turn plan transformed d).control.alive (cfg.turn plan transformed d).driver := by
  unfold DriverConfig.turn
  split
  · exact h.fail hi
  · have hflushed : I true (cfg.turnFlush d) := by
      unfold DriverConfig.turnFlush
      split
      · exact h.flush hi
      · exact hi
    have hdispatched : I (cfg.dispatch plan transformed (cfg.turnFlush d)).2.isNone
        (cfg.dispatch plan transformed (cfg.turnFlush d)).1 := by
      obtain ⟨hsteps, hknown⟩ := h.dispatchSteps hK transformed cfg.groupIds (fun _ hmem => List.mem_range.mp hmem)
        (hflush hk) hflushed
      unfold DriverConfig.dispatch
      split
      · rename_i after e he
        rw [he] at hsteps
        exact hsteps
      · rename_i after he
        rw [he] at hsteps hknown
        exact h.dispatchPredict (hknown rfl) hsteps plan _
    split
    · rename_i after e he
      rw [he] at hdispatched
      rw [of_driver]
      cases e <;> exact hdispatched
    · rename_i after he
      rw [he] at hdispatched
      split
      · exact h.fail hdispatched
      · exact hdispatched

end Kept

/-! ## Along a run -/

/-- What is known of the stations of a driver. -/
def Stations (cfg : DriverConfig Id R) (P : Nat → Station Id R → Prop) (alive : Bool) (d : Driver Id R) : Prop :=
  ∀ g, g < cfg.spec.groupCount → Live cfg g (cfg.station g alive d) ∧ P g (cfg.station g alive d)

variable {D : Station Id R → Bool → Prop} {P : Nat → Station Id R → Prop}

theorem of_alive (next : Control) (o : Outcome Id R) (hnext : next.alive = true) :
    (Session.of next o).control.alive = o.2.isNone := by
  unfold Session.of
  split
  · exact hnext
  · rfl
  · rename_i e _
    cases e <;> rfl

/-- A property kept by the driver holds along every run whose steps meet `C`. -/
theorem Kept.reach (hlaunch : ∀ g s, Launched cfg g s → P g s)
    (hmove : ∀ g s s', Live cfg g s → P g s → Move cfg g D s s' → P g s') (hC : ∀ s e, C s e → cfg.StepsMeet D s e)
    (hblank : I false (.new 0)) (h : Valid cfg.spec → Kept cfg (Stations cfg P) C I) {s : Session Id R}
    (hr : cfg.runs.Reach C s) : I s.control.alive s.driver := by
  have hstations : ∀ {s}, cfg.runs.Reach C s → Stations cfg P s.control.alive s.driver := by
    intro s hr g hg
    exact reach_station P hlaunch hmove (hr.mono hC) hg
  have hdispatch : ∀ {d : Driver Id R} {gid transformed}, gid < cfg.spec.groupCount → Stations cfg P true d →
      (cfg.dispatchStep gid transformed d).2 = none → Stations cfg P true (cfg.dispatchStep gid transformed d).1 := by
    intro d gid transformed hgid hk hnone g hg
    have hmoves := (dispatchStep_served (C := D) (p := ⟨fun _ => True, fun _ => True⟩) transformed (hk gid hgid).1).all hgid hg
    rw [hnone] at hmoves
    exact hmoves.keep (fun s s' hl hp hm => hmove g s s' hl hp hm.move) (hk g hg)
  have hflush : ∀ {d : Driver Id R}, Stations cfg P true d → Stations cfg P true (cfg.turnFlush d) := by
    intro d hk g hg
    rw [keeps_turnFlush.station]
    exact hk g hg
  suffices hall : (s.control = .start ∨ (∃ result, s.control = .closed result) ∨ Valid cfg.spec) ∧
      I s.control.alive s.driver from hall.2
  refine hr.inv_of (fun s => Stations cfg P s.control.alive s.driver)
    (fun s => (s.control = .start ∨ (∃ result, s.control = .closed result) ∨ Valid cfg.spec) ∧
      I s.control.alive s.driver) hstations ⟨.inl rfl, hblank⟩ ?_
  intro s e s' hk _ hi hc he
  obtain ⟨hvalid, hi⟩ := hi
  have hk' : ∀ {control}, s.control = control → Stations cfg P control.alive s.driver ∧ I control.alive s.driver := by
    rintro control rfl
    exact ⟨hk, hi⟩
  cases cfg.step_cases he with
  | rejected now relay message hs => exact ⟨.inr (.inl ⟨_, rfl⟩), (hk' hs).2⟩
  | refused now e hs hv => exact ⟨.inr (.inr (validate_ok hv)), (h (validate_ok hv)).refuse now⟩
  | launched now hs hv => exact ⟨.inr (.inr (validate_ok hv)), (h (validate_ok hv)).launch now⟩
  | turned plan transformed hs =>
    have hv : Valid cfg.spec := by simpa [hs] using hvalid
    exact ⟨.inr (.inr hv), (h hv).turn hdispatch hflush plan transformed (hk' hs).1 (hk' hs).2⟩
  | cancelled reason hs =>
    rcases hs with hs | hs
    all_goals
      have hv : Valid cfg.spec := by simpa [hs] using hvalid
      exact ⟨.inr (.inr hv), (h hv).fail (hk' hs).2⟩
  | resetDone gid initial request answer now transformed hs hgid hop =>
    have hv : Valid cfg.spec := by simpa [hs] using hvalid
    refine ⟨.inr (.inr hv), ?_⟩
    rw [of_alive _ _ rfl, of_driver]
    exact (h hv).onReset hgid (hk' hs).1 (hk' hs).2 hop answer now transformed
  | stepDone gid frame request answer now transformed hs hgid hop =>
    have hv : Valid cfg.spec := by simpa [hs] using hvalid
    refine ⟨.inr (.inr hv), ?_⟩
    rw [of_alive _ _ rfl, of_driver]
    exact (h hv).onStep hs hgid hop answer now transformed hc (hk' hs).1 (hk' hs).2
  | envTaskFailed message hs =>
    have hv : Valid cfg.spec := by simpa [hs] using hvalid
    exact ⟨.inr (.inr hv), (h hv).fail (hk' hs).2⟩
  | predictDone index requests result hs hidx =>
    have hv : Valid cfg.spec := by simpa [hs] using hvalid
    refine ⟨.inr (.inr hv), ?_⟩
    rw [of_alive _ _ rfl, of_driver]
    exact (h hv).onPredictOutcome ((h hv).predicts _ (hk' hs).2) requests result
  | finished result abandoned hs =>
    have hv : Valid cfg.spec := by simpa [hs] using hvalid
    exact ⟨.inr (.inr hv), (h hv).finish abandoned hs hc (hk' hs).1 (hk' hs).2⟩

/-! ## Requests are the groups' -/

theorem launch_sent (now : Int) : (cfg.launch now).sent g = [] := by
  have hfold : ∀ (gids : List Nat) (d : Driver Id R),
      (gids.foldl (fun d gid => cfg.beginReset gid true d) d).sent g = d.sent g := by
    intro gids
    induction gids with
    | nil => exact fun _ => rfl
    | cons gid rest ih => exact fun d => (ih _).trans ((beginReset_station cfg gid d true true).1.sent g)
  exact hfold _ _

theorem settled_sent (response : StepResponse Id R) (now : Int) : (cfg.settled gid response now d).sent g = d.sent g :=
  (settle_station cfg gid d true response (cfg.stepEnds gid response now d) now).1.sent g

theorem kept_sent (cfg : DriverConfig Id R) (K : Bool → Driver Id R → Prop) (hg : ¬ g < cfg.spec.groupCount) :
    Kept cfg K (fun _ _ => True) (fun _ d => d.sent g = []) where
  launch now := launch_sent now
  refuse _ := rfl
  die _ h := h
  alike h _ := h
  seq _ h := h
  predicts _ h := h
  emit _ h := h
  flush h := (keeps_flushEvictions.sent g).trans h
  send {d _ gid msg} hgid _ _ _ h _ := by
    have hne : gid ≠ g := fun he => hg (he ▸ hgid)
    simpa [DriverConfig.sendRequest, Driver.sent, hne] using h
  release _ h := h
  start _ _ _ h _ _ := h
  stop h _ := ((stop_station cfg _ _ true).1.sent g).trans ((settled_sent _ _).trans h.kept)
  restart h _ _ := ((beginReset_station cfg _ _ true false).1.sent g).trans ((settled_sent _ _).trans h.kept)
  settle h _ := (settled_sent _ _).trans h.kept
  finish {s _} abandoned _ _ _ h :=
    (congrArg Station.sent (teardown_station cfg (g := g) (d := s.driver) abandoned)).trans h

theorem reach_sent {s : Session Id R} (h : cfg.runs.Reach (fun _ _ => True) s) (hg : ¬ g < cfg.spec.groupCount) :
    s.driver.sent g = [] :=
  Kept.reach (P := fun _ _ => True) (fun _ _ _ => trivial) (fun _ _ _ _ _ _ => trivial) (fun s e _ => meets_any s e) rfl
    (fun _ => kept_sent cfg _ hg) h

end Rlmesh.Runtime
