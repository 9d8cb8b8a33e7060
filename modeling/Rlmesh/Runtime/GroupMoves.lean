import Rlmesh.Runtime.Invariants
/-!
# The groups of a run, with the length of what lands

`Move` says what can happen to a station whatever the model answers. Where it
matters how long the chunks are, `GroupMove` says what can happen to a group when
no answer carries more than `bound` frames; what is kept by it holds along every
run of such answers (`reach_groups`).
-/
open Rlmesh.Wire

set_option linter.unusedSectionVars false

namespace Rlmesh.Runtime

variable {Id R : Type}

/-- The group once its step came back, before it is observed, retired or reset. -/
def Group.settled (completes : Bool) (rolls : List (Nat × Id)) (events : List (EpisodeCompletedEvent Id R))
    (group : Group Id R) : Group Id R :=
  let after := { group.stepped with pendingRoll := rolls, pendingCompleted := events }
  if completes then after.flush else after

/-- Everything that can happen to a group. -/
inductive GroupMove (lead bound : Nat) (deliver : Bool) : Group Id R → Group Id R → Prop
  | skipped (group after : Group Id R) : group.phase = .ready → group.takeFrame lead deliver = (none, after) →
    GroupMove lead bound deliver group after
  | dispatched (group : Group Id R) (frame : Frame Id) (after : Group Id R) (request : StepRequest Id) :
    group.phase = .ready → group.takeFrame lead deliver = (some frame, after) →
    GroupMove lead bound deliver group (after.stepping frame request)
  | sent (group : Group Id R) (msg : PredictRequest Id) : group.predict = .wanted msg →
    GroupMove lead bound deliver group { group with predict := .inFlight false }
  | landed (group : Group Id R) (frames : List (Frame Id)) : frames.length ≤ bound →
    GroupMove lead bound deliver group (group.landed deliver frames)
  | started (group : Group Id R) (initial request) (msg : PredictRequest Id) (after : Group Id R) :
    group.op = some (.reset initial request) →
    ({ group with op := none, pendingStart := none } : Group Id R).observe deliver msg = some after →
    GroupMove lead bound deliver group after
  | stopped (group : Group Id R) (frame request completes rolls events) : group.op = some (.step frame request) →
    GroupMove lead bound deliver group (group.settled completes rolls events).retire
  | restarted (group : Group Id R) (frame request rolls events initial resetRequest ids slots generation) :
    group.op = some (.step frame request) →
    GroupMove lead bound deliver group
      ({ group.settled true rolls events with resetGeneration := generation }.resetting initial resetRequest ids slots)
  | observed (group : Group Id R) (frame request completes rolls events) (msg : PredictRequest Id)
      (after : Group Id R) :
    group.op = some (.step frame request) → (group.settled completes rolls events).observe deliver msg = some after →
    GroupMove lead bound deliver group after

variable [DecidableEq Id] [Inhabited Id] [Zero R] [Add R] [BEq R]

variable {cfg : DriverConfig Id R} {bound gid g : Nat} {d d' d'' : Driver Id R} {alive : Bool}

theorem Move.group (bound : Nat) {C : Station Id R → Bool → Prop} {s s' : Station Id R} (h : Move cfg gid C s s')
    (hfly : s.flying.length ≤ s'.flying.length) (halive : s'.alive = s.alive) :
    s'.group = s.group ∨
      s.alive = true ∧ GroupMove cfg.prefetchLead bound cfg.deliverHistory s.group s'.group := by
  cases h with
  | minted | killed | drained => exact .inl rfl
  | skipped group hs hready ht => exact .inr ⟨hs, .skipped _ group hready ht⟩
  | dispatched frame group request hs hready ht => exact .inr ⟨hs, .dispatched _ frame group request hready ht⟩
  | sent msg hs hwanted => exact .inr ⟨hs, .sent _ msg hwanted⟩
  | landed request frames _ hone =>
    rw [hone] at hfly
    cases hfly
  | started initial request ids slots msg group hs hop _ _ hobs =>
    exact .inr ⟨hs, .started _ initial request msg group hop hobs⟩
  | stopped frame request completes rolls events minted hs hop =>
    exact .inr ⟨hs, .stopped _ frame request completes rolls events hop⟩
  | restarted frame request rolls events minted initial resetRequest ids slots generation minted' hs hop =>
    exact .inr ⟨hs, .restarted _ frame request rolls events initial resetRequest ids slots generation hop⟩
  | observed frame request completes rolls events minted msg group hs hop _ _ _ _ _ hobs =>
    exact .inr ⟨hs, .observed _ frame request completes rolls events msg group hop hobs⟩
  | failed _ _ _ _ hs =>
    rw [hs] at halive
    cases halive

/-- What holds of every launched group and is kept by its moves holds of every group along every run whose answers
carry at most `bound` frames; a run that is over has left no longer backlog behind. -/
theorem reach_groups (I : Group Id R → Prop) (hlaunch : ∀ g s, Launched cfg g s → I s.group)
    (hmove : ∀ group after, I group → GroupMove cfg.prefetchLead bound cfg.deliverHistory group after → I after)
    {s : Session Id R} (h : cfg.runs.Reach (fun _ e => e.ChunksWithin bound) s) (hg : g < cfg.spec.groupCount) :
    ∃ mid, I mid ∧ (s.control.alive = true → s.driver.groups g = mid) ∧
      (s.driver.groups g).history.length ≤ mid.history.length := by
  have hmeets : cfg.runs.Reach (fun s e => cfg.StepsMeet (fun _ _ => True) s e ∧
      e.ChunksWithin bound ∧ e.Observes (fun _ => True)) s := h.mono (fun s e he => ⟨meets_any s e, he, observes_any e⟩)
  refine (reach_tracked (p := ⟨(· ≤ bound), fun _ => True⟩) (fun _ s => ∃ mid, I mid ∧ (s.alive = true → s.group = mid) ∧
    s.group.history.length ≤ mid.history.length) (fun g s hl => ⟨_, hlaunch g s hl, fun _ => rfl, Nat.le_refl _⟩) ?_
    hmeets hg).2
  rintro g s s' - ⟨mid, hmid, hsame, hrows⟩ hm
  cases hm with
  | plain hm hfly halive =>
    rcases Move.group bound hm hfly halive with hgroup | ⟨hs, hgroup⟩
    · rw [hgroup, halive]
      exact ⟨mid, hmid, hsame, hrows⟩
    · exact ⟨_, hmove _ _ (hsame hs ▸ hmid) hgroup, fun _ => rfl, Nat.le_refl _⟩
  | landed request frames halive _ _ _ hp =>
    exact ⟨_, hmove _ _ (hsame halive ▸ hmid) (.landed s.group frames hp), fun _ => rfl, Nat.le_refl _⟩
  | ended hm hover _ hleft =>
    rw [hover]
    rcases hleft with hleft | ⟨frame, after, hs, hready, ht, hleft⟩
    · exact ⟨mid, hmid, nofun, hleft ▸ hrows⟩
    · -- The frame was taken, but its step did not go out.
      exact ⟨_, hmove _ _ (hsame hs ▸ hmid) (.dispatched _ frame after ⟨none, 0, [], []⟩ hready ht), nofun, hleft ▸ Nat.le_refl _⟩

end Rlmesh.Runtime
