import Rlmesh.Runtime.History
import Rlmesh.Runtime.Requests
import Rlmesh.Spaces.Space
/-!
# The relay policy (`rlmesh-runtime/src/hooks/relay.rs`)

A payload for a served peer is held against what the peer can take. The driver
asks for each observation as it is handed to its group, after the transform. It
does not ask again when the observation leaves later, as a row of a request that
has an observation of its own.
-/
open Rlmesh.Wire Rlmesh.Lib Rlmesh.Spaces

set_option linter.unusedSectionVars false

namespace Rlmesh.Runtime

inductive Leg where
  | envToModel
  | modelToEnv

def Leg.target : Leg → String
  | .envToModel => "model"
  | .modelToEnv => "env"

/-- What a served peer can decode. -/
structure PeerCeiling where
  dtypes : List DType
  maxMessageSize : Nat

def leafBytes (leaves : Leaves) : Nat := (leaves.map List.length).sum

structure PayloadFacts (B : Type) where
  space : SpaceSpec B
  byteLen : Nat

def PayloadFacts.new {B : Type} (space : SpaceSpec B) (leaves : Leaves) : PayloadFacts B :=
  { space, byteLen := leafBytes leaves }

mutual

/-- The first leaf dtype of a space that the ceiling cannot decode. -/
def dtypeOutside {B : Type} (ceiling : PeerCeiling) : SpaceSpec B → Option DType
  | .dict _ _ _ spaces | .tuple _ _ spaces => anyOutside ceiling spaces
  | .box _ dtype _ | .discrete _ dtype _ _ | .multiBinary _ dtype | .multiDiscrete _ dtype _ | .text _ dtype _ _ _
  | .unspecified _ dtype => if dtype ∈ ceiling.dtypes then none else some dtype

def anyOutside {B : Type} (ceiling : PeerCeiling) : List (SpaceSpec B) → Option DType
  | [] => none
  | space :: rest => (dtypeOutside ceiling space).or (anyOutside ceiling rest)

end

/-- Why the ceiling cannot carry a payload. -/
def PayloadFacts.exceeds {B : Type} (payload : PayloadFacts B) (ceiling : PeerCeiling) : Option String :=
  match dtypeOutside ceiling payload.space with
  | some dtype => some s!"dtype {dtype.name} is outside its ceiling"
  | none =>
    if ceiling.maxMessageSize < payload.byteLen then
      some s!"{payload.byteLen} bytes exceeds its {ceiling.maxMessageSize}-byte message cap"
    else none

/-- A verdict of the policy, which never converts. -/
inductive RelayDecision where
  | forward
  | refuse (reason : String)

/-- `RefusingRelayPolicy`: forward what the target can decode, refuse the rest. -/
def reconcile {B : Type} (ceiling : PeerCeiling) (payload : PayloadFacts B) : RelayDecision :=
  (payload.exceeds ceiling).elim .forward .refuse

def relayRefused (leg : Leg) (what reason : String) : RuntimeError :=
  .protocol (.relay s!"the runtime cannot relay this {what} to the {leg.target}: {reason}")

/-- Hand a payload to the policy; a peer in the same process has no ceiling. -/
def relay {B : Type} (ceiling : Option PeerCeiling) (leg : Leg) (space : SpaceSpec B) (leaves : Option Leaves) :
    Transformed :=
  match ceiling, leaves with
  | none, leaves => .ok leaves
  | some _, none => .ok none
  | some ceiling, some leaves =>
    match reconcile ceiling (.new space leaves) with
    | .forward => .ok (some leaves)
    | .refuse reason => .error (relayRefused leg "payload" reason)

/-- The observation the model receives: what the hook made of it, then the policy. -/
def transformObservation {B : Type} (ceiling : Option PeerCeiling) (space : SpaceSpec B)
    (hook : Except String (Option Leaves)) : Transformed :=
  match hook with
  | .ok observation => relay ceiling .envToModel space observation
  | .error e => .error (.hook e)

/-- The policy lets an observation through to a model with this ceiling. -/
def Passes {B : Type} (ceiling : PeerCeiling) (space : SpaceSpec B) (observation : Option Leaves) : Prop :=
  transformObservation (some ceiling) space (.ok observation) = .ok observation

instance {B : Type} (ceiling : PeerCeiling) (space : SpaceSpec B) : DecidablePred (Passes ceiling space) :=
  fun _ => inferInstanceAs (Decidable (_ = _))

def observationBytes (observation : Option Leaves) : Nat := observation.elim 0 leafBytes

variable {Id R B : Type} [DecidableEq Id] [Inhabited Id] [Zero R] [Add R] [BEq R]

/-- The most rows a request carries. -/
abbrev rowCap (deliver : Bool) : Nat := if deliver then historyBacklogCap else 0

/-- The bytes of a request's own observation and of its rows. -/
def requestBytes (request : PredictRequest Id) : Nat :=
  observationBytes request.observation + (request.history.map (fun row => observationBytes row.observation)).sum

variable {cfg : DriverConfig Id R} {gid : Nat} {C : Station Id R → Bool → Prop} {p : Inputs} {s s' : Station Id R}
  {q : Option Leaves → Prop} {deliver : Bool} {group after : Group Id R} {msg : PredictRequest Id}
  {ceiling : PeerCeiling} {space : SpaceSpec B}

/-! ## What the policy lets through -/

theorem transformObservation_some (ceiling : PeerCeiling) (space : SpaceSpec B) (leaves : Leaves) :
    Passes ceiling space (some leaves) ∧ leafBytes leaves ≤ ceiling.maxMessageSize ∨
      ∃ e, transformObservation (some ceiling) space (.ok (some leaves)) = .error e := by
  simp only [Passes, transformObservation, relay, reconcile, PayloadFacts.exceeds, PayloadFacts.new]
  cases dtypeOutside ceiling space with
  | some dtype => exact .inr ⟨_, rfl⟩
  | none =>
    by_cases h : ceiling.maxMessageSize < leafBytes leaves
    · simp [h]
    · simp [h, Nat.le_of_not_lt h]

theorem Passes.bytes {observation : Option Leaves} (h : Passes ceiling space observation) :
    observationBytes observation ≤ ceiling.maxMessageSize := by
  cases observation with
  | none => exact Nat.zero_le _
  | some leaves =>
    rcases transformObservation_some ceiling space leaves with ⟨-, hfits⟩ | ⟨e, he⟩
    · exact hfits
    · cases he.symm.trans h

/-! ## Every move keeps to it -/

/-- What a group observed satisfies `q`, and so does what it sent and what it may still send. -/
structure RelayFits (q : Option Leaves → Prop) (deliver : Bool) (s : Station Id R) : Prop where
  observed : ∀ msg ∈ s.group.observed, q msg.observation
  sent : ∀ request ∈ s.sent, RequestFits (fun obs _ => q obs) deliver request
  held : s.alive = true → HeldFits (fun obs _ => q obs) deliver s.group

theorem Launched.relayFits (h : Launched cfg gid s) : RelayFits q cfg.deliverHistory s := by
  cases h <;> exact ⟨nofun, nofun, fun _ => ⟨.nil, nofun, nofun⟩⟩

/-- An observation the group has just taken in is one of those it lists. -/
theorem observe_listed {q : Option Leaves → Prop} (hobs : group.observe deliver msg = some after)
    (h : ∀ m ∈ after.observed, q m.observation) : q msg.observation := by
  obtain ⟨_, _, _, rfl, -⟩ := group.observe_some deliver hobs
  have hq := h (group.stamp deliver msg) (by simp)
  unfold Group.stamp at hq
  split at hq <;> exact hq

theorem Move.relayFits (hm : Move cfg gid C s s') (hl : Live cfg gid s) (h : RelayFits q cfg.deliverHistory s)
    (hobserved : ∀ msg ∈ s'.group.observed, q msg.observation) : RelayFits q cfg.deliverHistory s' := by
  cases hm with
  | minted => exact ⟨h.observed, h.sent, h.held⟩
  | skipped group halive hready ht =>
    have hsame := s.group.takeFrame_none _ _ ht (fun hp => (hl halive).chunk [] hp rfl)
    rw [hsame.1]
    exact h
  | dispatched frame group request halive hready ht =>
    exact ⟨hobserved, h.sent, fun _ => ((h.held halive).takeFrame ht).keep rfl (.inl rfl) (fun _ hm => hm)⟩
  | sent msg halive hw =>
    refine ⟨hobserved, fun request hr => ?_, fun _ => (h.held halive).keep rfl (.inl rfl) nofun⟩
    rcases List.mem_append.mp hr with hr | hr
    · exact h.sent request hr
    · rw [List.mem_singleton.mp hr]
      exact (h.held halive).wanted msg hw
  | landed request frames halive => exact ⟨hobserved, h.sent, fun _ => (h.held halive).landed frames⟩
  | started initial request ids slots msg group halive hop hpending hfresh hobs =>
    have hheld := h.held halive
    exact ⟨hobserved, h.sent, fun _ =>
      .observe hobs hfresh.history (observe_listed hobs hobserved) hheld.rows hheld.wanted⟩
  | stopped frame request completes rolls events minted halive =>
    exact ⟨hobserved, h.sent, fun _ =>
      ((h.held halive).settle (cfg.spec.lanes gid) completes rolls events minted).keep rfl (.inl rfl) nofun⟩
  | restarted frame request rolls events minted initial resetRequest ids slots generation minted' halive =>
    exact ⟨hobserved, h.sent, fun _ =>
      ((h.held halive).settle (cfg.spec.lanes gid) true rolls events minted).keep rfl (.inr rfl) (fun _ hm => hm)⟩
  | observed frame request completes rolls events minted msg group halive hop _ _ _ _ hfresh hobs =>
    have hheld := (h.held halive).settle (cfg.spec.lanes gid) completes rolls events minted
    exact ⟨hobserved, h.sent, fun _ =>
      .observe hobs hfresh.history (observe_listed hobs hobserved) hheld.rows hheld.wanted⟩
  | failed | killed => exact ⟨hobserved, h.sent, nofun⟩
  | drained flying hdead => exact ⟨hobserved, h.sent, fun halive => nomatch hdead.symm.trans halive⟩

theorem Tracked.relayFits (hm : Tracked cfg gid C p s s') (hl : Live cfg gid s)
    (h : RelayFits p.observation cfg.deliverHistory s) : RelayFits p.observation cfg.deliverHistory s' := by
  refine hm.move.relayFits hl h (fun msg hmsg => ?_)
  cases hm with
  | plain _ _ _ hnew => exact (hnew msg hmsg).elim (h.observed msg) id
  | landed request frames =>
    refine h.observed msg ?_
    rcases s.group.landed_cases cfg.deliverHistory frames with ⟨-, _, -, -, -, he⟩ | ⟨-, -, he⟩ | ⟨-, -, he⟩ |
      ⟨-, -, he⟩ | ⟨-, he⟩ <;> (rw [he] at hmsg; exact hmsg)
  | ended _ _ hsame => exact h.observed msg (hsame ▸ hmsg)

/-! ## What is sent -/

/-- Every request is one some group sent, and carries what that group observed. -/
theorem reach_relayFits {s : Session Id R} (h : cfg.runs.Reach (fun _ e => e.Observes q) s) :
    ∀ request ∈ s.driver.requests, RequestFits (fun obs _ => q obs) cfg.deliverHistory request := by
  intro request hr
  obtain ⟨message, hmem, hm⟩ := List.mem_filterMap.mp hr
  cases message with
  | resetAdapter _ => cases hm
  | predict g sent =>
    obtain rfl : sent = request := by simpa using hm
    have hsent := mem_sent.mpr hmem
    by_cases hg : g < cfg.spec.groupCount
    · exact (reach_tracked (p := ⟨fun _ => True, q⟩) (fun _ => RelayFits q cfg.deliverHistory)
        (fun _ _ => Launched.relayFits) (fun _ _ _ hl hi hm => hm.relayFits hl hi)
        (h.mono (fun s e he => ⟨meets_any s e, chunks_any e, he⟩)) hg).2.sent sent hsent
    · rw [reach_sent (h.mono (fun _ _ _ => trivial)) hg] at hsent
      cases hsent

/-- Whatever holds of each observation handed to a group holds, in every run, of all
that a request carries: the model is sent nothing else, and no more rows than a
group keeps. -/
theorem requests_carry_observed {s : Session Id R} (h : cfg.runs.Reach (fun _ e => e.Observes q) s) :
    ∀ request ∈ s.driver.requests, q request.observation ∧ (∀ row ∈ request.history, q row.observation) ∧
      request.history.length ≤ rowCap cfg.deliverHistory := by
  intro request hr
  have hfits := reach_relayFits h request hr
  exact ⟨hfits.own, hfits.rows.each, hfits.rows.count⟩

/-- What a request carries adds up to the cap, where each observation takes its share of it. -/
theorem RequestFits.bytes {cap : Nat}
    (h : RequestFits (fun obs _ => (rowCap deliver + 1) * observationBytes obs ≤ cap) deliver
      msg) : requestBytes msg ≤ cap := by
  obtain ⟨share, hshare⟩ : ∃ share, share = cap / (rowCap deliver + 1) := ⟨_, rfl⟩
  simp only [Nat.mul_comm _ (observationBytes _), ← Nat.le_div_iff_mul_le (Nat.succ_pos _), ← hshare] at h
  have hrows : (msg.history.map (fun row => observationBytes row.observation)).sum ≤ msg.history.length * share := by
    have hsum := List.sum_le_card_nsmul (msg.history.map (fun row => observationBytes row.observation)) share
      (by simpa using h.rows.each)
    simpa using hsum
  calc requestBytes msg ≤ share + msg.history.length * share := Nat.add_le_add h.own hrows
    _ = (msg.history.length + 1) * share := by rw [Nat.succ_mul, Nat.add_comm]
    _ ≤ (rowCap deliver + 1) * share := Nat.mul_le_mul_right _ (Nat.succ_le_succ h.rows.count)
    _ ≤ cap := by rw [hshare]; exact Nat.mul_div_le _ _

/-- A model that takes two bytes of `uint8`. -/
def smallCeiling : PeerCeiling := { dtypes := [.uint8], maxMessageSize := 2 }

def byteSpace : SpaceSpec Unit := .box [2] .uint8 ()

/-- The event, its observation having two bytes. -/
def Event.carrying : Event Nat Int → Event Nat Int
  | .resetDone gid answer now _ => .resetDone gid answer now (.ok (some [[0, 0]]))
  | .stepDone gid answer now _ => .stepDone gid answer now (.ok (some [[0, 0]]))
  | e => e

/-- Two frames are played, each observation having two bytes. -/
def twoFrames : List (Event Nat Int) :=
  [.launch 0 none, plainTurn [], (resetLands 0).carrying, plainTurn [], predictLands .resetObservation 1 2,
    plainTurn [], (stepLands 0 []).carrying, plainTurn [], (stepLands 0 []).carrying, plainTurn []]

/-- On a history route the second request carries the first frame's observation as a row. -/
theorem twoFrames_rows :
    ∃ s : Session Nat Int, ({ historyConfig with prefetchLead := 0 } : DriverConfig Nat Int).runs.Reach
        (fun _ e => e.Observes (Passes smallCeiling byteSpace)) s ∧
      decide (s.driver.requests.map requestBytes = [2, 4]) = true :=
  System.exists_reach_of_runFrom _ _ _ twoFrames (by decide +kernel) (by decide +kernel)

theorem requests_carry_observed_rows :
    ∃ s : Session Nat Int, s.driver.requests.map requestBytes = [2, 4] ∧
      ∀ request ∈ s.driver.requests, ∀ row ∈ request.history, Passes smallCeiling byteSpace row.observation := by
  obtain ⟨s, hr, hs⟩ := twoFrames_rows
  exact ⟨s, of_decide_eq_true hs, fun request hmem => (requests_carry_observed hr request hmem).2.1⟩

end Rlmesh.Runtime
