import Rlmesh.Env.SharedClient
/-!
# The edition pin of every session

The stream goes to the slot before its Configure is acknowledged, so a second
call that finds it there sends on it at once. When every call that finds a stream
finds it settled, each stream begins with the Configure and carries nothing else
until the acknowledgement is there.
-/
open Rlmesh.Lib

namespace Rlmesh.Env

namespace JoinStream

/-- The stream may carry requests: there is no pin, or its Configure is acknowledged. -/
def Settled (stream : JoinStream) : Prop :=
  stream.pin = "" ∨ stream.acked = true

instance (stream : JoinStream) : Decidable stream.Settled :=
  inferInstanceAs (Decidable (_ ∨ _))

structure Pinned (stream : JoinStream) : Prop where
  /-- With a pin the Configure comes first, and alone until it is acknowledged. -/
  first : stream.pin ≠ "" → (stream.sent = [] ∧ stream.acked = false) ∨
    ∃ id rest, stream.sent = (id, .configure stream.pin) :: rest ∧ (stream.acked = false → rest = [])
  acknowledged : ∀ id, stream.configureId = some id → stream.answers id = some (.reply .expected) → stream.acked = true
  byReset : stream.afterFatal = true → stream.opener = .reset

/-- What may happen to a stream while its opener has yet to send the Configure, and to any other. -/
structure Grows (stream stream' : JoinStream) : Prop where
  pin : stream'.pin = stream.pin
  configureId : stream'.configureId = stream.configureId
  acked : stream.acked = true → stream'.acked = true
  untouched : stream.sent = [] → ¬ stream.Settled → stream'.sent = [] ∧ ¬ stream'.Settled

variable {stream stream' : JoinStream}

theorem Grows.refl (stream : JoinStream) : stream.Grows stream :=
  ⟨rfl, rfl, id, fun hsent hsettled => ⟨hsent, hsettled⟩⟩

theorem Grows.settled (h : stream.Grows stream') (hsettled : stream.Settled) : stream'.Settled := by
  rcases hsettled with hpin | hacked
  · exact .inl (h.pin.trans hpin)
  · exact .inr (h.acked hacked)

theorem grows_pending (stream : JoinStream) (pending : Option (List Nat)) :
    stream.Grows { stream with pending } :=
  ⟨rfl, rfl, id, fun hsent hsettled => ⟨hsent, hsettled⟩⟩

theorem Pinned.pending (h : stream.Pinned) (pending : Option (List Nat)) : { stream with pending }.Pinned :=
  ⟨h.first, h.acknowledged, h.byReset⟩

theorem Pinned.append (h : stream.Pinned) (hsettled : stream.Settled) (message : Nat × StreamRequest) :
    { stream with sent := stream.sent ++ [message] }.Pinned := by
  refine ⟨fun hpin => ?_, h.acknowledged, h.byReset⟩
  have hacked : stream.acked = true := hsettled.resolve_left hpin
  rcases h.first hpin with ⟨-, hnot⟩ | ⟨id, rest, hsent, -⟩
  · rw [hacked] at hnot
    cases hnot
  · refine .inr ⟨id, rest ++ [message], ?_, fun hnot => ?_⟩
    · dsimp only
      rw [hsent, List.cons_append]
    · rw [show stream.acked = false from hnot] at hacked
      cases hacked

theorem Pinned.configure (h : stream.Pinned) (hsent : stream.sent = []) (id : Nat) :
    { stream with sent := stream.sent ++ [(id, StreamRequest.configure stream.pin)] }.Pinned := by
  refine ⟨fun _ => .inr ⟨id, [], ?_, fun _ => rfl⟩, h.acknowledged, h.byReset⟩
  dsimp only
  rw [hsent, List.nil_append]

end JoinStream

namespace Shared

/-- What a call relies on, by where it stands. -/
def Fits (s : Shared) (c : Nat) : CallPhase → Prop
  | .opening op => s.openLock = some c ∧ s.slot = none ∧ (op ≠ .reset → s.fatalEnded = false)
  | .configuring _ k id => s.openLock = some c ∧ k < s.joins ∧ (s.slot = none ∨ s.slot = some k) ∧
    (s.streams k).configureId = some id ∧ (s.streams k).sent = [] ∧ ¬ (s.streams k).Settled
  | .confirming _ k id => s.openLock = some c ∧ k < s.joins ∧ (s.slot = none ∨ s.slot = some k) ∧
    (s.streams k).configureId = some id
  | .sending _ k _ => k < s.joins ∧ (s.streams k).Settled
  | _ => True

structure Base (s : Shared) : Prop where
  slot_lt : ∀ k, s.slot = some k → k < s.joins
  streams : ∀ k, (s.streams k).Pinned
  fatal : s.fatalEnded = true → s.endedBy.isSome = true ∧ s.slot = none

/-- The state is in order, as far as calls other than `c` see it. -/
structure Others (c : Nat) (s : Shared) : Prop where
  base : s.Base
  fits : ∀ d, d ≠ c → s.Fits d (s.calls d)

structure Guarded (s : Shared) : Prop where
  base : s.Base
  fits : ∀ d, s.Fits d (s.calls d)

/-- What leaves every call where it was. -/
structure Frame (s s' : Shared) : Prop where
  calls : s'.calls = s.calls
  openLock : s'.openLock = s.openLock
  joins : s'.joins = s.joins
  slot : s'.slot = s.slot ∨ s'.slot = none
  fatalEnded : s.slot = none → s'.fatalEnded = s.fatalEnded
  streams : ∀ k, (s.streams k).Grows (s'.streams k)

variable {s s' : Shared} {c d : Nat} {op : Op} {phase : CallPhase}

theorem Frame.slot_none (h : Frame s s') (hnone : s.slot = none) : s'.slot = none := by
  rcases h.slot with hs | hs
  · rw [hs, hnone]
  · exact hs

theorem Frame.slot_or {k : Nat} (h : Frame s s') (hslot : s.slot = none ∨ s.slot = some k) :
    s'.slot = none ∨ s'.slot = some k := by
  rcases h.slot with hs | hs
  · rwa [hs]
  · exact .inl hs

theorem Frame.fits (h : Frame s s') (hfits : s.Fits d phase) : s'.Fits d phase := by
  cases phase with
  | opening op =>
    obtain ⟨hlock, hnone, hfatal⟩ := hfits
    exact ⟨h.openLock.trans hlock, h.slot_none hnone, fun hop => (h.fatalEnded hnone).trans (hfatal hop)⟩
  | configuring op k id =>
    obtain ⟨hlock, hk, hslot, hid, hsent, hsettled⟩ := hfits
    obtain ⟨hsent', hsettled'⟩ := (h.streams k).untouched hsent hsettled
    exact ⟨h.openLock.trans hlock, h.joins ▸ hk, h.slot_or hslot, (h.streams k).configureId.trans hid, hsent', hsettled'⟩
  | confirming op k id =>
    obtain ⟨hlock, hk, hslot, hid⟩ := hfits
    exact ⟨h.openLock.trans hlock, h.joins ▸ hk, h.slot_or hslot, (h.streams k).configureId.trans hid⟩
  | sending op k id => exact ⟨h.joins ▸ hfits.1, (h.streams k).settled hfits.2⟩
  | idle | locking | waiting | closing | done | dropped => trivial

/-- A call that does not hold the lock only relies on the stream it sends on. -/
theorem Fits.of_unlocked (h : s.Fits d phase) (hlock : s.openLock ≠ some d) (hjoins : s.joins ≤ s'.joins)
    (hstreams : ∀ k, k < s.joins → (s.streams k).Settled → (s'.streams k).Settled) : s'.Fits d phase := by
  cases phase with
  | opening | configuring | confirming => exact absurd h.1 hlock
  | sending op k id => exact ⟨Nat.lt_of_lt_of_le h.1 hjoins, hstreams k h.1 h.2⟩
  | idle | locking | waiting | closing | done | dropped => trivial

theorem Guarded.others (h : Guarded s) (c : Nat) : Others c s :=
  ⟨h.base, fun d _ => h.fits d⟩

theorem Others.frame (h : Others c s) (hframe : Frame s s') (hbase : s'.Base) : Others c s' :=
  ⟨hbase, fun d hd => hframe.calls ▸ hframe.fits (h.fits d hd)⟩

/-- While `c` holds the lock, the others only rely on the streams they send on. -/
theorem Others.of_locked (h : Others c s) (hlock : s.openLock = some c) (hcalls : s'.calls = s.calls)
    (hjoins : s.joins ≤ s'.joins)
    (hstreams : ∀ k, k < s.joins → (s.streams k).Settled → (s'.streams k).Settled) (hbase : s'.Base) : Others c s' := by
  refine ⟨hbase, fun d hd => ?_⟩
  rw [hcalls]
  refine (h.fits d hd).of_unlocked ?_ hjoins hstreams
  rw [hlock]
  exact fun heq => hd (Option.some.inj heq).symm

theorem Others.unlock (h : Others c s) (hlock : s.openLock = some c) : Others c { s with openLock := none } :=
  h.of_locked hlock rfl (Nat.le_refl _) (fun _ _ => id) ⟨h.base.slot_lt, h.base.streams, h.base.fatal⟩

theorem Others.putCall (h : Others c s) (hfits : s.Fits c phase) : (s.putCall c phase).Guarded := by
  have hsame : ∀ d p, s.Fits d p → (s.putCall c phase).Fits d p := fun d p hp => by cases p <;> exact hp
  refine ⟨⟨h.base.slot_lt, h.base.streams, h.base.fatal⟩, fun d => hsame d _ ?_⟩
  by_cases hd : d = c
  · rw [hd, Shared.putCall]
    dsimp only
    rwa [Function.update_self]
  · rw [Shared.putCall]
    dsimp only
    rw [Function.update_of_ne hd]
    exact h.fits d hd

/-! ## Streams -/

theorem streams_putStream {P : JoinStream → Prop} {k : Nat} {stream : JoinStream} (h : ∀ j, P (s.streams j))
    (hk : P stream) (j : Nat) : P ((s.putStream k stream).streams j) := by
  rw [Shared.putStream]
  dsimp only
  by_cases hj : j = k
  · rwa [hj, Function.update_self]
  · rw [Function.update_of_ne hj]
    exact h j

theorem putStream_grows {k : Nat} {stream : JoinStream} (h : (s.streams k).Grows stream) (j : Nat) :
    (s.streams j).Grows ((s.putStream k stream).streams j) := by
  rw [Shared.putStream]
  dsimp only
  by_cases hj : j = k
  · rwa [hj, Function.update_self]
  · rw [Function.update_of_ne hj]
    exact .refl _

theorem frame_putStream {k : Nat} {stream : JoinStream} (h : (s.streams k).Grows stream) :
    Frame s (s.putStream k stream) :=
  ⟨rfl, rfl, rfl, .inl rfl, fun _ => rfl, putStream_grows h⟩

theorem Base.putStream {k : Nat} {stream : JoinStream} (h : s.Base) (hk : stream.Pinned) :
    (s.putStream k stream).Base :=
  ⟨h.slot_lt, streams_putStream h.streams hk, h.fatal⟩

theorem Others.putStream {k : Nat} {stream : JoinStream} (h : Others c s) (hgrows : (s.streams k).Grows stream)
    (hk : stream.Pinned) : Others c (s.putStream k stream) :=
  h.frame (frame_putStream hgrows) (h.base.putStream hk)

/-! ## Calls -/

theorem Base.closeLocal (h : s.Base) : s.closeLocal.Base :=
  ⟨nofun, h.streams, fun hfatal => ⟨(h.fatal hfatal).1, rfl⟩⟩

theorem Others.closeLocal (h : Others c s) : Others c s.closeLocal :=
  h.frame ⟨rfl, rfl, rfl, .inr rfl, fun _ => rfl, fun _ => .refl _⟩ h.base.closeLocal

theorem Others.finish (h : Others c s) (op : Op) (result : Except CallError Unit) : (s.finish c op result).Guarded := by
  cases op with
  | close => exact h.closeLocal.putCall trivial
  | reset | step | render => exact h.putCall trivial

theorem Others.nextRequestId (h : Others c s) : Others c s.nextRequestId :=
  h.frame ⟨rfl, rfl, rfl, .inl rfl, fun _ => rfl, fun _ => .refl _⟩ ⟨h.base.slot_lt, h.base.streams, h.base.fatal⟩

/-- A request is entered on the stream of the slot, if there is one that has not ended. -/
theorem register_ok {id k : Nat} (h : s.register id = .ok (k, s')) :
    s.slot = some k ∧ ∃ pending, s' = s.putStream k { s.streams k with pending } := by
  unfold register at h
  split at h
  · cases h
  · split at h
    · cases h
    · cases h
      exact ⟨‹_›, _, rfl⟩

theorem Others.request (h : Others c s) (hsettled : ∀ k, s.slot = some k → (s.streams k).Settled) :
    (s.request c op).Guarded := by
  unfold Shared.request
  dsimp only
  split
  · exact h.nextRequestId.finish _ _
  · rename_i k s' hregister
    obtain ⟨hslot, pending, rfl⟩ := register_ok hregister
    refine (h.nextRequestId.putStream (JoinStream.grows_pending _ _) ((h.base.streams k).pending _)).putCall ?_
    exact ⟨h.base.slot_lt k hslot, (putStream_grows (JoinStream.grows_pending _ _) k).settled (hsettled k hslot)⟩

theorem Others.ensureJoinStream (h : Others c s) (hsettled : ∀ k, s.slot = some k → (s.streams k).Settled) :
    (s.ensureJoinStream c op).Guarded := by
  unfold Shared.ensureJoinStream
  split
  · exact h.request hsettled
  · exact h.putCall trivial

theorem Others.start (h : Others c s) (hsettled : ∀ k, s.slot = some k → (s.streams k).Settled) :
    (s.start c op).Guarded := by
  unfold Shared.start
  split
  · exact h.putCall trivial
  · split
    · split
      · exact h.request hsettled
      · exact h.finish _ _
    · exact h.ensureJoinStream hsettled
    · split
      · exact h.putCall trivial
      · exact h.ensureJoinStream hsettled

/-- The lock is let go and the call's request sent; no fatal error may have ended the session by then. -/
theorem Others.opened (h : Others c s) (hlock : s.openLock = some c) (hfatal : s.fatalEnded = false)
    (hsettled : ∀ k, s.slot = some k → (s.streams k).Settled) : (s.opened c op).Guarded := by
  refine Others.request (h.of_locked hlock rfl (Nat.le_refl _) (fun _ _ => id) ⟨h.base.slot_lt, h.base.streams, ?_⟩)
    hsettled
  intro hended
  rw [show s.fatalEnded = true from hended] at hfatal
  cases hfatal

theorem Others.configureFailed (h : Others c s) (hlock : s.openLock = some c) (e : CallError) :
    (s.configureFailed c op e).Guarded := by
  refine Others.finish (s := { s with slot := none, openLock := none }) ?_ op _
  refine h.of_locked hlock rfl (Nat.le_refl _) (fun _ _ => id) ⟨nofun, h.base.streams, ?_⟩
  exact fun hended => ⟨(h.base.fatal hended).1, rfl⟩

theorem pinned_unopened {pending : Option (List Nat)} {configureId : Option Nat} {pin : String} {afterFatal : Bool}
    (h : op ≠ .reset → afterFatal = false) :
    { JoinStream.unopened with pending, configureId, pin, opener := op, afterFatal }.Pinned := by
  refine ⟨fun _ => .inl ⟨rfl, rfl⟩, nofun, fun hfatal => ?_⟩
  by_contra hop
  rw [h hop] at hfatal
  cases hfatal

theorem Others.installed {stream : JoinStream} (h : Others c s) (hlock : s.openLock = some c) (hstream : stream.Pinned)
    (requestCounter : Nat) :
    Others c ({ s with
      slot := some s.joins, joins := s.joins + 1, fatalEnded := false, requestCounter }.putStream s.joins stream) := by
  refine h.of_locked hlock rfl (Nat.le_succ _) (fun k hk hsettled => ?_) ⟨?_, ?_, nofun⟩
  · rw [Shared.putStream]
    dsimp only
    rwa [Function.update_of_ne (Nat.ne_of_lt hk)]
  · rintro k ⟨⟩
    exact Nat.lt_succ_self _
  · exact streams_putStream h.base.streams hstream

theorem Others.install (h : Others c s) (hfits : s.Fits c (.opening op)) : (s.install c op).Guarded := by
  obtain ⟨hlock, -, hfatal⟩ := hfits
  unfold Shared.install
  dsimp only
  split
  · rename_i hpin
    refine (h.installed hlock (pinned_unopened hfatal) s.requestCounter).opened hlock rfl ?_
    rintro k ⟨⟩
    rw [Shared.putStream]
    dsimp only
    rw [Function.update_self]
    exact .inl hpin
  · rename_i hpin
    refine (h.installed hlock (pinned_unopened hfatal) (s.requestCounter + 1)).putCall ?_
    refine ⟨hlock, Nat.lt_succ_self _, .inr rfl, ?_⟩
    rw [Shared.putStream]
    dsimp only
    rw [Function.update_self]
    refine ⟨rfl, rfl, ?_⟩
    rintro (hnone | hacked)
    · exact hpin hnone
    · cases hacked

theorem Others.append_call {k id : Nat} (h : Others c s) (hsettled : (s.streams k).Settled) (message : StreamRequest) :
    Others c (s.append k id message) := by
  refine h.putStream ⟨rfl, rfl, fun hacked => hacked, fun _ hnot => absurd hsettled hnot⟩ ?_
  exact (h.base.streams k).append hsettled (id, message)

theorem Others.append_configure {k id : Nat} (h : Others c s) (hlock : s.openLock = some c)
    (hsent : (s.streams k).sent = []) : Others c (s.append k id (.configure (s.streams k).pin)) := by
  refine h.of_locked hlock rfl (Nat.le_refl _) (fun j _ hsettled => ?_)
    (h.base.putStream ((h.base.streams k).configure hsent id))
  rw [Shared.append, Shared.putStream]
  dsimp only
  by_cases hj : j = k
  · rw [hj, Function.update_self]
    rwa [hj] at hsettled
  · rwa [Function.update_of_ne hj]

theorem Others.forget {k id : Nat} (h : Others c s) : Others c (s.forget k id) :=
  h.putStream (JoinStream.grows_pending _ _) ((h.base.streams k).pending _)

/-! ## The pump -/

theorem Guarded.frame (h : Guarded s) (hframe : Frame s s') (hbase : s'.Base) : s'.Guarded :=
  ⟨hbase, fun d => hframe.calls ▸ hframe.fits (h.fits d)⟩

theorem Guarded.endSession (h : Guarded s) (k : Nat) (message : String) : (s.endSession k message).Guarded := by
  unfold Shared.endSession
  split
  · rename_i current hslot
    split
    · refine h.frame ⟨rfl, rfl, rfl, .inr rfl, ?_, fun _ => .refl _⟩ ⟨nofun, h.base.streams, fun _ => ⟨rfl, rfl⟩⟩
      rw [hslot]
      exact nofun
    · exact h
  · exact h

@[simp] theorem endSession_streams (k : Nat) (message : String) : (s.endSession k message).streams = s.streams := by
  unfold endSession
  split
  · split <;> rfl
  · rfl

/-- A reply to a request that was sent; only the one to the Configure acknowledges it. -/
theorem Guarded.dispatchResponse {k id : Nat} (h : Guarded s) (hsent : id ∈ (s.streams k).sent.map Prod.fst)
    (reply : StreamReply) : (s.dispatchResponse k id reply).Guarded := by
  unfold Shared.dispatchResponse
  dsimp only
  split
  · split
    · have hstream := h.base.streams k
      have hne : (s.streams k).sent ≠ [] := by
        rintro hnil
        rw [hnil] at hsent
        cases hsent
      refine h.frame (frame_putStream ⟨rfl, rfl, fun hacked => ?_, fun hnil => absurd hnil hne⟩)
        (h.base.putStream ⟨fun hpin => ?_, fun other hid hother => ?_, hstream.byReset⟩)
      · dsimp only
        rw [hacked, Bool.true_or]
      · obtain ⟨hnil, -⟩ | ⟨first, rest, hfirst, hrest⟩ := hstream.first hpin
        · exact absurd hnil hne
        · refine .inr ⟨first, rest, hfirst, fun hnot => hrest ?_⟩
          exact (Bool.or_eq_false_iff.1 hnot).1
      · dsimp only at hid hother ⊢
        by_cases heq : other = id
        · rw [heq, Function.update_self] at hother
          rw [heq] at hid
          cases hother
          rw [hid]
          simp
        · rw [Function.update_of_ne heq] at hother
          rw [hstream.acknowledged other hid hother, Bool.true_or]
    · exact h
  · exact h

theorem Guarded.pump {k id : Nat} (h : Guarded s) (hsent : id ∈ (s.streams k).sent.map Prod.fst)
    (reply : StreamReply) : (s.pump k id reply).Guarded := by
  unfold Shared.pump
  split
  · exact (h.endSession k _).dispatchResponse (by simpa using hsent) _
  · exact h.dispatchResponse hsent reply

theorem Guarded.streamEnd (h : Guarded s) (k : Nat) (map : List Nat) (failed : Bool) :
    (s.streamEnd k map failed).Guarded := by
  have hstream := h.base.streams k
  refine h.frame (frame_putStream ⟨rfl, rfl, id, fun hnil hsettled => ⟨hnil, hsettled⟩⟩)
    (h.base.putStream ⟨hstream.first, fun other hid hother => ?_, hstream.byReset⟩)
  dsimp only at hother
  split at hother
  · cases failed <;> cases hother
  · exact hstream.acknowledged other hid hother

/-! ## Runs -/

/-- A call that finds a stream finds it settled; a step or render that comes to open a Join finds no session ended by
a fatal error, and so does the opener of a stream when it goes on with the acknowledgement. -/
def Orderly (s : Shared) : ClientEvent → Prop
  | .call _ _ => ∀ k ∈ s.slot, (s.streams k).Settled
  | .acquire c => (∀ k ∈ s.slot, (s.streams k).Settled) ∧
    (s.slot = none → s.calls c = .locking .reset ∨ s.fatalEnded = false)
  | .resume c => (s.calls c).opens = true → s.fatalEnded = false
  | _ => True

instance (s : Shared) : ∀ e, Decidable (s.Orderly e)
  | .call _ _ => inferInstanceAs (Decidable (∀ k ∈ s.slot, (s.streams k).Settled))
  | .acquire c => inferInstanceAs (Decidable ((∀ k ∈ s.slot, (s.streams k).Settled) ∧
    (s.slot = none → s.calls c = .locking .reset ∨ s.fatalEnded = false)))
  | .resume c => inferInstanceAs (Decidable ((s.calls c).opens = true → s.fatalEnded = false))
  | .joined _ | .joinRefused _ | .put _ | .putFails _ | .finished _ | .drop _ | .reply _ _ _ | .streamEnd _ _
  | .pinWorkflowEdition _ | .detach => .isTrue trivial

theorem Guarded.resume {k id : Nat} {answer : Answer} (h : Guarded s) (he : s.Orderly (.resume c))
    (hawaited : awaited (s.calls c) = some (k, id)) (hanswer : (s.streams k).answers id = some answer)
    (hs : s.resume c answer (s.calls c) = some s') : s'.Guarded := by
  have hothers := h.others c
  have hfits := h.fits c
  cases hphase : s.calls c with
  | confirming op j i =>
    rw [hphase] at hawaited hfits hs
    cases hawaited
    obtain ⟨hlock, -, hslot, hid⟩ := hfits
    simp only [Shared.resume] at hs
    split at hs <;> cases hs
    · rename_i hok
      refine hothers.opened hlock (he (by rw [hphase]; rfl)) fun current hcurrent => ?_
      -- only the acknowledgement is a success
      have hexpected : answer = .reply .expected := by
        unfold answerResult at hok
        split at hok <;> first | rfl | cases hok
      obtain rfl : current = k := by
        rcases hslot with hnone | hsome
        · rw [hnone] at hcurrent
          cases hcurrent
        · rw [hsome] at hcurrent
          exact (Option.some.inj hcurrent).symm
      exact .inr ((h.base.streams current).acknowledged id hid (hanswer.trans (congrArg some hexpected)))
    · exact hothers.configureFailed hlock _
  | waiting op j i =>
    rw [hphase] at hs
    cases op with
    | close =>
      simp only [Shared.resume] at hs
      split at hs <;> cases hs
      · exact hothers.closeLocal.putCall trivial
      · exact hothers.finish _ _
    | reset | step | render =>
      cases hs
      exact hothers.finish _ _
  | idle | locking | opening | configuring | sending | closing | done | dropped =>
    rw [hphase] at hawaited
    cases hawaited

theorem Guarded.dropCall (h : Guarded s) (c : Nat) : (s.dropCall c).Guarded := by
  have hfits := h.fits c
  unfold Shared.dropCall
  dsimp only
  have hunlocked : Others c (if (s.calls c).opens then { s with openLock := none } else s) := by
    split
    · rename_i hopens
      have hlock : s.openLock = some c := by
        revert hfits hopens
        cases s.calls c <;> simp [CallPhase.opens, Fits] <;> tauto
      exact (h.others c).unlock hlock
    · exact h.others c
  split
  · exact hunlocked.closeLocal.putCall trivial
  · exact hunlocked.putCall trivial

theorem Guarded.step {e : ClientEvent} (h : Guarded s) (he : s.Orderly e) (hs : s.step e = some s') : s'.Guarded := by
  cases e with
  | call c op =>
    simp only [Shared.step] at hs
    split at hs <;> cases hs
    exact (h.others c).start he
  | acquire c =>
    simp only [Shared.step] at hs
    split at hs
    · rename_i op hphase hlock
      split at hs <;> cases hs
      · exact (h.others c).request he.1
      · rename_i hslot
        have hopening : Others c { s with openLock := some c } := by
          refine ⟨⟨h.base.slot_lt, h.base.streams, h.base.fatal⟩, fun d _ => (h.fits d).of_unlocked ?_ (Nat.le_refl _)
            (fun _ _ => id)⟩
          rw [hlock]
          exact nofun
        refine hopening.putCall ⟨rfl, hslot, fun hop => ?_⟩
        rcases he.2 hslot with hreset | hfatal
        · rw [hphase] at hreset
          cases hreset
          exact absurd rfl hop
        · exact hfatal
    · cases hs
  | joined c =>
    simp only [Shared.step] at hs
    split at hs <;> cases hs
    rename_i op hphase
    exact (h.others c).install (hphase ▸ h.fits c)
  | joinRefused c =>
    simp only [Shared.step] at hs
    split at hs <;> cases hs
    rename_i op hphase
    have hfits := h.fits c
    rw [hphase] at hfits
    exact ((h.others c).unlock hfits.1).finish _ _
  | put c =>
    simp only [Shared.step] at hs
    have hfits := h.fits c
    split at hs <;> cases hs
    · rename_i op k id hphase
      rw [hphase] at hfits
      obtain ⟨hlock, hk, hslot, hid, hsent, -⟩ := hfits
      refine ((h.others c).append_configure hlock hsent).putCall ⟨hlock, hk, hslot, ?_⟩
      rw [append, putStream]
      dsimp only
      rw [Function.update_self]
      exact hid
    · rename_i op k id hphase
      rw [hphase] at hfits
      exact ((h.others c).append_call hfits.2 _).putCall trivial
  | putFails c =>
    simp only [Shared.step] at hs
    have hfits := h.fits c
    split at hs <;> cases hs
    · rename_i op k id hphase
      rw [hphase] at hfits
      exact (h.others c).forget.configureFailed hfits.1 _
    · exact (h.others c).forget.finish _ _
  | resume c =>
    simp only [Shared.step] at hs
    split at hs
    · split at hs
      · exact h.resume he ‹_› ‹_› hs
      · cases hs
    · cases hs
  | finished c =>
    simp only [Shared.step] at hs
    split at hs
    · split at hs <;> cases hs
      exact (h.others c).finish _ _
    · cases hs
  | drop c =>
    simp only [Shared.step] at hs
    split at hs <;> cases hs
    exact h.dropCall c
  | reply k id reply =>
    simp only [Shared.step, Option.ite_none_right_eq_some] at hs
    obtain ⟨⟨-, hsent⟩, ⟨⟩⟩ := hs
    exact h.pump hsent reply
  | streamEnd k failed =>
    simp only [Shared.step] at hs
    split at hs <;> cases hs
    exact h.streamEnd k _ failed
  | pinWorkflowEdition edition =>
    cases hs
    exact h.frame ⟨rfl, rfl, rfl, .inl rfl, fun _ => rfl, fun _ => .refl _⟩ ⟨h.base.slot_lt, h.base.streams, h.base.fatal⟩
  | detach =>
    cases hs
    exact h.frame ⟨rfl, rfl, rfl, .inr rfl, fun _ => rfl, fun _ => .refl _⟩ h.base.closeLocal

theorem guarded_init (pin : String) : (init pin).Guarded := by
  refine ⟨⟨nofun, fun k => ?_, nofun⟩, fun _ => trivial⟩
  exact ⟨fun hpin => absurd rfl hpin, nofun, nofun⟩

theorem pump_other {j k id : Nat} (hslot : s.slot = some j) (hj : j ≠ k) (reply : StreamReply) :
    (s.pump k id reply).slot = some j ∧ (s.pump k id reply).endedBy = s.endedBy := by
  have hsession : ∀ message, s.endSession k message = s := by
    intro message
    simp only [endSession, hslot, hj, if_false]
  have hdispatch : (s.dispatchResponse k id reply).slot = s.slot ∧ (s.dispatchResponse k id reply).endedBy = s.endedBy := by
    unfold dispatchResponse
    dsimp only
    split
    · split <;> exact ⟨rfl, rfl⟩
    · exact ⟨rfl, rfl⟩
  unfold pump
  split
  · rw [hsession]
    exact ⟨hdispatch.1.trans hslot, hdispatch.2⟩
  · exact ⟨hdispatch.1.trans hslot, hdispatch.2⟩

end Shared

/-- A step that finds the stream of a reset whose Configure is not yet acknowledged. -/
def stepFindsStream : List ClientEvent :=
  [.call 0 .reset, .acquire 0, .joined 0, .put 0, .call 1 .step, .put 1]

/-- A step that waits for the lock while a fatal error refuses the Configure of the call that holds it. -/
def stepFollowsRefusal : List ClientEvent :=
  [.call 0 .reset, .call 1 .step, .acquire 0, .joined 0, .put 0, .reply 0 1 (.error "no such edition" false), .resume 0,
    .acquire 1, .joined 1]

/-- A reset, and a step after its acknowledgement; a fatal error, and a reset that opens the next Join. -/
def resetFollowsFatal : List ClientEvent :=
  [.call 0 .reset, .acquire 0, .joined 0, .put 0, .reply 0 1 .expected, .resume 0, .put 0, .call 1 .step, .put 1,
    .reply 0 3 (.error "crashed" false), .resume 1, .call 2 .reset, .acquire 2, .joined 2, .put 2]

end Rlmesh.Env
