import Rlmesh.Env.Join
/-!
# Exclusive, quiescent sessions that start clean

In every run of an env server whose handlers do not panic: at most one Join is
handling requests, a request handled in the read loop finds every earlier one
handled, each request is answered at most once under its own id, nothing follows
a Close, and a Join is only admitted over an empty tracker, so that everything a
session reports is accounted for by its own requests.
-/
open Rlmesh.Wire Rlmesh.Lib
open scoped List

set_option linter.unusedSectionVars false

namespace Rlmesh.Env

variable {Id R : Type}

/-! ## The books of one Join -/

namespace LoopPhase

/-- The place of the request the loop is about to handle or handles. -/
def pending : LoopPhase Id R → Option Nat
  | .draining place | .serving place => some place
  | _ => none

/-- The replies the loop still has to send. -/
def unsent : LoopPhase Id R → List (Nat × JoinResponse Id R)
  | .answering place reply => [(place, reply)]
  | .ending terminal | .swept terminal | .released terminal => terminal.toList
  | _ => []

/-- The Join may still touch the tracker. -/
def handles : LoopPhase Id R → Bool
  | .swept _ | .released _ | .gone => false
  | _ => true

/-- No lane operation can be in flight. -/
def quiescent : LoopPhase Id R → Bool
  | .serving _ | .swept _ | .released _ | .gone => true
  | _ => false

/-- The loop may come to read again. -/
def rereads : LoopPhase Id R → Bool
  | .reading | .answering _ _ => true
  | _ => false

theorem holdsSlot_of_handles {phase : LoopPhase Id R} (h : phase.handles = true) : phase.holdsSlot = true := by
  cases phase <;> first | rfl | cases h

end LoopPhase

namespace JoinSession

/-- Where the requests of a Join are and what became of their replies. -/
structure Booked (session : JoinSession Id R) : Prop where
  /-- Every message read is handled, in flight, or about to be handled in the loop. -/
  places : (session.handled.map (·.place) ++ session.handling ++ session.phase.pending.toList) ~
    List.range session.messages.length
  requests : ∀ exchanged ∈ session.handled,
    session.messages[exchanged.place]?.map (·.request) = some exchanged.handled.request
  sent_once : (session.replies.map Prod.fst).Nodup
  unsent_once : ((session.replying ++ session.phase.unsent).map Prod.fst).Nodup
  unsent_new : ∀ place ∈ (session.replying ++ session.phase.unsent).map Prod.fst,
    place ∉ session.replies.map Prod.fst
  unsent_handled : ∀ entry ∈ session.replying ++ session.phase.unsent,
    ∃ exchanged ∈ session.handled, exchanged.place = entry.1 ∧ exchanged.reply = entry.2
  sent_handled : ∀ entry ∈ session.replies, ∃ exchanged ∈ session.handled,
    exchanged.place = entry.1 ∧ exchanged.reply = entry.2.kind ∧
      session.messages[entry.1]?.map (·.requestId) = some entry.2.requestId
  pending_last : ∀ place, session.phase.pending = some place → place + 1 = session.messages.length
  quiet : session.phase.quiescent = true → session.Quiet
  close_last : ∀ place message, session.messages[place]? = some message → isClose message.request = true →
    place + 1 = session.messages.length ∧ session.phase.rereads = false

theorem booked_none : (none : JoinSession Id R).Booked := by
  constructor <;> simp [none, LoopPhase.pending, LoopPhase.unsent, Quiet]

theorem booked_opened : (opened : JoinSession Id R).Booked := by
  constructor <;> simp [opened, none, LoopPhase.pending, LoopPhase.unsent, LoopPhase.quiescent]

variable {session session' : JoinSession Id R} {place : Nat} {exchanged : Exchanged Id R} {reply : JoinResponse Id R}

/-- The places of a Join's requests are distinct: one that is in flight or pending is not handled. -/
theorem Booked.not_handled (h : session.Booked) (hplace : place ∈ session.handling ++ session.phase.pending.toList) :
    place ∉ session.handled.map (·.place) := by
  have hnodup := (h.places.nodup_iff).2 List.nodup_range
  rw [List.append_assoc] at hnodup
  exact fun hin => (List.nodup_append.1 hnodup).2.2 place hin place hplace rfl

theorem Booked.unclosed (h : session.Booked) (hreads : session.phase.rereads = true) {message : Message Id R}
    (hmessage : session.messages[place]? = some message) : isClose message.request = false := by
  by_contra hclose
  have := (h.close_last place message hmessage (by simpa using hclose)).2
  rw [hreads] at this
  cases this

theorem Booked.rephase (h : session.Booked) (hmessages : session'.messages = session.messages)
    (hhandling : session'.handling = session.handling) (hreplying : session'.replying = session.replying)
    (hreplies : session'.replies = session.replies) (hhandled : session'.handled = session.handled)
    (hpending : session'.phase.pending = session.phase.pending)
    (hunsent : session'.phase.unsent = session.phase.unsent)
    (hquiet : session'.phase.quiescent = true → session.Quiet)
    (hreads : session'.phase.rereads = true → session.phase.rereads = true) : session'.Booked := by
  constructor
  · rw [hhandled, hhandling, hpending, hmessages]
    exact h.places
  · rw [hhandled, hmessages]
    exact h.requests
  · rw [hreplies]
    exact h.sent_once
  · rw [hreplying, hunsent]
    exact h.unsent_once
  · rw [hreplying, hunsent, hreplies]
    exact h.unsent_new
  · rw [hreplying, hunsent, hhandled]
    exact h.unsent_handled
  · rw [hreplies, hhandled, hmessages]
    exact h.sent_handled
  · rw [hpending, hmessages]
    exact h.pending_last
  · intro hq
    rw [Quiet, hhandling, hreplying]
    exact hquiet hq
  · intro place message hmessage hclose
    rw [hmessages] at hmessage
    obtain ⟨hlast, hreads'⟩ := h.close_last place message hmessage hclose
    refine ⟨by rw [hmessages]; exact hlast, ?_⟩
    by_contra hagain
    rw [hreads (by simpa using hagain)] at hreads'
    cases hreads'

theorem map_getElem?_snoc {messages : List (Message Id R)} {α : Type} {f : Message Id R → α} {a : α}
    (h : messages[place]?.map f = some a) (message : Message Id R) :
    (messages ++ [message])[place]?.map f = some a := by
  obtain ⟨old, hold, rfl⟩ := Option.map_eq_some_iff.1 h
  rw [getElem?_snoc hold]
  rfl

theorem Booked.read (h : session.Booked) (cfg : ServerConfig) (message : Message Id R)
    (hphase : session.phase = .reading) : (session.read cfg message).Booked := by
  have hplaces := h.places
  rw [hphase] at hplaces
  simp only [LoopPhase.pending, Option.toList_none, List.append_nil] at hplaces
  have hreads : session.phase.rereads = true := by rw [hphase]; rfl
  have hunsent : session.phase.unsent = [] := by rw [hphase]; rfl
  have hlast {place : Nat} {other : Message Id R} (hother : (session.messages ++ [message])[place]? = some other)
      (hclose : isClose other.request = true) : place = session.messages.length ∧ other = message := by
    rcases snoc_cases hother with hold | hnew
    · rw [h.unclosed hreads hold] at hclose
      cases hclose
    · exact hnew
  have hrange : List.range (session.messages ++ [message]).length =
      List.range session.messages.length ++ [session.messages.length] := by
    rw [List.length_append, List.length_singleton, List.range_succ]
  have hrequests := fun exchanged hx => map_getElem?_snoc (h.requests exchanged hx) message
  have hsent : ∀ entry ∈ session.replies, ∃ exchanged ∈ session.handled, exchanged.place = entry.1 ∧
      exchanged.reply = entry.2.kind ∧
        (session.messages ++ [message])[entry.1]?.map (·.requestId) = some entry.2.requestId := by
    intro entry hentry
    obtain ⟨exchanged, hx, hp, hr, hid⟩ := h.sent_handled entry hentry
    exact ⟨exchanged, hx, hp, hr, map_getElem?_snoc hid message⟩
  unfold JoinSession.read
  dsimp only
  split
  · rename_i hlane
    refine ⟨?_, hrequests, h.sent_once, h.unsent_once, h.unsent_new, h.unsent_handled, hsent, ?_, ?_, ?_⟩
    · rw [hphase, hrange]
      simp only [LoopPhase.pending, Option.toList_none, List.append_nil, ← List.append_assoc]
      exact hplaces.append_right _
    · rw [hphase]
      exact fun _ => nofun
    · rw [hphase]
      exact nofun
    · intro place other hother hclose
      obtain ⟨-, rfl⟩ := hlast hother hclose
      rw [Bool.and_eq_true] at hlane
      cases hrequest : other.request <;> rw [hrequest] at hclose hlane <;> first | cases hlane.2 | cases hclose
  · refine ⟨?_, hrequests, h.sent_once, ?_, ?_, ?_, hsent, ?_, nofun, ?_⟩
    · rw [hrange]
      exact hplaces.append_right _
    · have := h.unsent_once
      rwa [hunsent] at this
    · have := h.unsent_new
      rwa [hunsent] at this
    · have := h.unsent_handled
      rwa [hunsent] at this
    · rintro place ⟨⟩
      simp
    · intro place other hother hclose
      obtain ⟨rfl, -⟩ := hlast hother hclose
      exact ⟨by simp, rfl⟩

theorem Booked.mem_handled (h : session.Booked)
    (hplace : place ∈ (session.replying ++ session.phase.unsent).map Prod.fst ++ session.replies.map Prod.fst) :
    place ∈ session.handled.map (·.place) := by
  rcases List.mem_append.1 hplace with hplace | hplace
  · obtain ⟨entry, hentry, rfl⟩ := List.mem_map.1 hplace
    obtain ⟨exchanged, hx, hp, -⟩ := h.unsent_handled entry hentry
    exact List.mem_map.2 ⟨exchanged, hx, hp⟩
  · obtain ⟨entry, hentry, rfl⟩ := List.mem_map.1 hplace
    obtain ⟨exchanged, hx, hp, -⟩ := h.sent_handled entry hentry
    exact List.mem_map.2 ⟨exchanged, hx, hp⟩

/-- A request is handled and its reply waits to be sent, by its task or by the loop. -/
theorem Booked.handle (h : session.Booked)
    (hrequest : session.messages[exchanged.place]?.map (·.request) = some exchanged.handled.request)
    (hmessages : session'.messages = session.messages) (hreplies : session'.replies = session.replies)
    (hhandled : session'.handled = session.handled ++ [exchanged])
    (hplaces : (exchanged.place :: (session'.handling ++ session'.phase.pending.toList)) ~ session.handling ++ session.phase.pending.toList)
    (hunsent : (session'.replying ++ session'.phase.unsent) ~ (exchanged.place, exchanged.reply) :: (session.replying ++ session.phase.unsent))
    (hpending : ∀ place, session'.phase.pending = some place → session.phase.pending = some place)
    (hquiet : session'.phase.quiescent = true → session'.Quiet)
    (hreads : session'.phase.rereads = true → ∀ (place : Nat) (message : Message Id R), session.messages[place]? = some message → isClose message.request = false) :
    session'.Booked := by
  have hnew : exchanged.place ∉ session.handled.map (·.place) := h.not_handled (hplaces.mem_iff.1 List.mem_cons_self)
  have hunsent_fst := hunsent.map Prod.fst
  rw [List.map_cons] at hunsent_fst
  constructor
  · rw [hhandled, hmessages, List.map_append, List.append_assoc, List.append_assoc]
    exact (hplaces.append_left _).trans (by rw [← List.append_assoc]; exact h.places)
  · rw [hhandled, hmessages]
    intro x hx
    rcases List.mem_append.1 hx with hx | hx
    · exact h.requests x hx
    · obtain rfl : x = exchanged := by simpa using hx
      exact hrequest
  · rw [hreplies]
    exact h.sent_once
  · rw [hunsent_fst.nodup_iff, List.nodup_cons]
    exact ⟨fun hin => hnew (h.mem_handled (List.mem_append_left _ hin)), h.unsent_once⟩
  · intro place hplace
    rw [hreplies]
    rcases List.mem_cons.1 (hunsent_fst.mem_iff.1 hplace) with rfl | hplace
    · exact fun hin => hnew (h.mem_handled (List.mem_append_right _ hin))
    · exact h.unsent_new place hplace
  · intro entry hentry
    rw [hhandled]
    rcases List.mem_cons.1 (hunsent.mem_iff.1 hentry) with rfl | hentry
    · exact ⟨exchanged, by simp, rfl, rfl⟩
    · obtain ⟨x, hx, hp, hr⟩ := h.unsent_handled entry hentry
      exact ⟨x, List.mem_append_left _ hx, hp, hr⟩
  · intro entry hentry
    rw [hreplies] at hentry
    rw [hhandled, hmessages]
    obtain ⟨x, hx, hp⟩ := h.sent_handled entry hentry
    exact ⟨x, List.mem_append_left _ hx, hp⟩
  · intro place hplace
    rw [hmessages]
    exact h.pending_last place (hpending place hplace)
  · exact hquiet
  · intro place message hmessage hclose
    rw [hmessages] at hmessage ⊢
    refine ⟨(h.close_last place message hmessage hclose).1, ?_⟩
    by_contra hagain
    rw [hreads (by simpa using hagain) place message hmessage] at hclose
    cases hclose

theorem Booked.sent (h : session.Booked) (hmem : (place, reply) ∈ session.replying ++ session.phase.unsent)
    (hmessages : session'.messages = session.messages) (hhandled : session'.handled = session.handled)
    (hhandling : session'.handling = session.handling)
    (hreplies : session'.replies = (session.send place reply).replies)
    (hunsent : (session'.replying ++ session'.phase.unsent) <+ session.replying ++ session.phase.unsent)
    (hnew : place ∉ (session'.replying ++ session'.phase.unsent).map Prod.fst)
    (hpending : session'.phase.pending = session.phase.pending)
    (hquiet : session'.phase.quiescent = true → session'.Quiet)
    (hreads : session'.phase.rereads = true → session.phase.rereads = true) : session'.Booked := by
  obtain ⟨exchanged, hx, hplace, hreply⟩ := h.unsent_handled _ hmem
  obtain ⟨message, hmessage, -⟩ := Option.map_eq_some_iff.1 (h.requests exchanged hx)
  rw [hplace] at hmessage
  -- the replies are as they were, or one more: of this request, which had none
  have hcases : session'.replies = session.replies ∨
      session'.replies = session.replies ++ [(place, { requestId := message.requestId, kind := reply })] := by
    rw [hreplies, send]
    simp only [hmessage]
    split
    · exact .inr rfl
    · exact .inl rfl
  have hfresh : place ∉ session.replies.map Prod.fst := h.unsent_new place (List.mem_map.2 ⟨_, hmem, rfl⟩)
  constructor
  · rw [hhandled, hhandling, hpending, hmessages]
    exact h.places
  · rw [hhandled, hmessages]
    exact h.requests
  · rcases hcases with hsame | hmore
    · rw [hsame]
      exact h.sent_once
    · rw [hmore, List.map_append]
      exact List.Nodup.append h.sent_once (List.nodup_singleton _) (by simpa using hfresh)
  · exact h.unsent_once.sublist (hunsent.map _)
  · intro other hother
    have hold := h.unsent_new other ((hunsent.map _).subset hother)
    rcases hcases with hsame | hmore
    · rwa [hsame]
    · rw [hmore, List.map_append, List.mem_append]
      rintro (hin | hin)
      · exact hold hin
      · obtain rfl : other = place := by simpa using hin
        exact hnew hother
  · intro entry hentry
    rw [hhandled]
    exact h.unsent_handled entry (hunsent.subset hentry)
  · intro entry hentry
    rw [hhandled, hmessages]
    rcases hcases with hsame | hmore
    · rw [hsame] at hentry
      exact h.sent_handled entry hentry
    · rw [hmore] at hentry
      rcases List.mem_append.1 hentry with hentry | hentry
      · exact h.sent_handled entry hentry
      · obtain rfl : entry = _ := List.mem_singleton.1 hentry
        exact ⟨exchanged, hx, hplace, hreply, by rw [hmessage]; rfl⟩
  · rw [hpending, hmessages]
    exact h.pending_last
  · exact hquiet
  · intro other message' hmessage' hclose
    rw [hmessages] at hmessage' ⊢
    obtain ⟨hlast, hreads'⟩ := h.close_last other message' hmessage' hclose
    refine ⟨hlast, ?_⟩
    by_contra hagain
    rw [hreads (by simpa using hagain)] at hreads'
    cases hreads'

theorem Booked.handles_of_handling (h : session.Booked) (hplace : place ∈ session.handling) :
    session.phase.handles = true := by
  have hbusy : session.phase.quiescent = false := by
    by_contra hq
    rw [(h.quiet (by simpa using hq)).1] at hplace
    cases hplace
  cases hphase : session.phase <;> rw [hphase] at hbusy <;> first | rfl | cases hbusy

theorem Booked.finishLane (h : session.Booked) (hplace : exchanged.place ∈ session.handling)
    (hrequest : session.messages[exchanged.place]?.map (·.request) = some exchanged.handled.request) :
    { session.record exchanged with
      handling := session.handling.erase exchanged.place
      replying := session.replying ++ [(exchanged.place, exchanged.reply)] : JoinSession Id R }.Booked := by
  refine h.handle hrequest rfl rfl rfl ?_ ?_ (fun _ => id) ?_ (fun hreads _ _ => h.unclosed hreads)
  · exact (List.perm_cons_erase hplace).symm.append_right _
  · rw [List.append_assoc]
    exact List.perm_middle
  · intro hquiescent
    have hnone := (h.quiet hquiescent).1
    rw [hnone] at hplace
    cases hplace

theorem Booked.finishServe (h : session.Booked) {message : Message Id R}
    (hphase : session.phase = .serving exchanged.place) (hmessage : session.messages[exchanged.place]? = some message)
    (hrequest : message.request = exchanged.handled.request) :
    { session.record exchanged with
      phase :=
        if isClose message.request || isFatal exchanged.reply then .ending (some (exchanged.place, exchanged.reply))
        else .answering exchanged.place exchanged.reply : JoinSession Id R }.Booked := by
  have hquiet := h.quiet (by rw [hphase]; rfl)
  have hlast := h.pending_last exchanged.place (by rw [hphase]; rfl)
  refine h.handle (by rw [hmessage, ← hrequest]; rfl) rfl rfl rfl ?_ ?_ ?_ ?_ ?_
  · dsimp only
    rw [hphase, show (session.record exchanged).handling = [] from hquiet.1, hquiet.1]
    split <;> exact .refl _
  · dsimp only
    rw [hphase, show (session.record exchanged).replying = [] from hquiet.2, hquiet.2]
    split <;> exact .refl _
  · intro place
    dsimp only
    split <;> exact nofun
  · dsimp only
    split <;> exact nofun
  · -- the loop only goes on reading after a request that is not Close, which is the last one read
    dsimp only
    split
    · exact nofun
    · rename_i hgoes
      intro _ place other hother
      by_contra hclose
      have := (h.close_last place other hother (by simpa using hclose)).1
      obtain rfl : place = exchanged.place := by omega
      rw [hmessage, Option.some.injEq] at hother
      subst hother
      rw [Bool.not_eq_false] at hclose
      rw [hclose] at hgoes
      exact hgoes rfl

theorem Booked.replyLane (h : session.Booked) (hreply : session.replying.lookup place = some reply) :
    { session.send place reply with replying := session.replying.filter (·.1 != place) :
      JoinSession Id R }.Booked := by
  have hmem := mem_of_lookup hreply
  have honce := h.unsent_once
  rw [List.map_append, List.nodup_append] at honce
  refine h.sent (List.mem_append_left _ hmem) (send_messages ..) (send_handled ..) (send_handling ..) rfl ?_ ?_ ?_ ?_ ?_
    <;> dsimp only <;> rw [send_phase]
  · exact List.filter_sublist.append_right _
  · rw [List.map_append, List.mem_append]
    rintro (hin | hin)
    · obtain ⟨entry, hentry, rfl⟩ := List.mem_map.1 hin
      simp at hentry
    · exact honce.2.2 place (List.mem_map.2 ⟨_, hmem, rfl⟩) place hin rfl
  · intro hquiescent
    have hnone := (h.quiet hquiescent).2
    rw [hnone] at hmem
    cases hmem
  · exact id

theorem Booked.sendUnsent (h : session.Booked) {phase : LoopPhase Id R}
    (hunsent : session.phase.unsent = [(place, reply)]) (hnone : phase.unsent = [])
    (hpending : phase.pending = session.phase.pending) (hquiet : phase.quiescent = true → session.Quiet)
    (hreads : phase.rereads = true → session.phase.rereads = true) :
    { session.send place reply with phase : JoinSession Id R }.Booked := by
  have honce := h.unsent_once
  rw [hunsent, List.map_append, List.nodup_append] at honce
  have hmem : (place, reply) ∈ session.replying ++ session.phase.unsent := by simp [hunsent]
  refine h.sent hmem (send_messages ..) (send_handled ..) (send_handling ..) rfl ?_ ?_ hpending ?_ hreads <;> dsimp only
  · rw [send_replying, hnone, List.append_nil]
    exact List.sublist_append_left _ _
  · rw [send_replying, hnone, List.append_nil]
    exact fun hin => honce.2.2 place hin place (by simp) rfl
  · intro hquiescent
    exact ⟨by simpa using (hquiet hquiescent).1, by simpa using (hquiet hquiescent).2⟩

end JoinSession

/-! ## All Joins of a run -/

/-- The event is a panic of a handler. -/
def EnvJoinEvent.panics : EnvJoinEvent Id R → Bool
  | .panicLane _ _ | .panicServe _ => true
  | _ => false

namespace EnvJoin

variable [Zero R] [Add R] [BEq R] [Inhabited Id] {cfg : ServerConfig} {s s' : EnvJoin Id R} {e : EnvJoinEvent Id R}

theorem booked_moves (h : ∀ k, (s.session k).Booked) (hm : Moves cfg s e s') (he : e.panics = false) (j : Nat) :
    (s'.session j).Booked := by
  cases hm with
  | refused htaken => exact h j
  | admitted hfree => exact forall_put h JoinSession.booked_opened j
  | read message hphase => exact forall_put h ((h _).read cfg message hphase) j
  | @streamEnd k hphase =>
    refine forall_put h ?_ j
    refine (h k).rephase rfl rfl rfl rfl rfl ?_ ?_ nofun nofun <;> rw [hphase] <;> rfl
  | hangUp k =>
    refine forall_put h ?_ j
    exact (h k).rephase rfl rfl rfl rfl rfl rfl rfl (h k).quiet id
  | finishLane now answer hmessage hplace =>
    refine forall_put h ?_ j
    exact (h _).finishLane hplace (by rw [exchange, hmessage]; rfl)
  | replyLane hreply => exact forall_put h ((h _).replyLane hreply) j
  | panicLane hplace => cases he
  | @serve k place hphase hquiet =>
    refine forall_put h ?_ j
    refine (h k).rephase rfl rfl rfl rfl rfl ?_ ?_ (fun _ => hquiet) nofun <;> rw [hphase] <;> rfl
  | finishServe now answer hphase hmessage =>
    refine forall_put h ?_ j
    exact (h _).finishServe hphase hmessage rfl
  | panicServe hphase => cases he
  | @reply k place reply hphase =>
    refine forall_put h ?_ j
    have hunsent : (s.session k).phase.unsent = [(place, reply)] := by rw [hphase]; rfl
    have hpending : (s.session k).phase.pending = none := by rw [hphase]; rfl
    split
    · exact (h k).sendUnsent hunsent rfl hpending.symm nofun (fun _ => by rw [hphase]; rfl)
    · exact (h k).sendUnsent hunsent rfl hpending.symm nofun nofun
  | @sweep k terminal now hphase hquiet =>
    refine forall_put h ?_ j
    refine (h k).rephase rfl rfl rfl rfl rfl ?_ ?_ (fun _ => hquiet) nofun <;> rw [hphase] <;> rfl
  | @release k terminal hphase =>
    refine forall_put h ?_ j
    refine (h k).rephase rfl rfl rfl rfl rfl ?_ ?_ (fun _ => (h k).quiet (by rw [hphase]; rfl)) nofun <;>
      rw [hphase] <;> rfl
  | @sendTerminal k place reply hphase =>
    refine forall_put h ?_ j
    refine (h k).sendUnsent (by rw [hphase]; rfl) rfl ?_ (fun _ => (h k).quiet ?_) nofun <;> rw [hphase] <;> rfl
  | @leave k hphase =>
    refine forall_put h ?_ j
    refine (h k).rephase rfl rfl rfl rfl rfl ?_ ?_ (fun _ => (h k).quiet (by rw [hphase]; rfl)) nofun <;>
      rw [hphase] <;> rfl

/-- What a session handled so far, in order. -/
def handledBy (s : EnvJoin Id R) (k : Nat) : List (Handled Id R) :=
  (s.session k).handled.map (·.handled)

/-- One Join at a time holds the slot, the tracker is what that Join's own requests made of an empty one, and it is
empty again before the slot is free. -/
structure Exclusive (cfg : ServerConfig) (s : EnvJoin Id R) : Prop where
  booked : ∀ k, (s.session k).Booked
  replies : ∀ k, ((s.session k).handled.map fun exchanged => (exchanged.handled.request, exchanged.reply)) =
    (serve cfg (s.handledBy k)).2
  slot : ∀ k, (s.session k).phase.holdsSlot = true → s.joinActive = true ∧ k + 1 = s.joins
  clean : s.joinActive = false → s.tracker = .new
  tracked : ∀ k, (s.session k).phase.handles = true → s.tracker = (serve cfg (s.handledBy k)).1
  swept : ∀ k terminal, (s.session k).phase = .swept terminal → s.tracker = .new

theorem exclusive_init : Exclusive cfg (init : EnvJoin Id R) where
  booked _ := JoinSession.booked_none
  replies _ := rfl
  slot _ := nofun
  clean _ := rfl
  tracked _ := nofun
  swept _ _ := nofun

variable {k : Nat} {session : JoinSession Id R}

theorem Exclusive.unique (h : Exclusive cfg s) {j : Nat} (hj : (s.session j).phase.holdsSlot = true)
    (hk : (s.session k).phase.holdsSlot = true) : j = k := by
  have hjoins := (h.slot j hj).2
  have hjoins' := (h.slot k hk).2
  omega

/-- What the slot and the tracker say of one Join. -/
structure Fits (cfg : ServerConfig) (s : EnvJoin Id R) (k : Nat) (session : JoinSession Id R) : Prop where
  booked : session.Booked
  replies : (session.handled.map fun exchanged => (exchanged.handled.request, exchanged.reply)) =
    (serve cfg (session.handled.map (·.handled))).2
  slot : session.phase.holdsSlot = true → s.joinActive = true ∧ k + 1 = s.joins
  tracked : session.phase.handles = true → s.tracker = (serve cfg (session.handled.map (·.handled))).1
  swept : ∀ terminal, session.phase = .swept terminal → s.tracker = .new

theorem Exclusive.fits (h : Exclusive cfg s) (k : Nat) : Fits cfg s k (s.session k) :=
  ⟨h.booked k, h.replies k, h.slot k, h.tracked k, h.swept k⟩

/-- A Join that does not hold the slot does not depend on who does. -/
theorem Fits.idle (h : Fits cfg s k session) (hidle : session.phase.holdsSlot = false) : Fits cfg s' k session where
  booked := h.booked
  replies := h.replies
  slot hholds := by simp [hidle] at hholds
  tracked hhandles := by simp [LoopPhase.holdsSlot_of_handles hhandles] at hidle
  swept terminal hphase := by simp [hphase, LoopPhase.holdsSlot] at hidle

theorem exclusive_of_put (hs : s'.session = (s.put k session).session) (hclean : s'.joinActive = false → s'.tracker = .new)
    (hk : Fits cfg s' k session) (hothers : ∀ j, j ≠ k → Fits cfg s' j (s.session j)) : Exclusive cfg s' := by
  have hfits : ∀ j, Fits cfg s' j (s'.session j) := by
    intro j
    rw [hs]
    by_cases hj : j = k
    · rw [hj, put_self]
      exact hk
    · rw [put_of_ne s session hj]
      exact hothers j hj
  exact ⟨fun j => (hfits j).booked, fun j => (hfits j).replies, fun j => (hfits j).slot, hclean,
    fun j => (hfits j).tracked, fun j => (hfits j).swept⟩

theorem Exclusive.others (h : Exclusive cfg s) (hholds : (s.session k).phase.holdsSlot = true) {j : Nat} (hj : j ≠ k) :
    Fits cfg s' j (s.session j) :=
  (h.fits j).idle (Bool.eq_false_iff.2 (fun hslot => hj (h.unique hslot hholds)))

theorem Exclusive.put (h : Exclusive cfg s) (hbooked : session.Booked)
    (hhandled : session.handled = (s.session k).handled)
    (hslot : session.phase.holdsSlot = true → (s.session k).phase.holdsSlot = true)
    (hhandles : session.phase.handles = true → (s.session k).phase.handles = true)
    (hswept : ∀ terminal, session.phase = .swept terminal → (s.session k).phase = .swept terminal) :
    Exclusive cfg (s.put k session) := by
  refine exclusive_of_put rfl h.clean ⟨hbooked, ?_, fun hj => h.slot k (hslot hj), fun hj => ?_, fun terminal hj =>
    h.swept k terminal (hswept terminal hj)⟩ (fun j _ => ⟨h.booked j, h.replies j, h.slot j, h.tracked j, h.swept j⟩)
  · rw [hhandled]
    exact h.replies k
  · rw [hhandled]
    exact h.tracked k (hhandles hj)

theorem Exclusive.handle (h : Exclusive cfg s) {place : Nat} {message : Message Id R} {now : Int}
    {answer : EnvAnswer Id R} (hbooked : session.Booked) (hholds : (s.session k).phase.handles = true)
    (hhandled : session.handled = (s.session k).handled ++ [(s.exchange cfg place message now answer).1])
    (hphase : session.phase.handles = true) :
    Exclusive cfg { s.put k session with tracker := (s.exchange cfg place message now answer).2 } := by
  have hserve : serve cfg (session.handled.map (·.handled)) =
      ((s.exchange cfg place message now answer).2, (serve cfg (s.handledBy k)).2 ++
        [(message.request, (s.exchange cfg place message now answer).1.reply)]) := by
    rw [hhandled, List.map_append, List.map_singleton, serve_append]
    unfold exchange
    rw [h.tracked k hholds]
    rfl
  have hslot := LoopPhase.holdsSlot_of_handles hholds
  refine exclusive_of_put rfl (fun hfree => ?_) ⟨hbooked, ?_, fun _ => h.slot k hslot, fun _ => ?_, fun terminal hj => ?_⟩
    (fun j hj => h.others hslot hj)
  · have := (h.slot k hslot).1
    rw [show s.joinActive = false from hfree] at this
    cases this
  · rw [hserve, hhandled, List.map_append, h.replies k]
    rfl
  · rw [hserve]
  · rw [hj] at hphase
    cases hphase

theorem booked_self (h : ∀ j, ((s.put k session).session j).Booked) : session.Booked := by
  have := h k
  rwa [put_self] at this

theorem read_handled (session : JoinSession Id R) (message : Message Id R) :
    (session.read cfg message).handled = session.handled := by
  unfold JoinSession.read
  split <;> rfl

theorem read_phase (message : Message Id R) (hphase : session.phase = .reading) :
    (session.read cfg message).phase = .reading ∨
      (session.read cfg message).phase = .draining session.messages.length := by
  unfold JoinSession.read
  split
  · exact .inl hphase
  · exact .inr rfl

/-- The Join that holds the slot completes what its sessions left running. -/
theorem Exclusive.sweep (h : Exclusive cfg s) (now : Int) (hbooked : session.Booked)
    (hhandled : session.handled = (s.session k).handled) (hholds : (s.session k).phase.holdsSlot = true)
    (hphase : session.phase.handles = false) :
    Exclusive cfg { s.put k session with tracker := (s.tracker.completeAll now).2 } := by
  refine exclusive_of_put rfl (fun _ => rfl) ⟨hbooked, ?_, fun _ => h.slot k hholds, fun hj => ?_, fun _ _ => rfl⟩
    (fun j hj => h.others hholds hj)
  · rw [hhandled]
    exact h.replies k
  · rw [hphase] at hj
    cases hj

theorem Exclusive.release (h : Exclusive cfg s) (hbooked : session.Booked)
    (hhandled : session.handled = (s.session k).handled) (hswept : ∃ terminal, (s.session k).phase = .swept terminal)
    (hphase : session.phase.holdsSlot = false) : Exclusive cfg { s.put k session with joinActive := false } := by
  obtain ⟨terminal, hterminal⟩ := hswept
  have hholds : (s.session k).phase.holdsSlot = true := by rw [hterminal]; rfl
  have hfits : Fits cfg s k session := by
    refine ⟨hbooked, ?_, fun hj => ?_, fun hj => ?_, fun _ _ => h.swept k terminal hterminal⟩
    · rw [hhandled]
      exact h.replies k
    · rw [hphase] at hj
      cases hj
    · rw [LoopPhase.holdsSlot_of_handles hj] at hphase
      cases hphase
  exact exclusive_of_put rfl (fun _ => h.swept k terminal hterminal) (hfits.idle hphase) (fun j hj => h.others hholds hj)

theorem Exclusive.moves (h : Exclusive cfg s) (hm : Moves cfg s e s') (he : e.panics = false) : Exclusive cfg s' := by
  have hbooked := booked_moves h.booked hm he
  cases hm with
  | refused htaken => exact h
  | admitted hfree =>
    -- the slot was free, so no Join held it and the tracker is empty
    refine exclusive_of_put rfl nofun ⟨JoinSession.booked_opened, rfl, fun _ => ⟨rfl, rfl⟩, fun _ => h.clean hfree,
      nofun⟩ (fun j _ => (h.fits j).idle (Bool.eq_false_iff.2 (fun hholds => ?_)))
    have := (h.slot j hholds).1
    rw [hfree] at this
    cases this
  | @read k message hphase =>
    refine h.put (booked_self hbooked) (read_handled _ message) (fun _ => ?_) (fun _ => ?_) ?_
    · rw [hphase]; rfl
    · rw [hphase]; rfl
    · rcases read_phase message hphase with hread | hread <;> rw [hread] <;> exact nofun
  | streamEnd hphase => exact h.put (booked_self hbooked) rfl (fun _ => by rw [hphase]; rfl) (fun _ => by rw [hphase]; rfl) nofun
  | hangUp k => exact h.put (booked_self hbooked) rfl id id (fun _ => id)
  | @finishLane k place message now answer hmessage hplace =>
    have hhandles := (h.booked k).handles_of_handling hplace
    exact h.handle (booked_self hbooked) hhandles rfl hhandles
  | replyLane hreply =>
    refine h.put (booked_self hbooked) (JoinSession.send_handled ..) ?_ ?_ ?_ <;> dsimp only <;>
      rw [JoinSession.send_phase] <;> first | exact id | exact fun _ => id
  | panicLane hplace => cases he
  | serve hphase hquiet =>
    exact h.put (booked_self hbooked) rfl (fun _ => by rw [hphase]; rfl) (fun _ => by rw [hphase]; rfl) nofun
  | finishServe now answer hphase hmessage =>
    refine h.handle (booked_self hbooked) (by rw [hphase]; rfl) rfl ?_
    dsimp only
    split <;> rfl
  | panicServe hphase => cases he
  | reply hphase =>
    refine h.put (booked_self hbooked) (JoinSession.send_handled ..) (fun _ => ?_) (fun _ => ?_) ?_
    · rw [hphase]; rfl
    · rw [hphase]; rfl
    · dsimp only
      split <;> exact nofun
  | sweep now hphase hquiet => exact h.sweep now (booked_self hbooked) rfl (by rw [hphase]; rfl) rfl
  | release hphase => exact h.release (booked_self hbooked) rfl ⟨_, hphase⟩ rfl
  | sendTerminal hphase => exact h.put (booked_self hbooked) (JoinSession.send_handled ..) nofun nofun nofun
  | leave hphase => exact h.put (booked_self hbooked) rfl nofun nofun nofun

/-- Only lane-scoped requests run in tasks of their own. -/
def LaneTasks (session : JoinSession Id R) : Prop :=
  ∀ place ∈ session.handling, ∃ message, session.messages[place]? = some message ∧ isLaneScoped message.request = true

theorem laneTasks_read (h : LaneTasks session) (message : Message Id R) : LaneTasks (session.read cfg message) := by
  have hold : ∀ place ∈ session.handling, ∃ other, (session.messages ++ [message])[place]? = some other ∧
      isLaneScoped other.request = true := by
    intro place hplace
    obtain ⟨other, hother, hlane⟩ := h place hplace
    exact ⟨other, getElem?_snoc hother _, hlane⟩
  unfold JoinSession.read
  dsimp only
  split
  · rename_i hlane
    intro place hplace
    rcases List.mem_append.1 hplace with hplace | hplace
    · exact hold place hplace
    · obtain rfl : place = session.messages.length := by simpa using hplace
      rw [Bool.and_eq_true] at hlane
      exact ⟨message, List.getElem?_concat_length, hlane.2⟩
  · exact hold

theorem laneTasks_of {session' : JoinSession Id R} (h : LaneTasks session)
    (hmessages : session'.messages = session.messages) (hhandling : session'.handling ⊆ session.handling) :
    LaneTasks session' := by
  intro place hplace
  rw [hmessages]
  exact h place (hhandling hplace)

theorem laneTasks_moves (h : ∀ k, LaneTasks (s.session k)) (hm : Moves cfg s e s') (j : Nat) :
    LaneTasks (s'.session j) := by
  cases hm with
  | refused htaken => exact h j
  | admitted hfree => exact forall_put h (fun _ hplace => absurd hplace List.not_mem_nil) j
  | read message hphase => exact forall_put h (laneTasks_read (h _) message) j
  | finishLane now answer hmessage hplace =>
    refine forall_put h ?_ j
    exact laneTasks_of (h _) rfl List.erase_subset
  | panicLane hplace =>
    refine forall_put h ?_ j
    exact laneTasks_of (h _) rfl List.erase_subset
  | streamEnd hphase | serve hphase hquiet | sweep now hphase hquiet | release hphase | leave hphase
  | panicServe hphase | finishServe now answer hphase hmessage | hangUp k =>
    refine forall_put h ?_ j
    exact laneTasks_of (h _) rfl (List.Subset.refl _)
  | replyLane hreply | reply hphase | sendTerminal hphase =>
    refine forall_put h ?_ j
    exact laneTasks_of (h _) (JoinSession.send_messages ..) (by simp)

end EnvJoin

section

variable [Zero R] [Add R] [BEq R] [Inhabited Id] {cfg : ServerConfig} {s : EnvJoin Id R}

theorem reach_exclusive (h : (envJoins Id R cfg).Reach (fun _ e => e.panics = false) s) : s.Exclusive cfg :=
  h.inv (EnvJoin.Exclusive cfg) EnvJoin.exclusive_init (fun _ _ _ hi he hs => hi.moves (EnvJoin.step_moves hs) he)

theorem reach_laneTasks {C : EnvJoin Id R → EnvJoinEvent Id R → Prop} (h : (envJoins Id R cfg).Reach C s) :
    ∀ k, EnvJoin.LaneTasks (s.session k) :=
  h.inv (fun s => ∀ k, EnvJoin.LaneTasks (s.session k)) (fun _ _ hplace => absurd hplace List.not_mem_nil)
    (fun _ _ _ hi _ hs => EnvJoin.laneTasks_moves hi (EnvJoin.step_moves hs))

/-- Some request of the Join is being handled. -/
def JoinSession.Busy (session : JoinSession Id R) : Prop :=
  (∃ place, place ∈ session.handling) ∨ ∃ place, session.phase = .serving place

theorem EnvJoin.Exclusive.holdsSlot_of_busy (h : s.Exclusive cfg) {k : Nat} (hbusy : (s.session k).Busy) :
    (s.session k).phase.holdsSlot = true := by
  rcases hbusy with ⟨place, hplace⟩ | ⟨place, hphase⟩
  · exact LoopPhase.holdsSlot_of_handles ((h.booked k).handles_of_handling hplace)
  · rw [hphase]
    rfl

theorem EnvJoin.Exclusive.served_after (h : s.Exclusive cfg) {k place : Nat}
    (hphase : (s.session k).phase = .serving place) :
    (s.session k).Quiet ∧ ((s.session k).handled.map (·.place)) ~ List.range place := by
  have hquiet := (h.booked k).quiet (by rw [hphase]; rfl)
  have hlast := (h.booked k).pending_last place (by rw [hphase]; rfl)
  have hplaces := (h.booked k).places
  rw [hphase, hquiet.1, ← hlast, List.range_succ] at hplaces
  simp only [LoopPhase.pending, Option.toList_some, List.append_nil] at hplaces
  exact ⟨hquiet, (List.perm_append_right_iff _).1 hplaces⟩

/-- Env sessions are exclusive, quiescent and start clean. In every run of Join attempts, requests, completions and
disconnects in which no handler panics: requests of one Join at most are being handled; only lane-scoped requests run
beside others, and any other is handled once no operation is in flight and all earlier requests of its Join are
handled, over the tracker they made; every reply is one of a handled request, under its own id, and no request has two;
a Close is the last request read; a Join is only admitted while the tracker is empty; and every episode a session
reports is one its own requests started. -/
theorem joins_exclusive (cfg : ServerConfig) {s : EnvJoin Id R}
    (h : (envJoins Id R cfg).Reach (fun _ e => e.panics = false) s) :
    (∀ j k, (s.session j).Busy → (s.session k).Busy → j = k) ∧
    (∀ k, ∀ place ∈ (s.session k).handling, ∃ message, (s.session k).messages[place]? = some message ∧
      isLaneScoped message.request = true) ∧
    (∀ k place, (s.session k).phase = .serving place → (s.session k).Quiet ∧
      ((s.session k).handled.map (·.place)) ~ List.range place ∧ s.tracker = (serve cfg (s.handledBy k)).1) ∧
    (∀ k, ((s.session k).replies.map Prod.fst).Nodup) ∧
    (∀ k place reply, (place, reply) ∈ (s.session k).replies → ∃ message, ∃ exchanged ∈ (s.session k).handled,
      (s.session k).messages[place]? = some message ∧ reply.requestId = message.requestId ∧
        exchanged.place = place ∧ exchanged.reply = reply.kind) ∧
    (∀ k place message, (s.session k).messages[place]? = some message → isClose message.request = true →
      place + 1 = (s.session k).messages.length) ∧
    (s.joinActive = false →
      s.tracker.active = ∅ ∧ s.tracker.pendingAutoreset = ∅ ∧ s.tracker.interrupted = []) ∧
    (∀ k place reply, (place, reply) ∈ (s.session k).replies → ∀ metadata ∈ reply.kind.episodes,
      ∃ entry ∈ (ledgerOf cfg (serve cfg (s.handledBy k)).2).reported, accountOf metadata = entry.account) := by
  have hx := reach_exclusive h
  refine ⟨?_, reach_laneTasks h, ?_, fun k => (hx.booked k).sent_once, ?_, ?_, ?_, ?_⟩
  · intro j k hj hk
    exact hx.unique (hx.holdsSlot_of_busy hj) (hx.holdsSlot_of_busy hk)
  · intro k place hphase
    obtain ⟨hquiet, hplaces⟩ := hx.served_after hphase
    exact ⟨hquiet, hplaces, hx.tracked k (by rw [hphase]; rfl)⟩
  · intro k place reply hmem
    obtain ⟨exchanged, hin, hplace, hreply, hid⟩ := (hx.booked k).sent_handled _ hmem
    obtain ⟨message, hmessage, hid⟩ := Option.map_eq_some_iff.1 hid
    exact ⟨message, exchanged, hin, hmessage, hid.symm, hplace, hreply⟩
  · intro k place message hmessage hclose
    exact ((hx.booked k).close_last place message hmessage hclose).1
  · intro hfree
    rw [hx.clean hfree]
    exact ⟨rfl, rfl, rfl⟩
  · intro k place reply hmem metadata hmetadata
    obtain ⟨exchanged, hin, -, hreply, -⟩ := (hx.booked k).sent_handled _ hmem
    have hreport : metadata ∈ reports (serve cfg (s.handledBy k)).2 := by
      rw [reports, List.mem_flatMap, ← hx.replies k]
      exact ⟨_, List.mem_map.2 ⟨exchanged, hin, rfl⟩, by rw [hreply]; exact hmetadata⟩
    have haccount := (serve_reports cfg (s.handledBy k)).mem_iff.1 (List.mem_map.2 ⟨metadata, hreport, rfl⟩)
    obtain ⟨entry, hentry, heq⟩ := List.mem_map.1 haccount
    exact ⟨entry, hentry, heq.symm⟩

end

/-- A lane endpoint of two lanes. -/
def twoLanes : ServerConfig where
  numEnvs := 2
  autoresetMode := .disabled
  supportsLanes := true
  retainsEdition _ := true
  supportedEditions := []

/-- An env whose resets succeed and whose other operations fail beyond recovery. -/
def onlyResets : EnvAnswer Nat Int where
  late := false
  reset := .ok { observation := none, infos := none }
  step := .error (.new .internal "step failed")
  render := .error (.new .internal "no renderer")

def laneReset (lane : Nat) : JoinRequest Nat Int :=
  .reset { seeds := [], options := none, timeoutMs := 0, envIndices := [lane], episodeIds := [lane + 1] }

/-- Two lane resets that finish out of order, the end of their stream, and a second Join that renders. -/
def twoSessions : List (EnvJoinEvent Nat Int) :=
  [.join, .read 0 ⟨"1", laneReset 0⟩, .read 0 ⟨"2", laneReset 1⟩, .join, .finishLane 0 1 0 onlyResets, .replyLane 0 1,
    .streamEnd 0, .finishLane 0 0 0 onlyResets, .replyLane 0 0, .sweep 0 0, .release 0, .sendTerminal 0, .join,
    .read 1 ⟨"3", .render 0 []⟩, .serve 1]

theorem joins_exclusive_twoSessions :
    ∃ s : EnvJoin Nat Int, (envJoins Nat Int twoLanes).Reach (fun _ e => e.panics = false) s ∧
      (s.session 0).replies.map (fun entry => entry.2.requestId) = ["2", "1"] ∧ s.joins = 2 ∧
      ∀ j k, (s.session j).Busy → (s.session k).Busy → j = k := by
  obtain ⟨s, hreach, hs⟩ := System.exists_reach_of_runFrom (envJoins Nat Int twoLanes) (fun _ e => e.panics = false)
    (fun s => decide ((s.session 0).replies.map (fun entry => entry.2.requestId) = ["2", "1"] ∧ s.joins = 2))
    twoSessions (by decide +kernel) (by decide +kernel)
  obtain ⟨hreplies, hjoins⟩ := of_decide_eq_true hs
  exact ⟨s, hreach, hreplies, hjoins, (joins_exclusive twoLanes hreach).1⟩

end Rlmesh.Env
