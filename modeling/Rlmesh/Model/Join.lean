import Rlmesh.Lib.Runs
import Rlmesh.Model.RouteTails
/-!
# The Join stream of a served model

The dispatch loop gates each request as it arrives, takes a permit and spawns a
task. A task waits behind its gate, runs the handler, fires its signals, sends
its response and gives its permit back; a panicking handler drops the signals
and the permit and sends nothing. Which task goes next is up to the schedule.
-/

open Rlmesh.Lib

namespace Rlmesh.Model

variable {β : Type}

structure JoinResponse (β : Type) where
  requestId : String
  kind : β
deriving DecidableEq, Repr

/-! ## Tasks -/

/-- A request with its gate and the signals it fires when its handler section is over. -/
structure Ticket where
  request : JoinRequest
  gate : RequestGate
  dones : List Signal
deriving DecidableEq, Repr

/-- Where a request's task stands. -/
inductive Phase (β : Type) where
  /-- Behind its gate. -/
  | waiting
  /-- In its handler section. -/
  | handling
  /-- Past its handler section, with the signals still to fire. No response means that the handler panicked. -/
  | releasing (left : List Signal) (response : Option (JoinResponse β))
  | done (panicked : Bool)
deriving DecidableEq, Repr

namespace Phase

/-- The handler section has been entered. -/
def started : Phase β → Bool
  | .waiting => false
  | _ => true

/-- The handler section is over. -/
def ended : Phase β → Bool
  | .releasing _ _ | .done _ => true
  | _ => false

def finished : Phase β → Bool
  | .done _ => true
  | _ => false

/-- The signals a task past its handler section has still to fire. -/
def left : Phase β → List Signal
  | .releasing left _ => left
  | _ => []

/-- The steps a task that fires `n` signals has still to take. -/
def work (n : Nat) : Phase β → Nat
  | .waiting => n + 3
  | .handling => n + 2
  | .releasing left _ => left.length + 1
  | .done _ => 0

theorem started_of_ended {p : Phase β} (h : p.ended = true) : p.started = true := by
  cases p <;> first | rfl | cases h

theorem ended_of_finished {p : Phase β} (h : p.finished = true) : p.ended = true := by
  cases p <;> first | rfl | cases h

end Phase

/-! ## The stream -/

/-- `DEFAULT_PREDICT_CONCURRENCY`. -/
def defaultPredictConcurrency : Nat := 32

/-- The number of permits of a Join. -/
def concurrency (predictConcurrency : Option Nat) : Nat :=
  (predictConcurrency.getD defaultPredictConcurrency).max 1

/-- How many responses the channel to the client holds. -/
def responseCapacity : Nat := 64

/-- A Join stream: the requests dispatched so far, of which the first `admitted` have a task and at most one more
waits for a permit. -/
structure Join (β : Type) where
  jobs : List Ticket
  admitted : Nat
  phase : Nat → Phase β
  /-- The signals that have fired or lost their sender. -/
  resolved : List Signal
  routeTails : RouteTails
  /-- The dispatch loop takes more requests. -/
  reading : Bool
  permits : Nat
  /-- The responses put on the channel, with the request each one is for. -/
  sent : List (Nat × JoinResponse β)
  /-- How many of them the client has taken. -/
  taken : Nat
  /-- The client still holds the response stream. -/
  receiving : Bool

inductive JoinEvent (β : Type) where
  /-- The next request comes off the stream and is gated. -/
  | request (request : JoinRequest)
  /-- The stream ends, or fails. -/
  | streamEnd
  /-- The gated request gets a permit and its task is spawned. -/
  | admits
  /-- A task's gate has opened and it enters its handler section. -/
  | enter (job : Nat)
  | finish (job : Nat) (kind : β)
  | panic (job : Nat)
  /-- A task fires (or, unwinding, drops) its next signal. -/
  | fire (job : Nat)
  /-- A task sends its response, if it has one, and ends. -/
  | leave (job : Nat)
  /-- The client takes a response. -/
  | take
  /-- The client drops the response stream. -/
  | hangUp
deriving DecidableEq, Repr

/-- The task an event is a step of. -/
def JoinEvent.task : JoinEvent β → Option Nat
  | .enter job | .finish job _ | .panic job | .fire job | .leave job => some job
  | _ => none

namespace Join

def init (permits : Nat) : Join β :=
  { jobs := [], admitted := 0, phase := fun _ => .waiting, resolved := [], routeTails := .new, reading := true,
    permits, sent := [], taken := 0, receiving := true }

/-- The gate of the next request, the signals it fires, and the tails after it. -/
def gated (s : Join β) (request : JoinRequest) : RequestGate × List Signal × RouteTails :=
  s.routeTails.gate s.resolved s.jobs.length request

def ticket (s : Join β) (request : JoinRequest) : Ticket :=
  { request, gate := (s.gated request).1, dones := (s.gated request).2.1 }

/-- Gate a request. Close is the last one: the reader stops there, and so does the dispatch loop. -/
def dispatch (s : Join β) (request : JoinRequest) : Join β :=
  { s with
    jobs := s.jobs ++ [s.ticket request], routeTails := (s.gated request).2.2, reading := !request.isClose }

def setPhase (s : Join β) (job : Nat) (phase : Phase β) : Join β :=
  { s with phase := Function.update s.phase job phase }

/-- The end of a task: its response, if it has one, goes to the client, and its permit is free again. The send waits
while the channel is full and is given up once the client is gone. -/
def leave (s : Join β) (job : Nat) : Option (JoinResponse β) → Option (Join β)
  | none => some { s.setPhase job (.done true) with permits := s.permits + 1 }
  | some response =>
    if s.receiving then
      if s.sent.length - s.taken < responseCapacity then
        some { s.setPhase job (.done false) with permits := s.permits + 1, sent := s.sent ++ [(job, response)] }
      else
        none
    else
      some { s.setPhase job (.done false) with permits := s.permits + 1 }

def step (s : Join β) : JoinEvent β → Option (Join β)
  | .request request => if s.reading ∧ s.admitted = s.jobs.length then some (s.dispatch request) else none
  | .streamEnd => if s.reading ∧ s.admitted = s.jobs.length then some { s with reading := false } else none
  | .admits =>
    if s.admitted < s.jobs.length ∧ 0 < s.permits then
      some { s with admitted := s.admitted + 1, permits := s.permits - 1 }
    else
      none
  | .enter job =>
    match s.phase job, s.jobs[job]? with
    | .waiting, some ticket =>
      if job < s.admitted ∧ ∀ signal ∈ ticket.gate.signals, signal ∈ s.resolved then
        some (s.setPhase job .handling)
      else
        none
    | _, _ => none
  | .finish job kind =>
    match s.phase job, s.jobs[job]? with
    | .handling, some ticket =>
      some (s.setPhase job (.releasing ticket.dones (some { requestId := ticket.request.requestId, kind })))
    | _, _ => none
  | .panic job =>
    match s.phase job, s.jobs[job]? with
    | .handling, some ticket => some (s.setPhase job (.releasing ticket.dones none))
    | _, _ => none
  | .fire job =>
    match s.phase job with
    | .releasing (signal :: left) response =>
      some { s.setPhase job (.releasing left response) with resolved := signal :: s.resolved }
    | _ => none
  | .leave job =>
    match s.phase job with
    | .releasing [] response => s.leave job response
    | _ => none
  | .take => if s.receiving ∧ s.taken < s.sent.length then some { s with taken := s.taken + 1 } else none
  | .hangUp => if s.receiving then some { s with receiving := false } else none

/-- What each event does, with what it needs. -/
inductive Moves (s : Join β) : JoinEvent β → Join β → Prop
  | request (request : JoinRequest) (hreading : s.reading = true) (hall : s.admitted = s.jobs.length) :
    Moves s (.request request) (s.dispatch request)
  | streamEnd : Moves s .streamEnd { s with reading := false }
  | admits (hgated : s.admitted < s.jobs.length) (hfree : 0 < s.permits) :
    Moves s .admits { s with admitted := s.admitted + 1, permits := s.permits - 1 }
  | enter {job : Nat} {ticket : Ticket} (hphase : s.phase job = .waiting) (hticket : s.jobs[job]? = some ticket)
      (hjob : job < s.admitted) (hopen : ∀ signal ∈ ticket.gate.signals, signal ∈ s.resolved) :
    Moves s (.enter job) (s.setPhase job .handling)
  | finish {job : Nat} {ticket : Ticket} (kind : β) (hphase : s.phase job = .handling)
      (hticket : s.jobs[job]? = some ticket) :
    Moves s (.finish job kind)
      (s.setPhase job (.releasing ticket.dones (some { requestId := ticket.request.requestId, kind })))
  | panic {job : Nat} {ticket : Ticket} (hphase : s.phase job = .handling) (hticket : s.jobs[job]? = some ticket) :
    Moves s (.panic job) (s.setPhase job (.releasing ticket.dones none))
  | fire {job : Nat} {signal : Signal} {left : List Signal} {response : Option (JoinResponse β)}
      (hphase : s.phase job = .releasing (signal :: left) response) :
    Moves s (.fire job) { s.setPhase job (.releasing left response) with resolved := signal :: s.resolved }
  | unwind {job : Nat} (hphase : s.phase job = .releasing [] none) :
    Moves s (.leave job) { s.setPhase job (.done true) with permits := s.permits + 1 }
  | send {job : Nat} {response : JoinResponse β} (hphase : s.phase job = .releasing [] (some response))
      (hreceiving : s.receiving = true) (hroom : s.sent.length - s.taken < responseCapacity) :
    Moves s (.leave job)
      { s.setPhase job (.done false) with permits := s.permits + 1, sent := s.sent ++ [(job, response)] }
  | giveUp {job : Nat} {response : JoinResponse β} (hphase : s.phase job = .releasing [] (some response))
      (hgone : s.receiving = false) :
    Moves s (.leave job) { s.setPhase job (.done false) with permits := s.permits + 1 }
  | take : Moves s .take { s with taken := s.taken + 1 }
  | hangUp : Moves s .hangUp { s with receiving := false }

theorem step_moves {s s' : Join β} {e : JoinEvent β} (h : s.step e = some s') : Moves s e s' := by
  cases e with
  | request request =>
    simp only [step, Option.ite_none_right_eq_some] at h
    obtain ⟨⟨hreading, hall⟩, ⟨⟩⟩ := h
    exact .request request hreading hall
  | streamEnd =>
    simp only [step, Option.ite_none_right_eq_some] at h
    obtain ⟨-, ⟨⟩⟩ := h
    exact .streamEnd
  | admits =>
    simp only [step, Option.ite_none_right_eq_some] at h
    obtain ⟨⟨hgated, hfree⟩, ⟨⟩⟩ := h
    exact .admits hgated hfree
  | enter job =>
    simp only [step] at h
    split at h
    · rename_i hphase hticket
      rw [Option.ite_none_right_eq_some] at h
      obtain ⟨⟨hjob, hopen⟩, ⟨⟩⟩ := h
      exact .enter hphase hticket hjob hopen
    · cases h
  | finish job kind =>
    simp only [step] at h
    split at h
    · rename_i hphase hticket
      cases h
      exact .finish kind hphase hticket
    · cases h
  | panic job =>
    simp only [step] at h
    split at h
    · rename_i hphase hticket
      cases h
      exact .panic hphase hticket
    · cases h
  | fire job =>
    simp only [step] at h
    split at h
    · rename_i hphase
      cases h
      exact .fire hphase
    · cases h
  | leave job =>
    simp only [step] at h
    split at h
    · rename_i response hphase
      cases response with
      | none =>
        cases h
        exact .unwind hphase
      | some response =>
        simp only [leave] at h
        split at h
        · rename_i hreceiving
          rw [Option.ite_none_right_eq_some] at h
          obtain ⟨hroom, ⟨⟩⟩ := h
          exact .send hphase hreceiving hroom
        · rename_i hgone
          cases h
          exact .giveUp hphase (by simpa using hgone)
    · cases h
  | take =>
    simp only [step, Option.ite_none_right_eq_some] at h
    obtain ⟨-, ⟨⟩⟩ := h
    exact .take
  | hangUp =>
    simp only [step, Option.ite_none_right_eq_some] at h
    obtain ⟨-, ⟨⟩⟩ := h
    exact .hangUp

end Join

/-- Every run of a Join with this concurrency limit. -/
def joinSystem (β : Type) (predictConcurrency : Option Nat) : System (Join β) (JoinEvent β) where
  init := .init (concurrency predictConcurrency)
  step := Join.step

end Rlmesh.Model
