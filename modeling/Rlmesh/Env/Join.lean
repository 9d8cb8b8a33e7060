import Rlmesh.Env.Ledger
import Rlmesh.Lib.Runs
/-!
# The env server's Join (`EnvServer::join`)

One Join at a time holds the server's slot. Its read loop hands a lane-scoped
request of a lane endpoint to a task of its own; anything else waits until those
tasks are gone and is handled in the loop. However the loop ends, the tasks are
waited for, the tracker is swept, the slot is released, and only then does a
terminal reply go out.

`handled` and `fatalAt` are bookkeeping of the model: what was handled so far,
in order, with the replies, and how much had been read when the first
non-recoverable error was produced.
-/
open Rlmesh.Wire Rlmesh.Lib

set_option linter.unusedSectionVars false

namespace Rlmesh.Env

variable {Id R : Type}

/-- A message of the stream: a request and the id its reply carries. -/
structure Message (Id R : Type) where
  requestId : String
  request : JoinRequest Id R

structure Reply (Id R : Type) where
  requestId : String
  kind : JoinResponse Id R

/-- An error that is not recoverable. -/
def isFatal : JoinResponse Id R → Bool
  | .error e => !e.isRecoverable
  | _ => false

def isClose : JoinRequest Id R → Bool
  | .close _ => true
  | _ => false

/-- A handled request, at its place in the stream, with the reply it produced. -/
structure Exchanged (Id R : Type) where
  place : Nat
  handled : Handled Id R
  reply : JoinResponse Id R

/-- Where the task of a Join stands. A reply is kept with the place of its request. -/
inductive LoopPhase (Id R : Type) where
  | reading
  /-- The request at this place waits for the lane operations in flight. -/
  | draining (place : Nat)
  /-- The request at this place is handled in the loop. -/
  | serving (place : Nat)
  | answering (place : Nat) (reply : JoinResponse Id R)
  /-- The loop is left; the lane operations in flight are waited for. -/
  | ending (terminal : Option (Nat × JoinResponse Id R))
  /-- The tracker has been swept. -/
  | swept (terminal : Option (Nat × JoinResponse Id R))
  /-- The slot is free again. -/
  | released (terminal : Option (Nat × JoinResponse Id R))
  | gone

/-- The Join owns the server's slot. -/
def LoopPhase.holdsSlot : LoopPhase Id R → Bool
  | .released _ | .gone => false
  | _ => true

structure JoinSession (Id R : Type) where
  /-- The messages read so far. -/
  messages : List (Message Id R)
  /-- Lane requests whose operation runs. -/
  handling : List Nat
  /-- Lane requests that are handled, whose reply is still to be sent. -/
  replying : List (Nat × JoinResponse Id R)
  phase : LoopPhase Id R
  /-- The replies sent, with the places of their requests. -/
  replies : List (Nat × Reply Id R)
  /-- The client still holds the response stream. -/
  receiving : Bool
  handled : List (Exchanged Id R)
  fatalAt : Option Nat

namespace JoinSession

/-- A Join no one has opened. -/
def none : JoinSession Id R :=
  { messages := [], handling := [], replying := [], phase := .gone, replies := [], receiving := false, handled := []
    fatalAt := .none }

def opened : JoinSession Id R := { none with phase := .reading, receiving := true }

/-- The read loop takes a message: a lane-scoped one goes to its own task, any other waits for the tasks in flight. -/
def read (cfg : ServerConfig) (session : JoinSession Id R) (message : Message Id R) : JoinSession Id R :=
  let place := session.messages.length
  if cfg.supportsLanes && isLaneScoped message.request then
    { session with messages := session.messages ++ [message], handling := session.handling ++ [place] }
  else
    { session with messages := session.messages ++ [message], phase := .draining place }

/-- Put down what was handled. -/
def record (session : JoinSession Id R) (exchanged : Exchanged Id R) : JoinSession Id R :=
  { session with
    handled := session.handled ++ [exchanged]
    fatalAt :=
      if isFatal exchanged.reply && session.fatalAt.isNone then some session.messages.length else session.fatalAt }

/-- Send a reply, which a client that is gone does not get. -/
def send (session : JoinSession Id R) (place : Nat) (reply : JoinResponse Id R) : JoinSession Id R :=
  match session.messages[place]? with
  | some message =>
    if session.receiving then
      { session with replies := session.replies ++ [(place, { requestId := message.requestId, kind := reply })] }
    else
      session
  | .none => session

section Send

variable (session : JoinSession Id R) (place : Nat) (reply : JoinResponse Id R)

theorem send_eq : session.send place reply = { session with replies := (session.send place reply).replies } := by
  unfold send
  split
  · split <;> rfl
  · rfl

@[simp] theorem send_messages : (session.send place reply).messages = session.messages := by rw [send_eq]
@[simp] theorem send_handling : (session.send place reply).handling = session.handling := by rw [send_eq]
@[simp] theorem send_replying : (session.send place reply).replying = session.replying := by rw [send_eq]
@[simp] theorem send_phase : (session.send place reply).phase = session.phase := by rw [send_eq]
@[simp] theorem send_handled : (session.send place reply).handled = session.handled := by rw [send_eq]
@[simp] theorem send_fatalAt : (session.send place reply).fatalAt = session.fatalAt := by rw [send_eq]

end Send

/-- No lane operation is in flight. -/
def Quiet (session : JoinSession Id R) : Prop :=
  session.handling = [] ∧ session.replying = []

instance (session : JoinSession Id R) : Decidable session.Quiet :=
  decidable_of_iff (session.handling.isEmpty ∧ session.replying.isEmpty) (by simp [Quiet])

end JoinSession

/-- The env server: the slot, the tracker, and the Joins admitted so far. -/
structure EnvJoin (Id R : Type) where
  joinActive : Bool
  tracker : EpisodeTracker Id R
  joins : Nat
  session : Nat → JoinSession Id R

inductive EnvJoinEvent (Id R : Type) where
  /-- A Join attempt, refused while the slot is taken. -/
  | join
  | read (k : Nat) (message : Message Id R)
  /-- The request stream of a Join ends or fails. -/
  | streamEnd (k : Nat)
  /-- The client of a Join drops the response stream. -/
  | hangUp (k : Nat)
  /-- The operation of a lane request returns and the tracker is updated. -/
  | finishLane (k place : Nat) (now : Int) (answer : EnvAnswer Id R)
  | replyLane (k place : Nat)
  | panicLane (k place : Nat)
  /-- The lane operations are gone and the loop handles the request that waited for them. -/
  | serve (k : Nat)
  | finishServe (k : Nat) (now : Int) (answer : EnvAnswer Id R)
  | panicServe (k : Nat)
  | reply (k : Nat)
  | sweep (k : Nat) (now : Int)
  | release (k : Nat)
  | sendTerminal (k : Nat)

namespace EnvJoin

variable [Zero R] [Add R] [BEq R] [Inhabited Id]

def init : EnvJoin Id R :=
  { joinActive := false, tracker := .new, joins := 0, session := fun _ => .none }

def put (s : EnvJoin Id R) (k : Nat) (session : JoinSession Id R) : EnvJoin Id R :=
  { s with session := Function.update s.session k session }

theorem put_self (s : EnvJoin Id R) (k : Nat) (session : JoinSession Id R) : (s.put k session).session k = session :=
  Function.update_self ..

theorem put_of_ne (s : EnvJoin Id R) {k j : Nat} (session : JoinSession Id R) (h : j ≠ k) :
    (s.put k session).session j = s.session j :=
  Function.update_of_ne h _ _

/-- What holds of every Join goes on to hold when one of them changes to a Join it holds of. -/
theorem forall_put {s : EnvJoin Id R} {P : JoinSession Id R → Prop} (h : ∀ k, P (s.session k)) {k : Nat} {session : JoinSession Id R}
    (hk : P session) (j : Nat) : P ((s.put k session).session j) := by
  by_cases hj : j = k
  · rw [hj, put_self]
    exact hk
  · rw [put_of_ne s session hj]
    exact h j

/-- What handling the message at a place produces, over the tracker as it stands. -/
def exchange (cfg : ServerConfig) (s : EnvJoin Id R) (place : Nat) (message : Message Id R) (now : Int)
    (answer : EnvAnswer Id R) : Exchanged Id R × EpisodeTracker Id R :=
  let reply := handleEnvRequest cfg now answer s.tracker message.request
  ({ place, handled := { now, answer, request := message.request }, reply := reply.1 }, reply.2)

def step (cfg : ServerConfig) (s : EnvJoin Id R) : EnvJoinEvent Id R → Option (EnvJoin Id R)
  | .join =>
    if s.joinActive then some s
    else some { s.put s.joins .opened with joinActive := true, joins := s.joins + 1 }
  | .read k message =>
    match (s.session k).phase with
    | .reading => some (s.put k ((s.session k).read cfg message))
    | _ => none
  | .streamEnd k =>
    match (s.session k).phase with
    | .reading => some (s.put k { s.session k with phase := .ending none })
    | _ => none
  | .hangUp k => some (s.put k { s.session k with receiving := false })
  | .finishLane k place now answer =>
    match (s.session k).messages[place]? with
    | some message =>
      if place ∈ (s.session k).handling then
        let (exchanged, tracker) := s.exchange cfg place message now answer
        some { s.put k { (s.session k).record exchanged with
            handling := (s.session k).handling.erase place
            replying := (s.session k).replying ++ [(place, exchanged.reply)] } with tracker }
      else none
    | none => none
  | .replyLane k place =>
    match (s.session k).replying.lookup place with
    | some reply =>
      some (s.put k { (s.session k).send place reply with
        replying := (s.session k).replying.filter (·.1 != place) })
    | none => none
  | .panicLane k place =>
    if place ∈ (s.session k).handling then
      some (s.put k { s.session k with handling := (s.session k).handling.erase place })
    else none
  | .serve k =>
    match (s.session k).phase with
    | .draining place => if (s.session k).Quiet then some (s.put k { s.session k with phase := .serving place }) else none
    | _ => none
  | .finishServe k now answer =>
    match (s.session k).phase with
    | .serving place =>
      match (s.session k).messages[place]? with
      | some message =>
        let (exchanged, tracker) := s.exchange cfg place message now answer
        -- Close and a non-recoverable error end the stream; their reply goes out last
        let phase := if isClose message.request || isFatal exchanged.reply then .ending (some (place, exchanged.reply))
          else .answering place exchanged.reply
        some { s.put k { (s.session k).record exchanged with phase } with tracker }
      | none => none
    | _ => none
  | .panicServe k =>
    -- the Join's task unwinds: the guard frees the slot, nothing is swept
    match (s.session k).phase with
    | .serving _ => some { s.put k { s.session k with phase := .gone } with joinActive := false }
    | _ => none
  | .reply k =>
    match (s.session k).phase with
    | .answering place reply =>
      some (s.put k { (s.session k).send place reply with
        phase := if (s.session k).receiving then .reading else .ending none })
    | _ => none
  | .sweep k now =>
    match (s.session k).phase with
    | .ending terminal =>
      if (s.session k).Quiet then
        some { s.put k { s.session k with phase := .swept terminal } with tracker := (s.tracker.completeAll now).2 }
      else none
    | _ => none
  | .release k =>
    match (s.session k).phase with
    | .swept terminal => some { s.put k { s.session k with phase := .released terminal } with joinActive := false }
    | _ => none
  | .sendTerminal k =>
    match (s.session k).phase with
    | .released (some (place, reply)) => some (s.put k { (s.session k).send place reply with phase := .gone })
    | .released none => some (s.put k { s.session k with phase := .gone })
    | _ => none

/-- What each event does, with what it needs. -/
inductive Moves (cfg : ServerConfig) (s : EnvJoin Id R) : EnvJoinEvent Id R → EnvJoin Id R → Prop
  | refused (htaken : s.joinActive = true) : Moves cfg s .join s
  | admitted (hfree : s.joinActive = false) :
    Moves cfg s .join { s.put s.joins .opened with joinActive := true, joins := s.joins + 1 }
  | read {k : Nat} (message : Message Id R) (hphase : (s.session k).phase = .reading) :
    Moves cfg s (.read k message) (s.put k ((s.session k).read cfg message))
  | streamEnd {k : Nat} (hphase : (s.session k).phase = .reading) :
    Moves cfg s (.streamEnd k) (s.put k { s.session k with phase := .ending none })
  | hangUp (k : Nat) : Moves cfg s (.hangUp k) (s.put k { s.session k with receiving := false })
  | finishLane {k place : Nat} {message : Message Id R} (now : Int) (answer : EnvAnswer Id R)
      (hmessage : (s.session k).messages[place]? = some message) (hplace : place ∈ (s.session k).handling) :
    Moves cfg s (.finishLane k place now answer)
      { s.put k { (s.session k).record (s.exchange cfg place message now answer).1 with
          handling := (s.session k).handling.erase place
          replying := (s.session k).replying ++ [(place, (s.exchange cfg place message now answer).1.reply)] } with
        tracker := (s.exchange cfg place message now answer).2 }
  | replyLane {k place : Nat} {reply : JoinResponse Id R}
      (hreply : (s.session k).replying.lookup place = some reply) :
    Moves cfg s (.replyLane k place)
      (s.put k { (s.session k).send place reply with replying := (s.session k).replying.filter (·.1 != place) })
  | panicLane {k place : Nat} (hplace : place ∈ (s.session k).handling) :
    Moves cfg s (.panicLane k place)
      (s.put k { s.session k with handling := (s.session k).handling.erase place })
  | serve {k place : Nat} (hphase : (s.session k).phase = .draining place) (hquiet : (s.session k).Quiet) :
    Moves cfg s (.serve k) (s.put k { s.session k with phase := .serving place })
  | finishServe {k place : Nat} {message : Message Id R} (now : Int) (answer : EnvAnswer Id R)
      (hphase : (s.session k).phase = .serving place) (hmessage : (s.session k).messages[place]? = some message) :
    Moves cfg s (.finishServe k now answer)
      { s.put k { (s.session k).record (s.exchange cfg place message now answer).1 with
          phase :=
            if isClose message.request || isFatal (s.exchange cfg place message now answer).1.reply then
              .ending (some (place, (s.exchange cfg place message now answer).1.reply))
            else .answering place (s.exchange cfg place message now answer).1.reply } with
        tracker := (s.exchange cfg place message now answer).2 }
  | panicServe {k place : Nat} (hphase : (s.session k).phase = .serving place) :
    Moves cfg s (.panicServe k) { s.put k { s.session k with phase := .gone } with joinActive := false }
  | reply {k place : Nat} {reply : JoinResponse Id R} (hphase : (s.session k).phase = .answering place reply) :
    Moves cfg s (.reply k)
      (s.put k { (s.session k).send place reply with
        phase := if (s.session k).receiving then .reading else .ending none })
  | sweep {k : Nat} {terminal : Option (Nat × JoinResponse Id R)} (now : Int)
      (hphase : (s.session k).phase = .ending terminal) (hquiet : (s.session k).Quiet) :
    Moves cfg s (.sweep k now)
      { s.put k { s.session k with phase := .swept terminal } with tracker := (s.tracker.completeAll now).2 }
  | release {k : Nat} {terminal : Option (Nat × JoinResponse Id R)} (hphase : (s.session k).phase = .swept terminal) :
    Moves cfg s (.release k) { s.put k { s.session k with phase := .released terminal } with joinActive := false }
  | sendTerminal {k place : Nat} {reply : JoinResponse Id R}
      (hphase : (s.session k).phase = .released (some (place, reply))) :
    Moves cfg s (.sendTerminal k) (s.put k { (s.session k).send place reply with phase := .gone })
  | leave {k : Nat} (hphase : (s.session k).phase = .released none) :
    Moves cfg s (.sendTerminal k) (s.put k { s.session k with phase := .gone })

theorem step_moves {cfg : ServerConfig} {s s' : EnvJoin Id R} {e : EnvJoinEvent Id R} (h : s.step cfg e = some s') :
    Moves cfg s e s' := by
  cases e with
  | join =>
    simp only [step] at h
    split at h <;> cases h
    · exact .refused ‹_›
    · rename_i hfree
      exact .admitted (by simpa using hfree)
  | read k message =>
    simp only [step] at h
    split at h <;> cases h
    exact .read message ‹_›
  | streamEnd k =>
    simp only [step] at h
    split at h <;> cases h
    exact .streamEnd ‹_›
  | hangUp k =>
    cases h
    exact .hangUp k
  | finishLane k place now answer =>
    simp only [step] at h
    split at h
    · rw [Option.ite_none_right_eq_some] at h
      obtain ⟨hplace, ⟨⟩⟩ := h
      exact .finishLane now answer ‹_› hplace
    · cases h
  | replyLane k place =>
    simp only [step] at h
    split at h <;> cases h
    exact .replyLane ‹_›
  | panicLane k place =>
    simp only [step, Option.ite_none_right_eq_some] at h
    obtain ⟨hplace, ⟨⟩⟩ := h
    exact .panicLane hplace
  | serve k =>
    simp only [step] at h
    split at h
    · rw [Option.ite_none_right_eq_some] at h
      obtain ⟨hquiet, ⟨⟩⟩ := h
      exact .serve ‹_› hquiet
    · cases h
  | finishServe k now answer =>
    simp only [step] at h
    split at h
    · split at h <;> cases h
      exact .finishServe now answer ‹_› ‹_›
    · cases h
  | panicServe k =>
    simp only [step] at h
    split at h <;> cases h
    exact .panicServe ‹_›
  | reply k =>
    simp only [step] at h
    split at h <;> cases h
    exact .reply ‹_›
  | sweep k now =>
    simp only [step] at h
    split at h
    · rw [Option.ite_none_right_eq_some] at h
      obtain ⟨hquiet, ⟨⟩⟩ := h
      exact .sweep now ‹_› hquiet
    · cases h
  | release k =>
    simp only [step] at h
    split at h <;> cases h
    exact .release ‹_›
  | sendTerminal k =>
    simp only [step] at h
    split at h <;> cases h
    · exact .sendTerminal ‹_›
    · exact .leave ‹_›

end EnvJoin

/-- Every run of an env server. -/
def envJoins (Id R : Type) [Zero R] [Add R] [BEq R] [Inhabited Id] (cfg : ServerConfig) :
    System (EnvJoin Id R) (EnvJoinEvent Id R) where
  init := .init
  step := EnvJoin.step cfg

end Rlmesh.Env
