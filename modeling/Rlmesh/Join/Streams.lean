import Rlmesh.Lib.Oneshots
import Rlmesh.Lib.Runs
/-!
# Calls on a Join stream (`env/stream.rs`, `model/stream.rs`, `send_on_stream`)

Both clients send requests on one stream and hand each reply to the caller
waiting under its `request_id`. A call registers its waiter, puts the request on
the stream's queue and awaits its reply; a pump reads the replies until the stream
ends, and then fails the callers that still wait. An event of the model is what a
call does from one await to the next, or one access of a pump to the waiters.

The env client's map of waiters is taken away when the stream ends, under the
same lock as its callers are told. The model client's map is emptied and stays in
place, and its callers are told one by one after the lock is let go.
-/
open Rlmesh.Lib

namespace Rlmesh.Join

structure Response (Body : Type) where
  requestId : String
  body : Body
  deriving DecidableEq

/-- A gRPC status. -/
structure Status where
  code : Nat
  message : String
  deriving DecidableEq

/-- `Status::unavailable(..)`, with the code gRPC gives it. -/
def unavailable (message : String) : Status := ⟨14, message⟩

inductive CallError where
  /-- `stream_gone_error` of the env client, `ConnectionClosed` of the model client. -/
  | streamGone
  | status (status : Status)
  | decode (message : String)
  deriving DecidableEq

/-- Where a call stands. -/
inductive Phase (Body : Type) where
  | idle
  /-- Waits for room in the stream's queue. -/
  | sending (requestId : String)
  | waiting (requestId : String)
  | done (requestId : String) (result : Except CallError (Response Body))
  /-- The caller dropped the call's future. -/
  | dropped (requestId : String)

def Phase.requestId {Body : Type} : Phase Body → Option String
  | .idle => none
  | .sending requestId | .waiting requestId | .done requestId _ | .dropped requestId => some requestId

/-- What the stream's queue does with a message put on it. -/
inductive Queue where
  | accepts
  | full
  | refuses
  deriving DecidableEq

/-- What is sent to a waiting caller. -/
abbrev Reply (Body : Type) := Except Status (Response Body)

structure Stream (Pump Body : Type) where
  pending : Desk String (Reply Body)
  callers : Nat → Phase Body
  pump : Pump

inductive Event (Body : Type) where
  /-- A call up to its first await. -/
  | call (c : Nat) (requestId : String) (queue : Queue)
  /-- The queue has room again, or is gone. -/
  | put (c : Nat) (accepted : Bool)
  /-- The call goes on with what it waited for. -/
  | resume (c : Nat)
  | drop (c : Nat)
  /-- The pump reads a reply. -/
  | reply (response : Response Body)
  /-- The pump reads the end of the stream. -/
  | finish
  /-- The pump reads the status the stream failed with. -/
  | fail (status : Status)
  /-- The pump goes on with the senders it has taken out. -/
  | tell

variable {Pump Body : Type}

/-! ## What both clients do -/

namespace Stream

def putCaller (s : Stream Pump Body) (c : Nat) (phase : Phase Body) : Stream Pump Body :=
  { s with callers := Function.update s.callers c phase }

/-- The request could not be sent: the waiter is taken back. -/
def unsent (s : Stream Pump Body) (c : Nat) (requestId : String) : Stream Pump Body :=
  { s with pending := s.pending.remove requestId }.putCaller c (.done requestId (.error .streamGone))

/-- The waiter is registered before its request is sent. -/
def register (s : Stream Pump Body) (c : Nat) (requestId : String) (queue : Queue) : Stream Pump Body :=
  let s := { s with pending := s.pending.insert requestId c }
  match queue with
  | .accepts => s.putCaller c (.waiting requestId)
  | .full => s.putCaller c (.sending requestId)
  | .refuses => s.unsent c requestId

def put (s : Stream Pump Body) (c : Nat) (accepted : Bool) : Option (Stream Pump Body) :=
  match s.callers c with
  | .sending requestId => some (if accepted then s.putCaller c (.waiting requestId) else s.unsent c requestId)
  | _ => none

/-- What a call returns for what it received. -/
def received : Oneshot (Reply Body) → Option (Except CallError (Response Body))
  | .empty => none
  | .sent (.ok response) => some (.ok response)
  | .sent (.error status) => some (.error (.status status))
  | .closed => some (.error .streamGone)

def resume (s : Stream Pump Body) (c : Nat) : Option (Stream Pump Body) :=
  match s.callers c with
  | .waiting requestId => (received (s.pending.channels c)).map (fun result => s.putCaller c (.done requestId result))
  | _ => none

def drop (s : Stream Pump Body) (c : Nat) : Option (Stream Pump Body) :=
  match s.callers c with
  | .sending requestId | .waiting requestId => some (s.putCaller c (.dropped requestId))
  | _ => none

end Stream

/-! ## The env client -/

inductive EnvPump where
  | reading
  /-- The map of waiters is `None`. -/
  | ended
  deriving DecidableEq

namespace EnvStream

def call (s : Stream EnvPump Body) (c : Nat) (requestId : String) (queue : Queue) : Stream EnvPump Body :=
  match s.pump with
  | .ended => s.putCaller c (.done requestId (.error .streamGone))
  | .reading => s.register c requestId queue

/-- `dispatch_response` of a reply, under the lock of the waiters. -/
def dispatchReply (s : Stream EnvPump Body) (response : Response Body) : Stream EnvPump Body :=
  { s with pending := (s.pending.take response.requestId).useAll (.sent (.ok response)) }

/-- `dispatch_response` of the stream's end: the map is taken, and its senders are used or dropped. -/
def dispatchEnd (s : Stream EnvPump Body) (outcome : Oneshot (Reply Body)) : Stream EnvPump Body :=
  { s with pending := s.pending.drain.useAll outcome, pump := .ended }

def step (s : Stream EnvPump Body) : Event Body → Option (Stream EnvPump Body)
  | .call c requestId queue =>
    match s.callers c with
    | .idle => some (call s c requestId queue)
    | _ => none
  | .put c accepted => s.put c accepted
  | .resume c => s.resume c
  | .drop c => s.drop c
  | .reply response =>
    match s.pump with
    | .reading => some (dispatchReply s response)
    | .ended => none
  | .finish =>
    match s.pump with
    | .reading => some (dispatchEnd s .closed)
    | .ended => none
  | .fail status =>
    match s.pump with
    | .reading => some (dispatchEnd s (.sent (.error status)))
    | .ended => none
  | .tell => none

end EnvStream

/-- Every run of the callers of one Join stream of an env client. -/
def envStream (Body : Type) : System (Stream EnvPump Body) (Event Body) where
  init := { pending := .new, callers := fun _ => .idle, pump := .reading }
  step := EnvStream.step

/-! ## The model client -/

inductive ModelPump (Body : Type) where
  | reading
  /-- Has taken a sender out for the response. -/
  | delivering (response : Response Body)
  /-- Has drained the map and fails the callers. -/
  | failing (status : Status)
  | ended

namespace ModelStream

/-- A request id may be the caller's own, and one in flight is refused. -/
def call (s : Stream (ModelPump Body) Body) (c : Nat) (requestId : String) (queue : Queue) : Stream (ModelPump Body) Body :=
  match s.pending.entries.lookup requestId with
  | some _ =>
    let quoted := requestId.quote
    s.putCaller c (.done requestId (.error (.decode s!"request_id {quoted} is already in flight on this stream")))
  | none => s.register c requestId queue

def failAllPending (s : Stream (ModelPump Body) Body) (status : Status) : Stream (ModelPump Body) Body :=
  { s with pending := s.pending.drain, pump := .failing status }

/-- The pump reads a response: a sender waiting for it is taken out, or the response dropped. -/
def readReply (s : Stream (ModelPump Body) Body) (response : Response Body) : Stream (ModelPump Body) Body :=
  match s.pending.entries.lookup response.requestId with
  | some _ => { s with pending := s.pending.take response.requestId, pump := .delivering response }
  | none => s

/-- The pump uses the next sender it has taken out. -/
def tell (s : Stream (ModelPump Body) Body) : Option (Stream (ModelPump Body) Body) :=
  match s.pump, s.pending.held with
  | .delivering response, c :: _ => some { s with pending := s.pending.use c (.sent (.ok response)), pump := .reading }
  | .failing status, c :: _ => some { s with pending := s.pending.use c (.sent (.error status)) }
  | .failing _, [] => some { s with pump := .ended }
  | _, _ => none

def step (s : Stream (ModelPump Body) Body) : Event Body → Option (Stream (ModelPump Body) Body)
  | .call c requestId queue =>
    match s.callers c with
    | .idle => some (call s c requestId queue)
    | _ => none
  | .put c accepted => s.put c accepted
  | .resume c => s.resume c
  | .drop c => s.drop c
  | .reply response =>
    match s.pump with
    | .reading => some (readReply s response)
    | _ => none
  | .finish =>
    match s.pump with
    | .reading => some (failAllPending s (unavailable "model join stream ended"))
    | _ => none
  | .fail status =>
    match s.pump with
    | .reading => some (failAllPending s status)
    | _ => none
  | .tell => tell s

end ModelStream

/-- Every run of the callers of one model client. -/
def modelStream (Body : Type) : System (Stream (ModelPump Body) Body) (Event Body) where
  init := { pending := .new, callers := fun _ => .idle, pump := .reading }
  step := ModelStream.step

end Rlmesh.Join
