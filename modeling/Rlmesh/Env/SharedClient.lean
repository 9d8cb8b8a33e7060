import Rlmesh.Lib.Runs
/-!
# The session clones of a client share (`EnvClient`)

Clones of one `EnvClient` share the slot of the open Join stream, the lock under
which a stream is opened, the edition pin, and the message of the error that
ended the last session. A call runs undisturbed from one await to the next: an
event of the model is one such stretch of a call, or what a stream's response
pump does with one message. The caller may drop a call at any await.

`configureId`, `acked`, `pin`, `opener`, `afterFatal` and `fatalEnded` are
bookkeeping of the model: which request is a stream's Configure and whether its
acknowledgement has arrived, the pin the client carried when the stream was
opened, which call opened it, and whether a fatal error had ended a session with
no Join opened since.
-/
open Rlmesh.Lib

namespace Rlmesh.Env

/-- `ClientState`, from the handshake on. -/
inductive ClientState where
  | ready
  | closed
  deriving DecidableEq

inductive Op where
  | reset
  | step
  | render
  | close
  deriving DecidableEq

/-- What is put on a Join stream. -/
inductive StreamRequest where
  | configure (selectedWorkflowEdition : String)
  | call (op : Op)
  deriving DecidableEq

/-- A reply as its caller sees it: of the kind it expects, of another kind, or an error. -/
inductive StreamReply where
  | expected
  | unexpected
  | error (message : String) (isRecoverable : Bool)
  deriving DecidableEq

inductive CallError where
  | notConnected
  | notHandshaked
  | sessionEnded (message : String)
  | connectionClosed
  | status
  | env (message : String) (isRecoverable : Bool)
  | unexpectedMessage
  deriving DecidableEq

/-- What reaches the caller of a request: a reply, the status the stream failed with, or nothing any more. -/
inductive Answer where
  | reply (reply : StreamReply)
  | status
  | gone
  deriving DecidableEq

structure JoinStream where
  /-- The messages put on the stream, with their request ids. -/
  sent : List (Nat × StreamRequest)
  /-- The requests whose callers wait for a reply; `none` once the stream has ended. -/
  pending : Option (List Nat)
  answers : Nat → Option Answer
  configureId : Option Nat
  acked : Bool
  pin : String
  opener : Op
  afterFatal : Bool

/-- A stream that has not been opened. -/
def JoinStream.unopened : JoinStream where
  sent := []
  pending := none
  answers _ := none
  configureId := none
  acked := false
  pin := ""
  opener := .reset
  afterFatal := false

/-- Where a call stands. -/
inductive CallPhase where
  | idle
  /-- Waits for the lock to open a stream. -/
  | locking (op : Op)
  | opening (op : Op)
  /-- Holds the lock and puts the Configure on the stream it opened. -/
  | configuring (op : Op) (stream id : Nat)
  | confirming (op : Op) (stream id : Nat)
  | sending (op : Op) (stream id : Nat)
  | waiting (op : Op) (stream id : Nat)
  /-- A Close that has its reply waits for the stream to end. -/
  | closing (stream : Nat) (reply : StreamReply)
  | done (result : Except CallError Unit)
  | dropped
  deriving DecidableEq

/-- The call holds the lock. -/
def CallPhase.opens : CallPhase → Bool
  | .opening _ | .configuring _ _ _ | .confirming _ _ _ => true
  | _ => false

/-- The call is a Close, whose end is terminal for the client however it comes. -/
def CallPhase.closes : CallPhase → Bool
  | .sending .close _ _ | .waiting .close _ _ | .closing _ _ => true
  | _ => false

structure Shared where
  state : ClientState
  slot : Option Nat
  openLock : Option Nat
  requestCounter : Nat
  pinnedWorkflowEdition : String
  endedBy : Option String
  joins : Nat
  streams : Nat → JoinStream
  calls : Nat → CallPhase
  fatalEnded : Bool

inductive ClientEvent where
  | call (c : Nat) (op : Op)
  /-- The call gets the lock. -/
  | acquire (c : Nat)
  /-- The server admits the Join. -/
  | joined (c : Nat)
  | joinRefused (c : Nat)
  /-- The call's message is put on its stream. -/
  | put (c : Nat)
  | putFails (c : Nat)
  /-- The call goes on with its answer. -/
  | resume (c : Nat)
  /-- A Close that has its reply sees the stream end. -/
  | finished (c : Nat)
  | drop (c : Nat)
  /-- The pump of a stream reads a reply. -/
  | reply (stream id : Nat) (reply : StreamReply)
  /-- The pump of a stream reads its end, or the status it failed with. -/
  | streamEnd (stream : Nat) (failed : Bool)
  | pinWorkflowEdition (edition : String)
  | detach

namespace Shared

def init (pin : String) : Shared where
  state := .ready
  slot := none
  openLock := none
  requestCounter := 0
  pinnedWorkflowEdition := pin
  endedBy := none
  joins := 0
  streams _ := .unopened
  calls _ := .idle
  fatalEnded := false

def putStream (s : Shared) (k : Nat) (stream : JoinStream) : Shared :=
  { s with streams := Function.update s.streams k stream }

def putCall (s : Shared) (c : Nat) (phase : CallPhase) : Shared :=
  { s with calls := Function.update s.calls c phase }

def streamGoneError (s : Shared) : CallError :=
  match s.endedBy with
  | some message => .sessionEnded message
  | none => .connectionClosed

def closeLocal (s : Shared) : Shared :=
  { s with slot := none, state := .closed }

/-- The call returns; the guard of a Close drops the stream and closes the client. -/
def finish (s : Shared) (c : Nat) (op : Op) (result : Except CallError Unit) : Shared :=
  (match op with
    | .close => s.closeLocal
    | _ => s).putCall c (.done result)

def nextRequestId (s : Shared) : Shared :=
  { s with requestCounter := s.requestCounter + 1 }

/-- `send_on_stream` up to its first await: the caller is entered among those that wait on the open stream. -/
def register (s : Shared) (id : Nat) : Except CallError (Nat × Shared) :=
  match s.slot with
  | none => .error .notHandshaked
  | some k =>
    match (s.streams k).pending with
    | none => .error s.streamGoneError
    | some map => .ok (k, s.putStream k { s.streams k with pending := some (map ++ [id]) })

/-- The call sends its own request. -/
def request (s : Shared) (c : Nat) (op : Op) : Shared :=
  let id := s.requestCounter + 1
  match s.nextRequestId.register id with
  | .error e => s.nextRequestId.finish c op (.error e)
  | .ok (k, s) => s.putCall c (.sending op k id)

def ensureJoinStream (s : Shared) (c : Nat) (op : Op) : Shared :=
  match s.slot with
  | some _ => s.request c op
  | none => s.putCall c (.locking op)

/-- `ensure_session_not_ended`. -/
def ensureSessionNotEnded (s : Shared) : Except CallError Unit :=
  match s.slot, s.endedBy with
  | none, some message => .error (.sessionEnded message)
  | _, _ => .ok ()

/-- A call up to its first await. -/
def start (s : Shared) (c : Nat) (op : Op) : Shared :=
  match s.state with
  | .closed => s.putCall c (.done (.error .notConnected))
  | .ready =>
    match op with
    | .close =>
      match s.slot with
      | some _ => s.request c .close
      | none => s.finish c .close (.ok ())
    | .reset => s.ensureJoinStream c .reset
    | op =>
      match s.ensureSessionNotEnded with
      | .error e => s.putCall c (.done (.error e))
      | .ok () => s.ensureJoinStream c op

/-- The stream is configured: the call lets go of the lock and sends its request. -/
def opened (s : Shared) (c : Nat) (op : Op) : Shared :=
  { s with endedBy := none, openLock := none }.request c op

def configureFailed (s : Shared) (c : Nat) (op : Op) (e : CallError) : Shared :=
  { s with slot := none, openLock := none }.finish c op (.error e)

/-- The server has admitted the Join: its stream goes to the slot and the Configure is sent. -/
def install (s : Shared) (c : Nat) (op : Op) : Shared :=
  let k := s.joins
  let id := s.requestCounter + 1
  let stream := { JoinStream.unopened with
    pending := some [], pin := s.pinnedWorkflowEdition, opener := op, afterFatal := s.fatalEnded }
  let s := { s with slot := some k, joins := k + 1, fatalEnded := false }
  if s.pinnedWorkflowEdition = "" then (s.putStream k stream).opened c op
  else
    -- the slot is the stream just opened, so the Configure waits on that one
    (s.nextRequestId.putStream k { stream with pending := some [id], configureId := some id }).putCall c
      (.configuring op k id)

/-- Put a message on a stream. -/
def append (s : Shared) (k id : Nat) (message : StreamRequest) : Shared :=
  s.putStream k { s.streams k with sent := (s.streams k).sent ++ [(id, message)] }

/-- Take a caller that could not send off the waiting list. -/
def forget (s : Shared) (k id : Nat) : Shared :=
  s.putStream k { s.streams k with pending := (s.streams k).pending.map (·.erase id) }

def answerResult (s : Shared) : Answer → Except CallError Unit
  | .reply .expected => .ok ()
  | .reply .unexpected => .error .unexpectedMessage
  | .reply (.error message isRecoverable) => .error (.env message isRecoverable)
  | .status => .error .status
  | .gone => .error s.streamGoneError

/-- `end_session`, called by the pump of stream `k`. -/
def endSession (s : Shared) (k : Nat) (message : String) : Shared :=
  match s.slot with
  | some current =>
    if current = k then { s with slot := none, endedBy := some message, fatalEnded := true } else s
  | none => s

/-- `dispatch_response` of a reply. -/
def dispatchResponse (s : Shared) (k id : Nat) (reply : StreamReply) : Shared :=
  let stream := s.streams k
  match stream.pending with
  | some map =>
    if id ∈ map then
      s.putStream k { stream with
        pending := some (map.erase id)
        answers := Function.update stream.answers id (some (.reply reply))
        acked := stream.acked || (decide (stream.configureId = some id) && decide (reply = .expected)) }
    else s
  | none => s

/-- The pump of stream `k` reads a reply: a fatal error ends the session before its caller hears of it. -/
def pump (s : Shared) (k id : Nat) (reply : StreamReply) : Shared :=
  (match reply with
    | .error message false => s.endSession k message
    | _ => s).dispatchResponse k id reply

/-- The pump of stream `k` stops: everyone who waits is told, and the list is closed. -/
def streamEnd (s : Shared) (k : Nat) (map : List Nat) (failed : Bool) : Shared :=
  let stream := s.streams k
  let answer := if failed then Answer.status else .gone
  s.putStream k { stream with
    pending := none, answers := fun id => if id ∈ map then some answer else stream.answers id }

/-- The call goes on once its answer is there. -/
def resume (s : Shared) (c : Nat) (answer : Answer) : CallPhase → Option Shared
  | .confirming op _ _ =>
    match s.answerResult answer with
    | .ok () => some (s.opened c op)
    | .error e => some (s.configureFailed c op e)
  | .waiting .close k _ =>
    match answer with
    | .reply reply => some (s.closeLocal.putCall c (.closing k reply))
    | answer => some (s.finish c .close (s.answerResult answer))
  | .waiting op _ _ => some (s.finish c op (s.answerResult answer))
  | _ => none

/-- The stream and request whose answer the call waits for. -/
def awaited : CallPhase → Option (Nat × Nat)
  | .confirming _ k id | .waiting _ k id => some (k, id)
  | _ => none

/-- The call's future is dropped, and with it the lock and the guard it holds. -/
def dropCall (s : Shared) (c : Nat) : Shared :=
  let phase := s.calls c
  let s := if phase.opens then { s with openLock := none } else s
  let s := if phase.closes then s.closeLocal else s
  s.putCall c .dropped

def step (s : Shared) : ClientEvent → Option Shared
  | .call c op =>
    match s.calls c with
    | .idle => some (s.start c op)
    | _ => none
  | .acquire c =>
    match s.calls c, s.openLock with
    | .locking op, none =>
      match s.slot with
      | some _ => some (s.request c op)
      | none => some ({ s with openLock := some c }.putCall c (.opening op))
    | _, _ => none
  | .joined c =>
    match s.calls c with
    | .opening op => some (s.install c op)
    | _ => none
  | .joinRefused c =>
    match s.calls c with
    | .opening op => some ({ s with openLock := none }.finish c op (.error .status))
    | _ => none
  | .put c =>
    match s.calls c with
    | .configuring op k id =>
      some ((s.append k id (.configure (s.streams k).pin)).putCall c (.confirming op k id))
    | .sending op k id => some ((s.append k id (.call op)).putCall c (.waiting op k id))
    | _ => none
  | .putFails c =>
    match s.calls c with
    | .configuring op k id => some ((s.forget k id).configureFailed c op s.streamGoneError)
    | .sending op k id => some ((s.forget k id).finish c op (.error s.streamGoneError))
    | _ => none
  | .resume c =>
    match awaited (s.calls c) with
    | some (k, id) =>
      match (s.streams k).answers id with
      | some answer => s.resume c answer (s.calls c)
      | none => none
    | none => none
  | .finished c =>
    match s.calls c with
    | .closing k reply =>
      if (s.streams k).pending.isNone then some (s.finish c .close (s.answerResult (.reply reply))) else none
    | _ => none
  | .drop c =>
    match s.calls c with
    | .idle | .done _ | .dropped => none
    | _ => some (s.dropCall c)
  | .reply k id reply =>
    -- a server answers what it has been sent, and the pump reads until the stream ends
    if (s.streams k).pending.isSome ∧ id ∈ (s.streams k).sent.map Prod.fst then some (s.pump k id reply) else none
  | .streamEnd k failed =>
    match (s.streams k).pending with
    | some map => some (s.streamEnd k map failed)
    | none => none
  | .pinWorkflowEdition edition => some { s with pinnedWorkflowEdition := edition }
  | .detach => some s.closeLocal

end Shared

/-- Every run of the clones of a client that starts with a pin. -/
def envClients (pin : String) : System Shared ClientEvent where
  init := .init pin
  step := Shared.step

end Rlmesh.Env
