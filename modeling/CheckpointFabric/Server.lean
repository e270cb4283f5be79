import CheckpointFabric.Rpc

/-!
# The connections of a server

A server accepts connections and serves each of them in a thread of its own. A semaphore bounds the
number of connections: the accept loop takes a permit before it accepts, and hands it on to the
thread, which gives it back when the connection has ended.

The thread gives its permit back by a guard that it makes after it has served the connection. When
the handler panics, there is no guard yet.

## Main definitions

* `CountSemaphore` — the permits that are free
* `Worker`, `Worker.step` — a connection thread in `serve_connection`
* `AcceptLoop`, `State`, `State.step` — the accept loop of `serve`, and the server as a whole
* `State.run` — what a sequence of events makes of a server
-/

set_option autoImplicit false

namespace CheckpointFabric.Server

open Replica (Bytes)
open Protocol (Frame)

/-- A counting semaphore with `tryAcquire` semantics. -/
structure CountSemaphore where
  available : ℕ
  deriving DecidableEq, Repr

namespace CountSemaphore

/-- Take a permit, if there is one. -/
def tryAcquire (sem : CountSemaphore) : Option CountSemaphore :=
  if 0 < sem.available then some ⟨sem.available - 1⟩ else none

def release (sem : CountSemaphore) : CountSemaphore := ⟨sem.available + 1⟩

end CountSemaphore

def flagClose : UInt8 := 0x02

def isClose (frame : Frame) : Bool := frame.flags &&& flagClose != 0

/-- The response to a request. -/
def response (request : Frame) (payload : Bytes) : Frame :=
  { op := request.op, flags := Protocol.flagResponse, requestId := request.requestId, payload }

/-- Where a connection thread is: at the top of the loop of `serve_connection`, or behind it. -/
inductive Worker
  | checking
  | reading
  | handling (request : Frame)
  | answering (response : Frame)
  | ended
  deriving DecidableEq, Repr

/-- What happens in a connection thread. -/
inductive WorkerEvent
  | checked
  | readFailed
  | received (frame : Frame)
  | handled (payload : Bytes)
  /-- The handler returned an error, which was put in an envelope. -/
  | refused (envelope : Bytes)
  | unencodable
  | panicked
  | wrote
  | writeFailed
  | released
  deriving DecidableEq, Repr

/-- What becomes of the thread. `some none` says that it is gone. -/
def Worker.step (running : Bool) : Worker → WorkerEvent → Option (Option Worker)
  | .checking, .checked => some (some (if running then .reading else .ended))
  | .reading, .readFailed => some (some .ended)
  | .reading, .received frame =>
    some (some (if isClose frame || frame.isResponse then .ended else .handling frame))
  | .handling request, .handled payload => some (some (.answering (response request payload)))
  | .handling request, .refused envelope => some (some (.answering (response request envelope)))
  | .handling _, .unencodable => some (some .ended)
  -- Unwinding drops what the thread owns, and there is no guard among it.
  | .handling _, .panicked => some none
  | .answering _, .wrote => some (some .checking)
  | .answering _, .writeFailed => some (some .ended)
  | .ended, .released => some none
  | _, _ => none

/-- Where the accept loop is. -/
inductive AcceptLoop
  | checking
  | acquiring
  | accepting
  | accepted
  | returned
  deriving DecidableEq, Repr

/-- The permits that the accept loop holds. -/
def AcceptLoop.permits : AcceptLoop → ℕ
  | accepting | accepted => 1
  | checking | acquiring | returned => 0

structure State where
  running : Bool
  loop : AcceptLoop
  semaphore : CountSemaphore
  workers : List Worker
  deriving DecidableEq, Repr

/-- What happens at a server: someone stops it, its accept loop goes on, or one of its threads
does. -/
inductive Event
  | stop
  | checked
  | tried
  | acceptFailed
  | accepted
  | spawned
  | worker (i : ℕ) (event : WorkerEvent)
  deriving DecidableEq, Repr

namespace State

/-- A server that starts to serve. -/
def initial (maxConnections : ℕ) : State := ⟨true, .checking, ⟨maxConnections⟩, []⟩

/-- The `i`th connection thread goes on. -/
def stepWorker (s : State) (i : ℕ) (event : WorkerEvent) : Option State :=
  match s.workers[i]? with
  | none => none
  | some w =>
    match w.step s.running event with
    | none => none
    | some (some w') => some { s with workers := s.workers.set i w' }
    | some none =>
      some { s with
        workers := s.workers.eraseIdx i
        semaphore := if event = .released then s.semaphore.release else s.semaphore }

def step (s : State) : Event → Option State
  | .stop => some { s with running := false }
  | .checked =>
    if s.loop = .checking then
      some { s with loop := if s.running then .acquiring else .returned }
    else none
  | .tried =>
    if s.loop = .acquiring then
      match s.semaphore.tryAcquire with
      | some semaphore => some { s with semaphore, loop := .accepting }
      | none => some { s with loop := .checking }
    else none
  | .acceptFailed =>
    if s.loop = .accepting then
      some { s with semaphore := s.semaphore.release, loop := .checking }
    else none
  | .accepted => if s.loop = .accepting then some { s with loop := .accepted } else none
  -- A connection that comes when the server was stopped is shut down.
  | .spawned =>
    if s.loop = .accepted then
      if s.running then some { s with loop := .checking, workers := .checking :: s.workers }
      else some { s with semaphore := s.semaphore.release, loop := .returned }
    else none
  | .worker i event => s.stepWorker i event

/-- The state after a sequence of events, if they can happen one after the other. -/
def run (s : State) : List Event → Option State
  | [] => some s
  | e :: es => (s.step e).bind fun s' => s'.run es

end State

end CheckpointFabric.Server
