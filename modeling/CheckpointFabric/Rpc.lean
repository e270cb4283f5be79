import CheckpointFabric.Concurrency.Alone
import CheckpointFabric.Transport

/-!
# Calls to a peer

A client writes a request and waits for a frame. If the frame does not answer the request, or none
comes, the call fails, and the client connects again for its next call. If it cannot, it keeps the
connection that it has, where the answer to a request of an earlier call may still arrive.

The peer answers the requests that it has received, each with its id, in any order and as late as
it likes. What it has sent arrives in parts.

## Main definitions

* `Connection.call`, `RpcClient.call` — a call on a connection, and one that connects again
* `Line`, `Net` — a connection with what is under way on it, and what the client has done
* `Net.Moves` — what the peer and the network do
* `Net.Step` — an operation of the client
* `Session` — the calls of one client
-/

set_option autoImplicit false

namespace CheckpointFabric

open Concurrency

namespace Protocol

def flagResponse : UInt8 := 0x01

def Frame.isResponse (frame : Frame) : Bool := frame.flags &&& flagResponse != 0

end Protocol

namespace Transport

open Replica (Bytes)
open Protocol (Frame encode)

/-- What a client does with its connection. -/
inductive ClientOp
  | nextRequestId
  | writeFrame (frame : Frame)
  | readFrame
  | connect

def ClientOp.Reply : ClientOp → Type
  | nextRequestId => UInt64
  | writeFrame _ => Unit
  | readFrame => Frame
  | connect => Unit

@[reducible] def clientInterface : Interface := ⟨ClientOp, ClientOp.Reply⟩

abbrev Rpc (α : Type) := Program clientInterface FabricError α

namespace Rpc

/-- Take the next id of the connection, and count it up. -/
def nextRequestId : Rpc UInt64 := Program.call (I := clientInterface) ClientOp.nextRequestId

/-- Send one frame. -/
def writeFrame (frame : Frame) : Rpc Unit :=
  Program.call (I := clientInterface) (ClientOp.writeFrame frame)

/-- Read one frame. -/
def readFrame : Rpc Frame := Program.call (I := clientInterface) ClientOp.readFrame

/-- Put a new connection in the place of the one that there is. -/
def connect : Rpc Unit := Program.call (I := clientInterface) ClientOp.connect

end Rpc

/-- Send a request frame and await its matching response. -/
def Connection.call (op : Protocol.Op) (payload : Bytes) : Rpc Bytes := do
  let requestId ← Rpc.nextRequestId
  Rpc.writeFrame { op, flags := 0, requestId, payload }
  let response ← Rpc.readFrame
  Program.ensure (response.requestId = requestId) (.protocolError
    s!"mismatched request id: expected {requestId}, got {response.requestId}")
  Program.ensure response.isResponse (.protocolError
    "peer sent a request frame in response to a request")
  pure response.payload

/-- A call that failed is not made again; the next one gets a new connection, if there is one. -/
def RpcClient.call (op : Protocol.Op) (payload : Bytes) : Rpc Bytes :=
  (Connection.call op payload).onError fun _ => Rpc.connect.ignore

/-- What the peer sent in answer to a request, with the number of the call that had written it. -/
structure Answer where
  call : ℕ
  request : Frame
  response : Frame

/-- A connection, with what was written on it whole and by which calls, what the peer sent in
answer, and what of that has not arrived. -/
structure Line where
  conn : Connection
  nextRequestId : UInt64
  written : List (ℕ × Frame)
  answers : List Answer
  inFlight : Bytes

/-- A connection that was just made. -/
def Line.fresh : Line := ⟨.fresh ⟨[], false⟩, 1, [], [], []⟩

/-- The connection of a client, the number of its calls, and those that have written a frame or a
part of one, on this connection or on an earlier one. -/
structure Net where
  line : Line
  calls : ℕ
  writes : List ℕ

namespace Net

/-- A client that was just connected. -/
def connected : Net := ⟨.fresh, 0, []⟩

variable (crc32c : Bytes → UInt32)

/-- The peer answers a request that it has received, what it sent arrives in part, or it closes the
connection. -/
inductive Move : Net → Net → Prop
  | answer {s : Net} {call : ℕ} {request response : Frame} {wire : Bytes} :
    (call, request) ∈ s.line.written → response.requestId = request.requestId →
    encode crc32c response = .ok wire →
    Move s { s with
      line := { s.line with
        answers := ⟨call, request, response⟩ :: s.line.answers
        inFlight := s.line.inFlight ++ wire } }
  | arrive {s : Net} (n : ℕ) :
    Move s { s with
      line := { s.line with
        conn := { s.line.conn with
          socket := { s.line.conn.socket with
            arriving := s.line.conn.socket.arriving ++ [s.line.inFlight.take n] } }
        inFlight := s.line.inFlight.drop n } }
  | close {s : Net} :
    Move s { s with
      line := { s.line with
        conn := { s.line.conn with socket := { s.line.conn.socket with closed := true } } } }

/-- What an operation of the client does. -/
inductive Effect :
    (op : ClientOp) → Net → FabricResult op.Reply → Net → Prop
  | nextRequestId {s : Net} : Effect .nextRequestId s (.ok s.line.nextRequestId)
      { s with
        line := { s.line with nextRequestId := s.line.nextRequestId + 1 }
        calls := s.calls + 1 }
  | tooLong {s : Net} {frame : Frame} {e : FabricError} : encode crc32c frame = .error e →
    Effect (.writeFrame frame) s (.error e) s
  /-- The frame is written. The call may fail nevertheless, when it flushes the stream. -/
  | written {s : Net} {frame : Frame} {wire : Bytes} (reply : FabricResult Unit) :
    encode crc32c frame = .ok wire → Effect (.writeFrame frame) s reply
      { s with
        line := { s.line with written := (s.calls, frame) :: s.line.written }
        writes := s.calls :: s.writes }
  | cutOff {s : Net} {frame : Frame} {wire : Bytes} (e : FabricError) :
    encode crc32c frame = .ok wire → Effect (.writeFrame frame) s (.error e)
      { s with writes := s.calls :: s.writes }
  | frame {s : Net} {frame : Frame} {conn : Connection} :
    s.line.conn.readFrame crc32c = (.ok frame, conn) →
    Effect .readFrame s (.ok frame) { s with line := { s.line with conn } }
  /-- No frame can be read. Which error this is depends on the socket. -/
  | noFrame {s : Net} {e : FabricError} {conn : Connection} (e' : FabricError) :
    s.line.conn.readFrame crc32c = (.error e, conn) →
    Effect .readFrame s (.error e') { s with line := { s.line with conn } }
  | connect {s : Net} : Effect .connect s (.ok ()) { s with line := .fresh }
  | unreachable {s : Net} (e : FabricError) : Effect .connect s (.error e) s

/-- The peer and the network move any number of times. -/
abbrev Moves : Net → Net → Prop := Relation.ReflTransGen (Move crc32c)

/-- An operation of the client, after some moves. -/
def Step (op : ClientOp) (s : Net) (reply : FabricResult op.Reply) (s' : Net) : Prop :=
  ∃ s₁, Moves crc32c s s₁ ∧ Effect crc32c op s₁ reply s'

end Net

/-- A client has made `n` calls, one after the other. -/
inductive Session (crc32c : Bytes → UInt32) : ℕ → Net → Prop
  | connected : Session crc32c 0 .connected
  | call {n : ℕ} {s s' : Net} {op : Protocol.Op} {payload : Bytes} {result : FabricResult Bytes} :
    Session crc32c n s → Runs (Net.Step crc32c) (RpcClient.call op payload) s result s' →
    Session crc32c (n + 1) s'

end Transport

end CheckpointFabric
