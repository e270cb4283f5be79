import CheckpointFabric.Serialization
import CheckpointFabric.Server

/-!
# Serving a connection

A connection thread of a server takes frames off its connection and answers each request before it
reads on, until the server is stopped, the peer says goodbye or breaks the protocol, or an answer
cannot be written. An error of the handler is an answer like any other: it goes back in an envelope.

Other threads work on the same state as the handler, so what it answers in a pass of the loop comes
from outside, like the flag that the pass reads at its top and the fate of what it writes.

## Main definitions

* `Envelope` — the status that goes back for an error
* `Pass` — what a pass of the loop meets
* `Talk`, `Talk.answer` — what was done on a connection, and what a frame adds to it
* `pass`, `serveConnection` — the loop
-/

set_option autoImplicit false

namespace CheckpointFabric.Server

open Replica (Bytes utf8)
open Protocol (Frame encode)
open Transport (Connection)
open Serialization (number option)
open Wire (Json)

/-- Status code and optional error. -/
structure Envelope where
  status : UInt16
  error : Option String
  deriving DecidableEq, Repr

namespace Envelope

def err (msg : String) : Envelope := ⟨1, some msg⟩

def toJson (e : Envelope) : Json :=
  .object [("status", number e.status.toNat), ("error", option .string e.error)]

/-- The envelope as it is sent. -/
def toVec (e : Envelope) : Bytes := utf8 (String.ofList e.toJson.text)

end Envelope

/-- The payload that answers a request: that of the handler, or its error in an envelope. -/
def payloadOf : FabricResult Bytes → Bytes
  | .ok payload => payload
  | .error e => (Envelope.err (toString e)).toVec

/-- What becomes of the bytes that are written: all are sent, or the call fails with this error
after some of them were. -/
abbrev Fate := Option (ℕ × FabricError)

/-- What a pass of the loop meets: the flag at its top, the handler, and what becomes of what it
writes. -/
structure Pass where
  running : Bool
  handler : Protocol.Op → UInt64 → Bytes → FabricResult Bytes
  fate : Fate

/-- The answer to a request in a pass. -/
def Pass.answerTo (p : Pass) (request : Frame) : Frame :=
  response request (payloadOf (p.handler request.op request.requestId request.payload))

/-- A connection that is served: the requests that the handler was called with, and the bytes that
were sent. -/
structure Talk where
  handled : List Frame
  sent : Bytes
  deriving DecidableEq, Repr

section Loop

variable (crc32c : Bytes → UInt32)

/-- Write a frame. -/
def Talk.write (fate : Fate) (frame : Frame) (s : Talk) : Option (FabricResult Unit) × Talk :=
  match encode crc32c frame with
  | .error e => (some (.error e), s)
  | .ok wire =>
    match fate with
    | none => (none, { s with sent := s.sent ++ wire })
    | some (n, e) => (some (.error e), { s with sent := s.sent ++ wire.take n })

/-- What the thread does with a frame: the result of the loop, if this ends it. -/
def Talk.answer (p : Pass) (frame : Frame) (s : Talk) : Option (FabricResult Unit) × Talk :=
  if isClose frame then (some (.ok ()), s)
  else if frame.isResponse then
    (some (.error (.protocolError "server received unexpected response frame")), s)
  else
    Talk.write crc32c p.fate (p.answerTo frame) { s with handled := s.handled ++ [frame] }

/-- A pass of the loop, and the result if it is the last one. -/
def pass (p : Pass) (c : Connection) (s : Talk) :
    Option (FabricResult Unit) × Connection × Talk :=
  if p.running then
    match c.readFrame crc32c with
    | (.error e, c) => (some (.error e), c, s)
    | (.ok frame, c) => ((s.answer crc32c p frame).1, c, (s.answer crc32c p frame).2)
  else (some (.ok ()), c, s)

/-- Serve a connection for some passes. There is no result while the loop goes on. -/
def serveConnection : List Pass → Connection → Talk →
    Option (FabricResult Unit) × Connection × Talk
  | [], c, s => (none, c, s)
  | p :: passes, c, s =>
    match pass crc32c p c s with
    | (some result, c, s) => (some result, c, s)
    | (none, c, s) => serveConnection passes c s

end Loop

end CheckpointFabric.Server
