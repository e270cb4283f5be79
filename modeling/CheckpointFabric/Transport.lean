import CheckpointFabric.Frames
import Mathlib.Logic.Function.Iterate

/-!
# Reading frames from a socket

A connection appends what arrives at its socket to a buffer, and takes frames off the front of it.
A call of `readFrame` is a loop: it decodes, and reads more when the buffer holds no whole frame.

What arrives is cut into segments by the network. A read returns a part of the next segment, nothing
when the peer has closed the connection, and an error when nothing arrives in time.

## Main definitions

* `Socket`, `Connection` — what is to arrive, and what was read of it
* `Connection.turn` — one round of the loop of `readFrame`
* `Connection.readFrames` — successive calls

## Main results

* `readFrames_yields` — the calls return the frames that were sent, whatever the segments are, and
  the buffer stays small
-/

set_option autoImplicit false

namespace CheckpointFabric.Transport

open Replica (Bytes)
open Protocol (Frame encode decode headerLen maxFramePayload)
open Wire (Spells Partial)

/-- Maximum bytes buffered while scanning for a frame boundary. -/
def maxBuffer : ℕ := maxFramePayload + headerLen + 1

/-- The size of a read. -/
def chunkLen : ℕ := 64 * 1024

/-- The segments that arrive, and whether the peer closes the connection after them. -/
structure Socket where
  arriving : List Bytes
  closed : Bool

namespace Socket

/-- Read from the first segment that has something in it. -/
def readSegments (closed : Bool) : List Bytes → FabricResult Bytes × List Bytes
  | [] => (if closed then .ok [] else .error (.timeout "transport idle timeout"), [])
  | [] :: segments => readSegments closed segments
  | (b :: bytes) :: segments =>
    (.ok ((b :: bytes).take chunkLen), (b :: bytes).drop chunkLen :: segments)

def read (s : Socket) : FabricResult Bytes × Socket :=
  let (result, arriving) := readSegments s.closed s.arriving
  (result, { s with arriving })

/-- What is still to arrive. -/
def coming (s : Socket) : Bytes := s.arriving.flatten

/-- A read returns the front of what is to come, or there is nothing to come. -/
theorem read_cases (s : Socket) :
    (s.coming = [] ∧
      s.read = (if s.closed then .ok [] else .error (.timeout "transport idle timeout"),
        { s with arriving := [] })) ∨
    ∃ chunk arriving, s.read = (.ok chunk, { s with arriving }) ∧ chunk ≠ [] ∧
      chunk.length ≤ chunkLen ∧ s.coming = chunk ++ arriving.flatten := by
  obtain ⟨arriving, closed⟩ := s
  induction arriving with
  | nil => exact .inl ⟨rfl, rfl⟩
  | cons segment segments ih =>
    cases segment with
    | nil => exact ih
    | cons b bytes =>
      refine .inr ⟨(b :: bytes).take chunkLen, (b :: bytes).drop chunkLen :: segments, rfl, ?_,
        List.length_take_le _ _, ?_⟩
      · exact List.cons_ne_nil _ _
      · rw [List.flatten_cons, ← List.append_assoc, List.take_append_drop]
        rfl

end Socket

/-- An end of a connection. -/
structure Connection where
  socket : Socket
  readBuf : Bytes

namespace Connection

variable (crc32c : Bytes → UInt32)

/-- A connection that has read nothing. -/
def fresh (socket : Socket) : Connection := ⟨socket, []⟩

/-- One round of the loop: the result of the call, if it comes to one. -/
def turn (c : Connection) : Option (FabricResult Frame) × Connection :=
  match decode crc32c c.readBuf with
  | .error e => (some (.error e), c)
  | .ok (some (frame, consumed)) =>
    (some (.ok frame), { c with readBuf := c.readBuf.drop consumed })
  | .ok none =>
    if maxBuffer < c.readBuf.length then
      (some (.error (.protocolError "receive buffer exceeded maximum frame size")), c)
    else
      match c.socket.read with
      | (.error e, socket) => (some (.error e), { c with socket })
      | (.ok [], socket) =>
        (some (.error (.transportError "peer closed connection (eof)")), { c with socket })
      | (.ok chunk, socket) => (none, { socket, readBuf := c.readBuf ++ chunk })

/-- A round that goes on has read something. -/
theorem coming_lt_of_turn {c c' : Connection} (h : c.turn crc32c = (none, c')) :
    c'.socket.coming.length < c.socket.coming.length := by
  unfold turn at h
  split at h
  · cases h
  · cases h
  · split at h
    · cases h
    · rcases c.socket.read_cases with ⟨-, hread⟩ | ⟨chunk, arriving, hread, hne, -, hcoming⟩
      · rw [hread] at h
        cases hclosed : c.socket.closed <;> simp [hclosed] at h
      · obtain ⟨b, bytes, rfl⟩ := List.exists_cons_of_ne_nil hne
        rw [hread] at h
        obtain ⟨-, rfl⟩ := Prod.mk.inj h
        rw [hcoming, List.length_append, List.length_cons]
        exact Nat.lt_add_of_pos_left (Nat.succ_pos _)

/-- Read one frame. -/
def readFrame (c : Connection) : FabricResult Frame × Connection :=
  match _h : c.turn crc32c with
  | (some result, c') => (result, c')
  | (none, c') => readFrame c'
termination_by c.socket.coming.length
decreasing_by exact coming_lt_of_turn crc32c _h

theorem readFrame_of_result {c c' : Connection} {result : FabricResult Frame}
    (h : c.turn crc32c = (some result, c')) : c.readFrame crc32c = (result, c') := by
  rw [readFrame]
  split
  · rename_i hturn
    obtain ⟨hresult, rfl⟩ := Prod.mk.inj (h.symm.trans hturn)
    rw [Option.some.inj hresult]
  · rename_i hturn
    cases h.symm.trans hturn

theorem readFrame_of_none {c c' : Connection} (h : c.turn crc32c = (none, c')) :
    c.readFrame crc32c = c'.readFrame crc32c := by
  rw [readFrame]
  split
  · rename_i hturn
    cases h.symm.trans hturn
  · rename_i hturn
    obtain ⟨-, rfl⟩ := Prod.mk.inj (h.symm.trans hturn)
    rfl

/-- The results of successive calls. -/
def readFrames : ℕ → Connection → List (FabricResult Frame)
  | 0, _ => []
  | n + 1, c => (c.readFrame crc32c).1 :: readFrames n (c.readFrame crc32c).2

/-- The connection after some rounds, of one call or of several. -/
def rounds (n : ℕ) (c : Connection) : Connection := (fun c => (turn crc32c c).2)^[n] c

/-- The most that a connection buffers: a frame but for a byte, and what was read with the rest of
it. -/
def bufferBound : ℕ := headerLen + maxFramePayload + chunkLen

/-- The frames that are still to be returned are in the buffer or to come. -/
structure Reading (c : Connection) (frames : List Frame) (tail : Bytes) : Prop where
  spells : Spells (encode crc32c) frames tail (c.readBuf ++ c.socket.coming)
  small : c.readBuf.length < bufferBound

/-- How a call ends when there is no frame to come. -/
def ending (closed : Bool) : FabricError :=
  if closed then .transportError "peer closed connection (eof)"
  else .timeout "transport idle timeout"

section Turn

variable {crc32c : Bytes → UInt32} {c : Connection} {frames : List Frame} {tail : Bytes}

/-- While the buffer holds a part of a frame, a round reads more, or the call ends. -/
theorem turn_of_part (hdecode : decode crc32c c.readBuf = .ok none)
    (hshort : c.readBuf.length < headerLen + maxFramePayload) :
    (c.socket.coming = [] ∧ ∃ c', c.turn crc32c = (some (.error (ending c.socket.closed)), c') ∧
      c'.readBuf = c.readBuf ∧ c'.socket.coming = [] ∧ c'.socket.closed = c.socket.closed) ∨
    ∃ c', c.turn crc32c = (none, c') ∧
      c'.readBuf ++ c'.socket.coming = c.readBuf ++ c.socket.coming ∧
      c'.readBuf.length < bufferBound ∧ c'.socket.closed = c.socket.closed := by
  have hcap : ¬ maxBuffer < c.readBuf.length := by
    rw [maxBuffer]
    omega
  obtain ⟨⟨arriving, closed⟩, readBuf⟩ := c
  unfold turn
  rw [hdecode]
  dsimp only
  rw [if_neg hcap]
  rcases Socket.read_cases ⟨arriving, closed⟩ with
    ⟨hnone, hread⟩ | ⟨chunk, arriving', hread, hne, hchunk, hcoming⟩
  · refine .inl ⟨hnone, ⟨⟨[], closed⟩, readBuf⟩, ?_, rfl, rfl, rfl⟩
    rw [hread]
    cases closed <;> rfl
  · obtain ⟨b, bytes, rfl⟩ := List.exists_cons_of_ne_nil hne
    refine .inr ⟨⟨⟨arriving', closed⟩, readBuf ++ (b :: bytes)⟩, ?_, ?_, ?_, rfl⟩
    · rw [hread]
    · rw [hcoming, List.append_assoc]
      rfl
    · dsimp only at hshort ⊢
      rw [List.length_append, bufferBound]
      omega

/-- A round returns the next frame, or goes on with it. -/
theorem turn_frame {frame : Frame} (h : Reading crc32c c (frame :: frames) tail) :
    ∃ c', c'.socket.closed = c.socket.closed ∧
      ((c.turn crc32c = (some (.ok frame), c') ∧ Reading crc32c c' frames tail) ∨
        (c.turn crc32c = (none, c') ∧ Reading crc32c c' (frame :: frames) tail)) := by
  rcases (Protocol.framing crc32c).decode_front h.spells with
    ⟨n, hdecode, hspells⟩ | ⟨hdecode, hshort, hcoming⟩
  · refine ⟨{ c with readBuf := c.readBuf.drop n }, rfl, .inl ⟨?_, hspells, ?_⟩⟩
    · unfold turn
      rw [hdecode]
    · exact (List.drop_sublist n c.readBuf).length_le.trans_lt h.small
  · rcases turn_of_part hdecode hshort with ⟨hnone, -⟩ | ⟨c', hturn, hstream, hsmall, hclosed⟩
    · exact absurd hnone hcoming
    · exact ⟨c', hclosed, .inr ⟨hturn, hstream ▸ h.spells, hsmall⟩⟩

/-- When there is no frame left, a round goes on, or the call ends. -/
theorem turn_rest (hpart : Partial (encode crc32c) tail) (h : Reading crc32c c [] tail) :
    ∃ c', c'.socket.closed = c.socket.closed ∧ Reading crc32c c' [] tail ∧
      (c.turn crc32c = (some (.error (ending c.socket.closed)), c') ∨
        c.turn crc32c = (none, c')) := by
  obtain ⟨hdecode, hshort⟩ := (Protocol.framing crc32c).decode_rest hpart h.spells
  rcases turn_of_part hdecode hshort with
    ⟨hnone, c', hturn, hbuf, hnone', hclosed⟩ | ⟨c', hturn, hstream, hsmall, hclosed⟩
  · refine ⟨c', hclosed, ⟨?_, hbuf ▸ h.small⟩, .inl hturn⟩
    rw [hbuf, hnone', ← hnone]
    exact h.spells
  · exact ⟨c', hclosed, ⟨hstream ▸ h.spells, hsmall⟩, .inr hturn⟩

end Turn

section Calls

variable {crc32c : Bytes → UInt32} {frames : List Frame} {tail : Bytes}

/-- A call returns the next frame. -/
theorem readFrame_frame {frame : Frame} (c : Connection)
    (h : Reading crc32c c (frame :: frames) tail) :
    ∃ c', c.readFrame crc32c = (.ok frame, c') ∧ Reading crc32c c' frames tail ∧
      c'.socket.closed = c.socket.closed := by
  induction c using readFrame.induct crc32c with
  | case1 c result c' hresult =>
    obtain ⟨c₁, hclosed, ⟨hturn, hreading⟩ | ⟨hturn, -⟩⟩ := turn_frame h
    · exact ⟨c₁, readFrame_of_result crc32c hturn, hreading, hclosed⟩
    · cases hresult.symm.trans hturn
  | case2 c c' hnone ih =>
    obtain ⟨c₁, hclosed, ⟨hturn, -⟩ | ⟨hturn, hreading⟩⟩ := turn_frame h
    · cases hnone.symm.trans hturn
    · obtain ⟨-, rfl⟩ := Prod.mk.inj (hnone.symm.trans hturn)
      obtain ⟨c₂, hread, hreading₂, hclosed₂⟩ := ih hreading
      exact ⟨c₂, (readFrame_of_none crc32c hnone).trans hread, hreading₂, hclosed₂.trans hclosed⟩

/-- When there is no frame left, a call waits for one or comes to the end of the stream. -/
theorem readFrame_rest (hpart : Partial (encode crc32c) tail) (c : Connection)
    (h : Reading crc32c c [] tail) :
    ∃ c', c.readFrame crc32c = (.error (ending c.socket.closed), c') ∧
      Reading crc32c c' [] tail ∧ c'.socket.closed = c.socket.closed := by
  induction c using readFrame.induct crc32c with
  | case1 c result c' hresult =>
    obtain ⟨c₁, hclosed, hreading, hturn | hturn⟩ := turn_rest hpart h
    · exact ⟨c₁, readFrame_of_result crc32c hturn, hreading, hclosed⟩
    · cases hresult.symm.trans hturn
  | case2 c c' hnone ih =>
    obtain ⟨c₁, hclosed, hreading, hturn | hturn⟩ := turn_rest hpart h
    · cases hnone.symm.trans hturn
    · obtain ⟨-, rfl⟩ := Prod.mk.inj (hnone.symm.trans hturn)
      obtain ⟨c₂, hread, hreading₂, hclosed₂⟩ := ih hreading
      refine ⟨c₂, (readFrame_of_none crc32c hnone).trans ?_, hreading₂, hclosed₂.trans hclosed⟩
      rw [hread, hclosed]

theorem readFrames_rest (hpart : Partial (encode crc32c) tail) (n : ℕ) {c : Connection}
    (h : Reading crc32c c [] tail) :
    c.readFrames crc32c n = List.replicate n (.error (ending c.socket.closed)) := by
  induction n generalizing c with
  | zero => rfl
  | succ n ih =>
    obtain ⟨c', hread, hreading, hclosed⟩ := readFrame_rest hpart c h
    rw [readFrames, hread, ih hreading, hclosed, List.replicate_succ]

theorem readFrames_frames (hpart : Partial (encode crc32c) tail) (n : ℕ) {c : Connection}
    (h : Reading crc32c c frames tail) :
    c.readFrames crc32c (frames.length + n) =
      frames.map .ok ++ List.replicate n (.error (ending c.socket.closed)) := by
  induction frames generalizing c with
  | nil =>
    rw [List.length_nil, Nat.zero_add]
    exact readFrames_rest hpart n h
  | cons frame frames ih =>
    obtain ⟨c', hread, hreading, hclosed⟩ := readFrame_frame c h
    rw [List.length_cons, Nat.succ_add, readFrames, hread, ih hreading, hclosed]
    rfl

/-- Whatever rounds were made, the buffer is small. -/
theorem reading_rounds (hpart : Partial (encode crc32c) tail) (n : ℕ) {c : Connection}
    (h : Reading crc32c c frames tail) : ∃ left, Reading crc32c (c.rounds crc32c n) left tail := by
  induction n generalizing c frames with
  | zero => exact ⟨frames, h⟩
  | succ n ih =>
    cases frames with
    | nil =>
      obtain ⟨c', -, hreading, hturn | hturn⟩ := turn_rest hpart h
      all_goals
        rw [rounds, Function.iterate_succ_apply, hturn]
        exact ih hreading
    | cons frame frames =>
      obtain ⟨c', -, ⟨hturn, hreading⟩ | ⟨hturn, hreading⟩⟩ := turn_frame h
      all_goals
        rw [rounds, Function.iterate_succ_apply, hturn]
        exact ih hreading

end Calls

/-- A fresh connection has everything before it. -/
theorem reading_fresh {crc32c : Bytes → UInt32} {frames : List Frame} {tail : Bytes}
    {socket : Socket} (hspells : Spells (encode crc32c) frames tail socket.coming) :
    Reading crc32c (fresh socket) frames tail :=
  ⟨hspells, show 0 < bufferBound by decide⟩

/-- However the encodings of the frames are cut into segments, and whatever part of a frame comes
after them, the calls return the frames in order and then wait, or come to the end of the stream.
At no time is there more than `bufferBound` in the buffer. -/
theorem readFrames_yields (crc32c : Bytes → UInt32) {frames : List Frame} {tail : Bytes}
    {socket : Socket} (hpart : Partial (encode crc32c) tail)
    (hspells : Spells (encode crc32c) frames tail socket.coming) :
    (∀ n, (fresh socket).readFrames crc32c (frames.length + n) =
      frames.map .ok ++ List.replicate n (.error (ending socket.closed))) ∧
    ∀ n, ((fresh socket).rounds crc32c n).readBuf.length < bufferBound := by
  refine ⟨fun n => readFrames_frames hpart n (reading_fresh hspells), fun n => ?_⟩
  obtain ⟨left, hleft⟩ := reading_rounds hpart n (reading_fresh hspells)
  exact hleft.small

end Connection

namespace Demo

/-- CRC-32C, bit by bit. -/
def crc32c (bytes : Bytes) : UInt32 :=
  let shift (crc : UInt32) : UInt32 :=
    if crc &&& 1 = 1 then (crc >>> 1) ^^^ 0x82F63B78 else crc >>> 1
  let update (crc : UInt32) (b : UInt8) : UInt32 := shift^[8] (crc ^^^ b.toUInt32)
  bytes.foldl update 0xFFFFFFFF ^^^ 0xFFFFFFFF

def ping : Frame := { op := .ping, flags := 0, requestId := 1, payload := [] }

/-- The encoding of the ping. -/
def wire : Bytes :=
  [0x43, 0x46, 0x41, 0x42, 1, 1, 0, 0, 0, 0, 0, 0, 0, 0, 0, 1, 0, 0, 0, 0, 0x27, 0x08, 0xE0, 0x19]

theorem encode_ping : encode crc32c ping = .ok wire := by decide +kernel

end Demo

/-- Two pings that are cut inside the first header, and the front of a third one: the calls return
two frames, and then come to the end of the stream. -/
theorem readFrames_yields_pings :
    (Connection.fresh ⟨[Demo.wire.take 5, Demo.wire.drop 5 ++ (Demo.wire ++ Demo.wire.take 9)],
      true⟩).readFrames Demo.crc32c 3 =
      [.ok Demo.ping, .ok Demo.ping, .error (.transportError "peer closed connection (eof)")] := by
  have hpart : Partial (encode Demo.crc32c) (Demo.wire.take 9) :=
    ⟨Demo.ping, Demo.wire, Demo.encode_ping, List.take_prefix _ _, by decide⟩
  have hspells : Spells (encode Demo.crc32c) [Demo.ping, Demo.ping] (Demo.wire.take 9)
      (Socket.coming
        ⟨[Demo.wire.take 5, Demo.wire.drop 5 ++ (Demo.wire ++ Demo.wire.take 9)], true⟩) :=
    ⟨[Demo.wire, Demo.wire], .cons Demo.encode_ping (.cons Demo.encode_ping .nil), by decide⟩
  exact (Connection.readFrames_yields Demo.crc32c hpart hspells).1 1

end CheckpointFabric.Transport
