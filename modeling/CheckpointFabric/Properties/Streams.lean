import CheckpointFabric.Transport

/-!
# Streams of any bytes

A peer may send anything. A connection that is cut anywhere into segments returns what a reader
returns that has the whole stream at once: the same frames, the same error behind them, and the same
end. How much of the stream it holds is bounded all the time.

What is accepted is the encoding of the frame that is returned, with one byte that is not looked at.

## Main results

* `readFrames_eq_deliver` — the results of the calls depend on the bytes only
* `encoding_of_decode` — the bytes that are accepted
-/

set_option autoImplicit false

namespace CheckpointFabric

open Replica (Bytes)
open Protocol (Frame decode)
open Wire (deliver toBytes toBytes_fromBytes)

namespace Transport.Connection

/-- What was read and not returned, and what is to come. -/
def left (c : Connection) : Bytes := c.readBuf ++ c.socket.coming

section Turn

variable (crc32c : Bytes → UInt32) {c : Connection}

/-- A round takes the next result off the stream, or leaves the stream as it is. -/
theorem turn_deliver (hsmall : c.readBuf.length < bufferBound) :
    ∃ c', c'.readBuf.length < bufferBound ∧ c'.socket.closed = c.socket.closed ∧
      ((∃ result, c.turn crc32c = (some result, c') ∧
          ∀ n, deliver (decode crc32c) (ending c.socket.closed) (n + 1) c.left =
            result :: deliver (decode crc32c) (ending c.socket.closed) n c'.left) ∨
        (c.turn crc32c = (none, c') ∧ c'.left = c.left)) := by
  cases hdecode : decode crc32c c.readBuf with
  | error e =>
    refine ⟨c, hsmall, rfl, .inl ⟨.error e, ?_, fun n => ?_⟩⟩
    · rw [turn, hdecode]
    · exact Wire.deliver_refused (Protocol.incremental crc32c) hdecode n c.socket.coming
  | ok found =>
    cases found with
    | some found =>
      obtain ⟨frame, consumed⟩ := found
      refine ⟨{ c with readBuf := c.readBuf.drop consumed }, ?_, rfl,
        .inl ⟨.ok frame, ?_, fun n => ?_⟩⟩
      · exact (List.drop_sublist consumed c.readBuf).length_le.trans_lt hsmall
      · rw [turn, hdecode]
      · exact Wire.deliver_found (Protocol.incremental crc32c) hdecode n c.socket.coming
    | none =>
      -- The buffer holds a part of a frame: the round reads more, or the stream is over.
      have hshort := (Protocol.incremental crc32c).short c.readBuf hdecode
      rcases turn_of_part hdecode hshort with
        ⟨hnone, c', hturn, hbuf, hnone', hclosed⟩ | ⟨c', hturn, hstream, hsmall', hclosed⟩
      · refine ⟨c', hbuf ▸ hsmall, hclosed, .inl ⟨_, hturn, fun n => ?_⟩⟩
        have hleft : c.left = c.readBuf := by rw [left, hnone, List.append_nil]
        have hleft' : c'.left = c.readBuf := by rw [left, hbuf, hnone', List.append_nil]
        rw [hleft, hleft']
        exact Wire.deliver_ended hdecode n
      · exact ⟨c', hsmall', hclosed, .inr ⟨hturn, hstream⟩⟩

/-- A call returns the next result, after as many rounds as it takes. -/
theorem readFrame_deliver (c : Connection) (hsmall : c.readBuf.length < bufferBound) :
    ∃ result c', c.readFrame crc32c = (result, c') ∧ c'.readBuf.length < bufferBound ∧
      c'.socket.closed = c.socket.closed ∧
      ∀ n, deliver (decode crc32c) (ending c.socket.closed) (n + 1) c.left =
        result :: deliver (decode crc32c) (ending c.socket.closed) n c'.left := by
  induction c using readFrame.induct crc32c with
  | case1 c result c' hresult =>
    obtain ⟨c₁, hsmall₁, hclosed, ⟨result₁, hturn, hdeliver⟩ | ⟨hturn, -⟩⟩ :=
      turn_deliver crc32c hsmall
    · exact ⟨result₁, c₁, readFrame_of_result crc32c hturn, hsmall₁, hclosed, hdeliver⟩
    · cases hresult.symm.trans hturn
  | case2 c c' hnone ih =>
    obtain ⟨c₁, hsmall₁, hclosed, ⟨result₁, hturn, -⟩ | ⟨hturn, hleft⟩⟩ :=
      turn_deliver crc32c hsmall
    · cases hnone.symm.trans hturn
    · obtain ⟨-, rfl⟩ := Prod.mk.inj (hnone.symm.trans hturn)
      obtain ⟨result, c₂, hread, hsmall₂, hclosed₂, hdeliver⟩ := ih hsmall₁
      refine ⟨result, c₂, (readFrame_of_none crc32c hnone).trans hread, hsmall₂,
        hclosed₂.trans hclosed, ?_⟩
      rwa [hleft, hclosed] at hdeliver

end Turn

theorem readFrames_deliver (crc32c : Bytes → UInt32) (n : ℕ) (c : Connection)
    (hsmall : c.readBuf.length < bufferBound) :
    c.readFrames crc32c n = deliver (decode crc32c) (ending c.socket.closed) n c.left := by
  induction n generalizing c with
  | zero => rfl
  | succ n ih =>
    obtain ⟨result, c', hread, hsmall', hclosed, hdeliver⟩ := readFrame_deliver crc32c c hsmall
    rw [hdeliver, readFrames, hread, ih c' hsmall', hclosed]

theorem small_rounds (crc32c : Bytes → UInt32) (n : ℕ) (c : Connection)
    (hsmall : c.readBuf.length < bufferBound) :
    (c.rounds crc32c n).readBuf.length < bufferBound := by
  induction n generalizing c with
  | zero => exact hsmall
  | succ n ih =>
    obtain ⟨c', hsmall', -, ⟨result, hturn, -⟩ | ⟨hturn, -⟩⟩ := turn_deliver crc32c hsmall
    all_goals
      rw [rounds, Function.iterate_succ_apply, hturn]
      exact ih c' hsmall'

/-- Whatever bytes a peer sends, and however they are cut into segments: the calls return what is
found in the whole stream, the frames at its front and then the error or the end behind them. At no
time is there more than `bufferBound` in the buffer. -/
theorem readFrames_eq_deliver (crc32c : Bytes → UInt32) (socket : Socket) :
    (∀ n, (fresh socket).readFrames crc32c n =
      deliver (decode crc32c) (ending socket.closed) n socket.coming) ∧
    ∀ n, ((fresh socket).rounds crc32c n).readBuf.length < bufferBound := by
  have hsmall : (fresh socket).readBuf.length < bufferBound := show 0 < bufferBound by decide
  exact ⟨fun n => readFrames_deliver crc32c n (fresh socket) hsmall,
    fun n => small_rounds crc32c n (fresh socket) hsmall⟩

end Transport.Connection

namespace Protocol

/-- What is accepted is the encoding of the frame, but for the reserved byte, which nobody checks. -/
theorem encoding_of_decode (crc32c : Bytes → UInt32) {buf : Bytes} {frame : Frame} {n : ℕ}
    (h : decode crc32c buf = .ok (some (frame, n))) :
    frame.payload.length ≤ maxFramePayload ∧ n = headerLen + frame.payload.length ∧
      buf.take n = wireWith crc32c (buf.getD 7 0) frame ∧
      (buf.getD 7 0 = 0 → encode crc32c frame = .ok (buf.take n)) := by
  have hdecoded := decoded_of_decode crc32c h
  have hlen : headerLen = 24 := rfl
  have hle := hdecoded.le_length
  have hn : n = headerLen + frame.payload.length := by
    rw [hdecoded.payload_length]
    exact hdecoded.length_eq
  have hmax : frame.payload.length ≤ maxFramePayload := by
    rw [hdecoded.payload_length]
    exact hdecoded.le_max
  have hcrc : toBytes 4 (crc32c (headerWith (buf.getD 7 0) frame ++ frame.payload)).toNat =
      slice buf 20 24 := by
    rw [← hdecoded.header_eq, hdecoded.payload_eq, hdecoded.crc_eq]
    have hword := toBytes_fromBytes (slice buf 20 24)
    rwa [length_slice (by omega)] at hword
  have hwire : buf.take n = wireWith crc32c (buf.getD 7 0) frame := by
    rw [wireWith, hcrc, ← hdecoded.header_eq, hdecoded.payload_eq,
      slice_append_slice (by decide) (by decide), slice_append_slice (by decide) (by omega)]
    rfl
  refine ⟨hmax, hn, hwire, fun hreserved => ?_⟩
  rw [encode_eq_wireWith crc32c hmax, hwire, hreserved]

/-- A ping that has something in the reserved place is accepted. -/
theorem encoding_of_decode_ping :
    (wireWith Transport.Demo.crc32c 7 Transport.Demo.ping).take 24 =
      wireWith Transport.Demo.crc32c
        ((wireWith Transport.Demo.crc32c 7 Transport.Demo.ping).getD 7 0) Transport.Demo.ping :=
  (encoding_of_decode Transport.Demo.crc32c
    (show decode Transport.Demo.crc32c (wireWith Transport.Demo.crc32c 7 Transport.Demo.ping) =
      .ok (some (Transport.Demo.ping, 24)) by decide +kernel)).2.2.1

end Protocol

end CheckpointFabric
