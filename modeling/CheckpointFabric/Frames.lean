import CheckpointFabric.Replica
import CheckpointFabric.Wire.Framing
import CheckpointFabric.Wire.Words

/-!
# Frames on the wire

A frame is a header of 24 bytes and a payload. The header carries a magic number, the version of
the protocol, the operation, flags, the id of the request, the length of the payload, and a
CRC-32C of the rest of the header and the payload.

The checksum comes from a library; it is the parameter `crc32c`.

## Main results

* `framing` — decoding finds the frames that were encoded, wherever the stream is cut off
* `incremental` — what is decoded from the front of a stream does not depend on the rest
* `Decoded.header_eq` — the header of a frame that was accepted
-/

set_option autoImplicit false

namespace CheckpointFabric.Protocol

open Replica (Bytes)
open Wire (toBytes fromBytes length_toBytes fromBytes_toBytes toBytes_fromBytes fromBytes_lt)

/-- Operation codes. -/
inductive Op
  | ping
  | pong
  | hello
  | helloAck
  | workloadCreate
  | workloadInspect
  | workloadList
  | workloadFence
  | workloadLineage
  | workloadAttach
  | workloadDetach
  | capture
  | captureStatus
  | checkpointInspect
  | checkpointList
  | checkpointVerify
  | checkpointProtect
  | checkpointUnprotect
  | checkpointRetire
  | checkpointLineage
  | restore
  | rollback
  | fork
  | migrate
  | compatibility
  | audit
  | recovery
  | stats
  | nodeList
  | nodeInfo
  | coordinatorShutdown
  | nodeRegister
  | nodeRegisterAck
  | nodeHeartbeat
  | nodeHeartbeatAck
  | nodeCaptureResult
  | nodeRestoreResult
  | nodeVerifyResult
  | nodeCleanupResult
  | nodeReplicateResult
  | nodeCaptureRequest
  | nodeRestoreRequest
  | nodeReplicateRequest
  | nodeCleanupRequest
  | nodeVerifyRequest
  | nodeDetachRequest
  | nodeAllowFetch
  | nodePromoteRequest
  | nodePromoteResult
  | nodeResumeRequest
  | nodeResumeResult
  | fetchManifest
  | fetchComponent
  | fetchChunkResponse
  | nodeProbeRequest
  | nodeProbeResult
  deriving DecidableEq, Repr

namespace Op

/-- The byte of an operation. -/
def toU8 : Op → UInt8
  | ping => 1
  | pong => 2
  | hello => 3
  | helloAck => 4
  | workloadCreate => 10
  | workloadInspect => 11
  | workloadList => 12
  | workloadFence => 13
  | workloadLineage => 14
  | workloadAttach => 15
  | workloadDetach => 16
  | capture => 20
  | captureStatus => 21
  | checkpointInspect => 22
  | checkpointList => 23
  | checkpointVerify => 24
  | checkpointProtect => 25
  | checkpointUnprotect => 26
  | checkpointRetire => 27
  | checkpointLineage => 28
  | restore => 30
  | rollback => 31
  | fork => 32
  | migrate => 33
  | compatibility => 40
  | audit => 41
  | recovery => 42
  | stats => 43
  | nodeList => 44
  | nodeInfo => 45
  | coordinatorShutdown => 46
  | nodeRegister => 50
  | nodeRegisterAck => 51
  | nodeHeartbeat => 52
  | nodeHeartbeatAck => 53
  | nodeCaptureResult => 54
  | nodeRestoreResult => 55
  | nodeVerifyResult => 56
  | nodeCleanupResult => 57
  | nodeReplicateResult => 58
  | nodeCaptureRequest => 70
  | nodeRestoreRequest => 71
  | nodeReplicateRequest => 72
  | nodeCleanupRequest => 73
  | nodeVerifyRequest => 74
  | nodeDetachRequest => 75
  | nodeAllowFetch => 76
  | nodePromoteRequest => 77
  | nodePromoteResult => 78
  | nodeResumeRequest => 79
  | nodeResumeResult => 80
  | fetchManifest => 90
  | fetchComponent => 91
  | fetchChunkResponse => 92
  | nodeProbeRequest => 93
  | nodeProbeResult => 94

/-- The operation of a byte, if there is one. -/
def fromU8 (v : UInt8) : Option Op :=
  match v.toNat with
  | 1 => some ping
  | 2 => some pong
  | 3 => some hello
  | 4 => some helloAck
  | 10 => some workloadCreate
  | 11 => some workloadInspect
  | 12 => some workloadList
  | 13 => some workloadFence
  | 14 => some workloadLineage
  | 15 => some workloadAttach
  | 16 => some workloadDetach
  | 20 => some capture
  | 21 => some captureStatus
  | 22 => some checkpointInspect
  | 23 => some checkpointList
  | 24 => some checkpointVerify
  | 25 => some checkpointProtect
  | 26 => some checkpointUnprotect
  | 27 => some checkpointRetire
  | 28 => some checkpointLineage
  | 30 => some restore
  | 31 => some rollback
  | 32 => some fork
  | 33 => some migrate
  | 40 => some compatibility
  | 41 => some audit
  | 42 => some recovery
  | 43 => some stats
  | 44 => some nodeList
  | 45 => some nodeInfo
  | 46 => some coordinatorShutdown
  | 50 => some nodeRegister
  | 51 => some nodeRegisterAck
  | 52 => some nodeHeartbeat
  | 53 => some nodeHeartbeatAck
  | 54 => some nodeCaptureResult
  | 55 => some nodeRestoreResult
  | 56 => some nodeVerifyResult
  | 57 => some nodeCleanupResult
  | 58 => some nodeReplicateResult
  | 70 => some nodeCaptureRequest
  | 71 => some nodeRestoreRequest
  | 72 => some nodeReplicateRequest
  | 73 => some nodeCleanupRequest
  | 74 => some nodeVerifyRequest
  | 75 => some nodeDetachRequest
  | 76 => some nodeAllowFetch
  | 77 => some nodePromoteRequest
  | 78 => some nodePromoteResult
  | 79 => some nodeResumeRequest
  | 80 => some nodeResumeResult
  | 90 => some fetchManifest
  | 91 => some fetchComponent
  | 92 => some fetchChunkResponse
  | 93 => some nodeProbeRequest
  | 94 => some nodeProbeResult
  | _ => none

theorem fromU8_toU8 (op : Op) : fromU8 op.toU8 = some op := by
  cases op <;> rfl

theorem toU8_of_fromU8 {v : UInt8} {op : Op} (h : fromU8 v = some op) : op.toU8 = v := by
  have hbytes : (List.range 256).all fun n =>
      ((fromU8 (UInt8.ofNat n)).map fun op => op.toU8.toNat).getD n == n := by
    decide +kernel
  have hv := List.all_eq_true.1 hbytes v.toNat (List.mem_range.2 v.toNat_lt)
  rw [UInt8.ofNat_toNat, h, beq_iff_eq] at hv
  exact UInt8.toNat_inj.1 hv

end Op

/-- A decoded frame. -/
structure Frame where
  op : Op
  flags : UInt8
  requestId : UInt64
  payload : Bytes
  deriving DecidableEq, Repr

/-- `CFAB`. -/
def magic : Bytes := [0x43, 0x46, 0x41, 0x42]

def protocolVersion : UInt8 := 1

def maxFramePayload : ℕ := 16 * 1024 * 1024

def headerLen : ℕ := 24

section Codec

variable (crc32c : Bytes → UInt32)

/-- The header of a frame, without its checksum. -/
def header (frame : Frame) : Bytes :=
  magic ++ [protocolVersion, frame.op.toU8, frame.flags, 0] ++
    toBytes 8 frame.requestId.toNat ++ toBytes 4 frame.payload.length

/-- Encode a frame into wire bytes. -/
def encode (frame : Frame) : FabricResult Bytes :=
  if maxFramePayload < frame.payload.length then
    .error (.protocolError
      s!"frame payload {frame.payload.length} exceeds maximum {maxFramePayload}")
  else
    .ok (header frame ++ toBytes 4 (crc32c (header frame ++ frame.payload)).toNat ++
      frame.payload)

/-- The bytes from `start` to `stop`. -/
def slice (buf : Bytes) (start stop : ℕ) : Bytes := (buf.drop start).take (stop - start)

/-- Decode the frame at the front of a buffer, which may hold more than it, or only a part of it.
The value has the number of bytes that were consumed. -/
def decode (buf : Bytes) : FabricResult (Option (Frame × ℕ)) :=
  if buf.length < headerLen then .ok none
  else if slice buf 0 4 ≠ magic then .error (.protocolError "bad frame magic")
  else if buf.getD 4 0 ≠ protocolVersion then
    .error (.protocolError s!"unsupported protocol version {(buf.getD 4 0).toNat}")
  else
    match Op.fromU8 (buf.getD 5 0) with
    | none => .error (.protocolError s!"unknown op {(buf.getD 5 0).toNat}")
    | some op =>
      let payloadLen := fromBytes (slice buf 16 20)
      if maxFramePayload < payloadLen then
        .error (.protocolError
          s!"frame payload length {payloadLen} exceeds maximum {maxFramePayload}")
      else
        let total := headerLen + payloadLen
        if buf.length < total then .ok none
        else if (crc32c (slice buf 0 20 ++ slice buf 24 total)).toNat ≠
            fromBytes (slice buf 20 24) then
          .error (.protocolError "frame checksum mismatch")
        else
          .ok (some
            ({ op
               flags := buf.getD 6 0
               requestId := UInt64.ofNat (fromBytes (slice buf 8 16))
               payload := slice buf 24 total }, total))

section Layout

variable {frame : Frame}

theorem slice_eq {buf a b c : Bytes} {start stop : ℕ} (hbuf : buf = a ++ (b ++ c))
    (hstart : a.length = start) (hstop : b.length = stop - start) : slice buf start stop = b := by
  rw [slice, hbuf, ← hstart, List.drop_left, List.take_left' (hstop.trans (by rw [hstart]))]

theorem length_header : (header frame).length = 20 := by
  simp [header, magic]

theorem slice_magic (rest : Bytes) : slice (header frame ++ rest) 0 4 = magic := by
  simp [slice, header, magic]

theorem slice_requestId (rest : Bytes) :
    slice (header frame ++ rest) 8 16 = toBytes 8 frame.requestId.toNat := by
  refine slice_eq (a := magic ++ [protocolVersion, frame.op.toU8, frame.flags, 0])
    (c := toBytes 4 frame.payload.length ++ rest) ?_ rfl (length_toBytes 8 _)
  simp only [header, List.append_assoc]

theorem slice_payloadLen (rest : Bytes) :
    slice (header frame ++ rest) 16 20 = toBytes 4 frame.payload.length := by
  refine slice_eq (a := magic ++ [protocolVersion, frame.op.toU8, frame.flags, 0] ++
    toBytes 8 frame.requestId.toNat) (c := rest) ?_ ?_ (length_toBytes 4 _)
  · simp only [header, List.append_assoc]
  · simp [magic]

theorem getD_version (rest : Bytes) : (header frame ++ rest).getD 4 0 = protocolVersion := rfl

theorem getD_op (rest : Bytes) : (header frame ++ rest).getD 5 0 = frame.op.toU8 := rfl

theorem getD_flags (rest : Bytes) : (header frame ++ rest).getD 6 0 = frame.flags := rfl

theorem length_encode {wire : Bytes} (h : encode crc32c frame = .ok wire) :
    wire.length = headerLen + frame.payload.length ∧ frame.payload.length ≤ maxFramePayload := by
  unfold encode at h
  split at h
  · cases h
  · rename_i hle
    obtain rfl := Except.ok.inj h
    refine ⟨?_, by omega⟩
    rw [List.length_append, List.length_append, length_header, length_toBytes]
    rfl

/-- Decoding a buffer that starts with a header: the payload that follows it has to be complete,
and its checksum has to be right. -/
theorem decode_header {crc body : Bytes} (hcrc : crc.length = 4)
    (hle : frame.payload.length ≤ maxFramePayload) :
    decode crc32c (header frame ++ (crc ++ body)) =
      if body.length < frame.payload.length then .ok none
      else if (crc32c (header frame ++ body.take frame.payload.length)).toNat ≠ fromBytes crc then
        .error (.protocolError "frame checksum mismatch")
      else .ok (some ({ frame with payload := body.take frame.payload.length },
        headerLen + frame.payload.length)) := by
  have hlength : (header frame ++ (crc ++ body)).length = headerLen + body.length := by
    rw [List.length_append, List.length_append, length_header, hcrc, ← Nat.add_assoc]
    rfl
  have hpayload : fromBytes (slice (header frame ++ (crc ++ body)) 16 20) = frame.payload.length := by
    rw [slice_payloadLen]
    apply fromBytes_toBytes
    have hmax : maxFramePayload < 256 ^ 4 := by decide
    omega
  have hrequest : fromBytes (slice (header frame ++ (crc ++ body)) 8 16) = frame.requestId.toNat := by
    rw [slice_requestId]
    exact fromBytes_toBytes frame.requestId.toNat_lt
  have hhead : slice (header frame ++ (crc ++ body)) 0 20 = header frame :=
    slice_eq (List.nil_append _).symm rfl length_header
  have hchecksum : slice (header frame ++ (crc ++ body)) 20 24 = crc :=
    slice_eq rfl length_header hcrc
  have hbody : ∀ n, slice (header frame ++ (crc ++ body)) 24 (headerLen + n) = body.take n := by
    intro n
    have hfront : (header frame ++ crc).length = 24 := by
      rw [List.length_append, length_header, hcrc]
    rw [slice, ← List.append_assoc, ← hfront, List.drop_left, hfront]
    exact congrArg (body.take ·) (Nat.add_sub_cancel_left 24 n)
  unfold decode
  rw [hlength, if_neg (by omega), slice_magic, if_neg (not_not_intro rfl), getD_version,
    if_neg (not_not_intro rfl), getD_op, Op.fromU8_toU8]
  dsimp only
  rw [hpayload, if_neg (by omega), hhead, hchecksum, hbody, hrequest, getD_flags,
    UInt64.ofNat_toNat]
  by_cases hshort : body.length < frame.payload.length
  · rw [if_pos hshort, if_pos (by omega)]
  · rw [if_neg hshort, if_neg (by omega)]

end Layout

/-- Whatever the stream is cut off behind a frame, the frame is decoded; and a part of it is not. -/
theorem framing : Wire.Framing (encode crc32c) (decode crc32c) (headerLen + maxFramePayload) := by
  have hwire : ∀ (frame : Frame) wire, encode crc32c frame = .ok wire →
      wire = header frame ++
        (toBytes 4 (crc32c (header frame ++ frame.payload)).toNat ++ frame.payload) := by
    intro frame wire h
    unfold encode at h
    split at h
    · cases h
    · rw [← Except.ok.inj h, List.append_assoc]
  refine ⟨?_, ?_, ?_⟩
  · intro frame wire rest h
    obtain ⟨hlength, hle⟩ := length_encode crc32c h
    rw [hlength, hwire frame wire h, List.append_assoc, List.append_assoc,
      decode_header crc32c (length_toBytes 4 _) hle, List.take_left, if_neg, if_neg]
    · rw [fromBytes_toBytes (UInt32.toNat_lt _)]
      exact not_not_intro rfl
    · rw [List.length_append]
      omega
  · intro frame wire front h hstart hne
    obtain ⟨hlength, hle⟩ := length_encode crc32c h
    have hlt : front.length < wire.length := by
      have hle := hstart.length_le
      have hlength_ne : front.length ≠ wire.length := fun heq => hne (hstart.eq_of_length heq)
      omega
    by_cases hshort : front.length < headerLen
    · rw [decode, if_pos hshort]
    · -- The header and its checksum are there, and the payload is not complete.
      rw [hwire frame wire h, ← List.append_assoc] at hstart
      have hfront : (header frame ++
          toBytes 4 (crc32c (header frame ++ frame.payload)).toNat).length = headerLen := by
        rw [List.length_append, length_header, length_toBytes]
        rfl
      obtain ⟨body, rfl⟩ := List.prefix_of_prefix_length_le (List.prefix_append _ _) hstart
        (hfront.trans_le (Nat.le_of_not_lt hshort))
      rw [List.length_append, hfront] at hlt
      rw [List.append_assoc, decode_header crc32c (length_toBytes 4 _) hle, if_pos (by omega)]
  · intro frame wire h
    obtain ⟨hlength, hle⟩ := length_encode crc32c h
    omega

section Accepted

/-- What a buffer holds when the frame is decoded from its first `n` bytes. -/
structure Decoded (buf : Bytes) (frame : Frame) (n : ℕ) : Prop where
  magic_eq : slice buf 0 4 = magic
  version_eq : buf.getD 4 0 = protocolVersion
  op_eq : Op.fromU8 (buf.getD 5 0) = some frame.op
  flags_eq : frame.flags = buf.getD 6 0
  requestId_eq : frame.requestId = UInt64.ofNat (fromBytes (slice buf 8 16))
  payload_eq : frame.payload = slice buf 24 n
  length_eq : n = headerLen + fromBytes (slice buf 16 20)
  le_max : fromBytes (slice buf 16 20) ≤ maxFramePayload
  le_length : n ≤ buf.length
  crc_eq : (crc32c (slice buf 0 20 ++ slice buf 24 n)).toNat = fromBytes (slice buf 20 24)

/-- A buffer is too short for its frame, or it is refused, or it holds the frame. -/
theorem decode_cases (buf : Bytes) :
    (decode crc32c buf = .ok none ∧ buf.length < headerLen + maxFramePayload) ∨
      (∃ e, decode crc32c buf = .error e) ∨
      ∃ frame n, decode crc32c buf = .ok (some (frame, n)) ∧ Decoded crc32c buf frame n := by
  unfold decode
  by_cases hheader : buf.length < headerLen
  · exact .inl ⟨if_pos hheader, by omega⟩
  rw [if_neg hheader]
  by_cases hmagic : slice buf 0 4 ≠ magic
  · exact .inr (.inl ⟨_, if_pos hmagic⟩)
  rw [if_neg hmagic]
  by_cases hversion : buf.getD 4 0 ≠ protocolVersion
  · exact .inr (.inl ⟨_, if_pos hversion⟩)
  rw [if_neg hversion]
  cases hop : Op.fromU8 (buf.getD 5 0) with
  | none => exact .inr (.inl ⟨_, rfl⟩)
  | some op =>
    dsimp only
    by_cases hmax : maxFramePayload < fromBytes (slice buf 16 20)
    · exact .inr (.inl ⟨_, if_pos hmax⟩)
    rw [if_neg hmax]
    by_cases hshort : buf.length < headerLen + fromBytes (slice buf 16 20)
    · exact .inl ⟨if_pos hshort, by omega⟩
    rw [if_neg hshort]
    by_cases hcrc : (crc32c (slice buf 0 20 ++
        slice buf 24 (headerLen + fromBytes (slice buf 16 20)))).toNat ≠ fromBytes (slice buf 20 24)
    · exact .inr (.inl ⟨_, if_pos hcrc⟩)
    rw [if_neg hcrc]
    exact .inr (.inr ⟨_, _, rfl,
      { magic_eq := not_not.1 hmagic
        version_eq := not_not.1 hversion
        op_eq := hop
        flags_eq := rfl
        requestId_eq := rfl
        payload_eq := rfl
        length_eq := rfl
        le_max := Nat.le_of_not_lt hmax
        le_length := Nat.le_of_not_lt hshort
        crc_eq := not_not.1 hcrc }⟩)

theorem decoded_of_decode {buf : Bytes} {frame : Frame} {n : ℕ}
    (h : decode crc32c buf = .ok (some (frame, n))) : Decoded crc32c buf frame n := by
  rcases decode_cases crc32c buf with ⟨hnone, -⟩ | ⟨e, herror⟩ | ⟨frame', n', hsome, hdecoded⟩
  · cases h.symm.trans hnone
  · cases h.symm.trans herror
  · cases h.symm.trans hsome
    exact hdecoded

section Prefixes

theorem slice_append_left {front : Bytes} (rest : Bytes) {start stop : ℕ} (hstart : start ≤ stop)
    (h : stop ≤ front.length) : slice (front ++ rest) start stop = slice front start stop := by
  rw [slice, slice, List.drop_append_of_le_length (hstart.trans h), List.take_append_of_le_length]
  rw [List.length_drop]
  omega

theorem getD_append_left {front : Bytes} (rest : Bytes) {n : ℕ} (h : n < front.length) :
    (front ++ rest).getD n 0 = front.getD n 0 := by
  rw [List.getD_eq_getElem?_getD, List.getD_eq_getElem?_getD, List.getElem?_append_left h]

/-- What is decoded from the front of a stream is decoded from the stream. -/
theorem decode_append {front : Bytes} (rest : Bytes) (h : decode crc32c front ≠ .ok none) :
    decode crc32c (front ++ rest) = decode crc32c front := by
  have hlen : headerLen = 24 := rfl
  have hheader : ¬ front.length < headerLen := fun hlt => h (by rw [decode, if_pos hlt])
  have hheader' : ¬ (front ++ rest).length < headerLen := by
    rw [List.length_append]
    omega
  unfold decode at h ⊢
  rw [if_neg hheader] at h ⊢
  rw [if_neg hheader', slice_append_left rest (by decide) (show 4 ≤ front.length by omega),
    slice_append_left rest (by decide) (show 16 ≤ front.length by omega),
    slice_append_left rest (by decide) (show 20 ≤ front.length by omega),
    slice_append_left rest (by decide) (show 20 ≤ front.length by omega),
    slice_append_left rest (by decide) (show 24 ≤ front.length by omega),
    getD_append_left rest (show 4 < front.length by omega),
    getD_append_left rest (show 5 < front.length by omega),
    getD_append_left rest (show 6 < front.length by omega)]
  -- The checks of the header are the same; that of the length comes before the payload is read.
  by_cases hmagic : slice front 0 4 ≠ magic
  · rw [if_pos hmagic, if_pos hmagic]
  rw [if_neg hmagic] at h ⊢
  rw [if_neg hmagic]
  by_cases hversion : front.getD 4 0 ≠ protocolVersion
  · rw [if_pos hversion, if_pos hversion]
  rw [if_neg hversion] at h ⊢
  rw [if_neg hversion]
  cases hop : Op.fromU8 (front.getD 5 0) with
  | none => rfl
  | some op =>
    rw [hop] at h
    dsimp only at h ⊢
    by_cases hmax : maxFramePayload < fromBytes (slice front 16 20)
    · rw [if_pos hmax, if_pos hmax]
    rw [if_neg hmax] at h ⊢
    rw [if_neg hmax]
    by_cases hshort : front.length < headerLen + fromBytes (slice front 16 20)
    · rw [if_pos hshort] at h
      exact absurd rfl h
    · have hpayload : slice (front ++ rest) 24 (headerLen + fromBytes (slice front 16 20)) =
          slice front 24 (headerLen + fromBytes (slice front 16 20)) :=
        slice_append_left rest (by omega) (by omega)
      rw [if_neg hshort, if_neg (by rw [List.length_append]; omega), hpayload]

/-- The decoder does not take back what it has found in a part of the stream. -/
theorem incremental : Wire.Incremental (decode crc32c) (headerLen + maxFramePayload) where
  found front rest frame n h := by
    refine ⟨(decoded_of_decode crc32c h).le_length, ?_⟩
    rw [decode_append crc32c rest (by simp [h]), h]
  refused front rest e h := by
    rw [decode_append crc32c rest (by simp [h]), h]
  short front h := by
    rcases decode_cases crc32c front with ⟨-, hshort⟩ | ⟨e, herror⟩ | ⟨frame, n, hsome, -⟩
    · exact hshort
    · cases h.symm.trans herror
    · cases h.symm.trans hsome

end Prefixes

section Encodings

theorem slice_append_slice {buf : Bytes} {start middle stop : ℕ} (hstart : start ≤ middle)
    (hstop : middle ≤ stop) :
    slice buf start middle ++ slice buf middle stop = slice buf start stop := by
  have hdrop : buf.drop middle = (buf.drop start).drop (middle - start) := by
    rw [List.drop_drop, Nat.add_sub_cancel' hstart]
  rw [slice, slice, slice, hdrop, ← List.take_add, Nat.add_comm,
    Nat.sub_add_sub_cancel hstop hstart]

theorem length_slice {buf : Bytes} {start stop : ℕ} (h : stop ≤ buf.length) :
    (slice buf start stop).length = stop - start := by
  rw [slice, List.length_take, List.length_drop]
  omega

theorem slice_succ {buf : Bytes} {n : ℕ} (h : n < buf.length) :
    slice buf n (n + 1) = [buf.getD n 0] := by
  rw [slice, Nat.add_sub_cancel_left, List.drop_eq_getElem_cons h, List.take_succ_cons,
    List.take_zero, List.getD_eq_getElem?_getD, List.getElem?_eq_getElem h, Option.getD_some]

/-- The header of a frame with any byte in the reserved place. -/
def headerWith (reserved : UInt8) (frame : Frame) : Bytes :=
  magic ++ [protocolVersion, frame.op.toU8, frame.flags, reserved] ++
    toBytes 8 frame.requestId.toNat ++ toBytes 4 frame.payload.length

/-- The wire bytes of a frame with any byte in the reserved place. -/
def wireWith (reserved : UInt8) (frame : Frame) : Bytes :=
  headerWith reserved frame ++
    toBytes 4 (crc32c (headerWith reserved frame ++ frame.payload)).toNat ++ frame.payload

theorem encode_eq_wireWith {frame : Frame} (h : frame.payload.length ≤ maxFramePayload) :
    encode crc32c frame = .ok (wireWith crc32c 0 frame) := by
  rw [encode, if_neg (Nat.not_lt.2 h)]
  rfl

theorem Decoded.payload_length {buf : Bytes} {frame : Frame} {n : ℕ}
    (h : Decoded crc32c buf frame n) : frame.payload.length = fromBytes (slice buf 16 20) := by
  have hn := h.length_eq
  have hlen : headerLen = 24 := rfl
  rw [h.payload_eq, length_slice h.le_length]
  omega

theorem Decoded.header_eq {buf : Bytes} {frame : Frame} {n : ℕ} (h : Decoded crc32c buf frame n) :
    slice buf 0 20 = headerWith (buf.getD 7 0) frame := by
  have hlen : headerLen = 24 := rfl
  have hlong : 24 ≤ buf.length := by
    have hn := h.length_eq
    have hle := h.le_length
    omega
  have hfields : slice buf 4 8 = [protocolVersion, frame.op.toU8, frame.flags, buf.getD 7 0] := by
    have hsplit : slice buf 4 8 =
        slice buf 4 5 ++ (slice buf 5 6 ++ (slice buf 6 7 ++ slice buf 7 8)) := by
      rw [slice_append_slice (by decide) (by decide), slice_append_slice (by decide) (by decide),
        slice_append_slice (by decide) (by decide)]
    rw [hsplit, slice_succ (by omega), slice_succ (by omega), slice_succ (by omega),
      slice_succ (by omega), h.version_eq, Op.toU8_of_fromU8 h.op_eq, h.flags_eq]
    rfl
  have hword : ∀ start stop : ℕ, stop ≤ buf.length →
      toBytes (stop - start) (fromBytes (slice buf start stop)) = slice buf start stop := by
    intro start stop hstop
    rw [← length_slice hstop, toBytes_fromBytes]
  have hrequest : toBytes 8 frame.requestId.toNat = slice buf 8 16 := by
    have hlt : fromBytes (slice buf 8 16) < 2 ^ 64 := by
      have hbound := fromBytes_lt (slice buf 8 16)
      rwa [length_slice (by omega)] at hbound
    rw [h.requestId_eq, UInt64.toNat_ofNat_of_lt' hlt, hword 8 16 (by omega)]
  have hsize : toBytes 4 frame.payload.length = slice buf 16 20 := by
    rw [h.payload_length, hword 16 20 (by omega)]
  rw [headerWith, ← h.magic_eq, ← hfields, hrequest, hsize, slice_append_slice (by decide) (by decide),
    slice_append_slice (by decide) (by decide), slice_append_slice (by decide) (by decide)]

end Encodings

end Accepted

end Codec

end CheckpointFabric.Protocol
