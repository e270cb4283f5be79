import CheckpointFabric.Rpc
import Mathlib.Data.List.Nodup

/-!
# Which response a call returns

The requests on a connection have different ids, as long as a client makes fewer calls than there
are ids. So the answer to a request of an earlier call, which may still arrive when the client could
not connect again, is not taken for the answer to a later one. A call that has failed is not made
again.

## Main definitions

* `Net.Consistent` — what was written on the connection, and what comes of it
* `Net.Matched` — the payload is that of the answer to the request of the last call

## Main results

* `ends_call` — a call keeps the connection consistent, and its payload is matched
* `responses_matched` — so it is in every session
-/

set_option autoImplicit false

namespace CheckpointFabric.Transport

open Concurrency
open Replica (Bytes)
open Protocol (Frame encode)
open Wire (Spells Partial)

variable {crc32c : Bytes → UInt32} {s s' : Net} {base : ℕ}

/-- The id of the `n`th call of a client on a connection that was made after `base` calls. -/
def idOf (base n : ℕ) : UInt64 := UInt64.ofNat (n - base)

theorem idOf_injective {n m : ℕ} (hn : base < n) (hm : base < m) (hn' : n < 2 ^ 64)
    (hm' : m < 2 ^ 64) (h : idOf base n = idOf base m) : n = m := by
  have hnat := congrArg UInt64.toNat h
  rw [idOf, idOf, UInt64.toNat_ofNat_of_lt' (show n - base < 2 ^ 64 by omega),
    UInt64.toNat_ofNat_of_lt' (show m - base < 2 ^ 64 by omega)] at hnat
  omega

namespace Net

/-- On a connection that was made after `base` calls: every request has the id of its call, every
answer has the id of its request, and what is in the buffer, has arrived or is in flight are
answers. No call has written twice. -/
structure Consistent (crc32c : Bytes → UInt32) (base : ℕ) (s : Net) : Prop where
  base_le : base ≤ s.calls
  next : s.line.nextRequestId = idOf base (s.calls + 1)
  written : ∀ call request, (call, request) ∈ s.line.written →
    base < call ∧ call ≤ s.calls ∧ request.requestId = idOf base call
  writes : s.writes.Nodup
  writes_le : ∀ call ∈ s.writes, call ≤ s.calls
  once : (s.line.written.map Prod.fst).Sublist s.writes
  answers : ∀ a ∈ s.line.answers, (a.call, a.request) ∈ s.line.written ∧
    a.response.requestId = a.request.requestId
  reading : ∃ whole rest tail, Connection.Reading crc32c s.line.conn whole tail ∧
    Partial (encode crc32c) tail ∧ Spells (encode crc32c) rest [] (tail ++ s.line.inFlight) ∧
    ∀ frame ∈ whole ++ rest, ∃ a ∈ s.line.answers, a.response = frame

/-- The payload `out` is that of an answer to the request that the last call has written. -/
def Matched (op : Protocol.Op) (payload out : Bytes) (s : Net) : Prop :=
  ∃ request response, (s.calls, request) ∈ s.line.written ∧ request.op = op ∧
    request.payload = payload ∧ ⟨s.calls, request, response⟩ ∈ s.line.answers ∧
    response.requestId = request.requestId ∧ response.payload = out

/-- Nothing of a frame is a part of one. -/
theorem partial_nil : Partial (encode crc32c) [] := by
  refine ⟨⟨.ping, 0, 0, []⟩, _, if_neg (by decide), List.nil_prefix, ?_⟩
  exact fun h => absurd (congrArg List.length h) (by simp [Protocol.header, Protocol.magic])

theorem Consistent.fresh (hwrites : s.writes.Nodup) (hle : ∀ call ∈ s.writes, call ≤ s.calls) :
    Consistent crc32c s.calls { s with line := .fresh } where
  base_le := Nat.le_refl _
  next := by
    rw [idOf, Nat.add_sub_cancel_left]
    rfl
  written := by rintro _ _ ⟨⟩
  writes := hwrites
  writes_le := hle
  once := List.nil_sublist _
  answers := by rintro _ ⟨⟩
  reading := ⟨[], [], [], ⟨⟨[], .nil, rfl⟩, show 0 < Connection.bufferBound by decide⟩, partial_nil,
    ⟨[], .nil, rfl⟩, by rintro _ ⟨⟩⟩

section Moves

/-- What the peer and the network do leaves the connection consistent. -/
theorem Consistent.move (h : Consistent crc32c base s) (hmove : Move crc32c s s') :
    Consistent crc32c base s' := by
  obtain ⟨whole, rest, tail, hreading, hpart, hrest, hframes⟩ := h.reading
  cases hmove with
  | @answer call request response wire hwritten hid hwire =>
    refine { h with answers := fun a ha => ?_, reading := ?_ }
    · rcases List.mem_cons.mp ha with rfl | ha
      · exact ⟨hwritten, hid⟩
      · exact h.answers a ha
    · refine ⟨whole, rest ++ [response], tail, hreading, hpart, ?_, fun frame hframe => ?_⟩
      · rw [← List.append_assoc]
        exact hrest.concat hwire
      · rw [← List.append_assoc, List.mem_append, List.mem_singleton] at hframe
        rcases hframe with hframe | rfl
        · obtain ⟨a, ha, hresponse⟩ := hframes frame hframe
          exact ⟨a, .tail _ ha, hresponse⟩
        · exact ⟨_, .head _, rfl⟩
  | arrive n =>
    refine { h with reading := ?_ }
    rw [← List.take_append_drop n s.line.inFlight, ← List.append_assoc] at hrest
    obtain ⟨whole', rest', tail', rfl, hwhole, hpart', hrest'⟩ := hrest.exists_cut partial_nil
    refine ⟨whole ++ whole', rest', tail', ⟨?_, hreading.small⟩, hpart', hrest', ?_⟩
    · have hspells := hreading.spells.append hwhole
      rw [List.append_assoc] at hspells
      rw [Socket.coming, List.flatten_append, List.flatten_singleton]
      exact hspells
    · rwa [List.append_assoc]
  | close => exact { h with reading := ⟨whole, rest, tail, ⟨hreading.spells, hreading.small⟩,
      hpart, hrest, hframes⟩ }

/-- What the client has done stays as it is. -/
theorem kept_of_move (hmove : Move crc32c s s') :
    s'.calls = s.calls ∧ s'.writes = s.writes ∧ s'.line.written = s.line.written ∧
      s'.line.nextRequestId = s.line.nextRequestId := by
  cases hmove <;> exact ⟨rfl, rfl, rfl, rfl⟩

theorem Consistent.moves (h : Consistent crc32c base s) (hmoves : Moves crc32c s s') :
    Consistent crc32c base s' ∧ s'.calls = s.calls ∧ s'.writes = s.writes ∧
      s'.line.written = s.line.written ∧ s'.line.nextRequestId = s.line.nextRequestId := by
  induction hmoves with
  | refl => exact ⟨h, rfl, rfl, rfl, rfl⟩
  | tail _ hmove ih =>
    obtain ⟨hconsistent, hcalls, hwrites, hwritten, hnext⟩ := ih
    obtain ⟨hcalls', hwrites', hwritten', hnext'⟩ := kept_of_move hmove
    exact ⟨hconsistent.move hmove, hcalls'.trans hcalls, hwrites'.trans hwrites,
      hwritten'.trans hwritten, hnext'.trans hnext⟩

end Moves

section Operations

theorem ends_nextRequestId (h : Consistent crc32c base s) :
    Ends (Step crc32c) (fun result s' => Consistent crc32c base s' ∧ s'.calls = s.calls + 1 ∧
      s'.calls ∉ s'.writes ∧ result = .ok (idOf base s'.calls)) Rpc.nextRequestId s := by
  rintro reply s' ⟨s₁, hmoves, heffect⟩
  obtain ⟨h₁, hcalls, -, -, -⟩ := h.moves hmoves
  have hbase := h₁.base_le
  cases heffect with
  | nextRequestId =>
    refine ⟨{ h₁ with base_le := ?_, next := ?_, written := ?_, writes_le := ?_ }, ?_, ?_, ?_⟩
    · exact hbase.trans (Nat.le_succ _)
    · show s₁.line.nextRequestId + 1 = UInt64.ofNat (s₁.calls + 1 + 1 - base)
      rw [h₁.next, idOf, show s₁.calls + 1 + 1 - base = s₁.calls + 1 - base + 1 by omega,
        UInt64.ofNat_add]
      rfl
    · intro call request hwritten
      obtain ⟨hlater, hcall, hid⟩ := h₁.written call request hwritten
      exact ⟨hlater, hcall.trans (Nat.le_succ _), hid⟩
    · exact fun call hcall => (h₁.writes_le call hcall).trans (Nat.le_succ _)
    · exact congrArg (· + 1) hcalls
    · exact fun hmem => absurd (h₁.writes_le _ hmem) (Nat.not_succ_le_self _)
    · exact congrArg Except.ok h₁.next

/-- A request with the id of the call, in a call that has not written yet. -/
theorem ends_writeFrame {frame : Frame} (h : Consistent crc32c base s) (hcall : base < s.calls)
    (hnew : s.calls ∉ s.writes) (hid : frame.requestId = idOf base s.calls) :
    Ends (Step crc32c) (fun result s' => Consistent crc32c base s' ∧ s'.calls = s.calls ∧
      (result = .ok () → (s.calls, frame) ∈ s'.line.written)) (Rpc.writeFrame frame) s := by
  rintro reply s' ⟨s₁, hmoves, heffect⟩
  obtain ⟨h₁, hcalls, hwrites, -, -⟩ := h.moves hmoves
  rw [← hcalls] at hcall hnew hid
  rw [← hwrites] at hnew
  have hle : ∀ call ∈ s₁.calls :: s₁.writes, call ≤ s₁.calls :=
    List.forall_mem_cons.mpr ⟨Nat.le_refl _, h₁.writes_le⟩
  cases heffect with
  | tooLong => exact ⟨h₁, hcalls, by rintro ⟨⟩⟩
  | cutOff e =>
    exact ⟨{ h₁ with
      writes := List.nodup_cons.mpr ⟨hnew, h₁.writes⟩
      writes_le := hle
      once := h₁.once.cons _ }, hcalls, by rintro ⟨⟩⟩
  | written reply =>
    refine ⟨{ h₁ with
      writes := List.nodup_cons.mpr ⟨hnew, h₁.writes⟩
      writes_le := hle
      once := h₁.once.cons_cons _
      written := ?_
      answers := ?_ }, hcalls, fun _ => hcalls ▸ .head _⟩
    · intro call request hwritten
      rcases List.mem_cons.mp hwritten with heq | hwritten
      · obtain ⟨rfl, rfl⟩ := Prod.mk.inj heq
        exact ⟨hcall, Nat.le_refl _, hid⟩
      · exact h₁.written call request hwritten
    · exact fun a ha => ⟨.tail _ (h₁.answers a ha).1, (h₁.answers a ha).2⟩

/-- A frame that is read is an answer. -/
theorem ends_readFrame (h : Consistent crc32c base s) :
    Ends (Step crc32c) (fun result s' => Consistent crc32c base s' ∧ s'.calls = s.calls ∧
      s'.line.written = s.line.written ∧
      ∀ frame, result = .ok frame → ∃ a ∈ s'.line.answers, a.response = frame) Rpc.readFrame s := by
  rintro reply s' ⟨s₁, hmoves, heffect⟩
  obtain ⟨h₁, hcalls, -, hwritten, -⟩ := h.moves hmoves
  obtain ⟨whole, rest, tail, hreading, hpart, hrest, hframes⟩ := h₁.reading
  -- What is read comes from the whole frames that have arrived.
  have hread : (∃ frame frames c, whole = frame :: frames ∧
        s₁.line.conn.readFrame crc32c = (.ok frame, c) ∧
        Connection.Reading crc32c c frames tail) ∨
      ∃ e c, s₁.line.conn.readFrame crc32c = (.error e, c) ∧
        Connection.Reading crc32c c whole tail := by
    cases whole with
    | nil =>
      obtain ⟨c, hread, hreading', -⟩ := Connection.readFrame_rest hpart _ hreading
      exact .inr ⟨_, c, hread, hreading'⟩
    | cons frame frames =>
      obtain ⟨c, hread, hreading', -⟩ := Connection.readFrame_frame _ hreading
      exact .inl ⟨frame, frames, c, rfl, hread, hreading'⟩
  cases heffect with
  | @frame _ frame conn hframe =>
    rcases hread with ⟨frame', frames, c, rfl, hread, hreading'⟩ | ⟨e, c, hread, -⟩
    · obtain ⟨hok, rfl⟩ := Prod.mk.inj (hframe.symm.trans hread)
      obtain rfl := Except.ok.inj hok
      refine ⟨{ h₁ with reading := ⟨frames, rest, tail, hreading', hpart, hrest, ?_⟩ }, hcalls,
        hwritten, ?_⟩
      · exact fun frame' hmem => hframes frame' (.tail _ hmem)
      · rintro _ ⟨⟩
        exact hframes frame (.head _)
    · cases hframe.symm.trans hread
  | @noFrame _ e conn e' herror =>
    rcases hread with ⟨frame, frames, c, rfl, hread, -⟩ | ⟨e, c, hread, hreading'⟩
    · cases herror.symm.trans hread
    · obtain ⟨-, rfl⟩ := Prod.mk.inj (herror.symm.trans hread)
      exact ⟨{ h₁ with reading := ⟨whole, rest, tail, hreading', hpart, hrest, hframes⟩ }, hcalls,
        hwritten, by rintro _ ⟨⟩⟩

/-- A new connection is consistent, and without one the old one stays so. -/
theorem ends_connect (h : Consistent crc32c base s) :
    Ends (Step crc32c) (fun _ s' => (∃ base, Consistent crc32c base s') ∧ s'.calls = s.calls)
      Rpc.connect s := by
  rintro reply s' ⟨s₁, hmoves, heffect⟩
  obtain ⟨h₁, hcalls, -, -, -⟩ := h.moves hmoves
  cases heffect with
  | connect => exact ⟨⟨_, Consistent.fresh h₁.writes h₁.writes_le⟩, hcalls⟩
  | unreachable => exact ⟨⟨base, h₁⟩, hcalls⟩

end Operations

section Calls

variable {op : Protocol.Op} {payload : Bytes}

/-- The request of the last call is the only one that is answered with its id. -/
theorem Consistent.matched {frame response : Frame} {a : Answer} (h : Consistent crc32c base s)
    (hbound : s.calls < 2 ^ 64) (hwritten : (s.calls, frame) ∈ s.line.written)
    (ha : a ∈ s.line.answers) (hresponse : a.response = response)
    (hid : response.requestId = idOf base s.calls) :
    a = ⟨s.calls, frame, response⟩ := by
  obtain ⟨call, request, response'⟩ := a
  obtain rfl : response' = response := hresponse
  obtain ⟨hrequest, hsame⟩ := h.answers _ ha
  obtain ⟨hlater, hle, hcallId⟩ := h.written call request hrequest
  have hcall : call = s.calls := by
    refine idOf_injective hlater (h.written _ _ hwritten).1 (by omega) hbound ?_
    exact (hcallId.symm.trans hsame.symm).trans hid
  have hunique : (call, request) = (s.calls, frame) :=
    List.inj_on_of_nodup_map (h.once.nodup h.writes) hrequest hwritten hcall
  obtain ⟨rfl, rfl⟩ := Prod.mk.inj hunique
  rfl

/-- A call keeps the connection consistent, and its payload is matched. -/
theorem ends_connectionCall (h : Consistent crc32c base s) (hbound : s.calls + 1 < 2 ^ 64) :
    Ends (Step crc32c) (fun result s' => Consistent crc32c base s' ∧ s'.calls = s.calls + 1 ∧
      ∀ out, result = .ok out → Matched op payload out s') (Connection.call op payload) s := by
  unfold Connection.call
  refine Ends.bind (ends_nextRequestId h) (fun requestId s₁ h₁ => ?_) ?_
  · obtain ⟨hconsistent₁, hcalls₁, hnew, hrequestId⟩ := h₁
    obtain rfl := Except.ok.inj hrequestId
    have hcall : base < s₁.calls := by
      have hbase := h.base_le
      omega
    refine Ends.bind (ends_writeFrame hconsistent₁ hcall hnew rfl) (fun _ s₂ h₂ => ?_)
      fun e s₂ h₂ => ⟨h₂.1, h₂.2.1.trans hcalls₁, by rintro _ ⟨⟩⟩
    obtain ⟨hconsistent₂, hcalls₂, hwritten₂⟩ := h₂
    refine Ends.bind (ends_readFrame hconsistent₂) (fun response s₃ h₃ => ?_)
      fun e s₃ h₃ => ⟨h₃.1, (h₃.2.1.trans hcalls₂).trans hcalls₁, by rintro _ ⟨⟩⟩
    obtain ⟨hconsistent₃, hcalls₃, hwritten₃, hanswer⟩ := h₃
    have hcalls : s₃.calls = s.calls + 1 := (hcalls₃.trans hcalls₂).trans hcalls₁
    have hsame : s₃.calls = s₁.calls := hcalls₃.trans hcalls₂
    refine ends_ensure_bind.mpr ⟨fun hid => ?_, fun _ => ⟨hconsistent₃, hcalls, by rintro _ ⟨⟩⟩⟩
    refine ends_ensure_bind.mpr ⟨fun _ => ?_, fun _ => ⟨hconsistent₃, hcalls, by rintro _ ⟨⟩⟩⟩
    refine ⟨hconsistent₃, hcalls, ?_⟩
    rintro out ⟨⟩
    obtain ⟨a, ha, hresponse⟩ := hanswer response rfl
    have hwritten : (s₃.calls, (⟨op, 0, idOf base s₁.calls, payload⟩ : Frame)) ∈ s₃.line.written := by
      rw [hwritten₃, hsame]
      exact hwritten₂ rfl
    obtain rfl := hconsistent₃.matched (hcalls ▸ hbound) hwritten ha hresponse (hsame ▸ hid)
    exact ⟨_, response, hwritten, rfl, rfl, ha, hid, rfl⟩
  · rintro e s' ⟨-, -, -, ⟨⟩⟩

/-- So does a call that connects again when it fails. -/
theorem ends_call (h : Consistent crc32c base s) (hbound : s.calls + 1 < 2 ^ 64) :
    Ends (Step crc32c) (fun result s' => (∃ base, Consistent crc32c base s') ∧
      s'.calls = s.calls + 1 ∧ ∀ out, result = .ok out → Matched op payload out s')
      (RpcClient.call op payload) s := by
  rw [RpcClient.call, Program.onError, ends_andThen]
  refine (ends_connectionCall h hbound).weaken fun result s₁ h₁ => ?_
  obtain ⟨hconsistent, hcalls, hmatched⟩ := h₁
  cases result with
  | ok out => exact ⟨⟨base, hconsistent⟩, hcalls, hmatched⟩
  | error e =>
    rw [Program.ignore, ends_andThen, ends_andThen]
    refine (ends_connect hconsistent).weaken fun _ s₂ h₂ => ?_
    exact ⟨h₂.1, h₂.2.trans hcalls, by rintro _ ⟨⟩⟩

end Calls

end Net

open Net

/-- After every session the connection is consistent. -/
theorem Session.consistent {n : ℕ} (h : Session crc32c n s) (hbound : n < 2 ^ 64) :
    s.calls = n ∧ ∃ base, Consistent crc32c base s := by
  induction h with
  | connected =>
    have hnone : ∀ call ∈ Net.connected.writes, call ≤ Net.connected.calls := by rintro _ ⟨⟩
    exact ⟨rfl, 0, Consistent.fresh List.nodup_nil hnone⟩
  | call _ hruns ih =>
    obtain ⟨rfl, base, hconsistent⟩ := ih (by omega)
    obtain ⟨hconsistent', hcalls, -⟩ := ends_iff.mp (ends_call hconsistent hbound) _ _ hruns
    exact ⟨hcalls, hconsistent'⟩

/-- In every session of fewer calls than there are ids, a call returns a payload only if it is that
of the answer, on the connection in use, to the request that the call has written on it. No call has
written more than one request. -/
theorem responses_matched {n : ℕ} {op : Protocol.Op} {payload : Bytes}
    {result : FabricResult Bytes} (h : Session crc32c n s) (hbound : n + 1 < 2 ^ 64)
    (hruns : Runs (Step crc32c) (RpcClient.call op payload) s result s') :
    s'.calls = n + 1 ∧ (∀ out, result = .ok out → Matched op payload out s') ∧
      ∀ call, s'.writes.count call ≤ 1 := by
  obtain ⟨rfl, base, hconsistent⟩ := h.consistent (by omega)
  obtain ⟨⟨base', hconsistent'⟩, hcalls, hmatched⟩ :=
    ends_iff.mp (ends_call hconsistent hbound) _ _ hruns
  exact ⟨hcalls, hmatched, List.nodup_iff_count_le_one.mp hconsistent'.writes⟩

/-! ### A late answer

A client pings three times. Its first call waits in vain. The answer comes during the second one,
which takes it for none. In the third call the answer to its own ping arrives. The client can never
connect again. -/

namespace Demo

def secondPing : Frame := { op := .ping, flags := 0, requestId := 2, payload := [] }

def thirdPing : Frame := { op := .ping, flags := 0, requestId := 3, payload := [] }

/-- The answers to the first and to the third ping. -/
def latePong : Frame := { op := .pong, flags := 1, requestId := 1, payload := [7] }

def thirdPong : Frame := { op := .pong, flags := 1, requestId := 3, payload := [8] }

/-- The encodings of the pings are not needed, only that there are some. -/
theorem exists_wire : (∃ wire, encode Demo.crc32c secondPing = .ok wire) ∧
    (∃ wire, encode Demo.crc32c thirdPing = .ok wire) ∧
    (∃ wire, encode Demo.crc32c latePong = .ok wire) ∧
    ∃ wire, encode Demo.crc32c thirdPong = .ok wire :=
  ⟨⟨_, rfl⟩, ⟨_, rfl⟩, ⟨_, rfl⟩, ⟨_, rfl⟩⟩

/-- Everything that has arrived was read. -/
def Quiet (c : Connection) : Prop := Connection.Reading Demo.crc32c c [] []

theorem quiet_fresh : Quiet (.fresh ⟨[], false⟩) :=
  ⟨⟨[], .nil, rfl⟩, show 0 < Connection.bufferBound by decide⟩

/-- A call that waits in vain. -/
theorem exists_readFrame_error {c : Connection} (h : Quiet c) :
    ∃ e c', c.readFrame Demo.crc32c = (.error e, c') ∧ Quiet c' := by
  have hpart : Partial (encode Demo.crc32c) [] :=
    ⟨ping, wire, encode_ping, List.nil_prefix, by decide⟩
  obtain ⟨c', hread, hquiet, -⟩ := Connection.readFrame_rest hpart c h
  exact ⟨_, c', hread, hquiet⟩

/-- The peer answers a request, and the answer arrives and is read. -/
theorem exists_step_readFrame {c : Connection} {next : UInt64} {written : List (ℕ × Frame)}
    {answers : List Answer} {calls call : ℕ} {writes : List ℕ} {request response : Frame}
    {wire : Bytes} (h : Quiet c) (hmem : (call, request) ∈ written)
    (hid : response.requestId = request.requestId)
    (hencode : encode Demo.crc32c response = .ok wire) :
    ∃ c', Quiet c' ∧ Step Demo.crc32c .readFrame ⟨⟨c, next, written, answers, []⟩, calls, writes⟩
      (.ok response)
      ⟨⟨c', next, written, ⟨call, request, response⟩ :: answers, []⟩, calls, writes⟩ := by
  let arrived : Connection :=
    { c with socket := { c.socket with arriving := c.socket.arriving ++ [wire] } }
  have hreading : Connection.Reading Demo.crc32c arrived [response] [] := by
    refine ⟨?_, h.small⟩
    have hspells := h.spells.concat hencode
    rw [List.nil_append, List.append_assoc] at hspells
    rwa [Socket.coming, List.flatten_append, List.flatten_singleton]
  obtain ⟨c', hread, hquiet, -⟩ := Connection.readFrame_frame arrived hreading
  have hanswer : Move Demo.crc32c ⟨⟨c, next, written, answers, []⟩, calls, writes⟩
      ⟨⟨c, next, written, ⟨call, request, response⟩ :: answers, wire⟩, calls, writes⟩ :=
    .answer hmem hid hencode
  have harrive : Move Demo.crc32c
      ⟨⟨c, next, written, ⟨call, request, response⟩ :: answers, wire⟩, calls, writes⟩
      ⟨⟨arrived, next, written, ⟨call, request, response⟩ :: answers, []⟩, calls, writes⟩ := by
    have harrived : Move Demo.crc32c _ _ := .arrive (s :=
      ⟨⟨c, next, written, ⟨call, request, response⟩ :: answers, wire⟩, calls, writes⟩) wire.length
    rwa [List.take_length, List.drop_length] at harrived
  exact ⟨c', hquiet, _, .tail (.single hanswer) harrive, .frame hread⟩

/-- The two calls that fail. -/
theorem exists_session : ∃ c, Quiet c ∧ Session Demo.crc32c 2
    ⟨⟨c, 3, [(2, secondPing), (1, ping)], [⟨1, ping, latePong⟩], []⟩, 2, [2, 1]⟩ := by
  obtain ⟨⟨_, hsecond⟩, -, ⟨_, hlate⟩, -⟩ := exists_wire
  obtain ⟨e, c₁, hread, hquiet₁⟩ := exists_readFrame_error quiet_fresh
  have hfirst : Session Demo.crc32c 1 ⟨⟨c₁, 2, [(1, ping)], [], []⟩, 1, [1]⟩ :=
    .call .connected (.perform ⟨_, .refl, .nextRequestId⟩
      (.perform ⟨_, .refl, .written (.ok ()) encode_ping⟩
        (.perform ⟨_, .refl, .noFrame e hread⟩ (.perform ⟨_, .refl, .unreachable e⟩ .done))))
  -- The second call takes the answer to the first one for none.
  obtain ⟨c₂, hquiet₂, hstep⟩ : ∃ c', Quiet c' ∧ Step Demo.crc32c .readFrame
      ⟨⟨c₁, 3, [(2, secondPing), (1, ping)], [], []⟩, 2, [2, 1]⟩ (.ok latePong)
      ⟨⟨c', 3, [(2, secondPing), (1, ping)], [⟨1, ping, latePong⟩], []⟩, 2, [2, 1]⟩ :=
    exists_step_readFrame hquiet₁ (.tail _ (.head _)) rfl hlate
  exact ⟨c₂, hquiet₂, .call hfirst (.perform ⟨_, .refl, .nextRequestId⟩
    (.perform ⟨_, .refl, .written (.ok ()) hsecond⟩
      (.perform hstep (.perform ⟨_, .refl, .unreachable e⟩ .done))))⟩

/-- The third call, with the answer to its own ping. -/
theorem exists_runs_ping {c : Connection} (h : Quiet c) :
    ∃ s', Runs (Step Demo.crc32c) (RpcClient.call .ping [])
      ⟨⟨c, 3, [(2, secondPing), (1, ping)], [⟨1, ping, latePong⟩], []⟩, 2, [2, 1]⟩ (.ok [8]) s' := by
  obtain ⟨-, ⟨_, hthird⟩, -, ⟨_, hpong⟩⟩ := exists_wire
  obtain ⟨c', -, hstep⟩ : ∃ c', Quiet c' ∧ Step Demo.crc32c .readFrame
      ⟨⟨c, 4, [(3, thirdPing), (2, secondPing), (1, ping)], [⟨1, ping, latePong⟩], []⟩, 3, [3, 2, 1]⟩
      (.ok thirdPong)
      ⟨⟨c', 4, [(3, thirdPing), (2, secondPing), (1, ping)],
        [⟨3, thirdPing, thirdPong⟩, ⟨1, ping, latePong⟩], []⟩, 3, [3, 2, 1]⟩ :=
    exists_step_readFrame h (.head _) rfl hpong
  exact ⟨_, .perform ⟨_, .refl, .nextRequestId⟩
    (.perform ⟨_, .refl, .written (.ok ()) hthird⟩ (.perform hstep .done))⟩

end Demo

/-- The third call returns the answer to its own ping. -/
theorem responses_matched_ping : ∃ s s' : Net, Session Demo.crc32c 2 s ∧
    s.line.answers = [⟨1, Demo.ping, Demo.latePong⟩] ∧
    Runs (Step Demo.crc32c) (RpcClient.call .ping []) s (.ok [8]) s' ∧ Matched .ping [] [8] s' := by
  obtain ⟨c, hquiet, hsession⟩ := Demo.exists_session
  obtain ⟨s', hruns⟩ := Demo.exists_runs_ping hquiet
  exact ⟨_, s', hsession, rfl, hruns, (responses_matched hsession (by decide) hruns).2.1 _ rfl⟩

end CheckpointFabric.Transport
