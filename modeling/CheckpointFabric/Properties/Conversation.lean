import CheckpointFabric.Conversation
import CheckpointFabric.Properties.Responses
import CheckpointFabric.Properties.Streams

/-!
# What a server sends

A server that serves a connection answers the requests at the front of the stream, one after the
other: each is handled once, and its answer goes back before the next one is read. The segments in
which the requests arrive make no difference. Whoever reads what was sent, in whatever segments,
finds the answers in the order of the requests, and then the end of the stream. Only the last answer
can be missing, and then the loop has ended with the reason.

## Main definitions

* `stopOf`, `failureOf` — why a pass is the last one
* `Ends` — how the loop came to where it is
* `Served` — which requests were handled, and which answers were sent

## Main results

* `takes_pass` — a thread that serves a connection takes the steps of a worker
* `serves` — a connection that serves, pass by pass
* `Served.exists_moves` — a server is a peer as a client of it sees one
* `conversation` — what a client gets for what was sent to the server
-/

set_option autoImplicit false

namespace CheckpointFabric.Server

open Replica (Bytes)
open Protocol (Frame encode decode)
open Transport (Answer Connection Net Socket)
open Transport.Connection (fresh left bufferBound ending readFrame_deliver readFrames_frames
  reading_fresh)
open Transport.Net (Move Moves partial_nil)
open Wire (Spells Partial deliver)

section Reasons

/-- The result of a pass in which no request is handled: the server was stopped, there is no frame
to read, or it is not a request. -/
def stopOf (p : Pass) (next : FabricResult Frame) : Option (FabricResult Unit) :=
  if p.running then
    match next with
    | .error e => some (.error e)
    | .ok frame =>
      if isClose frame then some (.ok ())
      else if frame.isResponse then
        some (.error (.protocolError "server received unexpected response frame"))
      else none
  else some (.ok ())

/-- Why an answer is not written, if it is not. -/
def failureOf (crc32c : Bytes → UInt32) (fate : Fate) (answer : Frame) : Option FabricError :=
  match encode crc32c answer with
  | .error e => some e
  | .ok _ => fate.map Prod.snd

/-- The answers to the requests of successive passes. -/
def answersOf (passes : List Pass) (requests : List Frame) : List Frame :=
  List.zipWith Pass.answerTo passes requests

variable (crc32c : Bytes → UInt32)

/-- How the loop came to where it is, when it has handled the requests and sent these answers to
them whole. -/
inductive Ends (passes : List Pass) (arriving : List (FabricResult Frame))
    (requests written : List Frame) : Option (FabricResult Unit) → Prop
  /-- It goes on: every pass has answered a request. -/
  | going (hpasses : requests.length = passes.length)
      (hwritten : written = answersOf passes requests) : Ends passes arriving requests written none
  /-- It has ended behind the answer to the last request. -/
  | stopped {p : Pass} {next : FabricResult Frame} {result : FabricResult Unit}
      (hpass : passes[requests.length]? = some p) (hnext : arriving[requests.length]? = some next)
      (hstop : stopOf p next = some result) (hwritten : written = answersOf passes requests) :
      Ends passes arriving requests written (some result)
  /-- It has ended in the answer to the last request. -/
  | failed (answered : List Frame) {request : Frame} {p : Pass} {e : FabricError}
      (hrequests : requests = answered ++ [request]) (hpass : passes[answered.length]? = some p)
      (hfailure : failureOf crc32c p.fate (p.answerTo request) = some e)
      (hwritten : answersOf passes answered <+: written) :
      Ends passes arriving requests written (some (.error e))

/-- The requests at the front of what arrives were handled, each in a pass of its own, and these
answers to them were sent whole. -/
structure Served (passes : List Pass) (arriving : List (FabricResult Frame)) (s : Talk)
    (result : Option (FabricResult Unit)) (s' : Talk) (requests written : List Frame) : Prop where
  front : requests.map .ok <+: arriving
  accepted : ∀ request ∈ requests, isClose request = false ∧ request.isResponse = false
  handled : s'.handled = s.handled ++ requests
  answers : written <+: answersOf passes requests
  sent : ∃ sent tail, s'.sent = s.sent ++ sent ∧ Spells (encode crc32c) written tail sent ∧
    Partial (encode crc32c) tail
  ends : Ends crc32c passes arriving requests written result

end Reasons

variable {crc32c : Bytes → UInt32} {p : Pass} {passes : List Pass} {c c' : Connection}
  {next : FabricResult Frame} {arriving : List (FabricResult Frame)} {frame : Frame} {s s' : Talk}
  {result : Option (FabricResult Unit)} {requests written : List Frame}

section Passes

/-- What is not stopped is a request. -/
theorem request_of_stopOf (h : stopOf p next = none) :
    p.running = true ∧
      ∃ frame, next = .ok frame ∧ isClose frame = false ∧ frame.isResponse = false := by
  unfold stopOf at h
  cases hrunning : p.running with
  | false => simp [hrunning] at h
  | true =>
    cases next with
    | error e => simp [hrunning] at h
    | ok frame =>
      cases hclose : isClose frame with
      | true => simp [hrunning, hclose] at h
      | false =>
        cases hresponse : frame.isResponse with
        | true => simp [hrunning, hclose, hresponse] at h
        | false => exact ⟨rfl, frame, rfl, hclose, hresponse⟩

/-- A pass that handles no request is the last one. -/
theorem pass_stopped {result : FabricResult Unit} (hread : c.readFrame crc32c = (next, c'))
    (hstop : stopOf p next = some result) :
    ∃ c'', pass crc32c p c s = (some result, c'', s) := by
  unfold stopOf at hstop
  rw [pass, hread]
  cases hrunning : p.running with
  | false =>
    rw [hrunning] at hstop
    exact ⟨c, by simpa using hstop⟩
  | true =>
    refine ⟨c', ?_⟩
    cases next with
    | error e => simpa [hrunning] using hstop
    | ok frame =>
      cases hclose : isClose frame with
      | true => simpa [hrunning, hclose, Talk.answer] using hstop
      | false =>
        cases hresponse : frame.isResponse with
        | true => simpa [hrunning, hclose, hresponse, Talk.answer] using hstop
        | false => simp [hrunning, hclose, hresponse] at hstop

/-- A pass with a request writes the answer. -/
theorem pass_request (hrunning : p.running = true) (hread : c.readFrame crc32c = (.ok frame, c'))
    (hclose : isClose frame = false) (hresponse : frame.isResponse = false) :
    pass crc32c p c s =
      ((Talk.write crc32c p.fate (p.answerTo frame) ⟨s.handled ++ [frame], s.sent⟩).1, c',
        (Talk.write crc32c p.fate (p.answerTo frame) ⟨s.handled ++ [frame], s.sent⟩).2) := by
  simp [pass, hrunning, hread, Talk.answer, hclose, hresponse]

theorem write_of_none {fate : Fate} (h : failureOf crc32c fate frame = none) :
    ∃ wire, encode crc32c frame = .ok wire ∧
      Talk.write crc32c fate frame s = (none, { s with sent := s.sent ++ wire }) := by
  unfold failureOf at h
  unfold Talk.write
  cases hwire : encode crc32c frame with
  | error e => simp [hwire] at h
  | ok wire =>
    rw [hwire] at h
    obtain rfl : fate = none := Option.map_eq_none_iff.1 h
    exact ⟨wire, rfl, rfl⟩

/-- Of an answer that is not written, a part may have been sent, or all of it. -/
theorem write_of_some {fate : Fate} {e : FabricError} (h : failureOf crc32c fate frame = some e) :
    ∃ written tail sent, Talk.write crc32c fate frame s =
        (some (.error e), { s with sent := s.sent ++ sent }) ∧
      Spells (encode crc32c) written tail sent ∧ Partial (encode crc32c) tail ∧
      written <+: [frame] := by
  unfold failureOf at h
  unfold Talk.write
  cases hwire : encode crc32c frame with
  | error e' =>
    rw [hwire] at h
    obtain rfl := Option.some.inj h
    exact ⟨[], [], [], by simp, ⟨[], .nil, rfl⟩, partial_nil, List.nil_prefix⟩
  | ok wire =>
    rw [hwire] at h
    obtain ⟨⟨n, e'⟩, rfl, rfl⟩ := Option.map_eq_some_iff.1 h
    -- The call may fail when every byte has gone out: then the client has the answer all the same.
    by_cases hall : wire.take n = wire
    · refine ⟨[frame], [], wire, by simp [hall], ⟨[wire], .cons hwire .nil, by simp⟩, partial_nil,
        List.prefix_rfl⟩
    · exact ⟨[], wire.take n, wire.take n, rfl, ⟨[], .nil, rfl⟩,
        ⟨frame, wire, hwire, List.take_prefix n wire, hall⟩, List.nil_prefix⟩

end Passes

section Threads

/-- The events lead a worker from one place to another. -/
def Worker.Takes (running : Bool) : List WorkerEvent → Worker → Worker → Prop
  | [], w, w' => w = w'
  | event :: events, w, w' =>
    ∃ w₁, w.step running event = some (some w₁) ∧ Worker.Takes running events w₁ w'

/-- What a handler does to its thread. -/
def handledOf : FabricResult Bytes → WorkerEvent
  | .ok payload => .handled payload
  | .error e => .refused (Envelope.err (toString e)).toVec

/-- What happens in the thread that makes a pass, when this is the next result of its connection. -/
def eventsOf (crc32c : Bytes → UInt32) (p : Pass) (next : FabricResult Frame) : List WorkerEvent :=
  if p.running then
    match next with
    | .error _ => [.checked, .readFailed]
    | .ok frame =>
      if isClose frame || frame.isResponse then [.checked, .received frame]
      else
        [.checked, .received frame,
          handledOf (p.handler frame.op frame.requestId frame.payload),
          if (failureOf crc32c p.fate (p.answerTo frame)).isSome then .writeFailed else .wrote]
  else [.checked]

theorem step_received (running : Bool) (frame : Frame) :
    Worker.step running .reading (.received frame) =
      some (some (if isClose frame || frame.isResponse then .ended else .handling frame)) :=
  rfl

theorem step_handledOf (running : Bool) (request : Frame) (result : FabricResult Bytes) :
    Worker.step running (.handling request) (handledOf result) =
      some (some (.answering (response request (payloadOf result)))) := by
  cases result <;> rfl

/-- A thread that makes a pass takes the steps of a worker. -/
theorem takes_pass (crc32c : Bytes → UInt32) (p : Pass) (c : Connection) (s : Talk) :
    Worker.Takes p.running (eventsOf crc32c p (c.readFrame crc32c).1) .checking
      (if (pass crc32c p c s).1.isSome then .ended else .checking) := by
  rcases hread : c.readFrame crc32c with ⟨next, c'⟩
  cases hstop : stopOf p next with
  | some result =>
    obtain ⟨c'', hpass⟩ := pass_stopped (s := s) hread hstop
    rw [hpass]
    unfold stopOf at hstop
    unfold eventsOf
    cases hrunning : p.running with
    | false => exact ⟨.ended, rfl, rfl⟩
    | true =>
      cases next with
      | error e => exact ⟨.reading, rfl, .ended, rfl, rfl⟩
      | ok frame =>
        have hend : (isClose frame || frame.isResponse) = true := by
          cases hclose : isClose frame <;> cases hresponse : frame.isResponse <;>
            simp [hrunning, hclose, hresponse] at hstop ⊢
        dsimp only
        rw [if_pos rfl, if_pos hend]
        exact ⟨.reading, rfl, .ended, by rw [step_received, if_pos hend], rfl⟩
  | none =>
    obtain ⟨hrunning, request, rfl, hclose, hresponse⟩ := request_of_stopOf hstop
    have hend : (isClose request || request.isResponse) = false := by rw [hclose, hresponse]; rfl
    rw [pass_request hrunning hread hclose hresponse, eventsOf, hrunning, if_pos rfl]
    dsimp only
    rw [hend]
    refine ⟨.reading, rfl, .handling request, by rw [step_received, hend]; rfl,
      .answering (p.answerTo request), step_handledOf true request _, ?_⟩
    cases hfailure : failureOf crc32c p.fate (p.answerTo request) with
    | some e =>
      obtain ⟨_, _, _, hwrite, -⟩ := write_of_some (s := ⟨s.handled ++ [request], s.sent⟩) hfailure
      rw [hwrite]
      exact ⟨.ended, rfl, rfl⟩
    | none =>
      obtain ⟨_, -, hwrite⟩ := write_of_none (s := ⟨s.handled ++ [request], s.sent⟩) hfailure
      rw [hwrite]
      exact ⟨.checking, rfl, rfl⟩

end Threads

section Serves

theorem Ends.cons {request : Frame} (h : Ends crc32c passes arriving requests written result) :
    Ends crc32c (p :: passes) (.ok request :: arriving) (request :: requests)
      (p.answerTo request :: written) result := by
  cases h with
  | going hpasses hwritten => exact .going (congrArg Nat.succ hpasses) (congrArg _ hwritten)
  | stopped hpass hnext hstop hwritten => exact .stopped hpass hnext hstop (congrArg _ hwritten)
  | failed answered hrequests hpass hfailure hwritten =>
    exact .failed (request :: answered) (congrArg _ hrequests) hpass hfailure
      (List.cons_prefix_cons.2 ⟨rfl, hwritten⟩)

/-- Another request in front, which was answered. -/
theorem Served.cons {request : Frame} {wire : Bytes} (hclose : isClose request = false)
    (hresponse : request.isResponse = false) (hwire : encode crc32c (p.answerTo request) = .ok wire)
    (h : Served crc32c passes arriving ⟨s.handled ++ [request], s.sent ++ wire⟩ result s' requests
      written) :
    Served crc32c (p :: passes) (.ok request :: arriving) s result s' (request :: requests)
      (p.answerTo request :: written) where
  front := List.cons_prefix_cons.2 ⟨rfl, h.front⟩
  accepted := List.forall_mem_cons.2 ⟨⟨hclose, hresponse⟩, h.accepted⟩
  handled := by rw [h.handled, List.append_assoc, List.singleton_append]
  answers := List.cons_prefix_cons.2 ⟨rfl, h.answers⟩
  sent := by
    obtain ⟨sent, tail, hsent, ⟨wires, hwires, hstream⟩, hpart⟩ := h.sent
    refine ⟨wire ++ sent, tail, ?_, ⟨wire :: wires, .cons hwire hwires, ?_⟩, hpart⟩
    · rw [hsent, List.append_assoc]
    · rw [hstream, List.flatten_cons, List.append_assoc]
  ends := h.ends.cons

/-- Nothing was handled and nothing was sent. -/
theorem Served.nil (h : Ends crc32c passes arriving [] [] result) :
    Served crc32c passes arriving s result s [] [] where
  front := List.nil_prefix
  accepted := List.forall_mem_nil _
  handled := (List.append_nil _).symm
  answers := List.nil_prefix
  sent := ⟨[], [], (List.append_nil _).symm, ⟨[], .nil, rfl⟩, partial_nil⟩
  ends := h

variable (crc32c) in
/-- A connection that serves answers the requests at the front of what is left to read. -/
theorem serves (passes : List Pass) (c : Connection) (s : Talk)
    (hsmall : c.readBuf.length < bufferBound) :
    ∃ requests written, Served crc32c passes
      (deliver (decode crc32c) (ending c.socket.closed) passes.length c.left) s
      (serveConnection crc32c passes c s).1 (serveConnection crc32c passes c s).2.2
      requests written := by
  -- Each pass takes one result off what is left, so the passes and the results go in step.
  induction passes generalizing c s with
  | nil => exact ⟨[], [], .nil (.going rfl rfl)⟩
  | cons p passes ih =>
    obtain ⟨next, c', hread, hsmall', hclosed, hdeliver⟩ := readFrame_deliver crc32c c hsmall
    rw [List.length_cons, hdeliver]
    cases hstop : stopOf p next with
    | some result =>
      obtain ⟨c'', hpass⟩ := pass_stopped (s := s) hread hstop
      rw [serveConnection, hpass]
      exact ⟨[], [], .nil (.stopped rfl rfl hstop rfl)⟩
    | none =>
      obtain ⟨hrunning, request, rfl, hclose, hresponse⟩ := request_of_stopOf hstop
      have hpass := pass_request (s := s) hrunning hread hclose hresponse
      rw [serveConnection, hpass]
      cases hfailure : failureOf crc32c p.fate (p.answerTo request) with
      -- The request was handled, though its answer is not written.
      | some e =>
        obtain ⟨written, tail, sent, hwrite, hspells, hpart, hprefix⟩ :=
          write_of_some (s := ⟨s.handled ++ [request], s.sent⟩) hfailure
        rw [hwrite]
        refine ⟨[request], written, ⟨by simp, by simp [hclose, hresponse], rfl, ?_,
          ⟨sent, tail, rfl, hspells, hpart⟩, .failed [] rfl rfl hfailure List.nil_prefix⟩⟩
        rwa [answersOf, List.zipWith_cons_cons, List.zipWith_nil_right]
      | none =>
        obtain ⟨wire, hwire, hwrite⟩ :=
          write_of_none (s := ⟨s.handled ++ [request], s.sent⟩) hfailure
        rw [hwrite]
        obtain ⟨requests, written, hserved⟩ :=
          ih c' ⟨s.handled ++ [request], s.sent ++ wire⟩ hsmall'
        rw [hclosed] at hserved
        exact ⟨request :: requests, p.answerTo request :: written,
          hserved.cons hclose hresponse hwire⟩

end Serves

section Peers

variable {net : Net} {calls : List ℕ} {wires : List Bytes}

/-- To answer a request is a move of the peer that has received it. -/
theorem exists_move_of_answer {call : ℕ} {wire : Bytes}
    (hcall : (call, frame) ∈ net.line.written)
    (hwire : encode crc32c (p.answerTo frame) = .ok wire) :
    ∃ net', Move crc32c net net' ∧ net'.line.written = net.line.written ∧
      net'.line.conn = net.line.conn ∧ net'.line.inFlight = net.line.inFlight ++ wire ∧
      net'.line.answers.map Answer.response =
        p.answerTo frame :: net.line.answers.map Answer.response :=
  have hid : (p.answerTo frame).requestId = frame.requestId := rfl
  ⟨_, .answer hcall hid hwire, rfl, rfl, rfl, rfl⟩

theorem exists_moves_of_answers (hanswers : written <+: answersOf passes requests)
    (hwires : List.Forall₂ (fun a wire => encode crc32c a = .ok wire) written wires)
    (hcalls : List.Forall₂ (fun call frame => (call, frame) ∈ net.line.written) calls requests) :
    ∃ net', Moves crc32c net net' ∧ net'.line.conn = net.line.conn ∧
      net'.line.inFlight = net.line.inFlight ++ wires.flatten ∧
      net'.line.answers.map Answer.response =
        written.reverse ++ net.line.answers.map Answer.response := by
  induction hwires generalizing net passes requests calls with
  | nil => exact ⟨net, .refl, rfl, (List.append_nil _).symm, rfl⟩
  | @cons a wire written wires hwire hwires ih =>
    -- An answer that was written is one to a request, in a pass.
    cases hcalls with
    | nil => simp [answersOf] at hanswers
    | @cons call request calls requests hcall hcalls =>
      cases passes with
      | nil => simp [answersOf] at hanswers
      | cons p passes =>
        obtain ⟨rfl, hrest⟩ := List.cons_prefix_cons.1 hanswers
        obtain ⟨net₁, hmove, hwritten₁, hconn₁, hflight₁, hresponses₁⟩ :=
          exists_move_of_answer hcall hwire
        obtain ⟨net', hmoves, hconn, hflight, hresponses⟩ := ih hrest (hwritten₁ ▸ hcalls)
        refine ⟨net', .head hmove hmoves, hconn.trans hconn₁, ?_, ?_⟩
        · rw [hflight, hflight₁, List.append_assoc, List.flatten_cons]
        · rw [hresponses, hresponses₁, List.reverse_cons, List.append_assoc, List.singleton_append]

/-- A server is a peer of its clients: when the requests that it has handled are those that a client
has written, its answers are moves of the peer, and they put in flight all but a part of a last one
of what the server has sent. -/
theorem Served.exists_moves (h : Served crc32c passes arriving ⟨[], []⟩ result s' requests written)
    (hcalls : List.Forall₂ (fun call frame => (call, frame) ∈ net.line.written) calls requests) :
    ∃ net' tail, Moves crc32c net net' ∧ net'.line.conn = net.line.conn ∧
      net.line.inFlight ++ s'.sent = net'.line.inFlight ++ tail ∧ Partial (encode crc32c) tail ∧
      net'.line.answers.map Answer.response =
        written.reverse ++ net.line.answers.map Answer.response := by
  obtain ⟨sent, tail, hsent, ⟨wires, hwires, hstream⟩, hpart⟩ := h.sent
  obtain ⟨net', hmoves, hconn, hflight, hresponses⟩ :=
    exists_moves_of_answers h.answers hwires hcalls
  refine ⟨net', tail, hmoves, hconn, ?_, hpart, hresponses⟩
  rw [hsent, hstream, hflight, List.nil_append, List.append_assoc]

end Peers

/-- Whatever arrives at a server, and however it is cut into segments: the requests at the front are
handled, each once and in their order. A client that reads what was sent gets the answers in the
same order, however they are cut, and then the end of the stream. -/
theorem conversation (crc32c : Bytes → UInt32) (passes : List Pass) (socket : Socket) :
    ∃ requests written, Served crc32c passes
        (deliver (decode crc32c) (ending socket.closed) passes.length socket.coming) ⟨[], []⟩
        (serveConnection crc32c passes (fresh socket) ⟨[], []⟩).1
        (serveConnection crc32c passes (fresh socket) ⟨[], []⟩).2.2 requests written ∧
      ∀ client : Socket,
        client.coming = (serveConnection crc32c passes (fresh socket) ⟨[], []⟩).2.2.sent → ∀ n,
        (fresh client).readFrames crc32c (written.length + n) =
          written.map .ok ++ List.replicate n (.error (ending client.closed)) := by
  obtain ⟨requests, written, hserved⟩ :=
    serves crc32c passes (fresh socket) ⟨[], []⟩ (show 0 < bufferBound by decide)
  refine ⟨requests, written, hserved, fun client hclient n => ?_⟩
  obtain ⟨sent, tail, hsent, hspells, hpart⟩ := hserved.sent
  rw [List.nil_append] at hsent
  rw [hsent] at hclient
  exact readFrames_frames hpart n (reading_fresh (hclient ▸ hspells))

end CheckpointFabric.Server
