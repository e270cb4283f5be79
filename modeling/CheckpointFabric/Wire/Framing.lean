import Mathlib.Data.List.Forall2
import Mathlib.Data.Nat.Notation

/-!
# Frames in a stream

A stream carries frames one after the other. Its reader holds the part that it has received, and
asks a decoder for the frame at the front of it; the decoder says which frame it is and how long,
or that more is needed.

What the reader has received is cut off anywhere: inside a frame, or behind several of them. When
the decoder fits the encoder, the front of it is always the next frame or a part of it.

A stream need not consist of encodings. A decoder that never takes back what it has found in a part
of the stream finds the same frames and the same error in any stream, wherever it is cut off.

## Main definitions

* `Framing` — the decoder fits the encoder
* `Spells` — what the stream consists of
* `Incremental` — the decoder does not take back what it has found
* `deliver` — what is found in a stream that is there as a whole

## Main results

* `Spells.exists_cut` — what a part of the stream consists of
* `Framing.decode_front` — the next frame is decoded, or more of it is to come
* `Framing.decode_rest` — nothing is decoded from a part of a frame
-/

set_option autoImplicit false

namespace Wire

variable {α β ε : Type}

/-- The decoder finds what the encoder wrote, and waits for the rest of a part of it. -/
structure Framing (encode : α → Except ε (List β))
    (decode : List β → Except ε (Option (α × ℕ))) (longest : ℕ) : Prop where
  whole : ∀ a wire rest, encode a = .ok wire → decode (wire ++ rest) = .ok (some (a, wire.length))
  part : ∀ a wire front, encode a = .ok wire → front <+: wire → front ≠ wire →
    decode front = .ok none
  length_le : ∀ a wire, encode a = .ok wire → wire.length ≤ longest

section Spells

variable (encode : α → Except ε (List β))

/-- The stream consists of the encodings of the frames, and a tail. -/
def Spells (frames : List α) (tail stream : List β) : Prop :=
  ∃ wires, List.Forall₂ (fun a wire => encode a = .ok wire) frames wires ∧
    stream = wires.flatten ++ tail

variable {encode}

/-- Another frame at the end of the stream. -/
theorem Spells.concat {frames : List α} {stream wire : List β} {a : α}
    (h : Spells encode frames [] stream) (hwire : encode a = .ok wire) :
    Spells encode (frames ++ [a]) [] (stream ++ wire) := by
  obtain ⟨wires, hwires, rfl⟩ := h
  refine ⟨wires ++ [wire], List.rel_append hwires (.cons hwire .nil), ?_⟩
  simp

/-- More of the stream, which starts with the tail of what there was. -/
theorem Spells.append {frames frames' : List α} {tail tail' stream more : List β}
    (h : Spells encode frames tail stream) (h' : Spells encode frames' tail' (tail ++ more)) :
    Spells encode (frames ++ frames') tail' (stream ++ more) := by
  obtain ⟨wires, hwires, rfl⟩ := h
  obtain ⟨wires', hwires', hmore⟩ := h'
  refine ⟨wires ++ wires', List.rel_append hwires hwires', ?_⟩
  rw [List.append_assoc, hmore, List.flatten_append, List.append_assoc]

variable (encode)

/-- Something of a frame, but not all of it. -/
def Partial (tail : List β) : Prop :=
  ∃ a wire, encode a = .ok wire ∧ tail <+: wire ∧ tail ≠ wire

variable {encode}

/-- A stream that is cut off anywhere: the frames before the cut, and a part of the next one. -/
theorem Spells.exists_cut {frames : List α} {received coming : List β}
    (h : Spells encode frames [] (received ++ coming)) (hempty : Partial encode []) :
    ∃ whole rest tail, frames = whole ++ rest ∧ Spells encode whole tail received ∧
      Partial encode tail ∧ Spells encode rest [] (tail ++ coming) := by
  obtain ⟨wires, hwires, hstream⟩ := h
  rw [List.append_nil] at hstream
  induction hwires generalizing received with
  | nil =>
    obtain ⟨rfl, rfl⟩ := List.append_eq_nil_iff.mp hstream
    exact ⟨[], [], [], rfl, ⟨[], .nil, rfl⟩, hempty, [], .nil, rfl⟩
  | @cons a wire frames wires hwire hwires ih =>
    rw [List.flatten_cons] at hstream
    have hreceived : received <+: wire ++ wires.flatten := ⟨coming, hstream⟩
    by_cases hlength : wire.length ≤ received.length
    · obtain ⟨received', rfl⟩ :=
        List.prefix_of_prefix_length_le (List.prefix_append _ _) hreceived hlength
      rw [List.append_assoc] at hstream
      obtain ⟨whole, rest, tail, rfl, ⟨wires', hwires', hwhole⟩, hpart, hrest⟩ :=
        ih (List.append_cancel_left hstream)
      refine ⟨a :: whole, rest, tail, rfl, ⟨wire :: wires', .cons hwire hwires', ?_⟩, hpart, hrest⟩
      rw [hwhole, List.flatten_cons, List.append_assoc]
    · have hstart : received <+: wire :=
        List.prefix_of_prefix_length_le hreceived (List.prefix_append _ _) (by omega)
      have hne : received ≠ wire := fun heq => hlength (heq ▸ Nat.le_refl _)
      refine ⟨[], a :: frames, received, rfl, ⟨[], .nil, rfl⟩, ⟨a, wire, hwire, hstart, hne⟩,
        wire :: wires, .cons hwire hwires, ?_⟩
      rw [hstream, List.flatten_cons, List.append_nil]

end Spells

namespace Framing

variable {encode : α → Except ε (List β)} {decode : List β → Except ε (Option (α × ℕ))}
  {longest : ℕ} {frames : List α} {tail received coming : List β}

theorem part_of_prefix (h : Framing encode decode longest) {a : α} {wire : List β}
    (hwire : encode a = .ok wire) (hstart : received <+: wire) (hne : received ≠ wire) :
    decode received = .ok none ∧ received.length < longest := by
  refine ⟨h.part a wire received hwire hstart hne, ?_⟩
  have hlength : received.length ≠ wire.length := fun heq => hne (hstart.eq_of_length heq)
  have hle := hstart.length_le
  have hlongest := h.length_le a wire hwire
  omega

/-- What was received starts with the next frame, or is a part of it. -/
theorem decode_front (h : Framing encode decode longest) {a : α}
    (hspells : Spells encode (a :: frames) tail (received ++ coming)) :
    (∃ n, decode received = .ok (some (a, n)) ∧
      Spells encode frames tail (received.drop n ++ coming)) ∨
    (decode received = .ok none ∧ received.length < longest ∧ coming ≠ []) := by
  obtain ⟨wires, hwires, hstream⟩ := hspells
  cases hwires with
  | @cons _ wire _ wires hwire hwires =>
    rw [List.flatten_cons, List.append_assoc] at hstream
    have hreceived : received <+: wire ++ (wires.flatten ++ tail) := ⟨coming, hstream⟩
    by_cases hlength : wire.length ≤ received.length
    · obtain ⟨rest, rfl⟩ :=
        List.prefix_of_prefix_length_le (List.prefix_append _ _) hreceived hlength
      refine .inl ⟨wire.length, h.whole a wire rest hwire, wires, hwires, ?_⟩
      rw [List.drop_left]
      rw [List.append_assoc] at hstream
      exact List.append_cancel_left hstream
    · have hstart : received <+: wire :=
        List.prefix_of_prefix_length_le hreceived (List.prefix_append _ _) (by omega)
      have hne : received ≠ wire := fun heq => hlength (heq ▸ Nat.le_refl _)
      obtain ⟨hdecode, hlt⟩ := h.part_of_prefix hwire hstart hne
      refine .inr ⟨hdecode, hlt, ?_⟩
      rintro rfl
      have htotal := congrArg List.length hstream
      simp only [List.length_append, List.length_nil] at htotal
      omega

/-- After the last frame, what was received is a part of one at most. -/
theorem decode_rest (h : Framing encode decode longest) (hpart : Partial encode tail)
    (hspells : Spells encode [] tail (received ++ coming)) :
    decode received = .ok none ∧ received.length < longest := by
  obtain ⟨wires, hwires, hstream⟩ := hspells
  obtain ⟨a, wire, hwire, hstart, hne⟩ := hpart
  cases hwires
  have hreceived : received <+: tail := ⟨coming, hstream⟩
  refine h.part_of_prefix hwire (hreceived.trans hstart) ?_
  rintro rfl
  exact hne (hstart.eq_of_length_le hreceived.length_le)

end Framing

/-- The decoder does not take back what it has found, and decides on a frame as soon as there is
enough for the longest one. -/
structure Incremental (decode : List β → Except ε (Option (α × ℕ))) (longest : ℕ) : Prop where
  found : ∀ front rest a n, decode front = .ok (some (a, n)) →
    n ≤ front.length ∧ decode (front ++ rest) = .ok (some (a, n))
  refused : ∀ front rest e, decode front = .error e → decode (front ++ rest) = .error e
  short : ∀ front, decode front = .ok none → front.length < longest

section Deliver

variable (decode : List β → Except ε (Option (α × ℕ))) (ending : ε)

/-- What a reader that has the whole stream delivers, one result at a time, when `ending` is how the
stream ends. After an error it stays where it is. -/
def deliver : ℕ → List β → List (Except ε α)
  | 0, _ => []
  | n + 1, stream =>
    match decode stream with
    | .error e => .error e :: deliver n stream
    | .ok none => .error ending :: deliver n stream
    | .ok (some (a, k)) => .ok a :: deliver n (stream.drop k)

variable {decode ending} {longest : ℕ}

theorem deliver_refused (h : Incremental decode longest) {front : List β} {e : ε}
    (hdecode : decode front = .error e) (n : ℕ) (rest : List β) :
    deliver decode ending (n + 1) (front ++ rest) =
      .error e :: deliver decode ending n (front ++ rest) := by
  rw [deliver, h.refused front rest e hdecode]

theorem deliver_found (h : Incremental decode longest) {front : List β} {a : α} {k : ℕ}
    (hdecode : decode front = .ok (some (a, k))) (n : ℕ) (rest : List β) :
    deliver decode ending (n + 1) (front ++ rest) =
      .ok a :: deliver decode ending n (front.drop k ++ rest) := by
  obtain ⟨hle, hmore⟩ := h.found front rest a k hdecode
  rw [deliver, hmore]
  dsimp only
  rw [List.drop_append_of_le_length hle]

theorem deliver_ended {stream : List β} (hdecode : decode stream = .ok none) (n : ℕ) :
    deliver decode ending (n + 1) stream = .error ending :: deliver decode ending n stream := by
  rw [deliver, hdecode]

end Deliver

end Wire
