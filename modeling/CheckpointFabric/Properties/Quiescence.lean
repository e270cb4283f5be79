import CheckpointFabric.Footprints.Quiescence
import CheckpointFabric.Properties.NodeCapture

/-!
# Every quiesced provider is released, unless the resume comes too early

While a provider is quiesced for an attempt, its capture is under way or has recorded the attempt,
and the record is still there or was taken by a message that resumes every provider. So the
providers are released once all messages of the attempt were handled, provided that the record was
looked up after it was made. A resume that comes earlier finds nothing, and nobody repeats it.

## Main definitions

* `OwnMessage`, `LetsGo`, `Stays` — what the run is about: one capture, and its coordinator
* `Processed` — every message of the attempt was answered
* `LookedUp` — a record that was made was looked up later

## Main results

* `released_of_lookedUp` — then no provider stays quiesced
* `left_quiesced` — after an early resume one does
-/

set_option autoImplicit false

namespace CheckpointFabric.Quiescence

open Concurrency System Staging

open Replica (Provider)

section Definitions

variable {codecs : WriteCodecs} {spec : Provider → ProviderSpec} {node : NodeState}
  (a : AttemptId) (c : ℕ) (w : Id)

/-- The messages of the attempt are the capture of its workload, in thread `c`, and the resumes
that its coordinator sends. -/
def OwnMessage : Event (sources codecs spec node) → Prop
  | .admitted tid (.capture req) _ => req.attemptId = a → tid = c ∧ req.workloadId = w
  | .admitted _ (.resume req) _ => req.attemptId = a →
    req.workloadId = w ∧ req.fenceToken = none ∧ req.executionEpoch = none ∧ req.resume = true
  | _ => True

/-- No provider fails to let go of the attempt. -/
def LetsGo : Event (sources codecs spec node) → Prop
  | .performed _ (.inl (.abortCapture p ctx)) input _ =>
    ctx.attemptId = a → (input (.inl (.abortCapture p ctx))).isOk = true
  | .performed _ (.inr (.resumeSource p ctx)) input _ =>
    ctx.attemptId = a → (input (.inr (.resumeSource p ctx))).isOk = true
  | _ => True

/-- The providers of the workload stay the same once thread `c` was admitted. -/
def Stays (e : Event (sources codecs spec node)) (past : List (Event (sources codecs spec node))) :
    Prop :=
  match e with
  | .moved m _ => m.workloadId = w → admissions past ≤ c
  | _ => True

/-- The thread that has to answer a message of the attempt. -/
def awaited : Event (sources codecs spec node) → Option ℕ
  | .admitted tid (.capture req) _ => if req.attemptId = a then some tid else none
  | .admitted tid (.resume req) _ => if req.attemptId = a then some tid else none
  | _ => none

def Answers (tid : ℕ) : Event (sources codecs spec node) → Prop
  | .answered tid' _ _ => tid' = tid
  | _ => False

/-- Every message of the attempt was answered. -/
def Processed (t : List (Event (sources codecs spec node))) : Prop :=
  ∀ e ∈ t, ∀ tid ∈ awaited a e, ∃ e' ∈ t, Answers tid e'

/-- The capture records the attempt. -/
def Inserts : Event (sources codecs spec node) → Prop
  | .performed _ (.inl (.insertQuiesced attemptId _)) _ _ => attemptId = a
  | _ => False

/-- A resume looks the record of the attempt up, and takes it. -/
def LooksUp : Event (sources codecs spec node) → Prop
  | .performed _ (.inr (.takeQuiesced attemptId)) _ _ => attemptId = a
  | _ => False

/-- Whenever the attempt was recorded, its record was looked up later. -/
def LookedUp : List (Event (sources codecs spec node)) → Prop
  | [] => True
  | e :: t => LooksUp a e ∨ ¬ Inserts a e ∧ LookedUp t

instance (e : Event (sources codecs spec node)) : Decidable (OwnMessage a c w e) := by
  unfold OwnMessage
  split <;> infer_instance

instance (e : Event (sources codecs spec node)) : Decidable (LetsGo a e) := by
  unfold LetsGo
  split <;> infer_instance

instance (e : Event (sources codecs spec node)) (past : List (Event (sources codecs spec node))) :
    Decidable (Stays c w e past) := by
  unfold Stays
  split <;> infer_instance

instance (tid : ℕ) (e : Event (sources codecs spec node)) : Decidable (Answers tid e) := by
  unfold Answers
  split <;> infer_instance

instance (t : List (Event (sources codecs spec node))) : Decidable (Processed a t) := by
  unfold Processed
  infer_instance

instance (e : Event (sources codecs spec node)) : Decidable (Inserts a e) := by
  unfold Inserts
  split <;> infer_instance

instance (e : Event (sources codecs spec node)) : Decidable (LooksUp a e) := by
  unfold LooksUp
  split <;> infer_instance

instance decidableLookedUp : (t : List (Event (sources codecs spec node))) →
    Decidable (LookedUp a t)
  | [] => isTrue trivial
  | e :: t =>
    have := decidableLookedUp t
    inferInstanceAs (Decidable (LooksUp a e ∨ ¬ Inserts a e ∧ LookedUp a t))

end Definitions

section Sources

variable {s : Sources} {a : AttemptId} {p : Provider} {op : nodeInterface.Op}
  {reply : Except FabricError (nodeInterface.Reply op)}

theorem notMem_release : (a, p) ∉ (s.release a p).quiesced := by
  simp [Sources.release]

theorem Sources.mem_of_mem_release {a' : AttemptId} {p' : Provider}
    (h : (a, p) ∈ (s.release a' p').quiesced) : (a, p) ∈ s.quiesced := by
  exact (List.mem_filter.mp h).1

/-- Only a call that was answered well quiesces. -/
theorem quiesced_handle (h : (a, p) ∈ (handle op reply s).2.quiesced) : (a, p) ∈ s.quiesced ∨
    ∃ ctx, ctx.attemptId = a ∧ op = .inl (.quiesce p ctx) ∧ (handle op reply s).1.isOk = true := by
  cases op with
  | inl op =>
    cases op with
    | quiesce p' ctx =>
      simp only [handle] at h ⊢
      split at h
      · rename_i hok
        rcases List.mem_cons.mp h with heq | h
        · obtain ⟨rfl, rfl⟩ := Prod.mk.inj heq
          exact .inr ⟨ctx, rfl, rfl, hok⟩
        · exact .inl h
      · exact .inl h
    | abortCapture p' ctx =>
      simp only [handle] at h
      split at h
      · exact .inl (Sources.mem_of_mem_release h)
      · exact .inl h
    | _ => exact .inl h
  | inr op =>
    cases op with
    | resumeSource p' ctx =>
      simp only [handle] at h
      split at h
      · exact .inl (Sources.mem_of_mem_release h)
      · exact .inl h
    | _ => exact .inl h

/-- The attempt is recorded. -/
def Sources.Records (s : Sources) (a : AttemptId) : Prop := ∃ w, (a, w) ∈ s.quiescedCaptures

theorem Sources.records_of_lookup {w : Id} (h : s.quiescedCaptures.lookup a = some w) :
    s.Records a := by
  obtain ⟨l₁, l₂, heq, -⟩ := List.lookup_eq_some_iff.mp h
  exact ⟨w, by simp [heq]⟩

theorem Sources.Records.lookup (h : s.Records a) : ∃ w, s.quiescedCaptures.lookup a = some w := by
  obtain ⟨w, hmem⟩ := h
  rw [← Option.isSome_iff_exists, List.lookup_isSome_iff]
  exact ⟨(a, w), hmem, by simp⟩

/-- A record is made by a capture, and goes when it is taken. -/
theorem records_handle : (handle op reply s).2.Records a ↔
    (∃ w, op = .inl (.insertQuiesced a w)) ∨ op ≠ .inr (.takeQuiesced a) ∧ s.Records a := by
  cases op with
  | inl op =>
    cases op with
    | insertQuiesced a' w =>
      by_cases ha : a' = a
      · subst ha
        simp [handle, Sources.Records]
      · simp [handle, Sources.Records, ha, Ne.symm ha]
    | quiesce p' ctx =>
      simp only [handle]
      split <;> simp [Sources.Records]
    | abortCapture p' ctx =>
      simp only [handle]
      split <;> simp [Sources.Records, Sources.release]
    | _ => simp [handle]
  | inr op =>
    cases op with
    | takeQuiesced a' =>
      by_cases ha : a' = a
      · subst ha
        simp [handle, Sources.Records]
      · simp [handle, Sources.Records, ha, Ne.symm ha]
    | resumeSource p' ctx =>
      simp only [handle]
      split <;> simp [Sources.Records, Sources.release]
    | _ => simp [handle]

theorem registry_handle : (handle op reply s).2.registry = s.registry := by
  cases op with
  | inl op =>
    cases op with
    | quiesce p' ctx => simp only [handle]; split <;> rfl
    | abortCapture p' ctx => simp only [handle]; split <;> rfl
    | _ => rfl
  | inr op =>
    cases op with
    | resumeSource p' ctx => simp only [handle]; split <;> rfl
    | _ => rfl

/-- The providers of another workload come and go. -/
theorem registry_move {m : Move} {w : Id} {id : String} (h : m.workloadId ≠ w) :
    (Sources.move m s).registry.lookup (w, id) = s.registry.lookup (w, id) := by
  cases m with
  | register w' id' p =>
    have hne : ((w, id) == (w', id')) = false := by
      simpa using fun heq => absurd heq.symm h
    have hkept : (w, id) ≠ (w', id') := by simpa using hne
    rw [Sources.move, List.lookup_cons, hne]
    refine (lookup_filter_fst (fun key => key ≠ (w', id')) s.registry).trans ?_
    simp only [hkept, ne_eq, not_false_eq_true, decide_true, if_true]
  | removeWorkload w' =>
    have hkept : w ≠ w' := Ne.symm h
    refine (lookup_filter_fst (fun key => key.1 ≠ w') s.registry).trans ?_
    simp only [hkept, ne_eq, not_false_eq_true, decide_true, if_true]

/-- A component that has a provider is listed. -/
theorem mem_componentsOf {w : Id} {id : String} (h : s.registry.lookup (w, id) = some p) :
    id ∈ s.componentsOf w := by
  obtain ⟨l₁, l₂, heq, -⟩ := List.lookup_eq_some_iff.mp h
  rw [Sources.componentsOf, List.mem_insertionSort, heq]
  simp

end Sources

section Runs

variable {codecs : WriteCodecs} {spec : Provider → ProviderSpec} {node : NodeState}
  {t t' : List (Event (sources codecs spec node))} {e : Event (sources codecs spec node)}
  {a : AttemptId} {c tid : ℕ} {w : Id} {p : Provider}

theorem mem_deeds_cons {d : NodeDeed} (h : d ∈ deeds tid (e :: t)) : d ∈ deeds tid t ∨
    ∃ input before, e = .performed tid d.op input before ∧
      d.reply = (handle d.op (input d.op) before).1 := by
  cases e with
  | performed tid' op input before =>
    simp only [deeds] at h
    split at h
    · rename_i htid
      subst htid
      rcases List.mem_cons.mp h with rfl | h
      · exact .inr ⟨input, before, rfl, rfl⟩
      · exact .inl h
    · exact .inl h
  | _ => exact .inl h

/-- A deed was done at some event, in the state before it. -/
theorem exists_performed_of_mem {d : NodeDeed} (hrun : Run t) (h : d ∈ deeds tid t) :
    ∃ input t', .performed tid d.op input (stateOf t') :: t' <:+ t ∧
      d.reply = (handle d.op (input d.op) (stateOf t')).1 := by
  obtain ⟨recent, older, heq⟩ := List.append_of_mem h
  have hdone : d :: older <:+ deeds tid t := ⟨recent, heq.symm⟩
  obtain ⟨input, t', hsuffix, -, hreply⟩ := exists_event_of_deed hrun hdone
  exact ⟨input, t', hsuffix, hreply⟩

theorem permits_of_performed {op : nodeInterface.Op}
    {input : ∀ op : nodeInterface.Op, Except FabricError (nodeInterface.Reply op)} {before : Sources}
    (h : Run (S := sources codecs spec node) (.performed tid op input before :: t)) :
    ∃ request, requestOf tid t = some request ∧ Permits (deeds tid t) op request := by
  obtain ⟨request, hrequest, hpermits⟩ := h.permitted obeys_serve
  exact ⟨request, hrequest, hpermits⟩

/-- A provider is quiesced by a call. -/
theorem quiesced_step (hrun : Run (e :: t)) (h : (a, p) ∈ (after e).quiesced) :
    (a, p) ∈ (stateOf t).quiesced ∨ ∃ tid ctx input, ctx.attemptId = a ∧
      e = .performed tid (.inl (.quiesce p ctx)) input (stateOf t) ∧
      ∃ outcome, input (.inl (.quiesce p ctx)) = .ok outcome := by
  cases hrun with
  | @perform _ tid _ op _ input _ _ _ _ =>
    rcases quiesced_handle h with h | ⟨ctx, hctx, rfl, hok⟩
    · exact .inl h
    · refine .inr ⟨tid, ctx, input, hctx, rfl, ?_⟩
      change (input (.inl (.quiesce p ctx))).isOk = true at hok
      cases hreply : input (.inl (.quiesce p ctx)) with
      | ok outcome => exact ⟨outcome, rfl⟩
      | error e => simp [hreply, Except.isOk, Except.toBool] at hok
  | restart _ => exact absurd h List.not_mem_nil
  | move m _ =>
    refine .inl ?_
    cases m <;> exact h
  | accept request _ => exact .inl h
  | answer _ _ _ _ => exact .inl h

/-- The run is about one capture, and goes as its messages expect. -/
structure Course (a : AttemptId) (c : ℕ) (w : Id) (t : List (Event (sources codecs spec node))) :
    Prop where
  run : Run t
  own : ∀ e ∈ t, OwnMessage a c w e
  letsGo : ∀ e ∈ t, LetsGo a e
  stays : EveryStep (Stays c w) t

theorem Course.of_suffix (h : Course a c w t) (hsuffix : t' <:+ t) : Course a c w t' where
  run := h.run.of_suffix hsuffix
  own e he := h.own e (hsuffix.subset he)
  letsGo e he := h.letsGo e (hsuffix.subset he)
  stays := h.stays.of_suffix hsuffix

theorem Course.tail (h : Course a c w (e :: t)) : Course a c w t :=
  h.of_suffix (List.suffix_cons e t)

/-- The thread has begun to let go of what it has quiesced, or has recorded the attempt. -/
def Ends : nodeInterface.Op → Prop
  | .inl op => EndsCapture op
  | .inr _ => False

/-- The capture has recorded its attempt. -/
def Inserted (a : AttemptId) (ds : List NodeDeed) : Prop :=
  ∃ w reply, ⟨.inl (.insertQuiesced a w), reply⟩ ∈ ds

theorem Course.capture_own {req : NodeCaptureRequest} (h : Course a c w t)
    (hrequest : requestOf tid t = some (.capture req)) (ha : req.attemptId = a) :
    tid = c ∧ req.workloadId = w := by
  obtain ⟨before, hmem⟩ := exists_admitted_of_requestOf hrequest
  exact h.own _ hmem ha

theorem Course.resume_own {req : NodeResumeRequest} (h : Course a c w t)
    (hrequest : requestOf tid t = some (.resume req)) (ha : req.attemptId = a) :
    req.workloadId = w ∧ req.fenceToken = none ∧ req.executionEpoch = none ∧ req.resume = true := by
  obtain ⟨before, hmem⟩ := exists_admitted_of_requestOf hrequest
  exact h.own _ hmem ha

section Events

variable {ctx : CaptureContext} {before : Sources}
  {input : ∀ op : nodeInterface.Op, Except FabricError (nodeInterface.Reply op)}

/-- The attempt is quiesced by its capture, which has found the provider and has not ended. -/
theorem Course.of_quiesce (h : Course a c w (.performed tid (.inl (.quiesce p ctx)) input before :: t))
    (hctx : ctx.attemptId = a) : tid = c ∧ (∀ d ∈ deeds c t, ¬ Ends d.op) ∧
      (∃ id, ⟨.inl (.providerGet w id), .ok (some p)⟩ ∈ deeds c t) ∧
      ∃ req, requestOf c t = some (.capture req) ∧ req.attemptId = a := by
  obtain ⟨request, hrequest, hpermits⟩ := permits_of_performed h.run
  cases request with
  | capture req =>
    obtain ⟨ds₀, op₀, hds, hop, hpermits⟩ := hpermits
    obtain rfl := Sum.inl.inj hop
    obtain ⟨hattempt, ⟨id, hfound⟩, hunended⟩ := hpermits
    obtain ⟨rfl, rfl⟩ := h.tail.capture_own hrequest (hattempt.symm.trans hctx)
    refine ⟨rfl, fun d hd => ?_, ⟨id, ?_⟩, req, hrequest, hattempt.symm.trans hctx⟩
    · rw [hds] at hd
      obtain ⟨d₀, hd₀, rfl⟩ := List.mem_map.mp hd
      exact hunended d₀ hd₀
    · rw [hds]
      exact List.mem_map_of_mem hfound
  | resume req => exact absurd hpermits not_false
  | cleanup req => exact absurd hpermits not_false

/-- The attempt is recorded by its capture. -/
theorem Course.of_insert {w' : Id}
    (h : Course a c w (.performed tid (.inl (.insertQuiesced a w')) input before :: t)) : tid = c := by
  obtain ⟨request, hrequest, hpermits⟩ := permits_of_performed h.run
  cases request with
  | capture req =>
    obtain ⟨ds₀, op₀, hds, hop, hpermits⟩ := hpermits
    obtain rfl := Sum.inl.inj hop
    exact (h.tail.capture_own hrequest hpermits.symm).1
  | resume req => exact absurd hpermits not_false
  | cleanup req => exact absurd hpermits not_false

/-- The record of the attempt is taken by a resume of its coordinator. -/
theorem Course.of_take
    (h : Course a c w (.performed tid (.inr (.takeQuiesced a)) input before :: t)) :
    ∃ req, requestOf tid t = some (.resume req) ∧ req.attemptId = a := by
  obtain ⟨request, hrequest, hpermits⟩ := permits_of_performed h.run
  cases request with
  | capture req =>
    obtain ⟨ds₀, op₀, -, hop, -⟩ := hpermits
    exact absurd hop (by simp)
  | resume req => exact ⟨req, hrequest, hpermits.symm⟩
  | cleanup req => exact absurd hpermits not_false

end Events

/-- What is quiesced was quiesced by the capture, which has not aborted it. -/
theorem Course.begun (h : Course a c w t) (hquiesced : (a, p) ∈ (stateOf t).quiesced) :
    (∃ ctx outcome, ctx.attemptId = a ∧
        ⟨.inl (.quiesce p ctx), .ok outcome⟩ ∈ deeds c t) ∧
      ∀ ctx reply, ctx.attemptId = a → ⟨.inl (.abortCapture p ctx), reply⟩ ∉ deeds c t := by
  induction t with
  | nil => exact absurd hquiesced List.not_mem_nil
  | cons e t ih =>
    rcases quiesced_step h.run hquiesced with hbefore | ⟨tid, ctx, input, hctx, rfl, outcome, hok⟩
    · obtain ⟨⟨ctx, outcome, hctx, hmem⟩, hunaborted⟩ := ih h.tail hbefore
      refine ⟨⟨ctx, outcome, hctx, (deeds_suffix (List.suffix_cons e t)).subset hmem⟩, ?_⟩
      intro ctx' reply hctx' habort
      rcases mem_deeds_cons habort with habort | ⟨input, before, rfl, hreply⟩
      · exact hunaborted ctx' reply hctx' habort
      · -- The abort has let go of the provider.
        have hok := h.letsGo _ (.head _) hctx'
        rw [stateOf_cons, after] at hquiesced
        simp only [handle] at hquiesced
        rw [if_pos hok, hctx'] at hquiesced
        exact notMem_release hquiesced
    · obtain ⟨rfl, hunended, -⟩ := h.of_quiesce hctx
      refine ⟨⟨ctx, outcome, hctx, ?_⟩, fun ctx' reply hctx' habort => ?_⟩
      · rw [deeds_performed]
        exact List.mem_cons.mpr (.inl (congrArg (Deed.mk _) hok.symm))
      · rcases mem_deeds_cons habort with habort | ⟨input', before, heq, -⟩
        · exact hunended _ habort trivial
        · cases heq

/-- A record was just made, or it was there and is not taken. -/
theorem records_step (hrun : Run (e :: t)) (h : (after e).Records a) :
    (∃ tid w' input, e = .performed tid (.inl (.insertQuiesced a w')) input (stateOf t)) ∨
      ¬ LooksUp a e ∧ (stateOf t).Records a := by
  cases hrun with
  | @perform _ tid _ op _ input _ _ _ _ =>
    rcases records_handle.mp h with ⟨w', rfl⟩ | ⟨hop, h⟩
    · exact .inl ⟨tid, w', input, rfl⟩
    · refine .inr ⟨fun hlooks => ?_, h⟩
      unfold LooksUp at hlooks
      split at hlooks
      · rename_i heq
        injection heq with _ hop'
        exact hop (hlooks ▸ hop')
      · exact hlooks
  | restart _ => exact absurd h (by simp [after, Sources.Records])
  | move m _ =>
    refine .inr ⟨not_false, ?_⟩
    cases m <;> exact h
  | accept request _ => exact .inr ⟨not_false, h⟩
  | answer _ _ _ _ => exact .inr ⟨not_false, h⟩

/-- A record was made by the capture. -/
theorem Course.inserted (h : Course a c w t) (hrecords : (stateOf t).Records a) :
    Inserted a (deeds c t) := by
  induction t with
  | nil => exact absurd hrecords (by simp [Sources.Records])
  | cons e t ih =>
    rcases records_step h.run hrecords with ⟨tid, w', input, rfl⟩ | ⟨-, hbefore⟩
    · obtain rfl := h.of_insert
      rw [deeds_performed]
      exact ⟨w', _, .head _⟩
    · obtain ⟨w', reply, hmem⟩ := ih h.tail hbefore
      exact ⟨w', reply, (deeds_suffix (List.suffix_cons e t)).subset hmem⟩

/-- When the record was looked up last, it is gone. -/
theorem not_records_of_lookedUp (hrun : Run t) (hlooked : LookedUp a t) :
    ¬ (stateOf t).Records a := by
  intro hrecords
  induction t with
  | nil => exact absurd hrecords (by simp [Sources.Records])
  | cons e t ih =>
    rcases records_step hrun hrecords with ⟨tid, w', input, rfl⟩ | ⟨hnot, hbefore⟩
    · exact (hlooked.resolve_left not_false).1 rfl
    · exact ih hrun.tail (hlooked.resolve_left hnot).2 hbefore

/-- The record of a quiesced attempt stays until a message takes it. -/
theorem Course.recorded_or_took (h : Course a c w t) (hquiesced : (a, p) ∈ (stateOf t).quiesced)
    (hinserted : Inserted a (deeds c t)) :
    (stateOf t).Records a ∨ ∃ tid, TookRecord a (deeds tid t) := by
  induction t with
  | nil => exact absurd hquiesced List.not_mem_nil
  | cons e t ih =>
    have htook (htook : ∃ tid, TookRecord a (deeds tid t)) :
        ∃ tid, TookRecord a (deeds tid (e :: t)) := by
      obtain ⟨tid, w', hmem⟩ := htook
      exact ⟨tid, w', (deeds_suffix (List.suffix_cons e t)).subset hmem⟩
    rcases quiesced_step h.run hquiesced with hbefore | ⟨tid, ctx, input, hctx, rfl, outcome, hok⟩
    · obtain ⟨w', reply, hmem⟩ := hinserted
      rcases mem_deeds_cons hmem with hmem | ⟨input, before, rfl, -⟩
      · have hcourse := h
        have hpast := ih h.tail hbefore ⟨w', reply, hmem⟩
        cases h.run with
        | @perform _ tid _ op _ input _ _ _ _ =>
          by_cases hop : op = .inr (.takeQuiesced a)
          · subst hop
            rcases hpast with hrecords | hpast
            · obtain ⟨w'', hlookup⟩ := hrecords.lookup
              refine .inr ⟨tid, w'', ?_⟩
              rw [deeds_performed]
              exact List.mem_cons.mpr (.inl (congrArg (Deed.mk _) (congrArg Except.ok hlookup.symm)))
            · exact .inr (htook hpast)
          · rcases hpast with hrecords | hpast
            · exact .inl (records_handle.mpr (.inr ⟨hop, hrecords⟩))
            · exact .inr (htook hpast)
        | restart _ => exact absurd hquiesced List.not_mem_nil
        | move m _ =>
          refine hpast.imp (fun hrecords => ?_) htook
          cases m <;> exact hrecords
        | accept request _ => exact hpast.imp id htook
        | answer _ _ _ _ => exact hpast.imp id htook
      · exact .inl ((@records_handle before a _ (input _)).mpr (.inl ⟨w', rfl⟩))
    · obtain ⟨rfl, hunended, -⟩ := h.of_quiesce hctx
      obtain ⟨w', reply, hmem⟩ := hinserted
      rcases mem_deeds_cons hmem with hmem | ⟨input', before, heq, -⟩
      · exact absurd trivial (hunended _ hmem)
      · cases heq

/-- The provider that the capture has found stays the one of the component. -/
theorem Course.registered {id : String} (h : Course a c w t)
    (hheld : Live c t ∨ (a, p) ∈ (stateOf t).quiesced)
    (hfound : ⟨.inl (.providerGet w id), .ok (some p)⟩ ∈ deeds c t) :
    (stateOf t).registry.lookup (w, id) = some p := by
  induction t with
  | nil => exact absurd hfound List.not_mem_nil
  | cons e t ih =>
    rcases mem_deeds_cons hfound with hfound | ⟨input, before, rfl, hreply⟩
    · have hadmitted := lt_admissions_of_mem_deeds h.tail.run hfound
      have hbefore : Live c t ∨ (a, p) ∈ (stateOf t).quiesced := by
        rcases hheld with hlive | hquiesced
        · exact .inl (hlive.of_suffix h.run (List.suffix_cons e t) hadmitted)
        · rcases quiesced_step h.run hquiesced with hquiesced | ⟨tid, ctx, input, hctx, rfl, -⟩
          · exact .inr hquiesced
          · obtain ⟨rfl, -⟩ := h.of_quiesce hctx
            exact .inl h.run.live
      have hpast := ih h.tail hbefore hfound
      have hstays := h.stays e t (List.suffix_refl _)
      cases h.run with
      | perform input _ _ _ _ =>
        exact (congrArg (List.lookup (w, id)) registry_handle).trans hpast
      | restart _ => exact absurd hheld (by simp [Live, stateOf, after])
      | move m _ =>
        have hm : m.workloadId ≠ w := fun heq => absurd (hstays heq) (by omega)
        exact (registry_move hm).trans hpast
      | accept request _ => exact hpast
      | answer _ _ _ _ => exact hpast
    · exact Except.ok.inj hreply.symm

/-- Once the capture has recorded its attempt, what was let go stays so. -/
theorem Course.stays_released (h : Course a c w t) (hsuffix : t' <:+ t)
    (hinserted : Inserted a (deeds c t')) (hreleased : (a, p) ∉ (stateOf t').quiesced) :
    (a, p) ∉ (stateOf t).quiesced := by
  refine suffix_induction (P := fun past : List (Event (sources codecs spec node)) =>
    (a, p) ∉ (stateOf past).quiesced) hsuffix hreleased
    fun e past hpast hlater ih hquiesced => ?_
  have hcourse := h.of_suffix hlater
  rcases quiesced_step hcourse.run hquiesced with hbefore | ⟨tid, ctx, input, hctx, rfl, -⟩
  · exact ih hbefore
  · obtain ⟨rfl, hunended, -⟩ := hcourse.of_quiesce hctx
    obtain ⟨w', reply, hmem⟩ := hinserted
    exact hunended _ ((deeds_suffix hpast).subset hmem) trivial

/-- The text of a message of the attempt was followed to its end. -/
theorem concluded_of_processed {request : Request} (hrun : Run t) (hprocessed : Processed a t)
    (hrequest : requestOf tid t = some request)
    (hawaited : ∀ before, awaited a (.admitted tid request before : Event (sources codecs spec node)) =
      some tid) :
    Concludes (deeds tid t) request := by
  obtain ⟨before, hadmitted⟩ := exists_admitted_of_requestOf hrequest
  obtain ⟨e, he, hanswers⟩ := hprocessed _ hadmitted tid (hawaited before)
  obtain ⟨recent, past, rfl⟩ := List.append_of_mem he
  have hsuffix := List.suffix_append recent (e :: past)
  cases e with
  | answered tid' result before' =>
    obtain rfl : tid' = tid := hanswers
    have hanswered := hrun.of_suffix hsuffix
    have hlive : Live tid' past := by
      cases hanswered with
      | answer _ hlive _ _ => exact hlive
    have hlt := lt_admissions_of_live hanswered.tail hlive
    have hdeeds : deeds tid' (recent ++ .answered tid' result before' :: past) =
        deeds tid' (.answered tid' result before' :: past) :=
      deeds_eq_of_not_live hrun hsuffix hlt fun hlive => hlive.1 rfl
    obtain ⟨request', hrequest', hconclude⟩ := hanswered.concluded obeys_serve
    have hsame := requestOf_of_suffix hrun ((List.suffix_cons _ past).trans hsuffix) hlt
    obtain rfl := Option.some.inj (hrequest'.symm.trans (hsame.symm.trans hrequest))
    exact hdeeds ▸ hconclude
  | _ => exact absurd hanswers not_false

/-- A record that was taken had been made. -/
theorem Course.inserted_of_took (h : Course a c w t) (htook : TookRecord a (deeds tid t)) :
    Inserted a (deeds c t) ∧ ∃ req, requestOf tid t = some (.resume req) ∧ req.attemptId = a := by
  obtain ⟨w', hmem⟩ := htook
  obtain ⟨input, t', hsuffix, hreply⟩ := exists_performed_of_mem h.run hmem
  have hcourse := h.of_suffix hsuffix
  have hpast := (List.suffix_cons _ t').trans hsuffix
  constructor
  · obtain ⟨w'', reply, hinserted⟩ :=
      hcourse.tail.inserted (Sources.records_of_lookup (Except.ok.inj hreply).symm)
    exact ⟨w'', reply, (deeds_suffix hpast).subset hinserted⟩
  · obtain ⟨req, hrequest, hattempt⟩ := hcourse.of_take
    have hlt := lt_admissions_of_live hcourse.tail.run hcourse.run.live
    exact ⟨req, (requestOf_of_suffix h.run hpast hlt).trans hrequest, hattempt⟩

/-- What a resume of the attempt does comes after the record. -/
theorem Course.inserted_of_entitled {req : NodeResumeRequest} {d : NodeDeed} (h : Course a c w t)
    (hrequest : requestOf tid t = some (.resume req)) (hattempt : req.attemptId = a)
    (hd : d ∈ deeds tid t) (hentitled : ∀ ds, ResumePermits req ds d.op → Entitled req ds) :
    ∃ input t', .performed tid d.op input (stateOf t') :: t' <:+ t ∧
      d.reply = (handle d.op (input d.op) (stateOf t')).1 ∧ Inserted a (deeds c t') := by
  obtain ⟨input, t', hsuffix, hreply⟩ := exists_performed_of_mem h.run hd
  have hcourse := h.of_suffix hsuffix
  have hlt := lt_admissions_of_live hcourse.tail.run hcourse.run.live
  obtain ⟨request, hrequest', hpermits⟩ := permits_of_performed hcourse.run
  have hsame := requestOf_of_suffix h.run ((List.suffix_cons _ t').trans hsuffix) hlt
  obtain rfl := Option.some.inj (hrequest'.symm.trans (hsame.symm.trans hrequest))
  have htook := hentitled _ hpermits (h.resume_own hrequest hattempt).2.1
  exact ⟨input, t', hsuffix, hreply, (hcourse.tail.inserted_of_took (hattempt ▸ htook)).1⟩

/-- A call that was answered has resumed the provider. -/
theorem Course.released_of_resume {ctx : CaptureContext} {before : Sources}
    {input : ∀ op : nodeInterface.Op, Except FabricError (nodeInterface.Reply op)}
    (h : Course a c w (.performed tid (.inr (.resumeSource p ctx)) input before :: t))
    (hctx : ctx.attemptId = a) : (a, p) ∉ (stateOf (S := sources codecs spec node)
      (.performed tid (.inr (.resumeSource p ctx)) input before :: t)).quiesced := by
  have hok := h.letsGo _ (.head _) hctx
  rw [stateOf_cons, after]
  simp only [handle]
  rw [if_pos hok, hctx]
  exact notMem_release

/-- Once every message of the attempt was handled, no provider is quiesced for it any more, if its
record was looked up after the capture had made it. -/
theorem released_of_lookedUp (hrun : Run t) (hown : ∀ e ∈ t, OwnMessage a c w e)
    (hletsGo : ∀ e ∈ t, LetsGo a e) (hstays : EveryStep (Stays c w) t)
    (hprocessed : Processed a t) (hlooked : LookedUp a t) :
    ∀ p, (a, p) ∉ (stateOf t).quiesced := by
  intro p hquiesced
  have h : Course a c w t := ⟨hrun, hown, hletsGo, hstays⟩
  obtain ⟨⟨ctx, outcome, hctx, hquiesce⟩, hunaborted⟩ := h.begun hquiesced
  obtain ⟨input₁, t₁, hsuffix₁, -⟩ := exists_performed_of_mem hrun hquiesce
  have hcourse₁ := h.of_suffix hsuffix₁
  have hpast₁ := (List.suffix_cons _ t₁).trans hsuffix₁
  obtain ⟨-, hunended, ⟨id, hfound⟩, req, hrequest₁, hattempt⟩ := hcourse₁.of_quiesce hctx
  have hrequest : requestOf c t = some (.capture req) :=
    (requestOf_of_suffix hrun hpast₁ (lt_admissions_of_live hcourse₁.tail.run
      hcourse₁.run.live)).trans hrequest₁
  -- While the provider stays quiesced after the record, it stays the one of its component.
  have hlookup : ∀ t', t' <:+ t → Inserted a (deeds c t') →
      (stateOf t').registry.lookup (w, id) = some p := by
    intro t' hsuffix hinserted
    have hcourse := h.of_suffix hsuffix
    refine hcourse.registered (.inr ?_) ?_
    · by_contra hreleased
      exact h.stays_released hsuffix hinserted hreleased hquiesced
    · rcases List.suffix_or_suffix_of_suffix hpast₁ hsuffix with hlater | hearlier
      · exact (deeds_suffix hlater).subset hfound
      · obtain ⟨w', reply, hmem⟩ := hinserted
        exact absurd trivial (hunended _ ((deeds_suffix hearlier).subset hmem))
  obtain ⟨ds, hds, hconclude⟩ := concluded_of_processed hrun hprocessed hrequest fun _ => by
    simp [awaited, hattempt]
  rcases hconclude with ⟨reply, hrecorded⟩ | haborted
  · -- The capture has recorded the attempt, and a message has taken the record.
    have hinserted : Inserted a (deeds c t) := by
      refine ⟨req.workloadId, reply, ?_⟩
      rw [hds, ← hattempt]
      exact mem_map_inl.mpr hrecorded
    rcases h.recorded_or_took hquiesced hinserted with hrecords | ⟨tid, htook⟩
    · exact not_records_of_lookedUp hrun hlooked hrecords
    obtain ⟨-, req', hrequest', hattempt'⟩ := h.inserted_of_took htook
    obtain ⟨hw, htoken, -, hresume⟩ := h.resume_own hrequest' hattempt'
    have hconclude := concluded_of_processed hrun hprocessed hrequest' fun _ => by
      simp [awaited, hattempt']
    rcases hconclude htoken hresume (hattempt' ▸ htook) with hfailed | ⟨ids, hids, hserved⟩
    · rcases hfailed with ⟨w', e, hmem⟩ | ⟨w', id', e, hmem⟩
      · obtain ⟨input, t', -, hreply⟩ := exists_performed_of_mem hrun hmem
        exact absurd hreply (by simp [handle])
      · obtain ⟨input, t', -, hreply⟩ := exists_performed_of_mem hrun hmem
        exact absurd hreply (by simp [handle])
    · rw [hw] at hids
      obtain ⟨input₂, t₂, hsuffix₂, hreply₂, hinserted₂⟩ :=
        h.inserted_of_entitled hrequest' hattempt' hids fun _ h => h
      have hid : id ∈ ids := by
        rw [Except.ok.inj hreply₂]
        exact mem_componentsOf (hlookup t₂ ((List.suffix_cons _ t₂).trans hsuffix₂) hinserted₂)
      obtain ⟨found, hget, hresumed⟩ := hserved id hid
      rw [hw] at hget
      obtain ⟨input₃, t₃, hsuffix₃, hreply₃, hinserted₃⟩ :=
        h.inserted_of_entitled hrequest' hattempt' hget fun _ h => h
      have hp : found = some p := (Except.ok.inj hreply₃).trans
        (hlookup t₃ ((List.suffix_cons _ t₃).trans hsuffix₃) hinserted₃)
      obtain ⟨reply, hdeed⟩ := hresumed p hp
      obtain ⟨input₄, t₄, hsuffix₄, -, hinserted₄⟩ :=
        h.inserted_of_entitled hrequest' hattempt' hdeed fun _ h => h.2
      have hgone := (h.of_suffix hsuffix₄).released_of_resume hattempt'
      obtain ⟨w', reply', hmem⟩ := hinserted₄
      exact h.stays_released hsuffix₄
        ⟨w', reply', (deeds_suffix (List.suffix_cons _ t₄)).subset hmem⟩ hgone hquiesced
  · -- The capture has aborted every provider that it had quiesced.
    rw [hds] at hquiesce hunaborted
    obtain ⟨ctx', reply, hctx', habort⟩ := haborted p ctx outcome (mem_map_inl.mp hquiesce)
    exact hunaborted ctx' reply (hctx'.trans hattempt) (mem_map_inl.mpr habort)

end Runs

/-- A node with one provider. -/
abbrev Demo.hosting : System :=
  sources Staging.Demo.library (Staging.Demo.providers [("memory", [1, 2])]).spec Replica.Demo.node

/-- A disk that never fails, and providers that do as they are told. -/
def Demo.answers : (op : nodeInterface.Op) → Except FabricError (nodeInterface.Reply op)
  | .inl op => ((Staging.Demo.providers [("memory", [1, 2])]).answer op
      { Site.fresh with staging := some fun _ => none }).1
  | .inr op =>
    match op with
    | .takeQuiesced _ => .ok none
    | .takePending _ => .ok none
    | .providerList _ => .ok []
    | .pathExists _ => .ok true
    | .insertAttached .. | .commitRestore .. | .resumeSource .. | .cleanupRestore ..
    | .releaseStaging _ | .removeDirAll _ | .deleteCommitted _ => .ok ()

/-- Thread `tid` performs its next `n` operations. -/
def Demo.advances (tid n : ℕ) : List (Action Demo.hosting) :=
  List.replicate n (.advance tid Demo.answers)

/-- The provider is registered, and a cooperative capture of its component begins. -/
def Demo.begins : List (Action Demo.hosting) :=
  [.move (.register 7 "memory" 0),
    .accept (.capture { Staging.Demo.capture ["memory"] with quiescence := .cooperative })]

/-- The coordinator ends the attempt. -/
def Demo.ending : List (Action Demo.hosting) :=
  [.accept (.resume ⟨.capture 7 1, 2, 7, none, none, true⟩)] ++ Demo.advances 1 8 ++
    [.accept (.cleanup ⟨[.capture 7 1], [], [2]⟩)] ++ Demo.advances 2 8

/-- The messages come when the capture has answered. -/
def Demo.inOrder : List (Action Demo.hosting) :=
  Demo.begins ++ Demo.advances 0 40 ++ Demo.ending

/-- The messages come while the capture has quiesced its provider and has not read it yet. -/
def Demo.tooEarly : List (Action Demo.hosting) :=
  Demo.begins ++ Demo.advances 0 8 ++ Demo.ending ++ Demo.advances 0 40

/-- In order, the attempt is recorded and the provider is released. -/
theorem released_in_order : ∃ t : List (Event Demo.hosting), Run t ∧
    (∃ e ∈ t, Inserts (.capture 7 1) e) ∧ ∀ p, (AttemptId.capture 7 1, p) ∉ (stateOf t).quiesced := by
  obtain ⟨t, hrun, hown, hletsGo, hstays, hprocessed, hlooked, hinserts⟩ :
      ∃ t : List (Event Demo.hosting), Run t ∧ (∀ e ∈ t, OwnMessage (.capture 7 1) 0 7 e) ∧
        (∀ e ∈ t, LetsGo (.capture 7 1) e) ∧ EveryStep (Stays 0 7) t ∧
        Processed (.capture 7 1) t ∧ LookedUp (.capture 7 1) t ∧
        ∃ e ∈ t, Inserts (.capture 7 1) e :=
    ⟨_, exec_run Demo.inOrder, by decide +kernel, by decide +kernel, by decide +kernel,
      by decide +kernel, by decide +kernel, by decide +kernel⟩
  exact ⟨t, hrun, hinserts, released_of_lookedUp hrun hown hletsGo hstays hprocessed hlooked⟩

/-- The resume and the cleanup that come too early are answered, and so is the capture; its provider
stays quiesced, and nobody is left to release it. -/
theorem left_quiesced : ∃ t : List (Event Demo.hosting), Run t ∧
    (∀ e ∈ t, OwnMessage (.capture 7 1) 0 7 e) ∧ (∀ e ∈ t, LetsGo (.capture 7 1) e) ∧
    EveryStep (Stays 0 7) t ∧ Processed (.capture 7 1) t ∧
    (∃ e ∈ t, LooksUp (.capture 7 1) e) ∧ (∃ e ∈ t, Answers 2 e) ∧
    (AttemptId.capture 7 1, 0) ∈ (stateOf t).quiesced :=
  ⟨_, exec_run Demo.tooEarly, by decide +kernel, by decide +kernel, by decide +kernel,
    by decide +kernel, by decide +kernel, by decide +kernel, by decide +kernel⟩

end CheckpointFabric.Quiescence
