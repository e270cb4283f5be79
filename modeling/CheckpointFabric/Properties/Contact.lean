import CheckpointFabric.Fabric
import CheckpointFabric.Runtime

/-!
# A node that has lost contact

The epoch of the coordinator is taken when a node registers, and never again: nothing registers a
node a second time. So every message of another coordinator is refused, as long as the process runs.
When a heartbeat has not succeeded, there is no connection any more, and nothing makes a new one. The
node sends nothing from then on, and its heartbeat thread ends after nine more rounds.

## Main definitions

* `Fails` — a heartbeat that does not succeed
* `NodeRuntime.Sound` — what the threads of a node agree on
* `NodeRuntime.Lost` — a node without connection, and the rounds that it has left

## Main results

* `epoch_of_run` — a running node has the epoch of its only accepted registration
* `contact_lost` — what comes after a heartbeat that does not succeed
-/

set_option autoImplicit false

namespace CheckpointFabric.Runtime

section Epoch

variable {node : NodeState} {codecs : Codecs}

theorem epoch_promoteDir {attempt : AttemptId} {checkpoint : Id} {o : Outcome} :
    (node.promoteDir attempt checkpoint o).2.coordinatorEpoch = node.coordinatorEpoch := by
  unfold NodeState.promoteDir
  split
  · rfl
  · split <;> rfl

theorem epoch_guarded {α : Type} {epoch : ℕ} {served : FabricResult α × NodeState}
    (h : served.2.coordinatorEpoch = node.coordinatorEpoch) :
    (NodeState.serve.guarded node epoch served).2.coordinatorEpoch = node.coordinatorEpoch := by
  unfold NodeState.serve.guarded
  split
  · rfl
  · exact h

theorem epoch_dropped {attempt : AttemptId} {o : Outcome} :
    (if o.leavesStaging then node.addStaging attempt else node.removeStaging attempt).coordinatorEpoch =
      node.coordinatorEpoch := by
  split <;> rfl

/-- No message changes the epoch of a node. -/
theorem epoch_serve {epoch : ℕ} {outcome : Outcome} {request : NodeRequest} :
    (node.serve codecs epoch outcome request).2.coordinatorEpoch = node.coordinatorEpoch := by
  cases request with
  | capture req =>
    refine epoch_guarded ?_
    unfold NodeState.doCapture
    cases outcome.fault with
    | some err => exact epoch_dropped
    | none =>
      cases outcome.failure with
      | some text => exact epoch_dropped
      | none => rfl
  | promote req =>
    refine epoch_guarded ?_
    unfold NodeState.doPromote
    split
    · rfl
    split
    · rfl
    split
    · rfl
    have hpromoted : (node.promoteDir req.attemptId req.checkpointId outcome).2.coordinatorEpoch =
      node.coordinatorEpoch := epoch_promoteDir
    split <;> rename_i hdir <;> rwa [hdir] at hpromoted
  | resume req =>
    refine epoch_guarded ?_
    unfold NodeState.doResume
    dsimp only
    split
    · rfl
    · rfl
    · rfl
    · split <;> rfl
  | restore req =>
    refine epoch_guarded ?_
    unfold NodeState.doRestore
    split
    · rfl
    split
    · rfl
    · split <;> rfl
  | probe req | verify req | cleanup req | allowFetch req => exact epoch_guarded rfl
  | replicate req =>
    refine epoch_guarded ?_
    unfold NodeState.doReplicate
    dsimp only
    split
    · exact epoch_dropped
    split
    · exact epoch_dropped
    have hpromoted : ((node.addStaging req.attemptId).promoteDir req.attemptId req.checkpointId
      outcome).2.coordinatorEpoch = node.coordinatorEpoch := epoch_promoteDir
    split <;> rename_i hdir <;> rwa [hdir] at hpromoted

theorem guarded_of_ne {α : Type} {epoch : ℕ} {served : FabricResult α × NodeState}
    (h : epoch ≠ node.coordinatorEpoch) : NodeState.serve.guarded node epoch served =
      (.error (.staleCoordinatorEpoch node.coordinatorEpoch epoch), node) := by
  simp [NodeState.serve.guarded, NodeState.checkEpoch, h]

/-- A message of another coordinator is refused. -/
theorem serve_of_ne {epoch : ℕ} {outcome : Outcome} {request : NodeRequest}
    (h : epoch ≠ node.coordinatorEpoch) : node.serve codecs epoch outcome request =
      (.error (.staleCoordinatorEpoch node.coordinatorEpoch epoch), node) := by
  cases request <;> exact guarded_of_ne h

theorem epoch_attachWorkload {workloadId : Id} {fenceEpoch : ℕ} {reply : FabricResult FenceToken} :
    (node.attachWorkload workloadId fenceEpoch reply).2.coordinatorEpoch = node.coordinatorEpoch := by
  cases reply <;> rfl

end Epoch

variable {codecs : Codecs} {rt rt' rt'' : NodeRuntime} {e : Event} {events events' : List Event}
  {sent sent' : List Message}

/-- The event is a round of the heartbeat thread. -/
def Event.isBeat : Event → Bool
  | .beat _ _ => true
  | _ => false

/-- The heartbeat does not succeed. -/
def Fails (reply : FabricResult NodeHeartbeatResponse) : Prop :=
  ∀ resp, reply = .ok resp → resp.ok = false

namespace NodeRuntime

section Run

theorem run_cons_eq_some :
    rt.run codecs (e :: events) = some (rt'', sent') ↔ ∃ rt' sent more,
      rt.step codecs e = some (rt', sent) ∧ rt'.run codecs events = some (rt'', more) ∧
        sent' = sent ++ more := by
  simp only [run, Option.bind_eq_bind, Option.bind_eq_some_iff, Prod.exists, Option.pure_def,
    Option.some.injEq, Prod.mk.injEq]
  constructor
  · rintro ⟨rt', sent, hstep, rt₁, more, hrun, rfl, rfl⟩
    exact ⟨rt', sent, more, hstep, hrun, rfl⟩
  · rintro ⟨rt', sent, more, hstep, hrun, rfl⟩
    exact ⟨rt', sent, hstep, rt'', more, hrun, rfl, rfl⟩

theorem run_append_eq_some :
    rt.run codecs (events ++ events') = some (rt'', sent') ↔ ∃ rt' sent more,
      rt.run codecs events = some (rt', sent) ∧ rt'.run codecs events' = some (rt'', more) ∧
        sent' = sent ++ more := by
  induction events generalizing rt sent' with
  | nil => simp [run]
  | cons e events ih =>
    simp only [List.cons_append, run_cons_eq_some, ih]
    constructor
    · rintro ⟨rt₁, sent₁, more₁, hstep, ⟨rt₂, sent₂, more₂, hrun, hrest, rfl⟩, rfl⟩
      exact ⟨rt₂, sent₁ ++ sent₂, more₂, ⟨rt₁, sent₁, sent₂, hstep, hrun, rfl⟩, hrest,
        (List.append_assoc _ _ _).symm⟩
    · rintro ⟨rt₂, sent₂, more₂, ⟨rt₁, sent₁, sent₂', hstep, hrun, rfl⟩, hrest, rfl⟩
      exact ⟨rt₁, sent₁, sent₂' ++ more₂, hstep, ⟨rt₂, sent₂', more₂, hrun, hrest, rfl⟩,
        List.append_assoc _ _ _⟩

end Run

section Steps

/-- What the threads of a node agree on. While there is a connection, the rounds succeed. -/
structure Sound (rt : NodeRuntime) : Prop where
  started : rt.heart ≠ .ended ∨ rt.coordinator = true → rt.stage = .running
  waiting : ∀ failures tick, rt.heart = .waiting failures tick → rt.coordinator = true → failures = 0
  awaiting : ∀ failures tick, rt.heart = .awaiting failures tick → failures = 0

theorem sound_initial {node : NodeState} {bootId : String} {listen : Option String}
    {runtime : RuntimeCompatibilityDescriptor} : Sound (initial node bootId listen runtime) where
  started h := h.elim (absurd rfl) fun h => nomatch h
  waiting _ _ h := nomatch h
  awaiting _ _ h := nomatch h

/-- Where nothing changes that the threads agree on. -/
theorem Sound.of_eq (h : Sound rt) (hstage : rt'.stage = rt.stage) (hheart : rt'.heart = rt.heart)
    (hcoordinator : rt'.coordinator = rt.coordinator) : Sound rt' where
  started := by rw [hstage, hheart, hcoordinator]; exact h.started
  waiting := by rw [hheart, hcoordinator]; exact h.waiting
  awaiting := by rw [hheart]; exact h.awaiting

/-- An attempt to register leaves the thread alone. -/
theorem registerOnce_kept (rt : NodeRuntime) (input : RegisterInput) :
    (rt.registerOnce input).2.1.heart = rt.heart ∧
      ∀ e, (rt.registerOnce input).1 = .error e →
        (rt.registerOnce input).2.1.coordinator = rt.coordinator := by
  unfold registerOnce
  split
  · exact ⟨rfl, fun _ _ => rfl⟩
  · exact ⟨rfl, fun _ _ => rfl⟩
  · exact ⟨rfl, fun _ _ => rfl⟩
  · split
    · exact ⟨rfl, fun _ _ => rfl⟩
    · dsimp only
      split
      · exact ⟨rfl, fun _ h => nomatch h⟩
      · exact ⟨rfl, fun _ _ => rfl⟩

/-- A heartbeat that does not succeed drops the connection. -/
theorem heartbeatTick_kept (rt : NodeRuntime) (reply : FabricResult NodeHeartbeatResponse) :
    (rt.heartbeatTick reply).2.stage = rt.stage ∧ (rt.heartbeatTick reply).2.stop = rt.stop ∧
      ((rt.heartbeatTick reply).1 = false → (rt.heartbeatTick reply).2.coordinator = false) := by
  unfold heartbeatTick
  split
  · exact ⟨rfl, rfl, fun _ => rfl⟩
  · split
    · exact ⟨rfl, rfl, fun h => nomatch h⟩
    · exact ⟨rfl, rfl, fun _ => rfl⟩

theorem Sound.step (h : Sound rt) (hstep : rt.step codecs e = some (rt', sent)) : Sound rt' := by
  cases e with
  | register input =>
    simp only [NodeRuntime.step] at hstep
    split at hstep
    · rename_i lastErr hstage
      obtain ⟨hheart, hcoordinator⟩ := registerOnce_kept rt input
      have hidle : ¬ (rt.heart ≠ .ended ∨ rt.coordinator = true) := fun hstarted =>
        nomatch hstage.symm.trans (h.started hstarted)
      split at hstep
      · obtain ⟨rfl, rfl⟩ := Prod.mk.inj (Option.some.inj hstep)
        refine ⟨fun _ => rfl, fun failures tick hwaiting _ => ?_, fun _ _ h => nomatch h⟩
        exact (Heart.waiting.inj hwaiting).1.symm
      · rename_i err rt₁ sent₁ hregister
        rw [hregister] at hheart hcoordinator
        obtain ⟨rfl, rfl⟩ := Prod.mk.inj (Option.some.inj hstep)
        have hended : rt₁.heart = .ended := by
          rw [hheart]
          exact not_not.mp fun hne => hidle (.inl hne)
        have hunconnected : rt₁.coordinator = false := by
          rw [hcoordinator err rfl]
          exact Bool.eq_false_iff.mpr fun hconnected => hidle (.inr hconnected)
        refine ⟨fun hstarted => ?_, fun _ _ hwaiting => ?_, fun _ _ hawaiting => ?_⟩
        · exact hstarted.elim (absurd hended) fun hconnected =>
            nomatch hconnected.symm.trans hunconnected
        · exact nomatch hwaiting.symm.trans hended
        · exact nomatch hawaiting.symm.trans hended
    · exact nomatch hstep
  | deadline =>
    simp only [NodeRuntime.step] at hstep
    split at hstep
    · rename_i lastErr hstage
      obtain ⟨rfl, rfl⟩ := Prod.mk.inj (Option.some.inj hstep)
      exact ⟨fun hstarted => (nomatch hstage.symm.trans (h.started hstarted)), h.waiting, h.awaiting⟩
    · exact nomatch hstep
  | beat committed versions =>
    simp only [NodeRuntime.step] at hstep
    split at hstep
    · rename_i failures tick hwaiting
      have hrunning : rt.stage = .running :=
        h.started (.inl fun hended => nomatch hwaiting.symm.trans hended)
      split at hstep
      · obtain ⟨rfl, rfl⟩ := Prod.mk.inj (Option.some.inj hstep)
        exact ⟨fun _ => hrunning, fun _ _ h => (nomatch h), fun _ _ h => nomatch h⟩
      split at hstep
      · rename_i hconnected
        obtain ⟨rfl, rfl⟩ := Prod.mk.inj (Option.some.inj hstep)
        refine ⟨fun _ => hrunning, fun _ _ h => (nomatch h), fun failures' tick' hawaiting => ?_⟩
        obtain ⟨rfl, rfl⟩ := Heart.awaiting.inj hawaiting
        exact h.waiting _ _ hwaiting hconnected
      · rename_i hunconnected
        obtain ⟨rfl, rfl⟩ := Prod.mk.inj (Option.some.inj hstep)
        unfold endRound
        rw [if_neg Bool.false_ne_true]
        split
        · exact ⟨fun _ => hrunning, fun _ _ h => (nomatch h), fun _ _ h => nomatch h⟩
        · exact ⟨fun _ => hrunning, fun _ _ _ hconnected => absurd hconnected hunconnected,
            fun _ _ h => nomatch h⟩
    · exact nomatch hstep
  | answered reply =>
    simp only [NodeRuntime.step] at hstep
    split at hstep
    · rename_i failures tick hawaiting
      have hrunning : rt.stage = .running :=
        h.started (.inl fun hended => nomatch hawaiting.symm.trans hended)
      obtain ⟨hstage, -, hlost⟩ := heartbeatTick_kept rt reply
      obtain ⟨rfl, rfl⟩ := Prod.mk.inj (Option.some.inj hstep)
      unfold endRound
      split
      · refine ⟨fun _ => hstage.trans hrunning, fun failures' tick' hwaiting _ => ?_,
          fun _ _ h => nomatch h⟩
        exact (Heart.waiting.inj hwaiting).1.symm
      rename_i hfailed
      have hunconnected := hlost (Bool.eq_false_iff.mpr hfailed)
      split
      · exact ⟨fun _ => hstage.trans hrunning, fun _ _ h => (nomatch h), fun _ _ h => nomatch h⟩
      · exact ⟨fun _ => hstage.trans hrunning,
          fun _ _ _ hconnected => (nomatch hconnected.symm.trans hunconnected),
          fun _ _ h => nomatch h⟩
    · exact nomatch hstep
  | attach workloadId fenceEpoch specs reply =>
    simp only [NodeRuntime.step] at hstep
    split at hstep
    · split at hstep
      · obtain ⟨rfl, rfl⟩ := Prod.mk.inj (Option.some.inj hstep)
        refine h.of_eq ?_ ?_ ?_ <;> unfold attachWorkload <;> split <;> rfl
      · exact nomatch hstep
    · exact nomatch hstep
  | detach workloadId =>
    obtain ⟨rfl, rfl⟩ := Prod.mk.inj (Option.some.inj hstep)
    exact h.of_eq rfl rfl rfl
  | message epoch outcome request =>
    simp only [NodeRuntime.step] at hstep
    split at hstep
    · obtain ⟨rfl, rfl⟩ := Prod.mk.inj (Option.some.inj hstep)
      exact h.of_eq rfl rfl rfl
    · exact nomatch hstep
  | shutdown =>
    simp only [NodeRuntime.step] at hstep
    split at hstep
    · obtain ⟨rfl, rfl⟩ := Prod.mk.inj (Option.some.inj hstep)
      exact h.of_eq rfl rfl rfl
    · exact nomatch hstep
  | joined =>
    simp only [NodeRuntime.step] at hstep
    split at hstep
    · rename_i hclosing
      obtain ⟨rfl, rfl⟩ := Prod.mk.inj (Option.some.inj hstep)
      refine ⟨fun hstarted => ?_, fun _ _ _ h => (nomatch h), h.awaiting⟩
      exact hstarted.elim (absurd hclosing.2) fun h => nomatch h
    · exact nomatch hstep

/-- There is no connection, and at most `rounds` rounds of the heartbeat thread are left. -/
structure Lost (rt : NodeRuntime) (rounds : ℕ) : Prop where
  running : rt.stage = .running
  unconnected : rt.coordinator = false
  heart : (∃ failures tick, rt.heart = .waiting failures tick ∧ failures + rounds = 10 ∧ 0 < rounds) ∨
    rt.heart = .ended ∧ rt.stop = true

/-- Without a connection nothing is sent, and every round is one less. -/
theorem Lost.step {rounds : ℕ} (h : Lost rt rounds) (hstep : rt.step codecs e = some (rt', sent)) :
    sent = [] ∧ ∃ rounds', rounds = rounds' + (if e.isBeat then 1 else 0) ∧ Lost rt' rounds' := by
  obtain ⟨hrunning, hunconnected, hheart⟩ := h
  cases e with
  | register input => simp [NodeRuntime.step, hrunning] at hstep
  | deadline => simp [NodeRuntime.step, hrunning] at hstep
  | beat committed versions =>
    rcases hheart with ⟨failures, tick, hwaiting, hrounds, hpos⟩ | ⟨hended, -⟩
    -- A round without a connection fails: it is the tenth in a row, or one less is left.
    · obtain ⟨rounds', rfl⟩ := Nat.exists_eq_add_one.mpr hpos
      simp only [NodeRuntime.step, hwaiting, hunconnected, Bool.false_eq_true, if_false,
        NodeRuntime.endRound] at hstep
      split at hstep
      · rename_i hstop
        obtain ⟨rfl, rfl⟩ := Prod.mk.inj (Option.some.inj hstep)
        exact ⟨rfl, rounds', rfl, hrunning, rfl, .inr ⟨rfl, hstop⟩⟩
      split at hstep
      · obtain ⟨rfl, rfl⟩ := Prod.mk.inj (Option.some.inj hstep)
        exact ⟨rfl, rounds', rfl, hrunning, rfl, .inr ⟨rfl, rfl⟩⟩
      · obtain ⟨rfl, rfl⟩ := Prod.mk.inj (Option.some.inj hstep)
        exact ⟨rfl, rounds', rfl, hrunning, rfl,
          .inl ⟨failures + 1, tick + 1, rfl, by omega, by omega⟩⟩
    · simp [NodeRuntime.step, hended] at hstep
  | answered reply =>
    rcases hheart with ⟨failures, tick, hwaiting, -⟩ | ⟨hended, -⟩
    · simp [NodeRuntime.step, hwaiting] at hstep
    · simp [NodeRuntime.step, hended] at hstep
  | attach workloadId fenceEpoch specs reply =>
    simp only [NodeRuntime.step, hrunning, NodeRuntime.attachWorkload, hunconnected,
      Bool.false_eq_true, if_false, Option.ite_none_right_eq_some] at hstep
    obtain ⟨rfl, rfl⟩ := Prod.mk.inj (Option.some.inj hstep.2)
    exact ⟨rfl, rounds, rfl, hrunning, hunconnected, hheart⟩
  | detach workloadId =>
    obtain ⟨rfl, rfl⟩ := Prod.mk.inj (Option.some.inj hstep)
    exact ⟨rfl, rounds, rfl, hrunning, hunconnected, hheart⟩
  | message epoch outcome request =>
    simp only [NodeRuntime.step, hrunning] at hstep
    obtain ⟨rfl, rfl⟩ := Prod.mk.inj (Option.some.inj hstep)
    exact ⟨rfl, rounds, rfl, rfl, hunconnected, hheart⟩
  | shutdown =>
    simp only [NodeRuntime.step, hrunning] at hstep
    obtain ⟨rfl, rfl⟩ := Prod.mk.inj (Option.some.inj hstep)
    exact ⟨rfl, rounds, rfl, rfl, hunconnected, hheart.imp id fun hended => ⟨hended.1, rfl⟩⟩
  | joined =>
    simp only [NodeRuntime.step, Option.ite_none_right_eq_some] at hstep
    obtain ⟨rfl, rfl⟩ := Prod.mk.inj (Option.some.inj hstep.2)
    exact ⟨rfl, rounds, rfl, hrunning, rfl, hheart⟩

/-- So it is in a run. -/
theorem Lost.run {rounds : ℕ} (h : Lost rt rounds) (hrun : rt.run codecs events = some (rt', sent)) :
    sent = [] ∧ ∃ rounds', rounds = rounds' + events.countP Event.isBeat ∧ Lost rt' rounds' := by
  induction events generalizing rt rounds sent with
  | nil =>
    obtain ⟨rfl, rfl⟩ := Prod.mk.inj (Option.some.inj hrun)
    exact ⟨rfl, rounds, rfl, h⟩
  | cons e events ih =>
    obtain ⟨rt₁, sent₁, more, hstep, hrest, rfl⟩ := run_cons_eq_some.mp hrun
    obtain ⟨rfl, rounds₁, rfl, hlost⟩ := h.step hstep
    obtain ⟨rfl, rounds', rfl, hlost'⟩ := ih hlost hrest
    refine ⟨rfl, rounds', ?_, hlost'⟩
    rw [List.countP_cons, Nat.add_assoc]

theorem Sound.run (h : Sound rt) (hrun : rt.run codecs events = some (rt', sent)) : Sound rt' := by
  induction events generalizing rt sent with
  | nil =>
    obtain ⟨rfl, rfl⟩ := Prod.mk.inj (Option.some.inj hrun)
    exact h
  | cons e events ih =>
    obtain ⟨rt₁, sent₁, more, hstep, hrest, -⟩ := run_cons_eq_some.mp hrun
    exact ih (h.step hstep) hrest

/-- After a heartbeat that does not succeed there are nine rounds left. -/
theorem Sound.lost {reply : FabricResult NodeHeartbeatResponse} (h : Sound rt)
    (hstep : rt.step codecs (.answered reply) = some (rt', sent)) (hfails : Fails reply) :
    sent = [] ∧ Lost rt' 9 := by
  simp only [NodeRuntime.step] at hstep
  split at hstep
  · rename_i failures tick hawaiting
    have hrunning : rt.stage = .running :=
      h.started (.inl fun hended => nomatch hawaiting.symm.trans hended)
    obtain rfl := h.awaiting _ _ hawaiting
    have hfailed : (rt.heartbeatTick reply).1 = false := by
      unfold heartbeatTick
      split
      · rfl
      · rw [if_neg (by simp [hfails _ rfl])]
    obtain ⟨hstage, hstop, hlost⟩ := heartbeatTick_kept rt reply
    rw [hfailed] at hstep
    obtain ⟨rfl, rfl⟩ := Prod.mk.inj (Option.some.inj hstep)
    exact ⟨rfl, hstage.trans hrunning, hlost hfailed, .inl ⟨1, tick + 1, rfl, by decide, by decide⟩⟩
  · exact nomatch hstep

end Steps

section Epochs

theorem endRound_kept (rt : NodeRuntime) (ok : Bool) (failures tick : ℕ) :
    (rt.endRound ok failures tick).stage = rt.stage ∧
      (rt.endRound ok failures tick).node = rt.node := by
  unfold endRound
  split
  · exact ⟨rfl, rfl⟩
  · split <;> exact ⟨rfl, rfl⟩

theorem ne_register_of_step (hrunning : rt.stage = .running)
    (hstep : rt.step codecs e = some (rt', sent)) (input : RegisterInput) : e ≠ .register input := by
  rintro rfl
  simp [NodeRuntime.step, hrunning] at hstep

/-- A running node keeps its epoch. -/
theorem epoch_step (hrunning : rt.stage = .running) (hstep : rt.step codecs e = some (rt', sent)) :
    rt'.stage = .running ∧ rt'.node.coordinatorEpoch = rt.node.coordinatorEpoch := by
  cases e with
  | register input | deadline => simp [NodeRuntime.step, hrunning] at hstep
  | beat committed versions =>
    simp only [NodeRuntime.step] at hstep
    split at hstep
    · split at hstep
      · obtain ⟨rfl, rfl⟩ := Prod.mk.inj (Option.some.inj hstep)
        exact ⟨hrunning, rfl⟩
      split at hstep
      · obtain ⟨rfl, rfl⟩ := Prod.mk.inj (Option.some.inj hstep)
        exact ⟨hrunning, rfl⟩
      · rename_i failures tick _ _ _
        obtain ⟨hstage, hnode⟩ := endRound_kept rt false failures tick
        obtain ⟨rfl, rfl⟩ := Prod.mk.inj (Option.some.inj hstep)
        exact ⟨hstage.trans hrunning, by rw [hnode]⟩
    · exact nomatch hstep
  | answered reply =>
    simp only [NodeRuntime.step] at hstep
    split at hstep
    · rename_i failures tick _
      obtain ⟨hstage, -, -⟩ := heartbeatTick_kept rt reply
      have hepoch : (rt.heartbeatTick reply).2.node.coordinatorEpoch = rt.node.coordinatorEpoch := by
        unfold heartbeatTick
        split
        · rfl
        · split <;> rfl
      obtain ⟨hended, hnode⟩ := endRound_kept (rt.heartbeatTick reply).2
        (rt.heartbeatTick reply).1 failures tick
      obtain ⟨rfl, rfl⟩ := Prod.mk.inj (Option.some.inj hstep)
      exact ⟨hended.trans (hstage.trans hrunning), by rw [hnode, hepoch]⟩
    · exact nomatch hstep
  | attach workloadId fenceEpoch specs reply =>
    simp only [NodeRuntime.step, hrunning] at hstep
    split at hstep
    · obtain ⟨rfl, rfl⟩ := Prod.mk.inj (Option.some.inj hstep)
      unfold attachWorkload
      split
      · exact ⟨hrunning, epoch_attachWorkload⟩
      · exact ⟨hrunning, rfl⟩
    · exact nomatch hstep
  | detach workloadId =>
    obtain ⟨rfl, rfl⟩ := Prod.mk.inj (Option.some.inj hstep)
    exact ⟨hrunning, rfl⟩
  | message epoch outcome request =>
    simp only [NodeRuntime.step, hrunning] at hstep
    obtain ⟨rfl, rfl⟩ := Prod.mk.inj (Option.some.inj hstep)
    exact ⟨rfl, epoch_serve⟩
  | shutdown =>
    simp only [NodeRuntime.step, hrunning] at hstep
    obtain ⟨rfl, rfl⟩ := Prod.mk.inj (Option.some.inj hstep)
    exact ⟨rfl, rfl⟩
  | joined =>
    simp only [NodeRuntime.step, Option.ite_none_right_eq_some] at hstep
    obtain ⟨rfl, rfl⟩ := Prod.mk.inj (Option.some.inj hstep.2)
    exact ⟨hrunning, rfl⟩

/-- A heartbeat carries the epoch of its node, and is sent by a running one. -/
theorem epoch_of_sent (h : Sound rt) {req : Coordinator.NodeHeartbeatRequest}
    (hstep : rt.step codecs e = some (rt', sent)) (hreq : .heartbeat req ∈ sent) :
    rt.stage = .running ∧ req.coordinatorEpoch = rt.node.coordinatorEpoch := by
  cases e with
  | beat committed versions =>
    simp only [NodeRuntime.step] at hstep
    split at hstep
    · rename_i failures tick hwaiting
      have hrunning : rt.stage = .running :=
        h.started (.inl fun hended => nomatch hwaiting.symm.trans hended)
      refine ⟨hrunning, ?_⟩
      split at hstep
      · obtain ⟨-, rfl⟩ := Prod.mk.inj (Option.some.inj hstep)
        exact nomatch hreq
      split at hstep
      · obtain ⟨-, rfl⟩ := Prod.mk.inj (Option.some.inj hstep)
        obtain rfl := Message.heartbeat.inj (List.mem_singleton.mp hreq)
        rfl
      · obtain ⟨-, rfl⟩ := Prod.mk.inj (Option.some.inj hstep)
        exact nomatch hreq
    · exact nomatch hstep
  | register input =>
    have hregister (m : Message) (hm : m ∈ (rt.registerOnce input).2.2) : ∃ req, m = .register req := by
      unfold registerOnce at hm
      split at hm
      · exact nomatch hm
      · exact nomatch hm
      · exact nomatch hm
      · split at hm
        · exact ⟨_, List.mem_singleton.mp hm⟩
        · dsimp only at hm
          split at hm <;> exact ⟨_, List.mem_singleton.mp hm⟩
    simp only [NodeRuntime.step] at hstep
    split at hstep
    · split at hstep <;>
      · rename_i hio
        rw [hio] at hregister
        obtain ⟨-, rfl⟩ := Prod.mk.inj (Option.some.inj hstep)
        obtain ⟨_, hm⟩ := hregister _ hreq
        exact nomatch hm
    · exact nomatch hstep
  | attach workloadId fenceEpoch specs reply =>
    simp only [NodeRuntime.step] at hstep
    split at hstep
    · split at hstep
      · obtain ⟨-, rfl⟩ := Prod.mk.inj (Option.some.inj hstep)
        unfold attachWorkload at hreq
        split at hreq
        · exact nomatch List.mem_singleton.mp hreq
        · exact nomatch hreq
      · exact nomatch hstep
    · exact nomatch hstep
  | detach workloadId =>
    obtain ⟨-, rfl⟩ := Prod.mk.inj (Option.some.inj hstep)
    exact nomatch hreq
  | deadline | answered | message | shutdown | joined =>
    simp only [NodeRuntime.step] at hstep
    split at hstep
    · obtain ⟨-, rfl⟩ := Prod.mk.inj (Option.some.inj hstep)
      exact nomatch hreq
    · exact nomatch hstep

theorem epoch_running (h : Sound rt) (hrunning : rt.stage = .running)
    (hrun : rt.run codecs events = some (rt', sent)) :
    rt'.stage = .running ∧ rt'.node.coordinatorEpoch = rt.node.coordinatorEpoch ∧
      (∀ e ∈ events, ∀ input, e ≠ .register input) ∧
      ∀ req, .heartbeat req ∈ sent → req.coordinatorEpoch = rt.node.coordinatorEpoch := by
  induction events generalizing rt sent with
  | nil =>
    obtain ⟨rfl, rfl⟩ := Prod.mk.inj (Option.some.inj hrun)
    exact ⟨hrunning, rfl, fun _ h => (nomatch h), fun _ h => nomatch h⟩
  | cons e events ih =>
    obtain ⟨rt₁, sent₁, more, hstep, hrest, rfl⟩ := run_cons_eq_some.mp hrun
    obtain ⟨hrunning₁, hepoch₁⟩ := epoch_step hrunning hstep
    obtain ⟨hrunning', hepoch', hothers, hmore⟩ := ih (h.step hstep) hrunning₁ hrest
    refine ⟨hrunning', hepoch'.trans hepoch₁,
      List.forall_mem_cons.mpr ⟨ne_register_of_step hrunning hstep, hothers⟩, ?_⟩
    intro req hreq
    rcases List.mem_append.mp hreq with hreq | hreq
    · exact (epoch_of_sent h hstep hreq).2
    · exact (hmore req hreq).trans hepoch₁

/-- Nothing but a registration starts a node. -/
theorem running_of_step (hregister : ∀ input, e ≠ .register input)
    (hstep : rt.step codecs e = some (rt', sent)) (hrunning : rt'.stage = .running) :
    rt.stage = .running := by
  cases e with
  | register input => exact absurd rfl (hregister input)
  | deadline =>
    simp only [NodeRuntime.step] at hstep
    split at hstep
    · obtain ⟨rfl, rfl⟩ := Prod.mk.inj (Option.some.inj hstep)
      exact nomatch hrunning
    · exact nomatch hstep
  | beat committed versions =>
    simp only [NodeRuntime.step] at hstep
    split at hstep
    · split at hstep
      · obtain ⟨rfl, rfl⟩ := Prod.mk.inj (Option.some.inj hstep)
        exact hrunning
      split at hstep
      · obtain ⟨rfl, rfl⟩ := Prod.mk.inj (Option.some.inj hstep)
        exact hrunning
      · obtain ⟨rfl, rfl⟩ := Prod.mk.inj (Option.some.inj hstep)
        exact (endRound_kept rt false _ _).1.symm.trans hrunning
    · exact nomatch hstep
  | answered reply =>
    simp only [NodeRuntime.step] at hstep
    split at hstep
    · obtain ⟨rfl, rfl⟩ := Prod.mk.inj (Option.some.inj hstep)
      exact (heartbeatTick_kept rt reply).1.symm.trans ((endRound_kept _ _ _ _).1.symm.trans hrunning)
    · exact nomatch hstep
  | attach | message | shutdown =>
    simp only [NodeRuntime.step] at hstep
    split at hstep
    · assumption
    · exact nomatch hstep
  | detach workloadId =>
    obtain ⟨rfl, rfl⟩ := Prod.mk.inj (Option.some.inj hstep)
    exact hrunning
  | joined =>
    simp only [NodeRuntime.step, Option.ite_none_right_eq_some] at hstep
    obtain ⟨rfl, rfl⟩ := Prod.mk.inj (Option.some.inj hstep.2)
    exact hrunning

/-- The start of a node succeeds with a registration that is accepted, whose epoch it takes. -/
theorem accepted_of_step (hstage : rt.stage ≠ .running) (hstep : rt.step codecs e = some (rt', sent))
    (hrunning : rt'.stage = .running) : ∃ input resp, e = .register input ∧
      input.reply = .ok resp ∧ resp.accepted = true ∧
      rt'.node.coordinatorEpoch = resp.coordinatorEpoch := by
  obtain ⟨input, rfl⟩ : ∃ input, e = .register input := by
    by_contra hregister
    exact hstage (running_of_step (not_exists.mp hregister) hstep hrunning)
  simp only [NodeRuntime.step] at hstep
  split at hstep
  · split at hstep
    · rename_i epoch rt₁ sent₁ hregister
      obtain ⟨rfl, rfl⟩ := Prod.mk.inj (Option.some.inj hstep)
      unfold registerOnce at hregister
      split at hregister
      · exact nomatch hregister
      · exact nomatch hregister
      · exact nomatch hregister
      · split at hregister
        · exact nomatch hregister
        · rename_i resp hreply
          dsimp only at hregister
          split at hregister
          · rename_i haccepted
            obtain ⟨hepoch, -⟩ := Prod.mk.inj hregister
            obtain rfl := Except.ok.inj hepoch
            exact ⟨input, resp, rfl, hreply, haccepted, rfl⟩
          · exact nomatch hregister
    · obtain ⟨rfl, rfl⟩ := Prod.mk.inj (Option.some.inj hstep)
      exact nomatch hrunning
  · exact nomatch hstep

/-- A run that starts a node has one registration that is accepted, and sends no heartbeat before. -/
theorem accepted_of_run (h : Sound rt) (hstage : rt.stage ≠ .running)
    (hrun : rt.run codecs events = some (rt', sent)) (hrunning : rt'.stage = .running) :
    ∃ before input resp after rt₁ sent₁ more, events = before ++ .register input :: after ∧
      input.reply = .ok resp ∧ resp.accepted = true ∧
      rt.run codecs (before ++ [.register input]) = some (rt₁, sent₁) ∧
      rt₁.run codecs after = some (rt', more) ∧ sent = sent₁ ++ more ∧
      rt₁.stage = .running ∧ rt₁.node.coordinatorEpoch = resp.coordinatorEpoch ∧
      ∀ req, .heartbeat req ∉ sent₁ := by
  induction events generalizing rt sent with
  | nil =>
    obtain ⟨rfl, rfl⟩ := Prod.mk.inj (Option.some.inj hrun)
    exact absurd hrunning hstage
  | cons e events ih =>
    obtain ⟨rt₁, sent₁, more, hstep, hrest, rfl⟩ := run_cons_eq_some.mp hrun
    have hsilent (req : Coordinator.NodeHeartbeatRequest) : .heartbeat req ∉ sent₁ := fun hreq =>
      hstage (epoch_of_sent h hstep hreq).1
    -- The registration that starts the node is the first event, or is among the others.
    by_cases hstarted : rt₁.stage = .running
    · obtain ⟨input, resp, rfl, hreply, haccepted, hepoch⟩ := accepted_of_step hstage hstep hstarted
      refine ⟨[], input, resp, events, rt₁, sent₁, more, rfl, hreply, haccepted, ?_, hrest, rfl,
        hstarted, hepoch, hsilent⟩
      exact run_cons_eq_some.mpr ⟨rt₁, sent₁, [], hstep, rfl, (List.append_nil _).symm⟩
    · obtain ⟨before, input, resp, after, rt₂, sent₂, more, rfl, hreply, haccepted, hbefore, hafter,
        rfl, hrunning₂, hepoch, hquiet⟩ := ih (h.step hstep) hstarted hrest
      refine ⟨e :: before, input, resp, after, rt₂, sent₁ ++ sent₂, more, rfl, hreply, haccepted, ?_,
        hafter, (List.append_assoc _ _ _).symm, hrunning₂, hepoch, fun req hreq => ?_⟩
      · exact run_cons_eq_some.mpr ⟨rt₁, sent₁, sent₂, hstep, hbefore, rfl⟩
      · exact (List.mem_append.mp hreq).elim (hsilent req) (hquiet req)

end Epochs

end NodeRuntime

open NodeRuntime

section Main

variable {node : NodeState} {bootId : String} {listen : Option String}
  {runtime : RuntimeCompatibilityDescriptor}

/-- A node that has started was accepted under one epoch, and registers no more. All its heartbeats
carry that epoch; and in every later state it refuses the messages of any other. -/
theorem epoch_of_run (h : (initial node bootId listen runtime).run codecs events = some (rt, sent))
    (hrunning : rt.stage = .running) :
    ∃ before input resp after, events = before ++ .register input :: after ∧
      input.reply = .ok resp ∧ resp.accepted = true ∧
      (∀ e ∈ after, ∀ input, e ≠ .register input) ∧
      (∀ req, .heartbeat req ∈ sent → req.coordinatorEpoch = resp.coordinatorEpoch) ∧
      ∀ between later, after = between ++ later → ∃ rt₁ sent₁,
        (initial node bootId listen runtime).run codecs (before ++ .register input :: between) =
          some (rt₁, sent₁) ∧
        ∀ epoch outcome request, epoch ≠ resp.coordinatorEpoch →
          rt₁.node.serve codecs epoch outcome request =
            (.error (.staleCoordinatorEpoch resp.coordinatorEpoch epoch), rt₁.node) := by
  -- The run is cut at the registration that was accepted: before it there is no heartbeat, and
  -- after it the epoch stays.
  obtain ⟨before, input, resp, after, rt₁, sent₁, more, rfl, hreply, haccepted, hbefore, hafter,
    rfl, hstarted, hepoch, hsilent⟩ := accepted_of_run sound_initial (fun h => nomatch h) h hrunning
  have hsound : Sound rt₁ := sound_initial.run hbefore
  obtain ⟨-, -, hothers, hmore⟩ := epoch_running hsound hstarted hafter
  refine ⟨before, input, resp, after, rfl, hreply, haccepted, hothers, fun req hreq => ?_, ?_⟩
  · rw [← hepoch]
    exact (List.mem_append.mp hreq).elim (absurd · (hsilent req)) (hmore req)
  · rintro between later rfl
    obtain ⟨rt₂, sent₂, -, hbetween, -, -⟩ := run_append_eq_some.mp hafter
    obtain ⟨-, hepoch₂, -⟩ := epoch_running hsound hstarted hbetween
    refine ⟨rt₂, sent₁ ++ sent₂, ?_, fun epoch outcome request hne => ?_⟩
    · rw [List.append_cons]
      exact run_append_eq_some.mpr ⟨rt₁, sent₁, sent₂, hbefore, hbetween, rfl⟩
    · rw [← hepoch, ← hepoch₂] at hne ⊢
      exact serve_of_ne hne

/-- After a heartbeat that does not succeed a node sends nothing more, whatever happens. Its heartbeat
thread has at most nine more rounds, and has ended after them. -/
theorem contact_lost {before after : List Event} {reply : FabricResult NodeHeartbeatResponse}
    (h : (initial node bootId listen runtime).run codecs (before ++ .answered reply :: after) =
      some (rt, sent)) (hfails : Fails reply) :
    (∃ rt₁, (initial node bootId listen runtime).run codecs before = some (rt₁, sent)) ∧
      after.countP Event.isBeat ≤ 9 ∧
      (after.countP Event.isBeat = 9 → rt.heart = .ended ∧ rt.stop = true) := by
  -- From the heartbeat that failed on, every round takes one from the nine that are left.
  obtain ⟨rt₁, sent₁, more, hbefore, hrest, rfl⟩ := run_append_eq_some.mp h
  obtain ⟨rt₂, sent₂, more', hstep, hafter, rfl⟩ := run_cons_eq_some.mp hrest
  obtain ⟨rfl, hlost⟩ := (sound_initial.run hbefore).lost hstep hfails
  obtain ⟨rfl, rounds, hrounds, hlost'⟩ := hlost.run hafter
  refine ⟨⟨rt₁, by simpa using hbefore⟩, by omega, fun hnine => ?_⟩
  obtain rfl : rounds = 0 := by omega
  exact hlost'.heart.resolve_left fun ⟨_, _, _, _, hpos⟩ => absurd hpos (Nat.lt_irrefl 0)

end Main

/-! ### A coordinator that starts again -/

/-- The node is turned away with the current epoch, and accepted under it. -/
def Demo.registered : List Event :=
  [.register ⟨.ok (), .ok [], .ok ⟨false, 3, some "stale coordinator epoch"⟩⟩,
    .register ⟨.ok (), .ok [], .ok ⟨true, 3, none⟩⟩]

/-- A first heartbeat is answered, and a second one is refused. -/
def Demo.refused : List Event :=
  Demo.registered ++ [.beat (.ok []) [], .answered (.ok ⟨true, [], none⟩), .beat (.ok []) []]

def Demo.afterwards : List Event :=
  .attach 7 0 [] (.ok ⟨true, some 1, none⟩) :: List.replicate 9 (.beat (.ok []) [])

def Demo.started : NodeRuntime :=
  .initial { nodeId := "n1" } "boot" (some "addr") CheckpointFabric.Demo.runtime

theorem epoch_of_run_registered : ∃ rt sent,
    Demo.started.run CheckpointFabric.Demo.codecs Demo.refused = some (rt, sent) ∧
      ∃ resp : NodeRegisterResponse, resp.accepted = true ∧
        ∀ req, .heartbeat req ∈ sent → req.coordinatorEpoch = resp.coordinatorEpoch := by
  obtain ⟨⟨rt, sent⟩, h⟩ := Option.isSome_iff_exists.mp (show
    (Demo.started.run CheckpointFabric.Demo.codecs Demo.refused).isSome by decide +kernel)
  have hrunning : rt.stage = .running := by
    have hstage : (Demo.started.run CheckpointFabric.Demo.codecs Demo.refused).map (·.1.stage) =
      some .running := rfl
    rw [h] at hstage
    exact Option.some.inj hstage
  obtain ⟨_, _, resp, _, -, -, haccepted, -, hsent, -⟩ := epoch_of_run h hrunning
  exact ⟨rt, sent, h, resp, haccepted, hsent⟩

theorem contact_lost_refused : ∃ rt sent,
    Demo.started.run CheckpointFabric.Demo.codecs
        (Demo.refused ++ .answered (.ok ⟨false, [], some "stale coordinator epoch"⟩) ::
          Demo.afterwards) = some (rt, sent) ∧
      rt.heart = .ended := by
  obtain ⟨⟨rt, sent⟩, h⟩ := Option.isSome_iff_exists.mp (show
    (Demo.started.run CheckpointFabric.Demo.codecs (Demo.refused ++
      .answered (.ok ⟨false, [], some "stale coordinator epoch"⟩) :: Demo.afterwards)).isSome by
        decide +kernel)
  have hfails : Fails (.ok ⟨false, [], some "stale coordinator epoch"⟩) := by
    rintro resp ⟨⟩
    rfl
  exact ⟨rt, sent, h, ((contact_lost h hfails).2.2 (by decide)).1⟩

end CheckpointFabric.Runtime
