import CheckpointFabric.Footprints.Images
import CheckpointFabric.Steps.Captures

/-!
# Which node a capture asks

A single-active workload is to be captured from the node that holds it. Admission looks that node
up, and when it is not ACTIVE the lookup is repeated and the first ACTIVE node of the fabric is
taken, whoever that is. The check behind compares the holder with itself.

## Main definitions

* `AsksOwner` — a message that asks for components goes to the holder of the workload
* `PassesOver` — the second lookup comes upon another node

## Main results

* `capture_asks_owner` — the holder is asked in every run in which that does not happen
-/

set_option autoImplicit false

namespace CheckpointFabric

open Concurrency Coordinator System

variable {settings : Settings} {t : List (Event (fabric settings))}

section Definitions

/-- The thread that asks a node for components, the node, and the attempt it asks under. -/
def askedOf : Event (fabric settings) → Option (ℕ × NodeId × AttemptId)
  | .performed tid (.call node (.capture req)) _ _ => some (tid, node, req.attemptId)
  | _ => none

/-- A message that asks for components goes to the node that holds the workload, as the row says
that admitted the capture. -/
def AsksOwner (e : Event (fabric settings)) (past : List (Event (fabric settings))) : Prop :=
  ∀ tid node attemptId, askedOf e = some (tid, node, attemptId) →
    ∃ run, Captures past tid run ∧ run.attemptId = attemptId ∧
      (run.workload.singleActive = true → run.workload.activeNode = some node)

/-- A thread that has read a workload, its checkpoints and the clock has looked the nodes up. -/
def lookupOf : List FabricDeed → Option (Workload × List NodeRecord)
  | ⟨.db .nodeList, .ok nodes⟩ :: ⟨.now, .ok _⟩ :: ⟨.db (.checkpointList _), .ok _⟩ ::
      ⟨.db (.workloadGet _), .ok (some w)⟩ :: _ => some (w, nodes)
  | _ => none

/-- A capture that has not found the holder of its workload ACTIVE looks again, and comes upon
another node. -/
def PassesOver (e : Event (fabric settings)) (past : List (Event (fabric settings))) : Prop :=
  match e with
  | .performed tid (.db .nodeList) _ before =>
    ∃ found ∈ lookupOf (deeds tid past), found.1.singleActive = true ∧
      ∃ own ∈ found.1.activeNode, activeIn found.2 own = false ∧
        ∃ lead ∈ leadActive before.store.nodeList, lead ≠ own
  | _ => False

instance (e : Event (fabric settings)) (past : List (Event (fabric settings))) :
    Decidable (PassesOver e past) := by
  unfold PassesOver
  split <;> infer_instance

end Definitions

theorem exists_call_of_askedOf {e : Event (fabric settings)} {tid : ℕ} {node : NodeId}
    {attemptId : AttemptId} (hasked : askedOf e = some (tid, node, attemptId)) :
    ∃ req input before, e = .performed tid (.call node (.capture req)) input before ∧
      req.attemptId = attemptId := by
  unfold askedOf at hasked
  split at hasked
  · rename_i tid' node' req input before
    obtain ⟨rfl, rfl, rfl⟩ : tid' = tid ∧ node' = node ∧ req.attemptId = attemptId := by
      simpa using hasked
    exact ⟨req, input, before, rfl, rfl⟩
  · exact absurd hasked (by simp)

/-- The row that admitted a capture was there. -/
theorem exists_row_of_captures {tid : ℕ} {run : CaptureRun} {id nonce : Id} (h : Run t)
    (hcaptures : Captures t tid run) (hattempt : run.attemptId = .capture id nonce) :
    ∃ t', t' <:+ t ∧ (stateOf t').workload id = some run.workload := by
  obtain ⟨workloadId, nonce', ds₀, hdrawn⟩ := hcaptures.drawn
  obtain ⟨rfl, rfl⟩ : workloadId = id ∧ nonce' = nonce := by
    simpa using hdrawn.attemptId.symm.trans hattempt
  have hread := ((List.suffix_cons _ ds₀).trans hdrawn.nonce_suffix).subset hdrawn.read_mem
  obtain ⟨t', hsuffix, -, hrow⟩ := workload_of_read h hread
  exact ⟨t', hsuffix, hrow⟩

/-- **Captures come from the holder.** In every run in which no capture comes upon another node
when it looks for that of its workload, every message that asks for components goes to the holder
of the workload. -/
theorem capture_asks_owner (h : Run t) (hsteps : EveryStep (fun e past => ¬ PassesOver e past) t) :
    EveryStep AsksOwner t := by
  intro e past hpast tid node attemptId hasked
  have hrun := h.of_suffix hpast
  obtain ⟨req, input, before, rfl, rfl⟩ := exists_call_of_askedOf hasked
  obtain ⟨request, hrequest, workloadId, run, hchecked, rfl, rfl⟩ := imagePermits_of_run hrun
  refine ⟨run, ⟨⟨workloadId, hchecked.admitted.drawn⟩, request, hrequest, hchecked.asked⟩, rfl,
    fun hsingle => ?_⟩
  obtain ⟨-, hclaimed⟩ := Capture.workloadCaptureable_eq_ok_iff.mp hchecked.admitted.captureable
  obtain ⟨own, hown⟩ := Option.isSome_iff_exists.mp hclaimed
  obtain ⟨checkpoints, now, older, -, -, hpicked, -⟩ := hchecked.validated
  obtain ⟨nodes, -, ⟨-, heq⟩ | ⟨habsent, others, hothers, hlead⟩⟩ := hpicked own hown
  · rw [hown, heq]
  -- The holder was not ACTIVE, so the nodes were looked up again.
  obtain ⟨input', t', hsuffix, hdeeds, hreply⟩ := exists_event_of_deed hrun.tail hothers
  have hkept := hsteps _ t' (hsuffix.trans ((List.suffix_cons _ past).trans hpast))
  by_contra hne
  refine hkept ⟨(run.workload, nodes), ?_, hsingle, own, hown, habsent, run.node, ?_, ?_⟩
  · rw [hdeeds]
    rfl
  · have hanswered : (World.handle settings.codecs (.db .nodeList) input' (stateOf t')).1 =
        .ok others := hreply.symm
    have hlisted : (stateOf t').store.nodeList = others :=
      (Prod.mk.inj (Except.ok.inj (World.run_of_handle_ok hanswered))).1
    rw [hlisted]
    exact hlead
  · rintro rfl
    exact hne hown

/-- The components of the demo's capture come from the holder. -/
theorem capture_asks_owner_captured : ∃ t : List (Event (fabric Demo.settings)), Run t ∧
    (∃ e ∈ t, (askedOf e).isSome) ∧ EveryStep AsksOwner t := by
  obtain ⟨t, hrun, hasked, hsteps⟩ : ∃ t : List (Event (fabric Demo.settings)), Run t ∧
      (∃ e ∈ t, (askedOf e).isSome) ∧ EveryStep (fun e past => ¬ PassesOver e past) t :=
    ⟨_, exec_run Demo.captured, by decide +kernel, by decide +kernel⟩
  exact ⟨t, hrun, hasked, capture_asks_owner hrun hsteps⟩

/-- The node of the workload falls silent, another one registers, and recovery declares the first
one stale; then the workload is captured. -/
def Demo.heldByStale : List (Action (fabric Demo.settings)) :=
  Demo.created ++ [.move (Move.tick 7000)] ++ Demo.register 2 "n2" ++
    Demo.alone 3 (.recovery Demo.operator) ++ Demo.alone 4 (.capture 7 {} Demo.operator)

/-- The other node is asked, which never held the workload. -/
theorem capture_asks_other :
    Run (exec Demo.heldByStale).trace ∧ ¬ EveryStep AsksOwner (exec Demo.heldByStale).trace := by
  refine ⟨exec_run Demo.heldByStale, fun hasks => ?_⟩
  obtain ⟨t, hrun, hasks, ⟨e, past, hpast, hasked⟩, hnever⟩ :
      ∃ t : List (Event (fabric Demo.settings)), Run t ∧ EveryStep AsksOwner t ∧
        (∃ e past, e :: past <:+ t ∧ askedOf e = some (4, "n2", .capture 7 1)) ∧
        EveryStep (fun (_ : Event (fabric Demo.settings)) past =>
          ∀ r ∈ (stateOf past).workload 7, r.singleActive = true ∧ r.activeNode ≠ some "n2") t :=
    ⟨_, exec_run Demo.heldByStale, hasks, exists_of_not_everyStep (by decide +kernel),
      by decide +kernel⟩
  obtain ⟨run, hcaptures, hattempt, howner⟩ := hasks e past hpast 4 "n2" _ hasked
  obtain ⟨t', hsuffix, hrow⟩ := exists_row_of_captures (hrun.of_suffix hpast).tail hcaptures hattempt
  obtain ⟨e', hevent⟩ := exists_cons_suffix hsuffix
  obtain ⟨hsingle, hother⟩ := hnever e' t' (hevent.trans hpast) _ hrow
  exact hother (howner hsingle)

end CheckpointFabric
