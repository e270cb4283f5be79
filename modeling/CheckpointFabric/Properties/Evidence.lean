import CheckpointFabric.Properties.CaptureOutcome
import CheckpointFabric.Properties.Images
import CheckpointFabric.Properties.NodeCapture
import CheckpointFabric.Steps.Seals

/-!
# What the classes of a checkpoint rest on

The node of a capture answers whether its providers have acknowledged the quiesce. From this and
from the frontier of the request the coordinator derives the classes of the checkpoint, and a
restore derives the class that it reports from that of the checkpoint. No class says more than
the evidence behind it.

## Main definitions

* `Acknowledged` — the evidence of an application-consistent capture
* `Evidenced` — the classes of a row are borne out by the answer of a node and by the request

## Main results

* `evidenced_of_committed` — so are those of every checkpoint that was committed
* `claims_honest` — and no restore reports a stronger class than that of its checkpoint
-/

set_option autoImplicit false

namespace CheckpointFabric

open Concurrency Coordinator System

variable {settings : Settings} {t t' : List (Event (fabric settings))} {tid : ℕ} {id : Id}
  {c : CheckpointObject} {run : CaptureRun} {result : NodeCaptureResult}

section Captures

/-- The capture was cooperative, and the node that answered has an acknowledgement of every
provider that took part. -/
structure Acknowledged (req : NodeCaptureRequest) (result : NodeCaptureResult) : Prop where
  cooperative : req.quiescence = .cooperative
  ack : result.cooperativeAck = true
  providers : ∀ codecs spec node s s',
    Runs (Staging.Step spec) (Staging.doCapture codecs spec node req) s (.ok result) s' →
    ∃ taken acked, Staging.Took codecs spec req s result s' taken ∧ taken ≠ [] ∧
      s'.acked = acked ++ s.acked ∧ ∀ x ∈ taken, x.1 ∈ acked

/-- The row is of the capture `run`, whose node has answered with `result`. Its classes are borne
out by this answer and by the frontier that was asked for. -/
structure Evidenced (t : List (Event (fabric settings))) (c : CheckpointObject) (tid : ℕ)
    (run : CaptureRun) (result : NodeCaptureResult) : Prop where
  captures : Captures t tid run
  describes : run.Describes c
  answered : ⟨.call run.node (.capture (captureRequest settings run)), .ok result⟩ ∈ deeds tid t
  ok : result.ok = true
  components : c.components = result.components
  application : ConsistencyClass.applicationConsistent.rank ≤ c.consistency.rank →
    Acknowledged (captureRequest settings run) result
  execution : c.consistency = .executionConsistent → run.options.frontier = some c.frontier
  resumability : c.resumability = .exact ∨ c.resumability = .equivalent →
    c.consistency = .executionConsistent ∧ run.options.frontier = some c.frontier ∧
      Capture.Substantiates c.frontier c.resumability

/-- An answer that claims the acknowledgement of a cooperative quiesce has it. -/
theorem acknowledged_of_answer {req : NodeCaptureRequest} (hok : result.ok = true)
    (hcooperative : req.quiescence = .cooperative) (hack : result.cooperativeAck = true) :
    Acknowledged req result where
  cooperative := hcooperative
  ack := hack
  providers codecs spec node s s' hruns := by
    obtain ⟨taken, htook⟩ := yields_iff.mp Staging.yields_doCapture result s' hruns hok
    obtain ⟨acked, hacked, hall⟩ := htook.acked
    obtain ⟨-, hsome, hall⟩ := hall hack
    exact ⟨taken, acked, htook, hsome, hacked, hall⟩

/-- The full image of a capture claims what its node and its request bear out. -/
theorem evidenced_of_imagedRow (h : Run t) (hc : (stateOf t).checkpoint id = some c)
    (himaged : ImagedRow t c) : ∃ tid run result, Evidenced t c tid run result := by
  obtain ⟨tid, run, asks, workloadId, imaged, hcaptures, hsealed, hid, hsame⟩ := himaged
  obtain ⟨answered, sealMs, digest, text, older, holder, -, hanswered, rfl⟩ := hsealed
  obtain ⟨epoch, created, result, rfl, hok, hmem⟩ := hanswered
  obtain ⟨tid', run', himage⟩ := described_of_run h hc
  obtain ⟨-, hcapture⟩ := himage.eq_of_checkpoint h hcaptures hid
  have hconsistency : c.consistency = achievedConsistency run result := hsame.consistency
  have hresumability : c.resumability = Capture.deriveResumability c.consistency
      run.options.frontier run.options.sideEffects := hconsistency ▸ hsame.resumability
  have hfrontier : ∀ f, run.options.frontier = some f → run.options.frontier = some c.frontier := by
    intro f hf
    have hrow : c.frontier = run.options.frontier.getD {} := hsame.frontier
    rw [hrow, hf, Option.getD_some]
  have hstronger {r : ResumabilityClass} (hr : r = .exact ∨ r = .equivalent) :
      ResumabilityClass.degraded.rank < r.rank := by
    rcases hr with rfl | rfl <;> decide
  refine ⟨tid, run, result,
    { captures := hcaptures
      describes := hcapture.describes himage.2
      answered := ((List.suffix_cons _ _).trans holder).subset hmem
      ok := hok
      components := hsame.components
      application := fun hrank => ?_
      execution := fun hexecution => ?_
      resumability := fun hclass => ?_ }⟩
  · rw [hconsistency] at hrank
    obtain ⟨hcooperative, hack⟩ := Capture.acknowledged_of_deriveConsistency hrank
    exact acknowledged_of_answer hok hcooperative hack
  · obtain ⟨f, hf⟩ := Option.isSome_iff_exists.mp
      (Capture.frontier_of_deriveConsistency (hconsistency.symm.trans hexecution))
    exact hfrontier f hf
  · have hrank := hstronger hclass
    rw [hresumability] at hrank ⊢
    obtain ⟨hexecution, f, hf, hflags⟩ := Capture.substantiates_of_deriveResumability hrank
    have hrow := hfrontier f hf
    obtain rfl := Option.some.inj (hf.symm.trans hrow)
    exact ⟨hexecution, hrow, hflags⟩

/-- A capture that was committed has written its image. -/
theorem imaged_of_committed {key : AttemptId} (h : Run t)
    (hcommitted : Journaled t .capture key .dbCommitted) : Imaged t key := by
  obtain ⟨e, past, tid, id', hsuffix, hcalls⟩ := exists_captureCommit_of_journaled h hcommitted
  obtain ⟨before, w, hcommit⟩ := Store.captureCommit_ok (StoreOp.of_map_ok hcalls.run)
  obtain ⟨c', hc', -⟩ := hcommit.committed
  obtain ⟨-, himaged, rfl⟩ := persisted_of_captureCommit (h.of_suffix hsuffix) hcalls hc'
  exact himaged.mono h hsuffix

/-- The classes of a checkpoint that was committed are borne out. -/
theorem evidenced_of_committed (h : Run t) (hc : (stateOf t).checkpoint id = some c)
    (hcommitted : Journaled t .capture c.captureAttempt .dbCommitted) :
    ∃ tid run result, Evidenced t c tid run result :=
  evidenced_of_imagedRow h hc (imagedRow_of_imaged h hc (imaged_of_committed h hcommitted))

end Captures

section Restores

variable {checkpointId : Id} {targetNode : NodeId} {options : RestoreOptions}
  {ctx : OperationContext} {ds base recent : List FabricDeed} {outcome : OperationOutcome}

/-- A restore reports a class derived from that of the checkpoint it has read, and it has found
that checkpoint to be restorable. -/
def ReportsFrom (settings : Settings) (checkpointId : Id) (ds : List FabricDeed)
    (outcome : OperationOutcome) : Prop :=
  ∃ c verdict resumed, ⟨.db (.checkpointGet checkpointId), .ok (some c)⟩ ∈ ds ∧
    Restore.validateRestoreRequest c settings.policy = .ok () ∧
    outcome.resumability = some (Restore.restoredResumability c.resumability verdict resumed)

theorem returns_executeRestore {run : RestoreRun} :
    Returns (fun outcome => ∃ resumed, outcome.resumability =
      some (Restore.restoredResumability run.ckpt.resumability run.verdict resumed))
      (executeRestore settings run) := by
  unfold executeRestore
  refine Returns.bind fun _ => Returns.bind fun _ => Returns.bind fun committed => ?_
  obtain ⟨token, w⟩ := committed
  unfold finishRestore
  refine Returns.bind fun answer => Returns.bind fun _ => Returns.bind fun _ => ?_
  exact Returns.bind fun _ => Returns.bind fun _ => returns_pure ⟨resumedBy run answer, rfl⟩

theorem obeys_requestRestore_reports :
    Obeys (fun _ _ => True)
      (fun ds result => ∀ outcome, result = .ok outcome →
        ReportsFrom settings checkpointId ds outcome) ds
      (requestRestore settings checkpointId targetNode options ctx) := by
  have herror : ∀ (ds : List FabricDeed) (e : FabricError), ∀ outcome : OperationOutcome,
      Except.error e = Except.ok outcome → ReportsFrom settings checkpointId ds outcome :=
    fun _ _ _ h => absurd h (by simp)
  unfold requestRestore
  refine Obeys.bind herror (obeys_admitRestore_checked fun _ _ _ => trivial) fun ds₁ run hrun => ?_
  obtain ⟨hchecked, -⟩ := hrun
  refine (Obeys.and_returns (Obeys.extend (Uses.of_true _) fun _ _ _ _ => trivial)
    (Returns.bind fun _ => Returns.onError returns_executeRestore)).weaken ?_
  intro ds₂ result hends outcome hok
  obtain ⟨hsuffix, hreports⟩ := hends
  obtain ⟨resumed, hresumability⟩ := hreports outcome hok
  exact ⟨run.ckpt, run.verdict, resumed, hsuffix.subset hchecked.read, hchecked.restorable,
    hresumability⟩

/-- No restore reports a stronger class than its checkpoint has. -/
theorem rank_le_of_reports (h : Run t) (hreports : ReportsFrom settings checkpointId ds outcome)
    (hds : ds ⊆ deeds tid t) :
    ∃ c r, (stateOf t).checkpoint checkpointId = some c ∧ outcome.resumability = some r ∧
      r.rank ≤ c.resumability.rank := by
  obtain ⟨c, verdict, resumed, hread, hrestorable, hresumability⟩ := hreports
  obtain ⟨t₁, hsuffix, -, row, hrow, rfl⟩ := checkpoint_of_read h (hds hread)
  have hlate : ¬ row.lifecycle.Preliminary := by
    rcases Restore.lifecycle_of_validateRestoreRequest hrestorable with hstate | hstate
    all_goals
      rw [show row.lifecycle = _ from hstate]
      exact not_false
  obtain ⟨c, hc, hsame⟩ := sameContents_of_late h hsuffix hrow hlate
  refine ⟨c, _, hc, hresumability, ?_⟩
  rw [hsame.resumability]
  exact Restore.rank_restoredResumability_le _ _ _

end Restores

/-- In every run, the classes of a checkpoint that was committed are borne out: a class above
CRASH_CONSISTENT by the acknowledgement of every provider of a cooperative capture, and by at
least one; EXECUTION_CONSISTENT by a frontier as well; EXACT and EQUIVALENT by the flags of that
frontier. A restore of the checkpoint never reports a stronger class. -/
theorem claims_honest (h : Run t) :
    (∀ id c, (stateOf t).checkpoint id = some c →
      Journaled t .capture c.captureAttempt .dbCommitted →
      ∃ tid run result, Evidenced t c tid run result) ∧
    ∀ tid checkpointId targetNode options ctx base recent outcome,
      CameBack t tid (requestRestore settings checkpointId targetNode options ctx) base recent
        (.ok outcome) →
      ∃ c r, (stateOf t).checkpoint checkpointId = some c ∧ outcome.resumability = some r ∧
        r.rank ≤ c.resumability.rank := by
  refine ⟨fun id c hc hcommitted => evidenced_of_committed h hc hcommitted, ?_⟩
  intro tid checkpointId targetNode options ctx base recent outcome hback
  have hreports := obeys_requestRestore_reports.of_follows hback.follows outcome rfl
  have hds : recent ⊆ deeds tid t := by
    rw [hback.deeds_eq]
    exact List.subset_append_left _ _
  exact rank_le_of_reports h hreports hds

/-- A cooperative capture whose node answers that its providers have acknowledged. -/
def Demo.acknowledged : List (Action (fabric Demo.settings)) :=
  Demo.created ++
    [.accept (.capture 7 { consistency := some .applicationConsistent, quiescence := .cooperative }
      Demo.operator)] ++
    List.replicate 50
      (.advance 2 ({ delivery := .answered { cooperativeAck := true } } : Input))

/-- It is committed as application consistent, on this evidence. -/
theorem claims_honest_acknowledged :
    ∃ c tid run result, (stateOf (exec Demo.acknowledged).trace).checkpoint 2 = some c ∧
      c.consistency = .applicationConsistent ∧
      Evidenced (exec Demo.acknowledged).trace c tid run result := by
  obtain ⟨c, hc, hrow⟩ := Option.map_eq_some_iff.mp (show
    ((stateOf (exec Demo.acknowledged).trace).checkpoint 2).map
      (fun c => (c.consistency, c.captureAttempt)) = some (.applicationConsistent, .capture 7 1) by
    decide +kernel)
  obtain ⟨hclass, hattempt⟩ := Prod.mk.inj hrow
  have hcommitted : Journaled (exec Demo.acknowledged).trace .capture (.capture 7 1)
      .dbCommitted := Store.journalHas_eq_true_iff.mp (by decide +kernel)
  obtain ⟨tid, run, result, hevidenced⟩ := (claims_honest (exec_run Demo.acknowledged)).1 2 c hc
    (hattempt ▸ hcommitted)
  exact ⟨c, tid, run, result, hc, hclass, hevidenced⟩

end CheckpointFabric
