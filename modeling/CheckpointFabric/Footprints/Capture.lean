import CheckpointFabric.Coordinator.Capture
import CheckpointFabric.Concurrency.Phases
import CheckpointFabric.Footprints.Basic

/-!
# The footprint of a capture

A capture reads and draws its identities. From then on everything it does is about the
admitted run, in the order of the phases of a capture, and what it writes late is
backed by what it did before.

## Main definitions

* `CaptureAdmitted` — what the deeds of an admitted capture show
* `CaptureRun.Performs`, `capturePhase` — the operations of an admitted run, and their order
* `CaptureRun.Backed` — the deeds behind an operation
* `CaptureDoes` — all that is known of an operation of a capture

## Main results

* `obeys_requestCapture` — a capture only reads until it is admitted, and then performs
  the operations of its run
-/

set_option autoImplicit false

namespace CheckpointFabric

open Concurrency

/-- The row of a checkpoint that was not restored and is linked to no other. -/
structure CheckpointObject.Unused (c : CheckpointObject) : Prop where
  supersedes : c.supersedes = none
  supersededBy : c.supersededBy = none
  restoreCount : c.restoreCount = 0

/-- The stored manifest is one of this checkpoint, and the stored digest is its hash. -/
def CheckpointObject.Anchored (codecs : Codecs) (c : CheckpointObject) : Prop :=
  ∃ m : Manifest, c.manifestJson = some (codecs.toCanonical m) ∧
    c.manifestDigest = some (codecs.sha256Hex (codecs.toCanonical m)) ∧
    m.checkpointId = c.checkpointId ∧ m.workloadId = c.workloadId ∧
    m.checkpointGeneration = c.checkpointGeneration ∧ m.components = c.components

namespace Coordinator

open Fabric

section Admission

/-- The deeds that end the admission of the capture `run` with the nonce `nonce`: its two draws,
and before them `ds₀`, whose newest read of a workload is the row of the run. -/
structure CaptureDrawn (workloadId : Id) (nonce : Id) (ds₀ ds : List FabricDeed)
    (run : CaptureRun) : Prop where
  attemptId : run.attemptId = .capture workloadId nonce
  draws : ∃ latest : ℕ, run.checkpointGeneration = latest + 1 ∧
    ⟨.random, .ok run.checkpointId⟩ ::
      ⟨.db (.checkpointMaxGeneration workloadId), .ok latest⟩ :: ⟨.random, .ok nonce⟩ :: ds₀ <:+ ds
  read : lastWorkloadRead ds₀ = some ⟨.db (.workloadGet workloadId), .ok (some run.workload)⟩

/-- The deeds `ds` admitted the capture `run` of a workload. -/
structure CaptureAdmitted (workloadId : Id) (options : CaptureOptions) (ds : List FabricDeed)
    (run : CaptureRun) : Prop where
  drawn : ∃ nonce ds₀, CaptureDrawn workloadId nonce ds₀ ds run
  options_eq : run.options = options
  captureable :
    Capture.workloadCaptureable run.workload run.workload.activeNode = .ok ()

variable {workloadId nonce : Id} {options : CaptureOptions} {ds₀ ds ds' : List FabricDeed}
  {run : CaptureRun}

theorem CaptureDrawn.mono (h : CaptureDrawn workloadId nonce ds₀ ds run) (hsuffix : ds <:+ ds') :
    CaptureDrawn workloadId nonce ds₀ ds' run := by
  obtain ⟨latest, hgeneration, hdraws⟩ := h.draws
  exact { h with draws := ⟨latest, hgeneration, hdraws.trans hsuffix⟩ }

theorem CaptureDrawn.read_mem (h : CaptureDrawn workloadId nonce ds₀ ds run) :
    ⟨.db (.workloadGet workloadId), .ok (some run.workload)⟩ ∈ ds₀ :=
  List.mem_of_find?_eq_some h.read

theorem CaptureAdmitted.mono (h : CaptureAdmitted workloadId options ds run)
    (hsuffix : ds <:+ ds') : CaptureAdmitted workloadId options ds' run := by
  obtain ⟨nonce, ds₀, hdrawn⟩ := h.drawn
  exact { h with drawn := ⟨nonce, ds₀, hdrawn.mono hsuffix⟩ }

end Admission

section Phases

/-- The phases of a capture. It prepares the checkpoint, promotes it and writes the full image,
journals that it is persisted, commits it, and finishes. -/
def capturePhase : Op → Option ℕ
  | .db (.reservationCreate _ _ _ _ _ _) | .db (.attemptBegin _ _ _ _ _)
  | .db (.checkpointInsert _) | .db (.checkpointSetDigest _ _ _)
  | .db (.checkpointSetIntegrity _ _) | .db (.journalAppend _ _ .reserved _)
  | .db (.journalAppend _ _ .sealed _) | .call _ (.capture _) => some 0
  | .db (.checkpointSetLifecycle _ .persisting _) | .call _ (.promote _)
  | .db (.checkpointUpdate _) => some 1
  | .db (.journalAppend _ _ .persisted _) => some 2
  | .db (.captureCommit _ _) => some 3
  | .db (.checkpointSetLifecycle _ .failed _) | .db (.journalAppend _ _ .resumeDone _)
  | .db (.checkpointAddLocation _ _) | .db (.attemptFinish _ _ _ _)
  | .db (.reservationRelease _) | .call _ (.resume _) | .call _ (.cleanup _)
  | .call _ (.allowFetch _) | .call _ (.replicate _) => some 4
  | .db (.checkpointSetLifecycle _ _ _) => some 0
  | _ => none

/-- A capture never goes back to an earlier phase. -/
def captureTimetable : Timetable fabricInterface := ⟨capturePhase, capturePhase⟩

theorem capturePhase_le (op : Op) : ∀ k ∈ capturePhase op, k ≤ 4 := by
  intro k hk
  unfold capturePhase at hk
  split at hk <;> simp at hk <;> omega

theorem capturePhase_of_reads {op : Op} (h : op.Reads) : capturePhase op = none := by
  cases op with
  | db op => cases op <;> first | rfl | exact absurd h not_false
  | claim => exact absurd h not_false
  | call => exact absurd h not_false
  | _ => rfl

theorem inPhase_of_capturePhase {op : Op} {n : ℕ} (h : capturePhase op = some n) :
    InPhase captureTimetable n op := by
  constructor
  · intro k hk
    exact Nat.le_of_eq (Option.some.inj (h.symm.trans hk))
  · intro k hk
    exact Nat.le_of_eq (Option.some.inj (hk.symm.trans h))

end Phases

namespace CaptureRun

variable (settings : Settings) (workloadId : Id) (run : CaptureRun)

/-- The checkpoint `c` is an image of the run's checkpoint. -/
structure Describes (c : CheckpointObject) : Prop where
  checkpointId : c.checkpointId = run.checkpointId
  workloadId : c.workloadId = run.workload.workloadId
  workloadGeneration : c.workloadGeneration = run.workload.workloadGeneration
  checkpointGeneration : c.checkpointGeneration = run.checkpointGeneration
  captureAttempt : c.captureAttempt = run.attemptId

/-- The checkpoint `c` is an image that holds what the run was asked to capture. -/
structure Staged (c : CheckpointObject) : Prop where
  describes : run.Describes c
  unused : c.Unused
  complete : Capture.validateComponentCompleteness run.options.components c.components = .ok ()

/-- The checkpoint `c` is the full image that the run persists. -/
structure Persisted (c : CheckpointObject) : Prop where
  staged : run.Staged c
  anchored : c.Anchored settings.codecs
  lifecycle : c.lifecycle = .persisting
  integrity : c.integrityState = .pending
  located : ∃ path, c.durableLocations = [⟨run.node, path, true⟩]

/-- The calls of the store that an admitted capture of `workloadId` makes to write. -/
def Writes : StoreOp → Prop
  | .reservationCreate id kind workload ckpt node _ =>
    id = run.attemptId ∧ kind = .capture ∧ workload = some workloadId ∧ ckpt = none ∧
      node = run.node
  | .attemptBegin id kind ckpt workload node =>
    id = run.attemptId ∧ kind = .capture ∧ ckpt = some run.checkpointId ∧
      workload = some workloadId ∧ node = run.node
  | .journalAppend kind key state _ =>
    kind = .capture ∧ key = run.attemptId ∧
      (state = .reserved ∨ state = .sealed ∨ state = .persisted ∨ state = .resumeDone)
  | .checkpointInsert c => run.Describes c ∧ c.lifecycle = .created ∧ c.Unused
  | .checkpointUpdate c => run.Persisted settings c
  | .checkpointSetLifecycle id lifecycle integrity =>
    id = run.checkpointId ∧ integrity = .pending ∧
      (lifecycle = .capturing ∨ lifecycle = .captured ∨ lifecycle = .validating ∨
        lifecycle = .sealed ∨ lifecycle = .persisting ∨ lifecycle = .failed)
  | .checkpointSetDigest id _ _ => id = run.checkpointId
  | .checkpointSetIntegrity id integrity => id = run.checkpointId ∧ integrity = .valid
  | .captureCommit id attemptId => id = run.checkpointId ∧ attemptId = run.attemptId
  | .checkpointAddLocation id _ => id = run.checkpointId
  | .attemptFinish id _ _ _ => id = run.attemptId
  | .reservationRelease id => id = run.attemptId
  | _ => False

/-- The messages that an admitted capture sends. -/
def Sends : NodeId → NodeRequest → Prop
  | node, .capture req =>
    node = run.node ∧ req.attemptId = run.attemptId ∧ req.checkpointId = run.checkpointId
  | node, .promote req =>
    node = run.node ∧ req.attemptId = run.attemptId ∧ req.checkpointId = run.checkpointId
  | _, .resume req =>
    req.attemptId = run.attemptId ∧ req.fenceToken = none ∧ req.executionEpoch = none
  | _, .cleanup req =>
    req.stagingAttempts = [run.attemptId] ∧ req.restoreAttempts = [] ∧
      (req.checkpointIds = [] ∨ req.checkpointIds = [run.checkpointId])
  | _, .allowFetch req => req.checkpointId = run.checkpointId
  | _, .replicate req =>
    req.checkpointId = run.checkpointId ∧
      ∃ nonce, req.attemptId = .replicate run.checkpointId nonce
  | _, _ => False

/-- The operations of an admitted capture. -/
def Performs : Op → Prop
  | .db op => op.Reads ∨ run.Writes settings workloadId op
  | .claim _ _ _ => False
  | .call node request => run.Sends node request
  | .now | .epoch | .random | .fire _ => True

/-- The deeds reserved the workload and opened the attempt. -/
structure Begun (ds : List FabricDeed) : Prop where
  reserved : ⟨.db (.reservationCreate run.attemptId .capture (some workloadId) none run.node
    reservationTtlMs), .ok ()⟩ ∈ ds
  opened : ⟨.db (.attemptBegin run.attemptId .capture (some run.checkpointId) (some workloadId)
    run.node), .ok ()⟩ ∈ ds

/-- The full image was written. -/
def Updated (ds : List FabricDeed) : Prop :=
  ∃ c, run.Persisted settings c ∧ ⟨.db (.checkpointUpdate c), .ok ()⟩ ∈ ds

/-- The deeds behind the recorded outcome of the attempt. -/
def Settles (ds : List FabricDeed) (state : AttemptState) : Prop :=
  if state = .failed then Looked ds .capture run.attemptId .dbCommitted false
  else Looked ds .capture run.attemptId .dbCommitted true ∨
    ⟨.db (.captureCommit run.checkpointId run.attemptId), .ok ()⟩ ∈ ds

/-- The deeds behind an operation. -/
def Backed (ds : List FabricDeed) : Op → Prop
  | .db (.checkpointSetLifecycle id .failed _) =>
    Looked ds .capture run.attemptId .dbCommitted false ∧
      JustRead ds id fun l => l ≠ .available ∧ l ≠ .restored ∧ l ≠ .retired
  | .db (.checkpointSetLifecycle id lifecycle _) => JustRead ds id (·.canTransition lifecycle)
  | .db (.checkpointUpdate _) =>
    ⟨.db (.checkpointSetLifecycle run.checkpointId .persisting .pending), .ok ()⟩ ∈ ds
  | .db (.journalAppend _ _ .persisted _) | .db (.captureCommit _ _) => run.Updated settings ds
  | .db (.attemptFinish _ state _ _) => run.Settles ds state
  | .call _ (.cleanup req) =>
    req.checkpointIds ≠ [] → Looked ds .capture run.attemptId .dbCommitted false
  | _ => True

variable {settings workloadId run}

theorem Begun.mono {ds ds' : List FabricDeed} (h : run.Begun workloadId ds) (hsuffix : ds <:+ ds') :
    run.Begun workloadId ds' where
  reserved := hsuffix.subset h.reserved
  opened := hsuffix.subset h.opened

theorem Updated.mono {ds ds' : List FabricDeed} (h : run.Updated settings ds)
    (hsuffix : ds <:+ ds') : run.Updated settings ds' := by
  obtain ⟨c, hc, hmem⟩ := h
  exact ⟨c, hc, hsuffix.subset hmem⟩

theorem Staged.of_describes {c c' : CheckpointObject} (h : run.Staged c)
    (hdescribes : run.Describes c') (hunused : c'.Unused)
    (hcomponents : c'.components = c.components) : run.Staged c' where
  describes := hdescribes
  unused := hunused
  complete := hcomponents ▸ h.complete

end CaptureRun

/-- What is known of an operation of the admitted capture `run` after the deeds `ds`. -/
structure CaptureDoes (settings : Settings) (workloadId : Id) (options : CaptureOptions)
    (ds : List FabricDeed) (op : Op) (run : CaptureRun) : Prop where
  admitted : CaptureAdmitted workloadId options ds run
  performs : run.Performs settings workloadId op
  inTurn : InTurn captureTimetable (drawsAttempt run.attemptId) ds op
  begun : op.Opens ∨ run.Begun workloadId ds
  backed : run.Backed settings ds op

/-- What a thread that runs a capture may do after the deeds `ds`. -/
def CapturePermits (settings : Settings) (workloadId : Id) (options : CaptureOptions)
    (ds : List FabricDeed) (op : Op) : Prop :=
  op.Reads ∨ ∃ run, CaptureDoes settings workloadId options ds op run

section Parts

variable {settings : Settings} {workloadId : Id} {options : CaptureOptions} {run : CaptureRun}
  {base ds : List FabricDeed} {n m : ℕ}

open CaptureRun

/-- The deeds continue `base`, and the run is within phase `n`. -/
abbrev CaptureRun.At (run : CaptureRun) (base : List FabricDeed) (n : ℕ) (ds : List FabricDeed) :
    Prop :=
  Concurrency.At captureTimetable (drawsAttempt run.attemptId) base n ds

theorem CaptureRun.at_cons_of_reads (h : run.At base n ds) (op : Op) (hop : op.Reads)
    (reply : FabricResult op.Reply) : run.At base n (⟨op, reply⟩ :: ds) :=
  h.cons fun _ hk => nomatch (capturePhase_of_reads hop).symm.trans hk

theorem CaptureRun.at_cons_of_phase {op : Op} (h : run.At base n ds)
    (hphase : capturePhase op = some n) (reply : FabricResult op.Reply) :
    run.At base n (⟨op, reply⟩ :: ds) :=
  h.cons (inPhase_of_capturePhase hphase).2

/-- A capture may read at any time. -/
theorem captureReads (ds : List FabricDeed) (op : Op) (h : run.At base n ds) (hop : op.Reads) :
    CapturePermits settings workloadId options ds op ∧
      ∀ reply, run.At base n (⟨op, reply⟩ :: ds) :=
  ⟨.inl hop, at_cons_of_reads h op hop⟩

section Begun

variable (hadmitted : CaptureAdmitted workloadId options base run)
  (hbegun : run.Begun workloadId base)
include hadmitted hbegun

/-- The run may perform its operations in their phases. -/
theorem capturePermits_of_phase {op : Op} (h : run.At base n ds)
    (hperforms : run.Performs settings workloadId op) (hphase : capturePhase op = some n)
    (hbacked : run.Backed settings ds op) : CapturePermits settings workloadId options ds op := by
  refine .inr ⟨run, ?_⟩
  exact
    { admitted := hadmitted.mono h.suffix
      performs := hperforms
      inTurn := (inPhase_of_capturePhase hphase).inTurn h.within
      begun := .inr (hbegun.mono h.suffix)
      backed := hbacked }

theorem captureDoes {op : Op} (h : run.At base n ds)
    (hperforms : run.Performs settings workloadId op) (hphase : capturePhase op = some n)
    (hbacked : run.Backed settings ds op) :
    CapturePermits settings workloadId options ds op ∧
      ∀ reply, run.At base n (⟨op, reply⟩ :: ds) :=
  ⟨capturePermits_of_phase hadmitted hbegun h hperforms hphase hbacked,
    at_cons_of_phase h hphase⟩

theorem keeps_writes {op : StoreOp} (hwrites : run.Writes settings workloadId op)
    (hphase : capturePhase (.db op) = some n)
    (hbacked : ∀ ds, base <:+ ds → run.Backed settings ds (.db op)) :
    Keeps (CapturePermits settings workloadId options) (run.At base n) (db op) :=
  fun ds h => captureDoes hadmitted hbegun h (.inr hwrites) hphase (hbacked ds h.suffix)

theorem keeps_sends {node : NodeId} {request : NodeRequest} (hsends : run.Sends node request)
    (hphase : capturePhase (.call node request) = some n)
    (hbacked : ∀ ds, base <:+ ds → run.Backed settings ds (.call node request)) :
    Keeps (CapturePermits settings workloadId options) (run.At base n) (callNode node request) :=
  keeps_callNode captureReads fun ds h =>
    captureDoes hadmitted hbegun h hsends hphase (hbacked ds h.suffix)

/-- The lifecycle updates of a running capture. -/
theorem keeps_captureLifecycle {ckpt : CheckpointObject} {target : LifecycleState}
    (hckpt : run.Describes ckpt)
    (htarget : target = .capturing ∨ target = .captured ∨ target = .validating ∨
      target = .sealed) :
    Keeps (CapturePermits settings workloadId options) (run.At base 0)
      (setLifecycle ckpt target) := by
  refine keeps_setLifecycle captureReads fun ds h hread => ?_
  have hwrites : run.Performs settings workloadId
      (.db (.checkpointSetLifecycle ckpt.checkpointId target .pending)) :=
    .inr ⟨hckpt.checkpointId, rfl, by tauto⟩
  rcases htarget with rfl | rfl | rfl | rfl
  all_goals exact captureDoes hadmitted hbegun h hwrites rfl hread

theorem keeps_stageCapture :
    Keeps (CapturePermits settings workloadId options) (run.At base 0)
      (stageCapture settings run) := by
  unfold stageCapture
  refine Keeps.bind (keeps_of_reads captureReads (uses_call.mpr trivial)) fun epoch => ?_
  refine Keeps.bind (keeps_of_reads captureReads (uses_call.mpr trivial)) fun now => ?_
  refine Keeps.bind (keeps_writes hadmitted hbegun
    ⟨⟨rfl, rfl, rfl, rfl, rfl⟩, rfl, rfl, rfl, rfl⟩ rfl fun _ _ => trivial) fun _ => ?_
  refine Keeps.bind (keeps_captureLifecycle hadmitted hbegun ⟨rfl, rfl, rfl, rfl, rfl⟩
    (.inl rfl)) fun _ => ?_
  refine Keeps.bind (keeps_sends hadmitted hbegun ⟨rfl, rfl, rfl⟩ rfl fun _ _ => trivial)
    fun result => ?_
  refine Keeps.bind keeps_ensure fun _ => Keeps.bind keeps_done fun _ => ?_
  exact Keeps.bind keeps_done fun _ => keeps_done

theorem keeps_sealCapture {ckpt : CheckpointObject} (hckpt : run.Describes ckpt) :
    Keeps (CapturePermits settings workloadId options) (run.At base 0)
      (sealCapture settings run ckpt) := by
  unfold sealCapture
  refine Keeps.bind (keeps_captureLifecycle hadmitted hbegun hckpt (by simp)) fun _ => ?_
  refine Keeps.bind (keeps_captureLifecycle hadmitted hbegun hckpt (by simp)) fun _ => ?_
  refine Keeps.bind (keeps_of_reads captureReads uses_fire) fun _ => ?_
  refine Keeps.bind (keeps_of_reads captureReads (uses_call.mpr trivial)) fun _ => ?_
  refine Keeps.bind (keeps_writes hadmitted hbegun rfl rfl fun _ _ => trivial) fun _ => ?_
  refine Keeps.bind (keeps_captureLifecycle hadmitted hbegun
    ⟨hckpt.1, hckpt.2, hckpt.3, hckpt.4, hckpt.5⟩ (by simp)) fun _ => ?_
  refine Keeps.bind (keeps_writes hadmitted hbegun ⟨rfl, rfl, by simp⟩ rfl fun _ _ => trivial)
    fun _ => ?_
  exact Keeps.bind (keeps_writes hadmitted hbegun ⟨rfl, rfl⟩ rfl fun _ _ => trivial)
    fun _ => keeps_done

end Begun

/-- What is staged is an image of the run with every required component. -/
theorem returns_stageCapture : Returns run.Staged (stageCapture settings run) := by
  unfold stageCapture
  refine Returns.bind fun _ => Returns.bind fun _ => Returns.bind fun _ => Returns.bind fun _ => ?_
  refine Returns.bind fun result => Returns.bind fun _ => ?_
  refine returns_ofExcept_bind fun _ hcomplete => Returns.bind fun _ => ?_
  exact returns_pure
    { describes := ⟨rfl, rfl, rfl, rfl, rfl⟩
      unused := ⟨rfl, rfl, rfl⟩
      complete := hcomplete }

/-- What is sealed is anchored in its manifest. -/
theorem returns_sealCapture {ckpt : CheckpointObject} (hckpt : run.Staged ckpt) :
    Returns (fun sealed => run.Staged sealed.1 ∧ sealed.1.Anchored settings.codecs)
      (sealCapture settings run ckpt) := by
  unfold sealCapture
  refine Returns.bind fun _ => Returns.bind fun _ => Returns.bind fun _ => Returns.bind fun sealMs => ?_
  refine Returns.bind fun _ => Returns.bind fun _ => Returns.bind fun _ => Returns.bind fun _ => ?_
  have hdescribes := hckpt.describes
  refine returns_pure ⟨hckpt.of_describes ⟨hdescribes.1, hdescribes.2, hdescribes.3, hdescribes.4,
    hdescribes.5⟩ ⟨hckpt.unused.1, hckpt.unused.2, hckpt.unused.3⟩ rfl, ?_⟩
  exact ⟨_, rfl, rfl, rfl, rfl, rfl, rfl⟩

/-- Promoting ends with the full image written and journaled as persisted. -/
theorem obeys_persistCapture {ckpt : CheckpointObject} {sealed : SealedManifest}
    (hadmitted : CaptureAdmitted workloadId options base run) (hbegun : run.Begun workloadId base)
    (hstaged : run.Staged ckpt) (hanchored : ckpt.Anchored settings.codecs)
    (h : run.At base 0 ds) :
    Obeys (CapturePermits settings workloadId options)
      (fun ds' result => ∀ u, result = .ok u → run.At base 2 ds' ∧ run.Updated settings ds') ds
      (persistCapture run ckpt sealed) := by
  have herror : ∀ (ds' : List FabricDeed) (e : FabricError), ∀ u : Unit,
      Except.error e = Except.ok u → run.At base 2 ds' ∧ run.Updated settings ds' :=
    fun _ _ _ h => nomatch h
  have hdescribes := hstaged.describes
  unfold persistCapture
  have hlifecycle : Keeps (CapturePermits settings workloadId options) (run.At base 1)
      (setLifecycle ckpt .persisting) :=
    keeps_setLifecycle captureReads fun ds h hread =>
      captureDoes hadmitted hbegun h (.inr ⟨hdescribes.checkpointId, rfl, by simp⟩) rfl hread
  refine Obeys.bind herror (((hlifecycle ds (h.mono (Nat.zero_le 1))).and obeys_setLifecycle).mono
    (fun _ _ h => h.1) fun ds₁ result h₁ u hu =>
      (⟨h₁.1, h₁.2 u hu⟩ : run.At base 1 ds₁ ∧ _)) fun ds₁ _ h₁ => ?_
  have hset₁ : ⟨.db (.checkpointSetLifecycle run.checkpointId .persisting .pending), .ok ()⟩ ∈
      ds₁ := hdescribes.checkpointId ▸ h₁.2
  -- The promotion is asked of the node that has the staged directory.
  have hpromote : Keeps (CapturePermits settings workloadId options) (run.At ds₁ 1)
      (callNode run.node (.promote
        { attemptId := run.attemptId
          checkpointId := run.checkpointId
          manifestBytes := sealed.canonicalBytes
          digest := sealed.digest
          integrityRoot := sealed.integrityRoot })) :=
    keeps_sends (hadmitted.mono h₁.1.suffix) (hbegun.mono h₁.1.suffix) ⟨rfl, rfl, rfl⟩ rfl
      fun _ _ => trivial
  refine Obeys.bind herror ((hpromote ds₁ (h₁.1.here (Nat.le_refl 1))).weaken fun _ _ h _ _ => h)
    fun ds₂ result h₂ => ?_
  refine obeys_ensure_bind herror fun _ => ?_
  -- The full image differs from the sealed one in its location, its state and its eligibility.
  generalize hc : persistedCheckpoint run ckpt (unwrapOrDefault result.commitPath) = c
  have hpersisted : run.Persisted settings c := by
    rw [← hc]
    exact
      { staged := hstaged.of_describes ⟨hdescribes.1, hdescribes.2, hdescribes.3, hdescribes.4,
          hdescribes.5⟩ ⟨hstaged.unused.1, hstaged.unused.2, hstaged.unused.3⟩ rfl
        anchored := hanchored
        lifecycle := rfl
        integrity := rfl
        located := ⟨_, rfl⟩ }
  have h₂' : run.At base 1 ds₂ := ⟨h₁.1.suffix.trans h₂.suffix, h₂.within⟩
  refine obeys_call_bind herror (capturePermits_of_phase hadmitted hbegun h₂' (.inr hpersisted) rfl
    (h₂.suffix.subset hset₁)) fun u => ?_
  have h₃ : run.At base 1 (⟨.db (.checkpointUpdate c), .ok u⟩ :: ds₂) :=
    at_cons_of_phase h₂' rfl _
  have hupdated₃ : run.Updated settings (⟨.db (.checkpointUpdate c), .ok u⟩ :: ds₂) :=
    ⟨c, hpersisted, .head _⟩
  have h₃' := h₃.mono (Nat.le_succ 1)
  -- PERSISTED is journaled only after the image is written.
  exact ⟨capturePermits_of_phase hadmitted hbegun h₃' (.inr ⟨rfl, rfl, by simp⟩) rfl hupdated₃,
    fun reply _ _ => ⟨at_cons_of_phase h₃' rfl _, hupdated₃.mono (List.suffix_cons _ _)⟩⟩

section Finish

variable (hadmitted : CaptureAdmitted workloadId options base run)
  (hbegun : run.Begun workloadId base)
include hadmitted hbegun

/-- Resuming the source sends no authority. -/
theorem keeps_captureResume {node : NodeId} {workload : Id} :
    Keeps (CapturePermits settings workloadId options) (run.At base 4)
      (callNode node (captureResume run.attemptId run.checkpointId workload)) :=
  keeps_sends hadmitted hbegun ⟨rfl, rfl, rfl⟩ rfl fun _ _ => trivial

theorem keeps_replicateLoop {targets : List NodeId} {ck : CheckpointObject} :
    Keeps (CapturePermits settings workloadId options) (run.At base 4)
      (replicateLoop settings run.checkpointId targets ck) := by
  induction targets generalizing ck with
  | nil => exact keeps_done
  | cons target targets ih =>
    unfold replicateLoop
    refine Keeps.ite keeps_done ?_
    split
    · exact keeps_done
    · refine Keeps.bind (keeps_of_reads captureReads (uses_call.mpr trivial)) fun _ => ?_
      refine Keeps.bind (keeps_sends hadmitted hbegun rfl rfl fun _ _ => trivial) fun _ => ?_
      refine Keeps.bind (keeps_of_reads captureReads (uses_nodeAddr fun _ => id)) fun _ => ?_
      refine Keeps.bind (keeps_of_reads captureReads (uses_call.mpr trivial)) fun nonce => ?_
      refine Keeps.bind keeps_okOr fun _ => ?_
      refine Keeps.bind (keeps_sends hadmitted hbegun ⟨rfl, nonce, rfl⟩ rfl fun _ _ => trivial)
        fun _ => ?_
      have hnext : Keeps (CapturePermits settings workloadId options) (run.At base 4) (do
          let ck ← checkpointGet run.checkpointId
          let ck ← okOr ck (.panicked "called unwrap on a None value")
          replicateLoop settings run.checkpointId targets ck) :=
        Keeps.bind (keeps_of_reads captureReads (uses_db trivial)) fun _ =>
          Keeps.bind keeps_okOr fun _ => ih
      exact Keeps.ite (Keeps.bind (keeps_writes hadmitted hbegun rfl rfl fun _ _ => trivial)
        fun _ => hnext) hnext

theorem keeps_replicateToPolicy :
    Keeps (CapturePermits settings workloadId options) (run.At base 4)
      (replicateToPolicy settings run.checkpointId) := by
  refine Keeps.ite keeps_done ?_
  refine Keeps.bind (keeps_of_reads captureReads (uses_requireCheckpoint fun _ => id)) fun _ => ?_
  refine Keeps.bind (keeps_of_reads captureReads (uses_db trivial)) fun _ => ?_
  exact Keeps.bind (keeps_replicateLoop hadmitted hbegun) fun _ => keeps_done

/-- What follows the commit of a capture. -/
theorem keeps_finishCapture {ckpt : CheckpointObject}
    (hcommitted : ⟨.db (.captureCommit run.checkpointId run.attemptId), .ok ()⟩ ∈ base) :
    Keeps (CapturePermits settings workloadId options) (run.At base 4)
      (finishCapture settings run ckpt) := by
  have hfinish {state : AttemptState} {result error : Option String} (hstate : state ≠ .failed) :
      Keeps (CapturePermits settings workloadId options) (run.At base 4)
        (attemptFinish run.attemptId state result error) := by
    refine keeps_writes hadmitted hbegun rfl rfl fun ds hsuffix => ?_
    show run.Settles ds state
    rw [Settles, if_neg hstate]
    exact .inr (hsuffix.subset hcommitted)
  unfold finishCapture
  refine Keeps.bind (keeps_captureResume hadmitted hbegun) fun _ => Keeps.ite ?_ ?_
  · exact Keeps.bind (hfinish (by decide)) fun _ => keeps_done
  · refine Keeps.bind (keeps_writes hadmitted hbegun ⟨rfl, rfl, by simp⟩ rfl fun _ _ => trivial)
      fun _ => ?_
    refine Keeps.bind (keeps_replicateToPolicy hadmitted hbegun) fun _ => ?_
    refine Keeps.bind (hfinish (by decide)) fun _ => ?_
    refine Keeps.bind (keeps_writes hadmitted hbegun rfl rfl fun _ _ => trivial) fun _ => ?_
    exact Keeps.bind (keeps_of_reads captureReads uses_fire) fun _ => keeps_done

/-- A capture runs through its phases in order. -/
theorem obeys_executeCapture (h : run.At base 0 ds) :
    Obeys (CapturePermits settings workloadId options) (fun _ _ => True) ds
      (executeCapture settings run) := by
  have herror : ∀ (ds : List FabricDeed) (e : FabricError),
      (fun _ _ => True : List FabricDeed → FabricResult OperationOutcome → Prop) ds (.error e) :=
    fun _ _ => trivial
  unfold executeCapture
  refine Obeys.bind herror ((((keeps_stageCapture hadmitted hbegun) ds h).and_returns
    returns_stageCapture).weaken fun ds₁ result h₁ ckpt hckpt =>
      (⟨h₁.1, h₁.2 ckpt hckpt⟩ : run.At base 0 ds₁ ∧ run.Staged ckpt)) fun ds₁ ckpt h₁ => ?_
  refine Obeys.bind herror ((((keeps_sealCapture hadmitted hbegun h₁.2.describes) ds₁
    h₁.1).and_returns (returns_sealCapture h₁.2)).weaken fun ds₂ result h₂ sealed hsealed =>
      (⟨h₂.1, h₂.2 sealed hsealed⟩ : run.At base 0 ds₂ ∧ run.Staged sealed.1 ∧
        sealed.1.Anchored settings.codecs)) fun ds₂ sealed h₂ => ?_
  refine Obeys.bind herror (obeys_persistCapture hadmitted hbegun h₂.2.1 h₂.2.2 h₂.1)
    fun ds₃ _ h₃ => ?_
  refine obeys_call_bind herror (.inl trivial) fun _ => ?_
  have h₄ : run.At base 3 (⟨.fire "capture.before_db_commit", .ok ()⟩ :: ds₃) :=
    (at_cons_of_reads h₃.1 (.fire _) trivial _).mono (Nat.le_succ 2)
  refine obeys_call_bind herror (capturePermits_of_phase hadmitted hbegun h₄ (.inr ⟨rfl, rfl⟩) rfl
    (h₃.2.mono (List.suffix_cons _ _))) fun u => ?_
  have h₅ : run.At base 3 (⟨.db (.captureCommit run.checkpointId run.attemptId), .ok u⟩ :: _) :=
    at_cons_of_phase h₄ rfl _
  exact (keeps_finishCapture (hadmitted.mono h₅.suffix) (hbegun.mono h₅.suffix) (.head _) _
    (h₅.here (by omega))).weaken fun _ _ _ => trivial

section Abort

variable {committed : Bool} (hlooked : Looked base .capture run.attemptId .dbCommitted committed)
include hlooked

/-- The node is told to delete the committed directory only if the commit was not journaled. -/
theorem keeps_releaseCaptureOnNode {node : NodeId} {workload : Id} :
    Keeps (CapturePermits settings workloadId options) (run.At base 4)
      (releaseCaptureOnNode node run.attemptId run.checkpointId workload committed) := by
  refine Keeps.bind (keeps_captureResume hadmitted hbegun).ignore fun _ => ?_
  have hcleanup : Keeps (CapturePermits settings workloadId options) (run.At base 4)
      (callNode node (.cleanup
        { stagingAttempts := [run.attemptId]
          restoreAttempts := []
          checkpointIds := if committed then [] else [run.checkpointId] })) := by
    cases committed with
    | true =>
      exact keeps_sends hadmitted hbegun ⟨rfl, rfl, .inl rfl⟩ rfl fun _ _ h => absurd rfl h
    | false =>
      exact keeps_sends hadmitted hbegun ⟨rfl, rfl, .inr rfl⟩ rfl
        fun _ hsuffix _ => hsuffix.subset hlooked
  exact hcleanup.ignore

theorem keeps_failAbortedCheckpoint :
    Keeps (CapturePermits settings workloadId options) (run.At base 4)
      (failAbortedCheckpoint run.checkpointId committed) := by
  intro ds h
  have hkeep : ∀ reply, run.At base 4 (⟨.db (.checkpointGet run.checkpointId), reply⟩ :: ds) :=
    at_cons_of_reads h (.db (.checkpointGet run.checkpointId)) trivial
  refine ⟨.inl trivial, fun reply => ?_⟩
  cases reply with
  | error e => exact hkeep _
  | ok row =>
    cases row with
    | none => exact hkeep _
    | some ck =>
      refine obeys_ite (fun hstate => ?_) fun _ => hkeep _
      simp only [Bool.and_eq_true, bne_iff_ne, Bool.not_eq_true'] at hstate
      obtain ⟨⟨⟨rfl, havailable⟩, hrestored⟩, hretired⟩ := hstate
      refine captureDoes hadmitted hbegun (hkeep _) (.inr ⟨rfl, rfl, by simp⟩) rfl ⟨?_, ?_⟩
      · exact (hkeep (.ok (some ck))).suffix.subset hlooked
      · exact ⟨some ck, ds, rfl, fun c hc => Option.some.inj hc ▸ ⟨havailable, hrestored,
          hretired⟩⟩

theorem keeps_settle {result error : Option String} :
    Keeps (CapturePermits settings workloadId options) (run.At base 4)
      (attemptFinish run.attemptId (if committed then .committed else .failed) result error) := by
  refine keeps_writes hadmitted hbegun rfl rfl fun ds hsuffix => ?_
  show run.Settles ds _
  cases committed with
  | true => exact .inl (hsuffix.subset hlooked)
  | false => exact hsuffix.subset hlooked

end Abort

/-- The handler of a failed capture looks up what was committed, and decides from that. -/
theorem obeys_abortCaptureAttempt {workload : Id} {detail : String} (h : run.At base 4 ds) :
    Obeys (CapturePermits settings workloadId options) (fun _ _ => True) ds
      (abortCaptureAttempt run.attemptId run.checkpointId workload detail) := by
  unfold abortCaptureAttempt
  refine obeys_call_bind (fun _ _ => trivial) (.inl trivial) fun committed => ?_
  -- From here on the deeds show what the journal said.
  have h₁ : run.At base 4
      (⟨.db (.journalHas .capture run.attemptId .dbCommitted), .ok committed⟩ :: ds) :=
    at_cons_of_reads h (.db (.journalHas .capture run.attemptId .dbCommitted)) trivial _
  generalize hds₁ : (_ :: ds : List FabricDeed) = ds₁ at h₁
  have hcommitted : Looked ds₁ .capture run.attemptId .dbCommitted committed := hds₁ ▸ .head _
  have hadmitted₁ := hadmitted.mono h₁.suffix
  have hbegun₁ := hbegun.mono h₁.suffix
  have hrest : Keeps (CapturePermits settings workloadId options) (run.At ds₁ 4) (do
      failAbortedCheckpoint run.checkpointId committed
      attemptFinish run.attemptId (if committed then .committed else .failed)
        (if committed then some "capture committed before later failure" else none)
        (if committed then none else some detail)
      reservationRelease run.attemptId) :=
    Keeps.bind (keeps_failAbortedCheckpoint hadmitted₁ hbegun₁ hcommitted) fun _ =>
      Keeps.bind (keeps_settle hadmitted₁ hbegun₁ hcommitted) fun _ =>
        keeps_writes hadmitted₁ hbegun₁ rfl rfl fun _ _ => trivial
  have hlook : Keeps (CapturePermits settings workloadId options) (run.At ds₁ 4)
      (db (.attemptGet run.attemptId)) :=
    keeps_of_reads captureReads (uses_db trivial)
  refine (Keeps.bind hlook (fun attempt => ?_) _ (h₁.here (Nat.le_refl 4))).weaken
    fun _ _ _ => trivial
  cases attempt with
  | none => exact hrest
  | some a =>
    exact Keeps.bind (keeps_releaseCaptureOnNode hadmitted₁ hbegun₁ hcommitted) fun _ => hrest

end Finish

/-- Opening the attempt leaves the run reserved, and still preparing. -/
theorem obeys_reserveCapture (hadmitted : CaptureAdmitted workloadId options ds run)
    (hwithin : Within captureTimetable (drawsAttempt run.attemptId) 0 ds) :
    Obeys (CapturePermits settings workloadId options)
      (fun ds' result => ∀ u, result = .ok u → CaptureAdmitted workloadId options ds' run ∧
        run.Begun workloadId ds' ∧ run.At ds' 0 ds') ds (reserveCapture run workloadId) := by
  have herror : ∀ (ds' : List FabricDeed) (e : FabricError), ∀ u : Unit,
      Except.error e = Except.ok u → CaptureAdmitted workloadId options ds' run ∧
        run.Begun workloadId ds' ∧ run.At ds' 0 ds' := fun _ _ _ h => nomatch h
  have hopens {op : StoreOp} {ds' : List FabricDeed} (hsuffix : ds <:+ ds')
      (hwithin' : Within captureTimetable (drawsAttempt run.attemptId) 0 ds')
      (hwrites : run.Writes settings workloadId op) (hphase : capturePhase (.db op) = some 0)
      (hop : Op.Opens (.db op)) (hbacked : run.Backed settings ds' (.db op)) :
      CapturePermits settings workloadId options ds' (.db op) :=
    .inr ⟨run, hadmitted.mono hsuffix, .inr hwrites,
      (inPhase_of_capturePhase hphase).inTurn hwithin', .inl hop, hbacked⟩
  unfold reserveCapture
  refine obeys_call_bind herror (hopens (List.suffix_refl ds) hwithin ⟨rfl, rfl, rfl, rfl, rfl⟩ rfl
    trivial trivial) fun reserved => ?_
  have hwithin₁ := hwithin.cons (d := (⟨.db (.reservationCreate run.attemptId .capture
    (some workloadId) none run.node reservationTtlMs), .ok reserved⟩ : FabricDeed))
    (inPhase_of_capturePhase rfl).2
  refine obeys_call_bind herror (hopens (List.suffix_cons _ _) hwithin₁ ⟨rfl, rfl, rfl, rfl, rfl⟩
    rfl trivial trivial) fun opened => ?_
  have hwithin₂ := hwithin₁.cons (d := (⟨.db (.attemptBegin run.attemptId .capture
    (some run.checkpointId) (some workloadId) run.node), .ok opened⟩ : FabricDeed))
    (inPhase_of_capturePhase rfl).2
  generalize hds₂ : (_ :: _ :: ds : List FabricDeed) = ds₂ at hwithin₂ ⊢
  have hsuffix : ds <:+ ds₂ := hds₂ ▸ List.suffix_append [_, _] ds
  have hbegun : run.Begun workloadId ds₂ := hds₂ ▸ ⟨.tail _ (.head _), .head _⟩
  have hkeeps : Keeps (CapturePermits settings workloadId options) (run.At ds₂ 0)
      (journal .capture run.attemptId .reserved "reservation committed") :=
    keeps_writes (hadmitted.mono hsuffix) hbegun ⟨rfl, rfl, .inl rfl⟩ rfl fun _ _ => trivial
  refine (hkeeps ds₂ ⟨List.suffix_refl ds₂, hwithin₂⟩).weaken fun ds₃ _ h₃ _ _ => ?_
  exact ⟨(hadmitted.mono hsuffix).mono h₃.suffix, hbegun.mono h₃.suffix, h₃.here (Nat.le_refl 0)⟩

end Parts

section Request

variable {settings : Settings} {workloadId : Id} {options : CaptureOptions}
  {ctx : OperationContext} {ds : List FabricDeed}

/-- The operation lists the nodes. -/
def ListsNodes (op : Op) : Prop := op = .db .nodeList

theorem uses_pickCaptureNode {workload : Workload} :
    Uses ListsNodes (pickCaptureNode workload) := by
  unfold pickCaptureNode
  have hlists : Uses ListsNodes (do
      let nodes ← nodeList
      okOr ((nodes.filter fun n => n.status == .active).head?.map (·.id))
        (.internal "no active nodes available for capture")) :=
    Uses.bind (uses_db rfl) fun _ => uses_okOr
  split
  · refine Uses.bind ?_ fun _ => Uses.bind trivial fun own => ?_
    · exact Uses.bind (uses_db rfl) fun _ => trivial
    · cases own with
      | some node => trivial
      | none => exact hlists
  · refine Uses.bind trivial fun own => ?_
    cases own with
    | some node => trivial
    | none => exact hlists

/-- Listing the nodes leaves the newest read of a workload. -/
theorem obeys_pickCaptureNode {permits : List FabricDeed → Op → Prop}
    (hreads : ∀ ds op, Op.Reads op → permits ds op) {workload : Workload} {d : FabricDeed}
    (hread : lastWorkloadRead ds = some d) :
    Obeys permits (fun ds _ => lastWorkloadRead ds = some d) ds (pickCaptureNode workload) := by
  refine Obeys.of_uses uses_pickCaptureNode (fun ds' op hop hread => ?_) hread
  obtain rfl : op = .db .nodeList := hop
  exact ⟨hreads _ _ trivial, fun _ => hread⟩

theorem obeys_admitCapture {permits : List FabricDeed → Op → Prop}
    (hreads : ∀ ds op, Op.Reads op → permits ds op) :
    Obeys permits
      (fun ds result => ∀ run, result = .ok run → CaptureAdmitted workloadId options ds run ∧
        Within captureTimetable (drawsAttempt run.attemptId) 0 ds)
      ds (admitCapture settings workloadId options ctx) := by
  have herror : ∀ (ds : List FabricDeed) (e : FabricError), ∀ run : CaptureRun,
      Except.error e = Except.ok run → CaptureAdmitted workloadId options ds run ∧
        Within captureTimetable (drawsAttempt run.attemptId) 0 ds :=
    fun _ _ _ h => nomatch h
  unfold admitCapture
  refine obeys_ofExcept_bind herror fun _ _ => ?_
  refine obeys_call_bind herror (hreads _ _ trivial) fun _ => ?_
  refine Obeys.bind herror (obeys_requireWorkload (hreads _ _ trivial)) fun ds₁ workload hw => ?_
  refine obeys_call_bind herror (hreads _ _ trivial) fun _ => ?_
  refine obeys_call_bind herror (hreads _ _ trivial) fun _ => ?_
  refine obeys_ofExcept_bind herror fun _ _ => obeys_ofExcept_bind herror fun _ hfenced => ?_
  subst hw
  refine Obeys.bind herror ((obeys_pickCaptureNode hreads rfl).weaken fun _ _ h _ _ => h)
    fun ds₂ node hread => ?_
  refine obeys_call_bind herror (hreads _ _ trivial) fun nonce => ?_
  refine obeys_call_bind herror (hreads _ _ trivial) fun latest => ?_
  refine obeys_call_bind herror (hreads _ _ trivial) fun checkpointId => ?_
  intro run hrun
  obtain rfl := Except.ok.inj hrun
  refine ⟨?_, ?_⟩
  · exact
      { drawn := ⟨nonce, ds₂, rfl, ⟨latest, rfl, List.suffix_refl _⟩, hread⟩
        options_eq := rfl
        captureable := hfenced }
  · -- The draw of the nonce is the mark; the two deeds since belong to no phase.
    have hmark : drawsAttempt (.capture workloadId nonce) ⟨.random, .ok nonce⟩ = true := by
      simp [drawsAttempt, drawsId, AttemptId.nonce]
    exact ((within_of_mark hmark).cons (by simp [captureTimetable, capturePhase])).cons
      (by simp [captureTimetable, capturePhase])

/-- A capture only reads until it is admitted, and then performs the operations of its run. -/
theorem obeys_requestCapture :
    Obeys (CapturePermits settings workloadId options) (fun _ _ => True) ds
      (requestCapture settings workloadId options ctx) := by
  have herror : ∀ (ds : List FabricDeed) (e : FabricError),
      (fun _ _ => True : List FabricDeed → FabricResult OperationOutcome → Prop) ds (.error e) :=
    fun _ _ => trivial
  unfold requestCapture
  refine Obeys.bind herror (obeys_admitCapture fun _ _ => .inl) fun ds₁ run hrun => ?_
  refine Obeys.bind herror (obeys_reserveCapture hrun.1 hrun.2) fun ds₂ _ h₂ => ?_
  unfold mapErr Program.onError
  rw [obeys_andThen]
  refine (obeys_executeCapture h₂.1 h₂.2.1 h₂.2.2).extends.weaken fun ds₃ result h₃ => ?_
  cases result with
  | ok a => trivial
  | error e =>
    refine obeys_andThen.mpr (Obeys.weaken ?_ fun _ _ (_ : True) => trivial)
    refine obeys_ite (fun _ => trivial) fun _ => ?_
    refine (obeys_abortCaptureAttempt (h₂.1.mono h₃.1) (h₂.2.1.mono h₃.1) ?_).ignore
    exact ⟨List.suffix_refl ds₃, within_of_last capturePhase_le⟩

end Request

end Coordinator

end CheckpointFabric
