import CheckpointFabric.Policy
import CheckpointFabric.Workload

/-!
# Capture decisions

The pure part of a capture: what a request may ask for, which consistency and
resumability class its result deserves, and the checkpoint object it starts from.

## Main results

* `rank_deriveConsistency_le` — a capture never claims more than was requested
* `acknowledged_of_deriveConsistency`, `frontier_of_deriveConsistency`,
  `substantiates_of_deriveResumability` — the evidence that a class takes
* `workloadCaptureable_eq_ok_iff` — what admission asks of the workload
-/

set_option autoImplicit false

namespace CheckpointFabric

/-- Quiescence modes for capture. -/
inductive QuiescenceMode
  | cooperative
  | forced
  | none
  deriving DecidableEq, Repr

/-- Request to capture one typed component. -/
structure CaptureComponentRequest where
  componentId : String
  componentType : ComponentType
  required : Bool
  schemaVersion : ℕ
  restoreHandler : String
  deriving DecidableEq, Repr

/-- User options for a capture request. -/
structure CaptureOptions where
  consistency : Option ConsistencyClass := none
  quiescence : QuiescenceMode := .none
  frontier : Option ExecutionFrontier := none
  sideEffects : Option SideEffectManifest := none
  components : List CaptureComponentRequest := []
  metadata : String := "\x7b\x7d"
  deriving DecidableEq, Repr

namespace Capture

/-- Derive the checkpoint type from capture options and policy. -/
def deriveCheckpointType (options : CaptureOptions) (policy : PolicySet) : CheckpointType :=
  if options.components.all (·.required) && policy.requirePortable then .portable
  else if options.components.any (·.required) then .application
  else .full

/-- Derive the honest consistency class. -/
def deriveConsistency (requested : Option ConsistencyClass) (quiescence : QuiescenceMode)
    (frontier : Option ExecutionFrontier) (cooperativeAck : Bool) : ConsistencyClass :=
  match requested with
  | some .executionConsistent =>
    if quiescence == .cooperative && cooperativeAck && frontier.isSome then .executionConsistent
    else .crashConsistent
  | some .applicationConsistent =>
    if quiescence == .cooperative && cooperativeAck then .applicationConsistent
    else .crashConsistent
  | some .crashConsistent | none => .crashConsistent

theorem rank_deriveConsistency_le (requested : ConsistencyClass) (quiescence : QuiescenceMode)
    (frontier : Option ExecutionFrontier) (cooperativeAck : Bool) :
    (deriveConsistency (some requested) quiescence frontier cooperativeAck).rank ≤
      requested.rank := by
  cases requested <;> simp only [deriveConsistency] <;> (try split) <;>
    simp [ConsistencyClass.rank]

/-- More than a crash-consistent class takes the acknowledgement of a cooperative quiesce. -/
theorem acknowledged_of_deriveConsistency {requested : Option ConsistencyClass}
    {quiescence : QuiescenceMode} {frontier : Option ExecutionFrontier} {cooperativeAck : Bool}
    (h : ConsistencyClass.applicationConsistent.rank ≤
      (deriveConsistency requested quiescence frontier cooperativeAck).rank) :
    quiescence = .cooperative ∧ cooperativeAck = true := by
  have hcrash : ¬ ConsistencyClass.applicationConsistent.rank ≤
      ConsistencyClass.crashConsistent.rank := by decide
  unfold deriveConsistency at h
  split at h
  · by_cases hack : quiescence == .cooperative && cooperativeAck && frontier.isSome
    · simp only [Bool.and_eq_true, beq_iff_eq] at hack
      exact hack.1
    · rw [if_neg hack] at h
      exact absurd h hcrash
  · by_cases hack : quiescence == .cooperative && cooperativeAck
    · simpa using hack
    · rw [if_neg hack] at h
      exact absurd h hcrash
  · exact absurd h hcrash
  · exact absurd h hcrash

/-- An execution-consistent class takes a frontier as well. -/
theorem frontier_of_deriveConsistency {requested : Option ConsistencyClass}
    {quiescence : QuiescenceMode} {frontier : Option ExecutionFrontier} {cooperativeAck : Bool}
    (h : deriveConsistency requested quiescence frontier cooperativeAck = .executionConsistent) :
    frontier.isSome := by
  unfold deriveConsistency at h
  split at h
  · by_cases hack : quiescence == .cooperative && cooperativeAck && frontier.isSome
    · exact (Bool.and_eq_true_iff.mp hack).2
    · rw [if_neg hack] at h
      cases h
  · split at h <;> cases h
  · cases h
  · cases h

/-- Derive the honest resumability class. -/
def deriveResumability (consistency : ConsistencyClass) (frontier : Option ExecutionFrontier)
    (sideEffects : Option SideEffectManifest) : ResumabilityClass :=
  if consistency ≠ .executionConsistent then .restartFromCheckpoint
  else
    match frontier with
    | none => .restartFromCheckpoint
    | some f =>
      if sideEffects.any fun se => se.validateForExact.toOption.isNone then .degraded
      else if f.flags.pendingNonReplayable || f.flags.unknownSideEffects then .degraded
      else if f.flags.deterministicReplayVerified && f.flags.exact then .exact
      else if f.flags.equivalent then .equivalent
      else .degraded

/-- The flags of the frontier that bear out a resumability class. -/
def Substantiates (frontier : ExecutionFrontier) : ResumabilityClass → Prop
  | .exact => frontier.flags.deterministicReplayVerified = true ∧ frontier.flags.exact = true
  | .equivalent => frontier.flags.equivalent = true
  | _ => True

/-- A class above DEGRADED takes an execution-consistent capture, and flags that bear it out. -/
theorem substantiates_of_deriveResumability {consistency : ConsistencyClass}
    {frontier : Option ExecutionFrontier} {sideEffects : Option SideEffectManifest}
    (h : ResumabilityClass.degraded.rank <
      (deriveResumability consistency frontier sideEffects).rank) :
    consistency = .executionConsistent ∧ ∃ f, frontier = some f ∧
      Substantiates f (deriveResumability consistency frontier sideEffects) := by
  have hdegraded : ¬ ResumabilityClass.degraded.rank < ResumabilityClass.degraded.rank :=
    Nat.lt_irrefl _
  have hrestart : ¬ ResumabilityClass.degraded.rank <
      ResumabilityClass.restartFromCheckpoint.rank := by decide
  revert h
  unfold deriveResumability
  split
  · exact fun h => absurd h hrestart
  · rename_i hexecution
    have hexecution := Decidable.not_not.mp hexecution
    cases frontier with
    | none => exact fun h => absurd h hrestart
    | some f =>
      dsimp only
      split
      · exact fun h => absurd h hdegraded
      · split
        · exact fun h => absurd h hdegraded
        · split
          · rename_i hflags
            exact fun _ => ⟨hexecution, f, rfl, Bool.and_eq_true_iff.mp hflags⟩
          · split
            · rename_i hflag
              exact fun _ => ⟨hexecution, f, rfl, hflag⟩
            · exact fun h => absurd h hdegraded

/-- The characters a path segment may hold as they are. -/
def isSafeSegmentChar (c : Char) : Bool :=
  c.isAlphanum || [ '-', '_', '.', '@'].contains c

/-- Make one safe path segment out of any name. -/
def sanitizeSegment (name : String) : String :=
  let out := String.ofList (name.toList.map fun c => if isSafeSegmentChar c then c else '_')
  if out.isEmpty || out == "." || out == ".." then
    String.ofList (List.replicate (max name.utf8ByteSize 1) '_')
  else out

section Segments

variable {name : String}

theorem isSafeSegmentChar_of_mem {c : Char} (h : c ∈ (sanitizeSegment name).toList) :
    isSafeSegmentChar c := by
  unfold sanitizeSegment at h
  dsimp only at h
  split at h
  · rw [String.toList_ofList] at h
    rw [List.eq_of_mem_replicate h]
    rfl
  · rw [String.toList_ofList] at h
    obtain ⟨d, -, rfl⟩ := List.mem_map.1 h
    split
    · assumption
    · rfl

/-- A name that was safe stays as it is. -/
theorem sanitizeSegment_eq_self (hsafe : ∀ c ∈ name.toList, isSafeSegmentChar c)
    (hempty : name ≠ "") (hcurrent : name ≠ ".") (hparent : name ≠ "..") :
    sanitizeSegment name = name := by
  have hkept : String.ofList (name.toList.map fun c => if isSafeSegmentChar c then c else '_') =
      name := by
    rw [List.map_congr_left fun c hc => if_pos (hsafe c hc), List.map_id', String.ofList_toList]
  unfold sanitizeSegment
  dsimp only
  rw [hkept, if_neg]
  simp [hempty, hcurrent, hparent]

theorem sanitizeSegment_ne (name : String) :
    sanitizeSegment name ≠ "" ∧ sanitizeSegment name ≠ "." ∧ sanitizeSegment name ≠ ".." := by
  unfold sanitizeSegment
  dsimp only
  split
  · have hnew (other : String) (h : '_' ∉ other.toList) :
        String.ofList (List.replicate (max name.utf8ByteSize 1) '_') ≠ other := by
      rintro rfl
      rw [String.toList_ofList] at h
      exact h (List.mem_replicate.2 ⟨by omega, rfl⟩)
    exact ⟨hnew _ (by decide), hnew _ (by decide), hnew _ (by decide)⟩
  · rename_i hkept
    simpa [not_or, and_assoc] using hkept

theorem slash_notMem_sanitizeSegment (name : String) :
    '/' ∉ (sanitizeSegment name).toList :=
  fun h => absurd (isSafeSegmentChar_of_mem h) (by decide)

theorem sanitizeSegment_idem (name : String) :
    sanitizeSegment (sanitizeSegment name) = sanitizeSegment name :=
  sanitizeSegment_eq_self (fun _ => isSafeSegmentChar_of_mem) (sanitizeSegment_ne name).1
    (sanitizeSegment_ne name).2.1 (sanitizeSegment_ne name).2.2

end Segments

/-- The first component whose id cannot name a file decides the error. -/
def validateComponentIds : List CaptureComponentRequest → FabricResult Unit
  | [] => .ok ()
  | c :: components =>
    if c.componentId.isEmpty || c.componentId.utf8ByteSize > 256 then
      .error (.invalidArgument "component id must be 1..=256 chars")
    else if sanitizeSegment c.componentId ≠ c.componentId then
      .error (.invalidArgument s!"component id '{c.componentId}' contains unsafe path characters")
    else validateComponentIds components

/-- Validate the side-effect manifest of a capture request. -/
def validateSideEffects (se : SideEffectManifest) : FabricResult Unit :=
  if se.entries.any (·.sideEffectId.isEmpty) then
    .error (.invalidArgument "side effect id must not be empty")
  else if se.frontierBoundary > se.entries.length then
    .error (.frontierInconsistency "side-effect boundary exceeds entry count")
  else .ok ()

/-- The minimum interval since the last capture must have passed. -/
def validateInterval (policy : PolicySet) (lastCaptureMs : Option ℕ) (now : ℕ) :
    FabricResult Unit :=
  match lastCaptureMs with
  | some last =>
    if 0 < policy.minCaptureIntervalMs ∧ now - last < policy.minCaptureIntervalMs then
      .error (.policyViolation
        s!"capture interval {policy.minCaptureIntervalMs}ms not elapsed since last capture")
    else .ok ()
  | none => .ok ()

/-- The frontier must be of the workload's generation. -/
def validateFrontier (workload : Workload) (frontier : ExecutionFrontier) : FabricResult Unit :=
  if frontier.workloadGeneration ≠ workload.workloadGeneration then
    .error (.frontierInconsistency
      s!"frontier workload generation {frontier.workloadGeneration} does not match workload generation {workload.workloadGeneration}")
  else .ok ()

/-- Validate a capture request against the workload and policy. -/
def validateCaptureRequest (workload : Workload) (options : CaptureOptions) (policy : PolicySet)
    (lastCaptureMs : Option ℕ) (now : ℕ) : FabricResult Unit := do
  validateInterval policy lastCaptureMs now
  validateComponentIds options.components
  if ¬ (options.components.map (·.componentId)).Nodup then
    .error (.invalidArgument "duplicate component ids in capture request")
  else
    match options.frontier with
    | some f => validateFrontier workload f
    | none => .ok ()
    match options.sideEffects with
    | some se => validateSideEffects se
    | none => .ok ()

/-- Determine whether a workload is capture-eligible given its fence state. -/
def workloadCaptureable (workload : Workload) (actorNode : Option NodeId) : FabricResult Unit :=
  if workload.isFenced then
    .error (.fencingFailure
      s!"workload {toHex workload.workloadId} is fenced; capture requires an active continuation")
  else
    match workload.singleActive, actorNode, workload.activeNode with
    | true, some node, some active =>
      if active ≠ node then
        .error (.fencingFailure s!"capture requested from node {node} but active node is {active}")
      else .ok ()
    | _, _, _ => .ok ()

/-- Admission passes the workload's own active node, so what it asks is a claim. -/
theorem workloadCaptureable_eq_ok_iff {workload : Workload} :
    workloadCaptureable workload workload.activeNode = .ok () ↔
      workload.fenceToken.isSome ∧ workload.activeNode.isSome := by
  unfold workloadCaptureable Workload.isFenced
  cases workload.fenceToken <;> cases workload.activeNode <;> cases workload.singleActive <;> simp

/-- Build the checkpoint object a capture attempt starts from. -/
def checkpointScaffold (workload : Workload) (checkpointId : Id) (checkpointGeneration : ℕ)
    (attemptId : AttemptId) (coordinatorEpoch : ℕ) (sourceNode : NodeId)
    (options : CaptureOptions) (policy : PolicySet) (now : ℕ) : CheckpointObject where
  checkpointId
  workloadId := workload.workloadId
  workloadGeneration := workload.workloadGeneration
  checkpointGeneration
  parentCheckpoint := none
  captureAttempt := attemptId
  coordinatorEpoch
  createdMs := now
  sealMs := 0
  sourceNode
  sourceBackend := workload.backendClass
  frontier := options.frontier.getD {}
  checkpointType := deriveCheckpointType options policy
  consistency := options.consistency.getD .crashConsistent
  resumability := .restartFromCheckpoint
  components := []
  totalLogicalBytes := 0
  totalPhysicalBytes := 0
  compressedBytes := 0
  durableLocations := []
  replicaCount := 0
  supersedes := none
  supersededBy := none
  policyVersion := policy.version
  runtimeDescriptor := workload.runtime
  hardwareDescriptor := {}
  dependencies := []
  integrityState := .pending
  lifecycle := .created
  restoreCount := 0
  lastRestoreResult := none
  protection := .none
  retirementEligibility := .notEligible
  metadata := options.metadata
  manifestDigest := none
  manifestJson := none

/-- Validate a captured component set for completeness. -/
def validateComponentCompleteness (requested : List CaptureComponentRequest)
    (captured : List ComponentEntry) : FabricResult Unit :=
  match requested.find? fun r =>
    r.required && !(captured.map (·.componentId)).contains r.componentId with
  | some r =>
    .error (.incompleteCheckpoint s!"required component '{r.componentId}' was not captured")
  | none => .ok ()

end Capture

end CheckpointFabric
