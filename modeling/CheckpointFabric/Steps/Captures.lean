import CheckpointFabric.Footprints.Actors
import CheckpointFabric.Steps.Identities

/-!
# Captures and their checkpoint rows

A checkpoint row is the image of one admitted capture. The capture can be told from its
attempt id, or from the id of the checkpoint, and it never goes back to an earlier phase.

## Main definitions

* `Captures` — a thread was admitted a capture
* `ImageOf` — a row is an image of the checkpoint of a capture

## Main results

* `Captures.unique`, `Captures.unique_of_checkpoint` — an id names one admitted capture
* `described_of_run` — every checkpoint row is the image of an admitted capture
* `capture_inTurn` — a capture never goes back to an earlier phase
-/

set_option autoImplicit false

namespace CheckpointFabric

open Concurrency Coordinator System

variable {settings : Settings} {t t' : List (Event (fabric settings))} {tid tid' : ℕ}
  {run run' : CaptureRun} {c c' : CheckpointObject}

/-- Thread `tid` was admitted the capture `run`. -/
structure Captures (t : List (Event (fabric settings))) (tid : ℕ) (run : CaptureRun) : Prop where
  drawn : ∃ workloadId nonce ds₀, CaptureDrawn workloadId nonce ds₀ (deeds tid t) run
  asked : ∃ request, requestOf tid t = some request ∧ request.Captures run.options

theorem Captures.of_does {request : Request} {workloadId : Id} {options : CaptureOptions} {op : Op}
    (hrequest : requestOf tid t = some request) (hasks : request.Captures options)
    (hdoes : CaptureDoes settings workloadId options (deeds tid t) op run) : Captures t tid run where
  drawn := ⟨workloadId, hdoes.admitted.drawn⟩
  asked := ⟨request, hrequest, hdoes.admitted.options_eq ▸ hasks⟩

/-- A capture has drawn the nonce of its attempt. -/
theorem Captures.drawn_nonce (h : Captures t tid run) :
    (⟨.random, .ok run.attemptId.nonce⟩ : FabricDeed) ∈ deeds tid t := by
  obtain ⟨workloadId, nonce, ds₀, hdrawn⟩ := h.drawn
  rw [hdrawn.attemptId]
  exact hdrawn.nonce_suffix.subset (.head _)

theorem Captures.mono (h : Captures t' tid run) (hrun : Run t) (hsuffix : t' <:+ t) :
    Captures t tid run where
  drawn := by
    obtain ⟨workloadId, nonce, ds₀, hdrawn⟩ := h.drawn
    exact ⟨workloadId, nonce, ds₀, hdrawn.mono (deeds_suffix hsuffix)⟩
  asked := by
    have hadmitted := lt_admissions_of_mem_deeds (hrun.of_suffix hsuffix) h.drawn_nonce
    rw [requestOf_of_suffix hrun hsuffix hadmitted]
    exact h.asked

theorem Captures.options_eq (h : Captures t tid run) (h' : Captures t tid run') :
    run.options = run'.options := by
  obtain ⟨request, hrequest, hasks⟩ := h.asked
  obtain ⟨request', hrequest', hasks'⟩ := h'.asked
  obtain rfl := Option.some.inj (hrequest.symm.trans hrequest')
  exact hasks.eq hasks'

/-- An attempt id names one admitted capture. -/
theorem Captures.unique (hrun : Run t) (h : Captures t tid run) (h' : Captures t tid' run')
    (hid : run.attemptId = run'.attemptId) : tid = tid' ∧ SameCapture run run' := by
  obtain ⟨workloadId, nonce, ds₀, hdrawn⟩ := h.drawn
  obtain ⟨workloadId', nonce', ds₀', hdrawn'⟩ := h'.drawn
  exact hdrawn.unique hrun hdrawn' hid

/-- So does the id of its checkpoint. -/
theorem Captures.unique_of_checkpoint (hrun : Run t) (h : Captures t tid run)
    (h' : Captures t tid' run') (hid : run.checkpointId = run'.checkpointId) :
    tid = tid' ∧ SameCapture run run' := by
  obtain ⟨workloadId, nonce, ds₀, hdrawn⟩ := h.drawn
  obtain ⟨workloadId', nonce', ds₀', hdrawn'⟩ := h'.drawn
  exact hdrawn.unique_of_checkpoint hrun hdrawn' hid

/-- A capture never goes back to an earlier phase. -/
theorem capture_inTurn {workloadId : Id} {options : CaptureOptions} {op : Op} {n k : ℕ}
    (hrun : Run t) (hdoes : CaptureDoes settings workloadId options (deeds tid t) op run)
    (hcaptures : Captures t tid run) (hphase : capturePhase op = some k)
    (hreached : Reached captureTimetable t run.attemptId n) : n ≤ k :=
  hreached.le hrun hcaptures.drawn_nonce hdoes.inTurn hphase

section Images

/-- The capture `run` of thread `tid` has the row `c` as an image of its checkpoint. -/
def ImageOf (t : List (Event (fabric settings))) (tid : ℕ) (run : CaptureRun)
    (c : CheckpointObject) : Prop :=
  Captures t tid run ∧ run.Describes c

theorem ImageOf.mono (h : ImageOf t' tid run c) (hrun : Run t) (hsuffix : t' <:+ t) :
    ImageOf t tid run c :=
  ⟨h.1.mono hrun hsuffix, h.2⟩

/-- What identifies an image: whose checkpoint it is, and when it was taken. -/
structure SameImage (c c' : CheckpointObject) : Prop where
  checkpointId : c'.checkpointId = c.checkpointId
  workloadId : c'.workloadId = c.workloadId
  workloadGeneration : c'.workloadGeneration = c.workloadGeneration
  checkpointGeneration : c'.checkpointGeneration = c.checkpointGeneration
  captureAttempt : c'.captureAttempt = c.captureAttempt

theorem SameImage.refl (c : CheckpointObject) : SameImage c c := ⟨rfl, rfl, rfl, rfl, rfl⟩

theorem SameImage.describes (h : SameImage c c') (hdescribes : run.Describes c) :
    run.Describes c' where
  checkpointId := h.checkpointId.trans hdescribes.checkpointId
  workloadId := h.workloadId.trans hdescribes.workloadId
  workloadGeneration := h.workloadGeneration.trans hdescribes.workloadGeneration
  checkpointGeneration := h.checkpointGeneration.trans hdescribes.checkpointGeneration
  captureAttempt := h.captureAttempt.trans hdescribes.captureAttempt

/-- A row appears by an insertion, is written whole by an update, or keeps what identifies it. -/
theorem checkpointStep_cases {id : Id} {op : Op} {row : Option CheckpointObject}
    (h : CheckpointStep id op row (some c')) :
    (row = none ∧ op = .db (.checkpointInsert c') ∧ c'.checkpointId = id) ∨
    (∃ c old, row = some old ∧ op = .db (.checkpointUpdate c) ∧ c.checkpointId = id ∧
      c' = { c with workloadId := old.workloadId }) ∨
    ∃ c, row = some c ∧ SameImage c c' := by
  cases h
  case inserted hid => exact .inl ⟨rfl, rfl, hid⟩
  case updated c old hid => exact .inr (.inl ⟨c, old, rfl, rfl, hid, rfl⟩)
  case captured hlinks =>
    obtain ⟨supersedes, supersededBy, rfl⟩ := hlinks
    exact .inr (.inr ⟨_, rfl, rfl, rfl, rfl, rfl, rfl⟩)
  case relinked hlinks =>
    obtain ⟨supersedes, supersededBy, rfl⟩ := hlinks
    exact .inr (.inr ⟨_, rfl, rfl, rfl, rfl, rfl, rfl⟩)
  all_goals exact .inr (.inr ⟨_, rfl, rfl, rfl, rfl, rfl, rfl⟩)

/-- A row that is written whole is an image of the capture that writes it. -/
theorem imageOf_of_writer {request : Request} {op : StoreOp}
    (hrequest : requestOf tid t = some request)
    (hop : op = .checkpointInsert c ∨ op = .checkpointUpdate c)
    (h : Writer settings request (deeds tid t) op) : ∃ run, ImageOf t tid run c := by
  rcases hop with rfl | rfl
  · cases h with
    | capture hasks hdoes hwrites => exact ⟨_, .of_does hrequest hasks hdoes, hwrites.1⟩
    | restore _ hwrites | recovery hwrites | plain hwrites => exact absurd hwrites not_false
  · cases h with
    | capture hasks hdoes hwrites =>
      exact ⟨_, .of_does hrequest hasks hdoes, hwrites.staged.describes⟩
    | restore _ hwrites | recovery hwrites | plain hwrites => exact absurd hwrites not_false

/-- Every checkpoint row is the image of an admitted capture. -/
theorem described_of_run (h : Run t) {id : Id} (hc : (stateOf t).checkpoint id = some c) :
    ∃ tid run, ImageOf t tid run c := by
  induction t generalizing c with
  | nil => exact nomatch hc
  | cons e t ih =>
    have hkeep : ∀ {c₀}, (stateOf t).checkpoint id = some c₀ → SameImage c₀ c →
        ∃ tid run, ImageOf (e :: t) tid run c := by
      intro c₀ hc₀ hsame
      obtain ⟨tid, run, hcaptures, hdescribes⟩ := ih h.tail hc₀
      exact ⟨tid, run, hcaptures.mono h (List.suffix_cons e t), hsame.describes hdescribes⟩
    rcases checkpointStep_of_run h id with ⟨tid, op, input, rfl, hstep⟩ | hsame
    · rw [stateOf_cons] at hc
      rw [hc] at hstep
      rcases checkpointStep_cases hstep with ⟨-, rfl, -⟩ | ⟨c₁, old, hold, rfl, hid, rfl⟩ |
        ⟨c₀, hc₀, hsame⟩
      · obtain ⟨request, hrequest, hwriter⟩ := writer_of_run h not_false
        obtain ⟨run, himage⟩ := imageOf_of_writer hrequest (.inl rfl) hwriter
        exact ⟨tid, run, himage.mono h (List.suffix_cons _ t)⟩
      · -- The row that is overwritten is an image of the same capture.
        obtain ⟨request, hrequest, hwriter⟩ := writer_of_run h not_false
        obtain ⟨run, hcaptures, hdescribes⟩ := imageOf_of_writer hrequest (.inr rfl) hwriter
        obtain ⟨tid', run', hcaptures', hdescribes'⟩ := ih h.tail hold
        have hcheckpoint : run'.checkpointId = run.checkpointId := by
          rw [← hdescribes.checkpointId, ← hdescribes'.checkpointId, hid]
          exact World.checkpointId_of_row hold
        obtain ⟨-, hsame⟩ := hcaptures'.unique_of_checkpoint h.tail hcaptures hcheckpoint
        have howner : old.workloadId = run.workload.workloadId := by
          rw [hdescribes'.workloadId, hsame.workload]
        exact ⟨tid, run, hcaptures.mono h (List.suffix_cons _ t),
          { hdescribes with workloadId := howner }⟩
      · exact hkeep hc₀ hsame
    · exact hkeep (hsame.symm.trans hc) (.refl c)

/-- The capture that a row shows is the one with the id of its checkpoint. -/
theorem ImageOf.eq_of_checkpoint (hrun : Run t) (h : ImageOf t tid run c)
    (h' : Captures t tid' run') (hid : c.checkpointId = run'.checkpointId) :
    tid = tid' ∧ SameCapture run run' :=
  h.1.unique_of_checkpoint hrun h' (h.2.checkpointId.symm.trans hid)

/-- The row of the checkpoint of a capture shows the attempt of the capture. -/
theorem Captures.captureAttempt_eq (hrun : Run t) (h : Captures t tid run)
    (hc : (stateOf t).checkpoint run.checkpointId = some c) : c.captureAttempt = run.attemptId := by
  obtain ⟨tid', run', himage⟩ := described_of_run hrun hc
  obtain ⟨-, hsame⟩ := himage.eq_of_checkpoint hrun h (World.checkpointId_of_row hc)
  rw [himage.2.captureAttempt, hsame.attemptId]

/-- A row keeps what identifies it. -/
theorem sameImage_of_suffix (h : Run t) (hsuffix : t' <:+ t) {id : Id}
    (hc : (stateOf t').checkpoint id = some c) :
    ∃ c', (stateOf t).checkpoint id = some c' ∧ SameImage c c' := by
  obtain ⟨c', hc', howner⟩ := checkpoint_of_suffix h hsuffix hc
  have hkey : c'.checkpointId = c.checkpointId :=
    (World.checkpointId_of_row hc').trans (World.checkpointId_of_row hc).symm
  -- Both rows are images of the capture that drew the id of the checkpoint.
  obtain ⟨tid, run, hcaptures, hdescribes⟩ := described_of_run (h.of_suffix hsuffix) hc
  obtain ⟨tid', run', hcaptures', hdescribes'⟩ := described_of_run h hc'
  obtain ⟨-, hsame⟩ := (hcaptures.mono h hsuffix).unique_of_checkpoint h hcaptures'
    (by rw [← hdescribes.checkpointId, ← hdescribes'.checkpointId, hkey])
  exact ⟨c', hc',
    { checkpointId := hkey
      workloadId := howner
      workloadGeneration := by
        rw [hdescribes.workloadGeneration, hdescribes'.workloadGeneration, hsame.workload]
      checkpointGeneration := by
        rw [hdescribes.checkpointGeneration, hdescribes'.checkpointGeneration,
          hsame.checkpointGeneration]
      captureAttempt := by
        rw [hdescribes.captureAttempt, hdescribes'.captureAttempt, hsame.attemptId] }⟩

end Images

end CheckpointFabric
