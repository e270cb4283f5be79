import CheckpointFabric.Properties.Visibility

/-!
# Committed images

A checkpoint that can be restored is committed, and its row holds the full image that
its capture wrote: the anchored manifest, and every component that was required. The
commit found at least one location.

## Main definitions

* `CheckpointObject.Full` — the row holds the image that a request asked for
* `CommittedImage` — what is known of a checkpoint that can be restored

## Main results

* `full_of_run`, `full_of_imaged` — once a capture has written its image, the row holds it
* `committed_image` — every restorable checkpoint of every reachable state is committed
-/

set_option autoImplicit false

namespace CheckpointFabric

open Concurrency Coordinator System

variable {settings : Settings} {t : List (Event (fabric settings))} {e : Event (fabric settings)}
  {tid : ℕ} {id : Id} {c : CheckpointObject}

/-- The row holds an anchored manifest, and the components that were asked for. -/
structure CheckpointObject.Full (codecs : Codecs) (requested : List CaptureComponentRequest)
    (c : CheckpointObject) : Prop where
  anchored : c.Anchored codecs
  complete : Capture.validateComponentCompleteness requested c.components = .ok ()

section Full

variable {run : CaptureRun} {requested : List CaptureComponentRequest} {c' : CheckpointObject}

theorem CheckpointObject.Full.of_eq (h : c.Full settings.codecs requested) (hsame : SameImage c c')
    (hdigest : c'.manifestDigest = c.manifestDigest) (hjson : c'.manifestJson = c.manifestJson)
    (hcomponents : c'.components = c.components) : c'.Full settings.codecs requested where
  anchored := by
    obtain ⟨m, hm, hd, hid, howner, hgeneration, hentries⟩ := h.anchored
    exact ⟨m, hjson.trans hm, hdigest.trans hd, hid.trans hsame.checkpointId.symm,
      howner.trans hsame.workloadId.symm, hgeneration.trans hsame.checkpointGeneration.symm,
      hentries.trans hcomponents.symm⟩
  complete := hcomponents ▸ h.complete

/-- An update by the capture of the row writes it in full. -/
theorem CheckpointObject.Full.of_update {c₁ : CheckpointObject} (h : Run t)
    (hcaptures : Captures t tid run) (hpersisted : run.Persisted settings c₁)
    (hc : (stateOf t).checkpoint run.checkpointId = some c) :
    { c₁ with workloadId := c.workloadId }.Full settings.codecs run.options.components := by
  obtain ⟨tid', run', himage⟩ := described_of_run h hc
  obtain ⟨-, hsame⟩ := himage.eq_of_checkpoint h hcaptures (World.checkpointId_of_row hc)
  have howner : c.workloadId = c₁.workloadId := by
    rw [himage.2.workloadId, hpersisted.staged.describes.workloadId, hsame.workload]
  have hfull : c₁.Full settings.codecs run.options.components :=
    ⟨hpersisted.anchored, hpersisted.staged.complete⟩
  exact hfull.of_eq ⟨rfl, howner, rfl, rfl, rfl⟩ rfl rfl rfl

/-- A row that was updated in full stays so: its capture does not go back to sealing, and whoever
updates it again is the same capture. -/
theorem CheckpointObject.Full.step (h : Run (e :: t)) (hcaptures : Captures t tid run)
    (hreached : Reached captureTimetable t run.attemptId 1)
    (hc : (stateOf t).checkpoint run.checkpointId = some c)
    (hfull : c.Full settings.codecs run.options.components) :
    ∃ c', (after e).checkpoint run.checkpointId = some c' ∧
      c'.Full settings.codecs run.options.components := by
  rcases checkpoint_cases h run.checkpointId with ⟨tid', op, reply, hop, hcalls, hstep⟩ | hsame
  · obtain ⟨request, hrequest, hwriter⟩ := hcalls.writer h hop
    rw [hc] at hstep
    generalize (after e).checkpoint run.checkpointId = row at hstep
    cases hstep with
    | kept => exact ⟨c, rfl, hfull⟩
    | @updated c₁ _ hid =>
      cases hwriter with
      | @capture workloadId options run' hasks hdoes hwrites =>
        have hcaptures' := Captures.of_does hrequest hasks hdoes
        obtain ⟨rfl, hsame⟩ := hcaptures.unique_of_checkpoint h.tail hcaptures'
          (hid.symm.trans hwrites.staged.describes.checkpointId)
        rw [hsame.checkpointId] at hc
        rw [hcaptures.options_eq hcaptures']
        exact ⟨_, rfl, .of_update h.tail hcaptures' hwrites hc⟩
      | restore _ hwrites | recovery hwrites | plain hwrites => exact absurd hwrites not_false
    | «sealed» =>
      cases hwriter with
      | capture hasks hdoes hwrites =>
        have hcaptures' := Captures.of_does hrequest hasks hdoes
        obtain ⟨-, hsame⟩ := hcaptures.unique_of_checkpoint h.tail hcaptures' hwrites
        have hle : 1 ≤ 0 := capture_inTurn h.tail hdoes hcaptures' rfl (hsame.attemptId ▸ hreached)
        exact absurd hle (by decide)
      | restore _ hwrites | recovery hwrites | plain hwrites => exact absurd hwrites not_false
    | captured _ hlinks | relinked _ _ hlinks =>
      obtain ⟨supersedes, supersededBy, rfl⟩ := hlinks
      exact ⟨_, rfl, hfull.of_eq ⟨rfl, rfl, rfl, rfl, rfl⟩ rfl rfl rfl⟩
    | _ => exact ⟨_, rfl, hfull.of_eq ⟨rfl, rfl, rfl, rfl, rfl⟩ rfl rfl rfl⟩
  · exact ⟨c, hsame.trans hc, hfull⟩

/-- Once a capture has written its image, the row holds it. -/
theorem full_of_run {key : AttemptId} (h : Run t) (himaged : Imaged t key) :
    ∃ tid run c, Captures t tid run ∧ run.attemptId = key ∧
      (stateOf t).checkpoint run.checkpointId = some c ∧
      c.Full settings.codecs run.options.components := by
  obtain ⟨e, t', tid, c₁, run, hsuffix, hcalls, hcaptures, rfl, hpersisted, -⟩ :=
    exists_update_of_imaged h himaged
  have hrun := h.of_suffix hsuffix
  have hid := hpersisted.staged.describes.checkpointId
  -- The update has found a row, and has left the full one.
  obtain ⟨hsome, hstore⟩ := Store.checkpointUpdate_ok (StoreOp.of_map_ok hcalls.run)
  obtain ⟨old, hold⟩ := Option.isSome_iff_exists.mp hsome
  have hafter : (after e).checkpoint run.checkpointId =
      some { c₁ with workloadId := old.workloadId } := by
    rw [World.checkpoint, hstore, ← hid, Table.get_modify_self, hold, Option.map_some]
  have hfull : { c₁ with workloadId := old.workloadId }.Full settings.codecs
      run.options.components := .of_update hrun.tail hcaptures hpersisted (hid ▸ hold)
  have hreached : Reached captureTimetable (e :: t') run.attemptId 1 :=
    ⟨tid, ⟨.db (.checkpointUpdate c₁), .ok ()⟩, deeds tid t',
      hcalls.deeds_eq ▸ List.suffix_refl _, hcaptures.drawn_nonce, 1, rfl, Nat.le_refl 1⟩
  refine ⟨tid, run, ?_⟩
  have hkept : ∃ c, (stateOf t).checkpoint run.checkpointId = some c ∧
      c.Full settings.codecs run.options.components := by
    refine suffix_induction (P := fun past : List (Event (fabric settings)) =>
      ∃ c, (stateOf past).checkpoint run.checkpointId = some c ∧
        c.Full settings.codecs run.options.components) hsuffix ⟨_, hafter, hfull⟩ ?_
    rintro e' past hpast hsuffix' ⟨c, hc, hfull⟩
    have hpast' := (List.suffix_cons e t').trans hpast
    exact CheckpointObject.Full.step (h.of_suffix hsuffix')
      (hcaptures.mono (h.of_suffix hsuffix').tail hpast') (hreached.mono hpast) hc hfull
  obtain ⟨c, hc, hfull⟩ := hkept
  exact ⟨c, hcaptures.mono h ((List.suffix_cons e t').trans hsuffix), rfl, hc, hfull⟩

/-- The row whose capture has written its image is the one that holds it. -/
theorem full_of_imaged (h : Run t) (hc : (stateOf t).checkpoint id = some c)
    (himaged : Imaged t c.captureAttempt) :
    ∃ tid run, ImageOf t tid run c ∧ c.Full settings.codecs run.options.components := by
  obtain ⟨tid, run, c', hcaptures, hkey, hc', hfull⟩ := full_of_run h himaged
  obtain ⟨tid', run', himage⟩ := described_of_run h hc
  obtain ⟨-, hsame⟩ := himage.1.unique h hcaptures (himage.2.captureAttempt.symm.trans hkey.symm)
  have hdescribes := hsame.describes himage.2
  rw [← hdescribes.checkpointId, World.checkpointId_of_row hc] at hc'
  obtain rfl := Option.some.inj (hc'.symm.trans hc)
  exact ⟨tid, run, ⟨hcaptures, hdescribes⟩, hfull⟩

end Full

/-- What is known of a checkpoint that can be restored. -/
structure CommittedImage (t : List (Event (fabric settings))) (c : CheckpointObject) : Prop where
  attempt : ∃ a, (stateOf t).attempt c.captureAttempt = some a ∧ a.kind = .capture ∧
    a.checkpointId = some c.checkpointId
  journaled : Journaled t .capture c.captureAttempt .dbCommitted
  anchored : c.Anchored settings.codecs
  required : ∃ tid run, Captures t tid run ∧ run.Describes c ∧
    ∀ r ∈ run.options.components, r.required = true → ∃ e ∈ c.components, e.componentId = r.componentId
  located : ∃ e past tid before, e :: past <:+ t ∧
    Calls e past tid (.captureCommit c.checkpointId c.captureAttempt) () ∧
    (stateOf past).checkpoint c.checkpointId = some before ∧ before.durableLocations ≠ []

/-- The lifecycle states of a checkpoint that can be restored, or is being restored. -/
def LifecycleState.Committed (l : LifecycleState) : Prop :=
  l = .available ∨ l = .restorePending ∨ l = .restoring ∨ l = .restored

theorem LifecycleState.Committed.visible {l : LifecycleState} (h : l.Committed) : l.Visible := by
  rcases h with rfl | rfl | rfl | rfl <;> trivial

/-- What others can see was committed, by the capture of the row, which had written its image. -/
theorem commit_of_visible (h : Run t) (hc : (stateOf t).checkpoint id = some c)
    (hvisible : c.lifecycle.Visible) :
    ∃ e past tid, e :: past <:+ t ∧
      Calls e past tid (.captureCommit c.checkpointId c.captureAttempt) () ∧
      Imaged t c.captureAttempt := by
  obtain rfl := World.checkpointId_of_row hc
  obtain ⟨e, past, hsuffix, hmakes⟩ := visibleMade_of_run h _ c hc hvisible
  have hrun := h.of_suffix hsuffix
  obtain ⟨tid, attemptId, hcalls⟩ := captureCommit_of_makesAvailable hrun hmakes
  obtain ⟨before, w, hcommit⟩ := Store.captureCommit_ok (StoreOp.of_map_ok hcalls.run)
  obtain ⟨c', hc', -⟩ := hcommit.committed
  obtain ⟨-, himaged, hattempt⟩ := persisted_of_captureCommit hrun hcalls hc'
  obtain ⟨c₁, hc₁, hsame⟩ := sameImage_of_suffix h hsuffix hc'
  obtain rfl := Option.some.inj (hc₁.symm.trans hc)
  rw [← hsame.captureAttempt] at hattempt himaged
  exact ⟨e, past, tid, hsuffix, hattempt ▸ hcalls, himaged.mono h hsuffix⟩

theorem imaged_of_visible (h : Run t) (hc : (stateOf t).checkpoint id = some c)
    (hvisible : c.lifecycle.Visible) : Imaged t c.captureAttempt := by
  obtain ⟨e, past, tid, -, -, himaged⟩ := commit_of_visible h hc hvisible
  exact himaged

/-- A capture that was opened has a row that says so. -/
theorem attempt_of_captures {key : AttemptId} {a : AttemptRecord} {run : CaptureRun} (h : Run t)
    (hcaptures : Captures t tid run) (hkey : run.attemptId = key)
    (ha : (stateOf t).attempt key = some a) :
    a.kind = .capture ∧ a.checkpointId = some run.checkpointId := by
  obtain rfl : a.id = key := Table.key_of_get ha
  cases opened_of_run h ha with
  | capture hcaptures' hid hkind hckpt =>
    obtain ⟨-, hsame⟩ := hcaptures.unique h hcaptures' (hkey.trans hid)
    exact ⟨hkind, hsame.checkpointId ▸ hckpt⟩
  | restore _ hid =>
    obtain ⟨workloadId, nonce, ds₀, hdrawn⟩ := hcaptures.drawn
    exact nomatch hdrawn.attemptId.symm.trans (hkey.trans hid)

theorem exists_of_complete {requested : List CaptureComponentRequest}
    {captured : List ComponentEntry} {r : CaptureComponentRequest}
    (h : Capture.validateComponentCompleteness requested captured = .ok ())
    (hr : r ∈ requested) (hrequired : r.required = true) :
    ∃ e ∈ captured, e.componentId = r.componentId := by
  unfold Capture.validateComponentCompleteness at h
  split at h
  · exact nomatch h
  · rename_i hnone
    have hr := List.find?_eq_none.mp hnone r hr
    simpa [hrequired] using hr

/-- In every state of every run, a checkpoint that can be restored, or is being restored, has a
committed capture, and its row holds the anchored image that was committed. -/
theorem committed_image (h : Run t) (hc : (stateOf t).checkpoint id = some c)
    (hcommitted : c.lifecycle.Committed) : CommittedImage t c := by
  obtain ⟨e, past, tid, hsuffix, hcalls, himaged⟩ := commit_of_visible h hc hcommitted.visible
  obtain ⟨before, w, hcommit⟩ := Store.captureCommit_ok (StoreOp.of_map_ok hcalls.run)
  obtain ⟨tid', run, ⟨hcaptures, hdescribes⟩, hfull⟩ := full_of_imaged h hc himaged
  have hkey : run.attemptId = c.captureAttempt := hdescribes.captureAttempt.symm
  have hid : run.checkpointId = c.checkpointId := hdescribes.checkpointId.symm
  obtain ⟨e₄, t₄, tid₄, c₄, run₄, hsuffix₄, -, -, -, -, a₄, ha₄⟩ := exists_update_of_imaged h himaged
  obtain ⟨a, ha, -⟩ := attempt_of_suffix h ((List.suffix_cons e₄ t₄).trans hsuffix₄) ha₄
  obtain ⟨hkind, hckpt⟩ := attempt_of_captures h hcaptures hkey ha
  exact
    { attempt := ⟨a, ha, hkind, hid ▸ hckpt⟩
      journaled := journaled_of_suffix h hsuffix
        ((StoreOp.journaled_of_run hcalls.run).mpr (.inr ⟨rfl, rfl, rfl⟩))
      anchored := hfull.anchored
      required := ⟨tid', run, hcaptures, hdescribes, fun r hr hrequired =>
        exists_of_complete hfull.complete hr hrequired⟩
      located := ⟨e, past, tid, before, hsuffix, hcalls, hcommit.found, hcommit.located⟩ }

/-- The checkpoint of the small fabric is a committed image. -/
theorem committed_image_captured :
    ∃ c, (stateOf (exec Demo.captured).trace).checkpoint 2 = some c ∧
      CommittedImage (exec Demo.captured).trace c := by
  obtain ⟨c, hc, havailable⟩ := Option.map_eq_some_iff.mp (show
    ((stateOf (exec Demo.captured).trace).checkpoint 2).map (·.lifecycle) = some .available by
      decide +kernel)
  exact ⟨c, hc, committed_image (exec_run Demo.captured) hc (.inl havailable)⟩

end CheckpointFabric
