import CheckpointFabric.Footprints.Images
import CheckpointFabric.Steps.Images

/-!
# When a checkpoint was sealed

A capture reads the clock when it seals its manifest, and writes that time with the full image.
From then on the row shows it: another full image of the checkpoint is one of the same capture, and
once the checkpoint is AVAILABLE there is none any more.

## Main definitions

* `ImagedRow`, `SealedRow` — the row shows what its capture has sealed, and when
* `listedFor` — the checkpoints that a capture was admitted with

## Main results

* `imagedRow_of_imaged` — once a capture has written its image, the row shows it
* `sameContents_of_late` — the image of a checkpoint beyond its capture stays
* `listedFor_of_drawn` — the list is that of the thread that drew the nonce
-/

set_option autoImplicit false

namespace CheckpointFabric

open Concurrency Coordinator System

variable {settings : Settings} {t t' : List (Event (fabric settings))}
  {e : Event (fabric settings)} {tid : ℕ} {id nonce : Id} {c c' : CheckpointObject}

section Rows

/-- What a full image says of the capture, and nothing changes later. -/
structure SameContents (c c' : CheckpointObject) : Prop where
  sealMs : c'.sealMs = c.sealMs
  components : c'.components = c.components
  consistency : c'.consistency = c.consistency
  resumability : c'.resumability = c.resumability
  frontier : c'.frontier = c.frontier

theorem SameContents.trans {c₁ c₂ c₃ : CheckpointObject} (h : SameContents c₁ c₂)
    (h' : SameContents c₂ c₃) : SameContents c₁ c₃ where
  sealMs := h'.sealMs.trans h.sealMs
  components := h'.components.trans h.components
  consistency := h'.consistency.trans h.consistency
  resumability := h'.resumability.trans h.resumability
  frontier := h'.frontier.trans h.frontier

/-- The row shows the image that its capture has sealed. -/
def ImagedRow (t : List (Event (fabric settings))) (c : CheckpointObject) : Prop :=
  ∃ tid run asks workloadId imaged, Captures t tid run ∧
    run.Sealed settings asks workloadId (deeds tid t) imaged ∧
    c.checkpointId = run.checkpointId ∧ SameContents imaged c

/-- The row shows when its capture has sealed the manifest. -/
def SealedRow (t : List (Event (fabric settings))) (c : CheckpointObject) : Prop :=
  ∃ tid run asks workloadId imaged, Captures t tid run ∧
    run.Sealed settings asks workloadId (deeds tid t) imaged ∧
    c.checkpointId = run.checkpointId ∧ c.sealMs = imaged.sealMs

theorem ImagedRow.mono (h : ImagedRow t' c) (hrun : Run t) (hsuffix : t' <:+ t)
    (hid : c'.checkpointId = c.checkpointId) (hsame : SameContents c c') : ImagedRow t c' := by
  obtain ⟨tid, run, asks, workloadId, imaged, hcaptures, hsealed, hckpt, hcontents⟩ := h
  exact ⟨tid, run, asks, workloadId, imaged, hcaptures.mono hrun hsuffix,
    hsealed.mono (deeds_suffix hsuffix), hid.trans hckpt, hcontents.trans hsame⟩

/-- A full image is one that was sealed. -/
theorem imagedRow_of_update (h : Run (e :: t)) (hcalls : Calls e t tid (.checkpointUpdate c) ()) :
    ImagedRow t c := by
  obtain ⟨input, rfl, -⟩ := hcalls
  obtain ⟨request, hrequest, workloadId, run, imaged, path, hsealed, rfl⟩ := imagePermits_of_run h
  have hchecked : CaptureChecked settings run request.Captures workloadId (deeds tid t) := by
    obtain ⟨answered, sealMs, digest, text, older, holder, hchecked, -⟩ := hsealed
    exact hchecked.mono ((List.suffix_cons _ older).trans holder)
  refine ⟨tid, run, request.Captures, workloadId, imaged,
    ⟨⟨workloadId, hchecked.admitted.drawn⟩, request, hrequest, hchecked.asked⟩, hsealed, ?_,
    ⟨rfl, rfl, rfl, rfl, rfl⟩⟩
  obtain ⟨answered, sealMs, digest, text, older, -, -, ⟨epoch, created, result, rfl, -⟩, rfl⟩ :=
    hsealed
  rfl

/-- A row that was written in full shows its image for good. -/
theorem imagedRow_step (h : Run (e :: t)) (hc : (stateOf t).checkpoint id = some c)
    (himaged : ImagedRow t c) :
    ∃ c', (after e).checkpoint id = some c' ∧ ImagedRow (e :: t) c' := by
  have hpast := List.suffix_cons e t
  rcases checkpoint_cases h id with ⟨tid, op, reply, hop, hcalls, hstep⟩ | hsame
  · rw [hc] at hstep
    generalize hrow : (after e).checkpoint id = row at hstep
    cases hstep with
    | updated hid =>
      exact ⟨_, rfl, (imagedRow_of_update h hcalls).mono h hpast rfl ⟨rfl, rfl, rfl, rfl, rfl⟩⟩
    | captured _ hlinks =>
      obtain ⟨supersedes, supersededBy, rfl⟩ := hlinks
      exact ⟨_, rfl, himaged.mono h hpast rfl ⟨rfl, rfl, rfl, rfl, rfl⟩⟩
    | relinked _ _ hlinks =>
      obtain ⟨supersedes, supersededBy, rfl⟩ := hlinks
      exact ⟨_, rfl, himaged.mono h hpast rfl ⟨rfl, rfl, rfl, rfl, rfl⟩⟩
    | _ => exact ⟨_, rfl, himaged.mono h hpast rfl ⟨rfl, rfl, rfl, rfl, rfl⟩⟩
  · exact ⟨c, hsame.trans hc, himaged.mono h hpast rfl ⟨rfl, rfl, rfl, rfl, rfl⟩⟩

/-- What the full image of a capture brings to its row, and every event keeps there, holds of the
row of every capture that has written its image. -/
theorem imaged_induction {P : List (Event (fabric settings)) → CheckpointObject → Prop}
    (h : Run t) (hc : (stateOf t).checkpoint id = some c) (himaged : Imaged t c.captureAttempt)
    (hstart : ∀ e past tid c₁ workloadId, e :: past <:+ t →
      Calls e past tid (.checkpointUpdate c₁) () → P (e :: past) { c₁ with workloadId })
    (hstep : ∀ e past c, e :: past <:+ t → (stateOf past).checkpoint id = some c → P past c →
      ∃ c', (after e).checkpoint id = some c' ∧ P (e :: past) c') : P t c := by
  obtain ⟨e, t', tid, c₁, run, hsuffix, hcalls, hcaptures, hattempt, hpersisted, -⟩ :=
    exists_update_of_imaged h himaged
  -- The capture that has written the image is the one of the row.
  have hid : c₁.checkpointId = id := by
    obtain ⟨tid', run', himage⟩ := described_of_run h hc
    obtain ⟨-, hsame⟩ := himage.1.unique h (hcaptures.mono h ((List.suffix_cons e t').trans hsuffix))
      (himage.2.captureAttempt.symm.trans hattempt.symm)
    rw [hpersisted.staged.describes.checkpointId, ← hsame.checkpointId, ← himage.2.checkpointId]
    exact World.checkpointId_of_row hc
  obtain ⟨hsome, hstore⟩ := Store.checkpointUpdate_ok (StoreOp.of_map_ok hcalls.run)
  obtain ⟨old, hold⟩ := Option.isSome_iff_exists.mp hsome
  have hafter : (stateOf (e :: t')).checkpoint id =
      some { c₁ with workloadId := old.workloadId } := by
    rw [stateOf_cons, World.checkpoint, hstore, ← hid, Table.get_modify_self, hold, Option.map_some]
  obtain ⟨c', hc', hP⟩ := suffix_induction (P := fun past : List (Event (fabric settings)) =>
      ∃ c, (stateOf past).checkpoint id = some c ∧ P past c) hsuffix
    ⟨_, hafter, hstart e t' tid c₁ _ hsuffix hcalls⟩ (by
      rintro e' past - hsuffix' ⟨c₂, hc₂, hP₂⟩
      exact hstep e' past c₂ hsuffix' hc₂ hP₂)
  obtain rfl := Option.some.inj (hc'.symm.trans hc)
  exact hP

/-- Once the capture of a checkpoint has written its image, the row shows it. -/
theorem imagedRow_of_imaged (h : Run t) (hc : (stateOf t).checkpoint id = some c)
    (himaged : Imaged t c.captureAttempt) : ImagedRow t c := by
  refine imaged_induction h hc himaged (fun e past tid c₁ workloadId hsuffix hcalls => ?_)
    fun e past c₂ hsuffix hc₂ hshows => imagedRow_step (h.of_suffix hsuffix) hc₂ hshows
  exact (imagedRow_of_update (h.of_suffix hsuffix) hcalls).mono (h.of_suffix hsuffix)
    (List.suffix_cons e past) rfl ⟨rfl, rfl, rfl, rfl, rfl⟩

/-- Then the row is sealed. -/
theorem sealedRow_of_imaged (h : Run t) (hc : (stateOf t).checkpoint id = some c)
    (himaged : Imaged t c.captureAttempt) : SealedRow t c := by
  obtain ⟨tid, run, asks, workloadId, imaged, hcaptures, hsealed, hid, hcontents⟩ :=
    imagedRow_of_imaged h hc himaged
  exact ⟨tid, run, asks, workloadId, imaged, hcaptures, hsealed, hid, hcontents.sealMs⟩

/-- What the image of a checkpoint says stays, once the checkpoint is beyond its capture. -/
theorem sameContents_of_late (h : Run t) (hsuffix : t' <:+ t)
    (hc : (stateOf t').checkpoint id = some c) (hlate : ¬ c.lifecycle.Preliminary) :
    ∃ c', (stateOf t).checkpoint id = some c' ∧ SameContents c c' := by
  suffices hboth : ∃ c', (stateOf t).checkpoint id = some c' ∧ ¬ c'.lifecycle.Preliminary ∧
      SameContents c c' by
    obtain ⟨c', hc', -, hsame⟩ := hboth
    exact ⟨c', hc', hsame⟩
  refine suffix_induction (P := fun past : List (Event (fabric settings)) =>
    ∃ c', (stateOf past).checkpoint id = some c' ∧ ¬ c'.lifecycle.Preliminary ∧
      SameContents c c') hsuffix ⟨c, hc, hlate, rfl, rfl, rfl, rfl, rfl⟩ ?_
  rintro e past - hpast ⟨c₁, hc₁, hlate₁, hsame₁⟩
  have hrun := h.of_suffix hpast
  obtain ⟨c₂, hc₂, hlate₂⟩ := late_of_step hrun hc₁ hlate₁
  refine ⟨c₂, hc₂, hlate₂, hsame₁.trans ?_⟩
  have hpersisted := (earlyOrPersisted_of_run hrun.tail id c₁ hc₁).resolve_left
    fun hearly => hlate₁ hearly.preliminary
  rcases checkpoint_cases hrun id with ⟨tid, op, reply, hop, hcalls, hstep⟩ | hsame
  · obtain ⟨request, hrequest, hwriter⟩ := hcalls.writer hrun hop
    obtain ⟨hupdate, -⟩ := late_of_writer hrun.tail hrequest hwriter hc₁ hpersisted
    rw [hc₁, hc₂] at hstep
    cases hstep with
    | updated hid => exact absurd rfl (hupdate _ hid)
    | captured _ hlinks | relinked _ _ hlinks =>
      obtain ⟨supersedes, supersededBy, rfl⟩ := hlinks
      exact ⟨rfl, rfl, rfl, rfl, rfl⟩
    | _ => exact ⟨rfl, rfl, rfl, rfl, rfl⟩
  · obtain rfl := Option.some.inj (hc₂.symm.trans (hsame.trans hc₁))
    exact ⟨rfl, rfl, rfl, rfl, rfl⟩

end Rows

section Lists

/-- The list of checkpoints that the thread had read last when it drew the nonce. -/
def listedFor (nonce : Id) : List (Event (fabric settings)) → Option (List CheckpointObject)
  | [] => none
  | .performed tid .random _ before :: past =>
    if before.issued = nonce then lastListRead (deeds tid past) else listedFor nonce past
  | _ :: past => listedFor nonce past

/-- The list is that of the thread that drew the nonce, which is drawn once. -/
theorem listedFor_of_drawn {ds : List FabricDeed} (h : Run t)
    (hdrawn : (⟨.random, .ok nonce⟩ : FabricDeed) :: ds <:+ deeds tid t) :
    listedFor nonce t = lastListRead ds := by
  obtain ⟨input, t', hsuffix, hdeeds, hreply⟩ := exists_event_of_deed h hdrawn
  obtain rfl : nonce = (stateOf t').issued := Except.ok.inj hreply
  refine suffix_induction (P := fun past : List (Event (fabric settings)) =>
    listedFor (stateOf t').issued past = lastListRead ds) hsuffix ?_ ?_
  · simp only [listedFor, if_true, hdeeds]
  · intro e past hpast hsuffix' ih
    have hrun := h.of_suffix hsuffix'
    have hissued : (stateOf t').issued + 1 ≤ (stateOf past).issued :=
      issued_le_of_run hrun.tail hpast
    cases e with
    | performed tid' op input' before =>
      obtain rfl := hrun.before_eq
      cases op with
      | random => rw [listedFor, if_neg (by omega), ih]
      | _ => exact ih
    | _ => exact ih

theorem exists_drawn_of_listedFor {listed : List CheckpointObject} (h : Run t)
    (hlisted : listedFor nonce t = some listed) :
    ∃ tid ds, (⟨.random, .ok nonce⟩ : FabricDeed) :: ds <:+ deeds tid t ∧
      lastListRead ds = some listed := by
  induction t with
  | nil => exact absurd hlisted (by simp [listedFor])
  | cons e past ih =>
    have hpast (hkept : listedFor nonce past = some listed) :
        ∃ tid ds, (⟨.random, .ok nonce⟩ : FabricDeed) :: ds <:+ deeds tid (e :: past) ∧
          lastListRead ds = some listed := by
      obtain ⟨tid, ds, hdrawn, hds⟩ := ih h.tail hkept
      exact ⟨tid, ds, hdrawn.trans (deeds_suffix (List.suffix_cons e past)), hds⟩
    cases e with
    | performed tid op input before =>
      cases op with
      | random =>
        simp only [listedFor] at hlisted
        split at hlisted
        · rename_i hnonce
          subst hnonce
          exact ⟨tid, deeds tid past, deeds_performed ▸ List.suffix_refl _, hlisted⟩
        · exact hpast hlisted
      | _ => exact hpast hlisted
    | _ => exact hpast hlisted

/-- The list stays. -/
theorem listedFor_of_suffix {listed : List CheckpointObject} (h : Run t) (hsuffix : t' <:+ t)
    (hlisted : listedFor nonce t' = some listed) : listedFor nonce t = some listed := by
  obtain ⟨tid, ds, hdrawn, hds⟩ := exists_drawn_of_listedFor (h.of_suffix hsuffix) hlisted
  rw [listedFor_of_drawn h (hdrawn.trans (deeds_suffix hsuffix)), hds]

end Lists

end CheckpointFabric
