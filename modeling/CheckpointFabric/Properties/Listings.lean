import CheckpointFabric.Properties.Directories

/-!
# What is found in the directories of the storage

Going over a directory takes many calls, and others change it meanwhile. A listing of the
checkpoints is not what was there at one moment. It still has every checkpoint that was there all
the time, and nothing that was never there. A sweep of the staging root has only the leases of its
beginning.

## Main results

* `enumerated` — what a listing of the checkpoints has
* `swept` — what a sweep removes
-/

set_option autoImplicit false

namespace CheckpointFabric.Directories

open Concurrency Concurrency.System Files Files.Tree
open Storage (LocalStorage)

section Listing

variable {storage : LocalStorage} {t : List (Event (directories storage))} {tid : ℕ}
  {ds ds' : List (Deed directoryInterface FabricError)} {name : String}

/-- An entry of the checkpoints was found to have what every committed checkpoint has. -/
structure Found (ds : List (Deed directoryInterface FabricError)) (name : String) : Prop where
  dir : ⟨.isDir (checkpointsDir ++ [name]), .ok true⟩ ∈ ds
  manifest : ⟨.isFile (checkpointsDir ++ [name] ++ ["manifest"]), .ok true⟩ ∈ ds
  digest : ⟨.isFile (checkpointsDir ++ [name] ++ ["manifest.digest"]), .ok true⟩ ∈ ds
  integrity : ⟨.isDir (checkpointsDir ++ [name] ++ ["integrity"]), .ok true⟩ ∈ ds

/-- Something of it was not found. -/
def Missed (ds : List (Deed directoryInterface FabricError)) (name : String) : Prop :=
  ⟨.isDir (checkpointsDir ++ [name]), .ok false⟩ ∈ ds ∨
    ⟨.isFile (checkpointsDir ++ [name] ++ ["manifest"]), .ok false⟩ ∈ ds ∨
    ⟨.isFile (checkpointsDir ++ [name] ++ ["manifest.digest"]), .ok false⟩ ∈ ds ∨
    ⟨.isDir (checkpointsDir ++ [name] ++ ["integrity"]), .ok false⟩ ∈ ds

theorem Found.mono (h : Found ds name) (hsuffix : ds <:+ ds') : Found ds' name :=
  ⟨hsuffix.subset h.dir, hsuffix.subset h.manifest, hsuffix.subset h.digest,
    hsuffix.subset h.integrity⟩

theorem Missed.mono (h : Missed ds name) (hsuffix : ds <:+ ds') : Missed ds' name :=
  h.imp (fun h => hsuffix.subset h) (.imp (fun h => hsuffix.subset h)
    (.imp (fun h => hsuffix.subset h) fun h => hsuffix.subset h))

/-- What the entries with these names come to. -/
structure Lists (ds : List (Deed directoryInterface FabricError)) (names : List String)
    (found : List Id) : Prop where
  sublist : found.Sublist (names.filterMap fun name => (fromHex name).toOption)
  holds : ∀ id ∈ found, ∃ name ∈ names, fromHex name = .ok id ∧ Found ds name
  skips : ∀ name ∈ names, ∀ id, fromHex name = .ok id → id ∈ found ∨ Missed ds name

theorem Lists.mono {names : List String} {found : List Id} (h : Lists ds names found)
    (hsuffix : ds <:+ ds') : Lists ds' names found where
  sublist := h.sublist
  holds id hid := by
    obtain ⟨name, hname, hhex, hfound⟩ := h.holds id hid
    exact ⟨name, hname, hhex, hfound.mono hsuffix⟩
  skips name hname id hid := (h.skips name hname id hid).imp_right fun h => h.mono hsuffix

/-- An entry that is not among the checkpoints. -/
theorem Lists.skip {names : List String} {found : List Id} (h : Lists ds names found)
    (hskip : ∀ id, fromHex name = .ok id → Missed ds name) : Lists ds (name :: names) found where
  sublist := h.sublist.trans (by
    rw [List.filterMap_cons]
    split
    · exact List.Sublist.refl _
    · exact List.sublist_cons_self _ _)
  holds id hid := by
    obtain ⟨other, hother, hfound⟩ := h.holds id hid
    exact ⟨other, .tail _ hother, hfound⟩
  skips other hother id hid := by
    rcases List.mem_cons.mp hother with rfl | hother
    · exact .inr (hskip id hid)
    · exact h.skips other hother id hid

theorem Lists.keep {names : List String} {found : List Id} {id : Id} (h : Lists ds names found)
    (hid : fromHex name = .ok id) (hfound : Found ds name) : Lists ds (name :: names) (id :: found) where
  sublist := by
    rw [List.filterMap_cons_some (by rw [hid]; rfl)]
    exact h.sublist.cons_cons id
  holds other hother := by
    rcases List.mem_cons.mp hother with rfl | hother
    · exact ⟨name, .head _, hid, hfound⟩
    · obtain ⟨name', hname', hfound'⟩ := h.holds other hother
      exact ⟨name', .tail _ hname', hfound'⟩
  skips other hother id' hid' := by
    rcases List.mem_cons.mp hother with rfl | hother
    · rw [hid] at hid'
      exact .inl (Except.ok.inj hid' ▸ .head _)
    · exact (h.skips other hother id' hid').imp_left fun h => .tail _ h

theorem obeys_isCommittedDir : Obeys (fun _ _ => True) (fun ds' result => ds <:+ ds' ∧
    ∀ answer : Bool, result = .ok answer → if answer then Found ds' name else Missed ds' name) ds
      (isCommittedDir (checkpointsDir ++ [name])) := by
  refine (Obeys.extends ?_).weaken fun _ _ h => h
  have herror : ∀ (ds : List (Deed directoryInterface FabricError)) (e : FabricError)
      (answer : Bool), Except.error e = .ok answer →
        if answer then Found ds name else Missed ds name :=
    fun _ _ _ h => nomatch h
  have hno (ds : List (Deed directoryInterface FabricError)) (hmissed : Missed ds name) (answer : Bool)
      (h : (.ok false : FabricResult Bool) = .ok answer) :
      if answer then Found ds name else Missed ds name := by
    rw [← Except.ok.inj h]
    exact hmissed
  refine obeys_call_bind herror trivial fun dir => ?_
  cases dir with
  | false => exact hno _ (.inl (.head _))
  | true =>
    refine obeys_call_bind herror trivial fun manifest => ?_
    cases manifest with
    | false => exact hno _ (.inr (.inl (.head _)))
    | true =>
      refine obeys_call_bind herror trivial fun digest => ?_
      cases digest with
      | false => exact hno _ (.inr (.inr (.inl (.head _))))
      | true =>
        refine ⟨trivial, fun reply answer hreply => ?_⟩
        subst hreply
        cases answer with
        | false => exact .inr (.inr (.inr (.head _)))
        | true =>
          exact ⟨.tail _ (.tail _ (.tail _ (.head _))), .tail _ (.tail _ (.head _)),
            .tail _ (.head _), .head _⟩

theorem obeys_enumerateEntries {names : List String} {out : List Id} :
    Obeys (fun _ _ => True) (fun ds' result => ∀ ids, result = .ok ids →
      ∃ found, ids = out ++ found ∧ Lists ds' names found) ds (enumerateEntries names out) := by
  induction names generalizing ds out with
  | nil =>
    intro ids hids
    exact ⟨[], by rw [List.append_nil, Except.ok.inj hids], List.Sublist.refl _,
      fun id hid => (nomatch hid), fun name hname => (nomatch hname)⟩
  | cons name names ih =>
    have herror : ∀ (ds : List (Deed directoryInterface FabricError)) (e : FabricError) ids,
        Except.error e = .ok ids → ∃ found, ids = out ++ found ∧ Lists ds (name :: names) found :=
      fun _ _ _ h => nomatch h
    -- The entry is left out, for a reason that the deeds so far tell.
    have hskip (ds : List (Deed directoryInterface FabricError))
        (hreason : ∀ id, fromHex name = .ok id → Missed ds name) :
        Obeys (fun _ _ => True) (fun ds' result => ∀ ids, result = .ok ids →
          ∃ found, ids = out ++ found ∧ Lists ds' (name :: names) found) ds
          (enumerateEntries names out) := by
      refine ih.extends.weaken fun ds' result h ids hids => ?_
      obtain ⟨found, rfl, hlists⟩ := h.2 ids hids
      exact ⟨found, rfl, hlists.skip fun id hid => (hreason id hid).mono h.1⟩
    rw [enumerateEntries]
    refine obeys_call_bind herror trivial fun _ => obeys_call_bind herror trivial fun dir => ?_
    cases dir with
    | false => exact hskip _ fun _ _ => .inl (.head _)
    | true =>
      cases hhex : fromHex name with
      | error e => exact hskip _ fun id hid => nomatch hhex.symm.trans hid
      | ok id =>
        refine Obeys.bind herror (obeys_isCommittedDir.weaken fun ds' result h answer hanswer =>
          h.2 answer hanswer) fun ds' answer hanswer => ?_
        cases answer with
        | false => exact hskip _ fun _ _ => hanswer
        | true =>
          refine ih.extends.weaken fun ds'' result h ids hids => ?_
          obtain ⟨found, rfl, hlists⟩ := h.2 ids hids
          refine ⟨id :: found, by rw [List.append_assoc, List.singleton_append], ?_⟩
          exact hlists.keep hhex (hanswer.mono h.1)

/-- An enumeration goes over a listing, and answers in order. -/
theorem obeys_enumerateCommitted : Obeys (fun _ _ => True) (fun ds' result => ∀ ids, result = .ok ids →
    ∃ names found, ⟨.readDir checkpointsDir, .ok names⟩ ∈ ds' ∧ Lists ds' names found ∧
      ids = found.insertionSort (· ≤ ·)) ds enumerateCommitted := by
  have herror : ∀ (ds : List (Deed directoryInterface FabricError)) (e : FabricError) ids,
      Except.error e = .ok ids → ∃ names found, ⟨.readDir checkpointsDir, .ok names⟩ ∈ ds ∧
        Lists ds names found ∧ ids = found.insertionSort (· ≤ ·) := fun _ _ _ h => nomatch h
  refine obeys_call_bind herror trivial fun names => ?_
  refine Obeys.bind herror (obeys_enumerateEntries.extends.weaken fun ds' result h out hout =>
    (⟨h.1, h.2 out hout⟩ : _ ∧ ∃ found, out = [] ++ found ∧ Lists ds' names found))
    fun ds' out hout => ?_
  obtain ⟨hsuffix, found, hfound, hlists⟩ := hout
  intro ids hids
  exact ⟨names, found, hsuffix.subset (.head _), hlists, by
    rw [← Except.ok.inj hids, hfound, List.nil_append]⟩

/-- There is what every committed checkpoint has. -/
def Committed (t : Files.Tree UInt8) (id : Id) : Prop :=
  t.isDirectory (commitDir id) = true ∧ t.isFile (commitDir id ++ ["manifest"]) = true ∧
    t.isFile (commitDir id ++ ["manifest.digest"]) = true ∧
      t.isDirectory (commitDir id ++ ["integrity"]) = true

/-- At some moment while the thread was live. -/
def Sometime (tid : ℕ) (t : List (Event (directories storage))) (fact : Files.Tree UInt8 → Prop) :
    Prop :=
  ∃ past, past <:+ t ∧ Live tid past ∧ fact (stateOf past).tree

/-- No call of the thread failed for a reason that is not in the tree. -/
def Undisturbed (tid : ℕ) (t : List (Event (directories storage))) : Prop :=
  ∀ op input before past, .performed tid op input before :: past <:+ t → input.fault = false

section Answers

variable {p : Path} {input : Input} {s : Disk}

theorem isDirectory_of_handle {answer : Bool}
    (h : .ok answer = (s.handle (.isDir p) input).1) :
    (answer = true → s.tree.isDirectory p = true) ∧
      (input.fault = false → s.tree.isDirectory p = answer) := by
  unfold Disk.handle at h
  split at h
  · rename_i hfault
    rw [Except.ok.inj h]
    exact ⟨fun hfalse => (nomatch hfalse), fun hno => absurd (hfault.symm.trans hno) (by simp)⟩
  · rw [Except.ok.inj h]
    exact ⟨id, fun _ => rfl⟩

theorem isFile_of_handle {answer : Bool}
    (h : .ok answer = (s.handle (.isFile p) input).1) :
    (answer = true → s.tree.isFile p = true) ∧
      (input.fault = false → s.tree.isFile p = answer) := by
  unfold Disk.handle at h
  split at h
  · rename_i hfault
    rw [Except.ok.inj h]
    exact ⟨fun hfalse => (nomatch hfalse), fun hno => absurd (hfault.symm.trans hno) (by simp)⟩
  · rw [Except.ok.inj h]
    exact ⟨id, fun _ => rfl⟩

theorem children_of_handle {names : List String}
    (h : .ok names = (s.handle (.readDir p) input).1) : names = s.tree.children p := by
  unfold Disk.handle at h
  split at h
  · exact nomatch h
  · dsimp only [Disk.respond] at h
    split at h
    · exact Except.ok.inj h
    · exact nomatch h

end Answers

theorem sometime_of_isDir {p : Path} (h : Run t) (hd : ⟨.isDir p, .ok true⟩ ∈ deeds tid t) :
    Sometime tid t fun tree => tree.isDirectory p = true := by
  obtain ⟨input, past, hsuffix, hlive, hreply⟩ := exists_performed_of_mem h hd
  exact ⟨past, suffix_of_cons hsuffix, hlive, (isDirectory_of_handle hreply).1 rfl⟩

theorem sometime_of_isFile {p : Path} (h : Run t) (hd : ⟨.isFile p, .ok true⟩ ∈ deeds tid t) :
    Sometime tid t fun tree => tree.isFile p = true := by
  obtain ⟨input, past, hsuffix, hlive, hreply⟩ := exists_performed_of_mem h hd
  exact ⟨past, suffix_of_cons hsuffix, hlive, (isFile_of_handle hreply).1 rfl⟩

/-- What an undisturbed thread misses of a checkpoint is missing. -/
theorem not_committed_of_missed {id : Id} (h : Run t) (hundisturbed : Undisturbed tid t)
    (hmissed : Missed (deeds tid t) (toHex id)) : Sometime tid t fun tree => ¬ Committed tree id := by
  have hdir (p : Path) (hd : ⟨.isDir p, .ok false⟩ ∈ deeds tid t) :
      Sometime tid t fun tree => tree.isDirectory p = false := by
    obtain ⟨input, past, hsuffix, hlive, hreply⟩ := exists_performed_of_mem h hd
    exact ⟨past, suffix_of_cons hsuffix, hlive,
      (isDirectory_of_handle hreply).2 (hundisturbed _ _ _ _ hsuffix)⟩
  have hfile (p : Path) (hd : ⟨.isFile p, .ok false⟩ ∈ deeds tid t) :
      Sometime tid t fun tree => tree.isFile p = false := by
    obtain ⟨input, past, hsuffix, hlive, hreply⟩ := exists_performed_of_mem h hd
    exact ⟨past, suffix_of_cons hsuffix, hlive,
      (isFile_of_handle hreply).2 (hundisturbed _ _ _ _ hsuffix)⟩
  -- Each of the four questions was asked at a moment of its own; one of them was answered no.
  rcases hmissed with hd | hd | hd | hd
  · obtain ⟨past, hsuffix, hlive, hno⟩ := hdir _ hd
    exact ⟨past, hsuffix, hlive, fun hall => absurd (hall.1.symm.trans hno) (by simp)⟩
  · obtain ⟨past, hsuffix, hlive, hno⟩ := hfile _ hd
    exact ⟨past, hsuffix, hlive, fun hall => absurd (hall.2.1.symm.trans hno) (by simp)⟩
  · obtain ⟨past, hsuffix, hlive, hno⟩ := hfile _ hd
    exact ⟨past, hsuffix, hlive, fun hall => absurd (hall.2.2.1.symm.trans hno) (by simp)⟩
  · obtain ⟨past, hsuffix, hlive, hno⟩ := hdir _ hd
    exact ⟨past, hsuffix, hlive, fun hall => absurd (hall.2.2.2.symm.trans hno) (by simp)⟩

/-- The entries of the checkpoints are the names of ids, each of them once. -/
theorem nodup_of_children {tree : Files.Tree UInt8} (h : Sound tree) {found : List Id}
    (hfound : found.Sublist ((tree.children checkpointsDir).filterMap
      fun name => (fromHex name).toOption)) : found.Nodup := by
  refine List.Nodup.sublist hfound (List.pairwise_filterMap.mpr ?_)
  refine (List.nodup_dedup _).imp_of_mem fun {a b} ha hb hne x hx y hy heq => hne ?_
  have hname (name : String) (z : Id) (hmem : name ∈ tree.children checkpointsDir)
      (hz : (fromHex name).toOption = some z) : name = toHex z := by
    obtain ⟨id, rfl⟩ := h.named name (mem_children_iff.mp hmem)
    rw [fromHex_toHex] at hz
    rw [← Option.some.inj hz, toHex_mod]
  rw [hname a x ha hx, hname b y hb hy, heq]

/-- Only an enumeration answers with checkpoints. -/
theorem obeys_checkpoints (request : Request) :
    Obeys (fun _ _ => True) (fun ds result => ∀ ids, result = .ok (.checkpoints ids) →
      ∃ names found, ⟨.readDir checkpointsDir, .ok names⟩ ∈ ds ∧ Lists ds names found ∧
        ids = found.insertionSort (· ≤ ·)) [] (serve storage request) := by
  have herror : ∀ (ds : List (Deed directoryInterface FabricError)) (e : FabricError) ids,
      (.error e : FabricResult Response) = .ok (.checkpoints ids) →
        ∃ names found, ⟨.readDir checkpointsDir, .ok names⟩ ∈ ds ∧ Lists ds names found ∧
          ids = found.insertionSort (· ≤ ·) := fun _ _ _ h => nomatch h
  cases request with
  | enumerateCommitted =>
    refine Obeys.bind herror obeys_enumerateCommitted fun ds ids hids ids' hids' => ?_
    obtain rfl := Response.checkpoints.inj (Except.ok.inj hids')
    exact hids
  | _ =>
    refine obeys_uses_bind herror (Uses.of_true _) (fun _ _ _ _ => trivial) fun ds a _ ids hids => ?_
    exact nomatch Except.ok.inj hids

/-- What an answered enumeration has: ids in order and each of them once; what it found of each of
them was there at some moment; and every checkpoint that was there all the time, when no call
failed. The listing is a snapshot of the names at the moment when it is opened. -/
theorem enumerated {ids : List Id} (h : Run t)
    (hanswer : answerOf tid t = some (.ok (.checkpoints ids))) :
    ids.Pairwise (· < ·) ∧
    (∀ id ∈ ids, id < 2 ^ 128 ∧ Sometime tid t (fun tree => tree.isDirectory (commitDir id) = true) ∧
      Sometime tid t (fun tree => tree.isFile (commitDir id ++ ["manifest"]) = true) ∧
      Sometime tid t (fun tree => tree.isFile (commitDir id ++ ["manifest.digest"]) = true) ∧
      Sometime tid t (fun tree => tree.isDirectory (commitDir id ++ ["integrity"]) = true)) ∧
    (Undisturbed tid t → ∀ id < 2 ^ 128,
      (∀ past, past <:+ t → Live tid past → Committed (stateOf past).tree id) → id ∈ ids) := by
  obtain ⟨before, past, hanswered⟩ := exists_answered_of_answerOf hanswer
  have hrun := h.of_suffix hanswered
  obtain ⟨request, hrequest, hlisted⟩ := hrun.concluded obeys_checkpoints
  obtain ⟨names, found, hread, hlists, rfl⟩ := hlisted ids rfl
  have hpast := suffix_of_cons hanswered
  have hsometime {fact : Files.Tree UInt8 → Prop} (hfact : Sometime tid past fact) :
      Sometime tid t fact := by
    obtain ⟨moment, hsuffix, hlive, hholds⟩ := hfact
    exact ⟨moment, hsuffix.trans hpast, hlive, hholds⟩
  -- The listing is what was there when it was opened.
  obtain ⟨input, opened, hopened, hlive, hreply⟩ := exists_performed_of_mem hrun.tail hread
  have hnames : names = (stateOf opened).tree.children checkpointsDir := children_of_handle hreply
  have hopenedRun := hrun.tail.of_suffix (suffix_of_cons hopened)
  have hsound := sound_of_run hopenedRun
  refine ⟨?_, fun id hid => ?_, fun hundisturbed id hbound hall => ?_⟩
  -- In order and each once: two entries of one listing do not have the name of one id.
  · have hsublist := hlists.sublist
    rw [hnames] at hsublist
    have hnodup := (List.perm_insertionSort (· ≤ ·) found).nodup_iff.mpr
      (nodup_of_children hsound hsublist)
    exact (List.pairwise_insertionSort (· ≤ ·) found).imp₂
      (fun a b hle hne => lt_of_le_of_ne hle hne) hnodup
  -- What was found need not have been there all at once.
  · obtain ⟨name, hname, hhex, hfound⟩ := hlists.holds id ((List.mem_insertionSort _).mp hid)
    obtain ⟨other, rfl⟩ := hsound.named name (mem_children_iff.mp (hnames ▸ hname))
    rw [fromHex_toHex] at hhex
    obtain rfl := Except.ok.inj hhex
    have hdir : commitDir (other % 2 ^ 128) = checkpointsDir ++ [toHex other] := by
      rw [commitDir, toHex_mod]
    rw [hdir]
    exact ⟨Nat.mod_lt _ (by decide), hsometime (sometime_of_isDir hrun.tail hfound.dir),
      hsometime (sometime_of_isFile hrun.tail hfound.manifest),
      hsometime (sometime_of_isFile hrun.tail hfound.digest),
      hsometime (sometime_of_isDir hrun.tail hfound.integrity)⟩
  -- A checkpoint that was there all the time is an entry, and nothing of it was missed.
  · have hthere := (hall opened ((suffix_of_cons hopened).trans hpast) hlive).1
    have hmem : toHex id ∈ names := by
      rw [hnames, mem_children_iff]
      intro hnone
      rw [Files.Tree.isDirectory, commitDir, hnone] at hthere
      cases hthere
    have hhex : fromHex (toHex id) = .ok id := by
      rw [fromHex_toHex, Nat.mod_eq_of_lt hbound]
    rcases hlists.skips _ hmem id hhex with hfound | hmissed
    · exact (List.mem_insertionSort _).mpr hfound
    · obtain ⟨moment, hsuffix, hmomentLive, hno⟩ := not_committed_of_missed hrun.tail
        (fun op input before later hlater => hundisturbed op input before later (hlater.trans hpast))
        hmissed
      exact absurd (hall moment (hsuffix.trans hpast) hmomentLive) hno

/-- The checkpoints are enumerated while a second attempt is promoted. -/
def Demo.listing : List (Action (directories ⟨"/data"⟩)) :=
  Demo.promoted ++ [.accept .enumerateCommitted, .accept (.promote "capture-2" 3),
    .advance 1 sound] ++ List.replicate 5 (.advance 2 sound) ++ List.replicate 7 (.advance 1 sound)

theorem enumerated_promoted : ([7] : List Id).Pairwise (· < ·) ∧
    Sometime 1 (exec Demo.listing).trace
      fun tree => tree.isFile (commitDir 7 ++ ["manifest"]) = true := by
  have hanswer : answerOf 1 (exec Demo.listing).trace = some (.ok (.checkpoints [7])) := by
    decide +kernel
  have h := enumerated (exec_run Demo.listing) hanswer
  exact ⟨h.1, (h.2.1 7 (.head _)).2.2.1⟩

end Listing

section Sweeps

variable {storage : LocalStorage} {t : List (Event (directories storage))} {tid : ℕ}
  {ds ds' : List (Deed directoryInterface FabricError)} {keep : List Path} {ttlMs : ℕ} {p : Path}

/-- It was found that the directory may be removed. -/
structure Abandoned (ds : List (Deed directoryInterface FabricError)) (keep : List Path) (ttlMs : ℕ)
    (p : Path) : Prop where
  kept : p ∉ keep
  dir : ⟨.isDir p, .ok true⟩ ∈ ds
  old : ttlMs = 0 ∨ ∃ age, ⟨.age p, .ok (some age)⟩ ∈ ds ∧ ttlMs ≤ age

theorem Abandoned.mono (h : Abandoned ds keep ttlMs p) (hsuffix : ds <:+ ds') :
    Abandoned ds' keep ttlMs p where
  kept := h.kept
  dir := hsuffix.subset h.dir
  old := h.old.imp_right fun ⟨age, hage, hle⟩ => ⟨age, hsuffix.subset hage, hle⟩

/-- Whether the call removes something at or below the place. -/
def RemovesAt (op : Op) (p : Path) : Prop := op = .removeBelow p ∨ op = .removeDir p

/-- Something is only removed where it was found that it may be. -/
def MayRemove (keep : List Path) (ttlMs : ℕ) (ds : List (Deed directoryInterface FabricError))
    (op : Op) : Prop :=
  ∀ p, RemovesAt op p → Abandoned ds keep ttlMs p

theorem obeys_removeDirAll (h : Abandoned ds keep ttlMs p) :
    Obeys (MayRemove keep ttlMs) (fun ds' _ => ds <:+ ds') ds
      (removeDirAll p) := by
  have hother (op : Op) (hop : op = .readTree p ∨ RemovesAt op p) (q : Path) (hq : RemovesAt op q) :
      q = p := by
    rcases hop with rfl | rfl | rfl
    · exact hq.elim nofun nofun
    · exact hq.elim (fun heq => (Op.removeBelow.inj heq).symm) nofun
    · exact hq.elim nofun fun heq => (Op.removeDir.inj heq).symm
  have huses : Uses (fun op : Op => op = .readTree p ∨ RemovesAt op p) (removeDirAll p) :=
    uses_removeDirAll (.inl rfl) (.inr (.inl rfl)) (.inr (.inr rfl))
  refine Obeys.extend huses fun ds' op hsuffix hop q hq => ?_
  rw [hother op hop q hq]
  exact h.mono hsuffix

theorem obeys_oldEnough : Obeys (MayRemove keep ttlMs)
    (fun ds' result => ds <:+ ds' ∧ (result = .ok true →
      ttlMs = 0 ∨ ∃ age, ⟨.age p, .ok (some age)⟩ ∈ ds' ∧ ttlMs ≤ age)) ds (oldEnough p ttlMs) := by
  rw [oldEnough]
  split
  · exact ⟨List.suffix_refl _, fun _ => .inl ‹_›⟩
  · refine ⟨fun q hq => hq.elim nofun nofun, fun reply => ?_⟩
    cases reply with
    | error e => exact ⟨List.suffix_cons _ _, fun h => nomatch h⟩
    | ok age =>
      cases age with
      | none => exact ⟨List.suffix_cons _ _, fun h => nomatch h⟩
      | some age =>
        exact ⟨List.suffix_cons _ _, fun h => .inr ⟨age, .head _, of_decide_eq_true (Except.ok.inj h)⟩⟩

theorem obeys_recoverEntries {names : List String} {removed : List Path} :
    Obeys (MayRemove keep ttlMs) (fun _ _ => True) ds
      (recoverEntries keep ttlMs names removed) := by
  have herror : ∀ (ds : List (Deed directoryInterface FabricError)) (e : FabricError), True :=
    fun _ _ => trivial
  induction names generalizing ds removed with
  | nil => trivial
  | cons name names ih =>
    rw [recoverEntries]
    refine obeys_call_bind herror (fun q hq => hq.elim nofun nofun) fun _ =>
      obeys_call_bind herror (fun q hq => hq.elim nofun nofun) fun dir => ?_
    refine obeys_ite (fun _ => ih) fun hdir => ?_
    obtain ⟨rfl, hkeep⟩ : dir = true ∧ stagingRoot ++ [name] ∉ keep := by simpa using hdir
    refine Obeys.bind herror (obeys_oldEnough.weaken fun ds' result h old hold =>
      (⟨h.1, fun hyes => h.2 (hyes ▸ hold)⟩ : _ ∧ (old = true → ttlMs = 0 ∨ ∃ age,
        ⟨.age (stagingRoot ++ [name]), .ok (some age)⟩ ∈ ds' ∧ ttlMs ≤ age))) fun ds' old hold => ?_
    refine obeys_ite (fun hyes => ?_) fun _ => ih
    have habandoned : Abandoned ds' keep ttlMs (stagingRoot ++ [name]) :=
      ⟨hkeep, hold.1.subset (.head _), hold.2 hyes⟩
    exact Obeys.bind herror ((obeys_removeDirAll habandoned).weaken fun _ _ _ _ _ => trivial)
      fun _ _ _ => ih

theorem obeys_recoverPartialOlderThan :
    Obeys (MayRemove keep ttlMs) (fun _ _ => True) ds
      (recoverPartialOlderThan keep ttlMs) := by
  refine obeys_call_attempt_bind (fun q hq => hq.elim nofun nofun) fun reply => ?_
  cases reply with
  | ok names => exact obeys_recoverEntries
  | error e => trivial

/-- Who removes something in the staging directory of an attempt, and what that request has found.
-/
def Sweeps (request : Request) (ds : List (Deed directoryInterface FabricError)) (op : Op) : Prop :=
  ∀ name, RemovesAt op (stagingRoot ++ [name]) →
    (∃ keep, request = .recoverPartial keep ∧ Abandoned ds keep 0 (stagingRoot ++ [name])) ∨
    ∃ ttlMs keep, request = .sweep ttlMs ∧ ⟨.leased, .ok keep⟩ ∈ ds ∧
      Abandoned ds keep ttlMs (stagingRoot ++ [name])

theorem sweeps_of_allowed {request : Request} {op : Op} (hclears : ¬ request.Clears)
    (h : Allowed request op) : Sweeps request ds op := by
  rintro name (rfl | rfl)
  all_goals
    obtain ⟨id, -, hid⟩ | ⟨hyes, -⟩ := h
    · exact absurd hid staging_ne_checkpoints
    · exact absurd hyes hclears

theorem obeys_sweeps (request : Request) :
    Obeys (Sweeps request) (fun _ _ => True) [] (serve storage request) := by
  have herror : ∀ (ds : List (Deed directoryInterface FabricError)) (e : FabricError), True :=
    fun _ _ => trivial
  by_cases hclears : request.Clears
  · cases request with
    | sweep ttlMs =>
      have hsweep : Obeys (Sweeps (.sweep ttlMs)) (fun _ _ => True) [] (sweep ttlMs) := by
        refine obeys_call_bind herror (fun name hname => hname.elim nofun nofun) fun keep => ?_
        -- What was leased stays known.
        have hleased : Obeys
            (fun (ds : List (Deed directoryInterface FabricError)) _ => ⟨.leased, .ok keep⟩ ∈ ds)
            (fun _ _ => True) [⟨.leased, .ok keep⟩] (recoverPartialOlderThan keep ttlMs) :=
          (Obeys.extend (Uses.of_true _) fun _ _ hsuffix _ => hsuffix.subset (.head _)).weaken
            fun _ _ _ => trivial
        exact (obeys_recoverPartialOlderThan.and hleased).mono
          (fun ds op h name hname => .inr ⟨ttlMs, keep, rfl, h.2, h.1 _ hname⟩) fun _ _ _ => trivial
      exact Obeys.bind herror (hsweep.weaken fun _ _ _ _ _ => trivial) fun _ _ _ => trivial
    | recoverPartial keep =>
      exact Obeys.bind herror (obeys_recoverPartialOlderThan.mono
        (fun ds op h name hname => .inl ⟨keep, rfl, h _ hname⟩) fun _ _ _ _ _ => trivial)
        fun _ _ _ => trivial
    | _ => exact hclears.elim
  · exact (obeys_serve storage request).mono (fun ds op h => sweeps_of_allowed hclears h) fun _ _ h => h

theorem leases_of_handle {input : Input} {s : Disk} {keep : List Path}
    (h : .ok keep = (s.handle .leased input).1) : keep = s.leases := by
  unfold Disk.handle at h
  split at h
  all_goals exact Except.ok.inj h

theorem age_of_handle {input : Input} {s : Disk} {age : ℕ}
    (h : .ok (some age) = (s.handle (.age p) input).1) : input.age = some age := by
  unfold Disk.handle at h
  split at h
  · exact nomatch Except.ok.inj h
  · exact (Except.ok.inj h).symm

/-- Of the requests of the storage none but a sweep removes anything in the staging directory of an
attempt. There was a moment of that sweep when the directory was not leased, and it was found old
enough. What attempts remove in their own directories is no call of a request. -/
theorem swept {op : Op} {input : Input} {before : Disk} {name : String}
    (h : Run (S := directories storage) (.performed tid op input before :: t))
    (hremoves : RemovesAt op (stagingRoot ++ [name])) :
    (∃ keep, requestOf tid t = some (.recoverPartial keep) ∧ stagingRoot ++ [name] ∉ keep) ∨
    ∃ ttlMs, requestOf tid t = some (.sweep ttlMs) ∧
      (∃ past, past <:+ t ∧ Live tid past ∧ stagingRoot ++ [name] ∉ (stateOf past).leases) ∧
      (ttlMs = 0 ∨ ∃ input past age, Event.performed (S := directories storage) tid
        (.age (stagingRoot ++ [name])) input (stateOf past) :: past <:+ t ∧
          input.age = some age ∧ ttlMs ≤ age) := by
  obtain ⟨request, hrequest, hsweeps⟩ := h.permitted obeys_sweeps
  rcases hsweeps name hremoves with ⟨keep, rfl, habandoned⟩ |
    ⟨ttlMs, keep, rfl, hleased, habandoned⟩
  · exact .inl ⟨keep, hrequest, habandoned.kept⟩
  · refine .inr ⟨ttlMs, hrequest, ?_, ?_⟩
    · obtain ⟨_, past, hsuffix, hlive, hreply⟩ := exists_performed_of_mem h.tail hleased
      exact ⟨past, suffix_of_cons hsuffix, hlive, leases_of_handle hreply ▸ habandoned.kept⟩
    · refine habandoned.old.imp_right ?_
      rintro ⟨age, hage, hle⟩
      obtain ⟨input', past, hsuffix, -, hreply⟩ := exists_performed_of_mem h.tail hage
      exact ⟨input', past, age, hsuffix, age_of_handle hreply, hle⟩

/-- An attempt that is over has left its directory behind, and a sweep finds it. -/
def Demo.sweeping : List (Action (directories ⟨"/data"⟩)) :=
  Demo.staged "capture-1" ++ [.accept (.sweep 10)] ++ List.replicate 4 (.advance 0 sound) ++
    [.advance 0 { sound with age := some 12 }, .advance 0 { sound with entries := 3 },
      .advance 0 { sound with below := ["manifest"] }]

theorem swept_manifest : ∃ past, past <:+ (exec Demo.sweeping).trace ∧
    stagingRoot ++ ["capture-1"] ∉ (stateOf past).leases := by
  obtain ⟨before, t, heq⟩ : ∃ before t, (exec Demo.sweeping).trace =
      .performed 0 (.removeBelow (stagingRoot ++ ["capture-1"]))
        { Demo.sound with below := ["manifest"] } before :: t := ⟨_, _, rfl⟩
  have hrun := heq ▸ exec_run Demo.sweeping
  have hsweep : requestOf 0 (exec Demo.sweeping).trace = some (.sweep 10) := by decide +kernel
  rw [heq] at hsweep ⊢
  obtain ⟨keep, hrequest, -⟩ | ⟨ttlMs, -, ⟨past, hsuffix, -, hleased⟩, -⟩ := swept hrun (.inl rfl)
  · exact nomatch Option.some.inj (hrequest.symm.trans hsweep)
  · exact ⟨past, hsuffix.trans (List.suffix_cons _ _), hleased⟩

end Sweeps

end CheckpointFabric.Directories
