import CheckpointFabric.Properties.Requirements

/-!
# A restore on a node is all or nothing

A restore that fails cleans up every provider that it has asked to restore, the last one first,
and each of them once; the one whose own restore or verification has failed is among them. A
restore that succeeds cleans up none.

Providers fail as they like. The registry and the map of pending restores are in the memory of the
node, and always answer.

## Main definitions

* `touches` — the calls of a history that change what a provider has restored
* `Settled` — every restore of the history is undone, or the result is a success

## Main results

* `restore_all_or_nothing` — the calls of a failed restore, and of one that succeeds
-/

set_option autoImplicit false

namespace CheckpointFabric.Replica

open Concurrency

/-- A call that changes what a provider has restored. -/
inductive Touch
  | restore (provider : Provider)
  | cleanup (provider : Provider)
  deriving DecidableEq, Repr

def Op.touches : Op → List Touch
  | .restore provider .. => [.restore provider]
  | .cleanupRestore provider _ => [.cleanup provider]
  | _ => []

/-- The touches of a history, the latest first. -/
def touches (ds : List DiskDeed) : List Touch := ds.flatMap fun d => d.op.touches

/-- The operation is answered from the memory of the node. -/
def Op.InMemory : Op → Prop
  | .providerGet .. | .insertPending .. => True
  | _ => False

/-- Memory always answers. -/
def MemoryAnswers (ds : List DiskDeed) : Prop :=
  ∀ d ∈ ds, d.op.InMemory → ∃ a, d.reply = .ok a

/-- A restore that the node reports as successful. -/
def Succeeded (result : FabricResult NodeRestoreResult) : Prop :=
  ∃ a, result = .ok a ∧ a.ok = true

section Restores

variable {files : FileCodecs} {node : NodeState} {req : NodeRestoreRequest} {ds ds' : List DiskDeed}
  {touched : List Provider} {ids ids' : List String} {ctx : RestoreContext}

/-- The providers were found for some of the components, one after the other; the last one is first
in the list. -/
def FoundFor (req : NodeRestoreRequest) (ids : List String) (ds : List DiskDeed)
    (touched : List Provider) : Prop :=
  ∃ found, found.Sublist ids.reverse ∧
    List.Forall₂ (fun p id => ⟨.providerGet req.workloadId id, .ok (some p)⟩ ∈ ds) touched found

/-- All that was done to providers is that these were asked to restore. -/
structure Restoring (req : NodeRestoreRequest) (ids : List String) (ds : List DiskDeed)
    (touched : List Provider) : Prop where
  found : FoundFor req ids ds touched
  touches_eq : touches ds = touched.map .restore

/-- Every provider that was asked to restore was asked to clean up, unless the restore succeeded. -/
def Settled (req : NodeRestoreRequest) (ids : List String) (ds : List DiskDeed)
    (result : FabricResult NodeRestoreResult) : Prop :=
  MemoryAnswers ds → ∃ touched, FoundFor req ids ds touched ∧
    ((Succeeded result ∧ touches ds = touched.map .restore) ∨
      (¬ Succeeded result ∧
        touches ds = (touched.map .cleanup).reverse ++ touched.map .restore))

section Found

theorem FoundFor.mono (h : FoundFor req ids ds touched) (hds : ds ⊆ ds') :
    FoundFor req ids ds' touched := by
  obtain ⟨found, hsublist, hfound⟩ := h
  exact ⟨found, hsublist, hfound.imp fun _ _ hmem => hds hmem⟩

theorem FoundFor.append (h : FoundFor req ids ds touched) : FoundFor req (ids ++ ids') ds touched := by
  obtain ⟨found, hsublist, hfound⟩ := h
  refine ⟨found, ?_, hfound⟩
  rw [List.reverse_append]
  exact hsublist.trans (List.sublist_append_right _ _)

theorem FoundFor.cons {p : Provider} {id : String} (h : FoundFor req ids ds touched)
    (hp : ⟨.providerGet req.workloadId id, .ok (some p)⟩ ∈ ds) :
    FoundFor req (ids ++ [id]) ds (p :: touched) := by
  obtain ⟨found, hsublist, hfound⟩ := h
  refine ⟨id :: found, ?_, .cons hp hfound⟩
  rw [List.reverse_append]
  exact hsublist.cons_cons id

/-- A registry that is keyed by component ids finds different providers for different components. -/
theorem FoundFor.nodup {idOf : Provider → String} (h : FoundFor req ids ds touched)
    (hkeyed : ∀ id p, ⟨.providerGet req.workloadId id, .ok (some p)⟩ ∈ ds → idOf p = id)
    (hnodup : ids.Nodup) : touched.Nodup := by
  obtain ⟨found, hsublist, hfound⟩ := h
  have hids : touched.map idOf = found := by
    clear hsublist
    induction hfound with
    | nil => rfl
    | cons hp _ ih => rw [List.map_cons, hkeyed _ _ hp, ih]
  have hfoundNodup : found.Nodup := hsublist.nodup (List.nodup_reverse.mpr hnodup)
  exact List.Nodup.of_map idOf (hids ▸ hfoundNodup)

end Found

section Settling

theorem settled_error {op : Op} {e : FabricError} {result : FabricResult NodeRestoreResult}
    (hop : op.InMemory) : Settled req ids (⟨op, .error e⟩ :: ds) result := by
  intro hmemory
  obtain ⟨a, ha⟩ := hmemory _ (.head _) hop
  cases ha

theorem touches_cons {op : Op} {reply : FabricResult op.Reply} :
    touches (⟨op, reply⟩ :: ds) = op.touches ++ touches ds := List.flatMap_cons

/-- Operations that touch no provider leave the touches as they are. -/
theorem obeys_untouching {α : Type} {p : Work α} (huses : Uses (fun op : Op => op.touches = []) p) :
    Obeys (fun _ _ => True) (fun ds' _ => ds <:+ ds' ∧ touches ds' = touches ds) ds p := by
  refine Obeys.of_uses huses (fun ds' op hop h => ⟨trivial, fun reply => ?_⟩)
    ⟨List.suffix_refl ds, rfl⟩
  refine ⟨h.1.trans (List.suffix_cons _ _), ?_⟩
  rw [touches_cons, hop, List.nil_append, h.2]

theorem touches_of_reads {op : Op} (h : op.Reads) : op.touches = [] := by
  cases op with
  | restore | cleanupRestore => exact h.elim
  | _ => rfl

theorem Restoring.reads (h : Restoring req ids ds touched)
    (hds : ds <:+ ds' ∧ touches ds' = touches ds) : Restoring req ids ds' touched :=
  ⟨h.found.mono hds.1.subset, hds.2.trans h.touches_eq⟩

theorem Restoring.aside (h : Restoring req ids ds touched) (op : Op) (reply : FabricResult op.Reply)
    (hop : op.touches = []) :
    Restoring req ids (⟨op, reply⟩ :: ds) touched := by
  refine h.reads ⟨List.suffix_cons _ _, ?_⟩
  rw [touches_cons, hop, List.nil_append]

/-- Cleaning up touches the providers in turn, whether they fail or not. -/
theorem obeys_cleanupRestored :
    Obeys (fun _ _ => True)
      (fun ds' _ => ds <:+ ds' ∧ touches ds' = (touched.map .cleanup).reverse ++ touches ds) ds
      (cleanupRestored touched ctx) := by
  induction touched generalizing ds with
  | nil => exact ⟨List.suffix_refl ds, rfl⟩
  | cons p touched ih =>
    refine ⟨trivial, fun reply => (ih).weaken fun ds' _ h => ⟨?_, ?_⟩⟩
    · exact (List.suffix_cons _ _).trans h.1
    · rw [h.2, touches_cons, List.map_cons, List.reverse_cons, List.append_assoc]
      rfl

theorem not_succeeded_error {e : FabricError} : ¬ Succeeded (.error e) :=
  fun ⟨_, h, _⟩ => by cases h

theorem not_succeeded_refused {text : String} {restored : List String} :
    ¬ Succeeded (.ok (refused req text restored)) :=
  fun ⟨_, ha, hok⟩ => not_ok_of_refused ha hok

/-- A restore that fails cleans up. -/
theorem Restoring.obeys_fail {text : String} {restored : List String}
    (h : Restoring req ids ds touched) :
    Obeys (fun _ _ => True) (Settled req (ids ++ ids')) ds (do
      cleanupRestored touched ctx
      pure (refused req text restored)) := by
  rw [obeys_bind]
  refine obeys_cleanupRestored.weaken fun ds' result hds => ?_
  have hsettled {outcome : FabricResult NodeRestoreResult} (hfailed : ¬ Succeeded outcome) :
      Settled req (ids ++ ids') ds' outcome := by
    intro _
    refine ⟨touched, (h.found.mono hds.1.subset).append, .inr ⟨hfailed, ?_⟩⟩
    rw [hds.2, h.touches_eq]
  cases result with
  | ok _ => exact hsettled not_succeeded_refused
  | error e => exact hsettled not_succeeded_error

/-- The components that are left are restored, or everything is undone. -/
theorem obeys_restoreComponents_settled {components : List ComponentEntry} {restored : List String}
    (h : Restoring req ids ds touched) :
    Obeys (fun _ _ => True) (Settled req (ids ++ components.map (·.componentId))) ds
      (restoreComponents files req ctx components restored touched) := by
  induction components generalizing ds ids touched restored with
  | nil =>
    refine ⟨trivial, fun reply => ?_⟩
    cases reply with
    | error e => exact settled_error trivial
    | ok _ =>
      intro _
      have hdone := h.aside (.insertPending req.attemptId
        ⟨req.workloadId, req.checkpointId, restored⟩) (.ok ()) rfl
      exact ⟨touched, hdone.found.append, .inl ⟨⟨_, rfl, rfl⟩, hdone.touches_eq⟩⟩
  | cons c components ih =>
    have hids : ids ++ (c :: components).map (·.componentId) =
        (ids ++ [c.componentId]) ++ components.map (·.componentId) := by
      rw [List.map_cons, List.append_assoc, List.singleton_append]
    have hskip {ds : List DiskDeed} (h : Restoring req ids ds touched) :
        Restoring req (ids ++ [c.componentId]) ds touched :=
      ⟨h.found.append, h.touches_eq⟩
    refine ⟨trivial, fun reply => ?_⟩
    cases reply with
    | error e => exact settled_error trivial
    | ok found =>
      have h₁ := h.aside (.providerGet req.workloadId c.componentId) (.ok found) rfl
      cases found with
      | none =>
        refine obeys_ite (fun _ => h₁.obeys_fail) fun _ => ?_
        rw [hids]
        exact ih (hskip h₁)
      | some provider =>
        refine Obeys.attempt_bind (obeys_untouching
          (uses_readComponentPayload.mono fun _ => touches_of_reads)) fun ds₂ result hds₂ => ?_
        have h₂ := h₁.reads hds₂
        cases result with
        | error e => exact h₂.obeys_fail
        | ok payload =>
          refine obeys_call_attempt_bind trivial fun applied => ?_
          -- From here on the provider is one of those to clean up.
          have h₃ : Restoring req (ids ++ [c.componentId])
              (⟨.restore provider ctx payload, applied⟩ :: ds₂) (provider :: touched) := by
            refine ⟨(h₂.found.cons (hds₂.1.subset (.head _))).mono (List.subset_cons_self _ _), ?_⟩
            rw [touches_cons, h₂.touches_eq]
            rfl
          cases applied with
          | error e =>
            rw [hids]
            exact h₃.obeys_fail
          | ok _ =>
            refine obeys_call_attempt_bind trivial fun verified => ?_
            have h₄ := h₃.aside (.verifyRestore provider ctx) verified rfl
            rw [hids]
            cases verified with
            | error e => exact h₄.obeys_fail
            | ok _ => exact ih h₄

/-- The components are those of a manifest that was read under the anchor, or there are none. -/
def SettledRestore (files : FileCodecs) (req : NodeRestoreRequest) (ds : List DiskDeed)
    (result : FabricResult NodeRestoreResult) : Prop :=
  ∃ ids, Settled req ids ds result ∧
    (ids = [] ∨ ∃ m, AnchorRead files req ds m ∧ ids = m.components.map (·.componentId))

/-- A restore that fails before it has touched a provider. -/
theorem settledRestore_of_untouched {result : FabricResult NodeRestoreResult}
    (htouches : touches ds = []) (hfailed : ¬ Succeeded result) :
    SettledRestore files req ds result :=
  ⟨[], fun _ => ⟨[], ⟨[], List.nil_sublist _, .nil⟩, .inr ⟨hfailed, htouches⟩⟩, .inl rfl⟩

theorem obeys_doRestore_settled :
    Obeys (fun _ _ => True) (SettledRestore files req) [] (doRestore files node req) := by
  refine ⟨trivial, fun fired => ?_⟩
  cases fired with
  | error e => exact settledRestore_of_untouched rfl not_succeeded_error
  | ok _ =>
    refine obeys_call_attempt_bind trivial fun shown => ?_
    cases shown with
    | error e => exact settledRestore_of_untouched rfl not_succeeded_refused
    | ok doc =>
      refine obeys_call_attempt_bind trivial fun sidecar => ?_
      refine obeys_ite (fun _ => settledRestore_of_untouched rfl not_succeeded_refused)
        fun hanchor => ?_
      obtain ⟨hdigest, -⟩ := not_or.mp hanchor
      cases hparse : parse files doc with
      | error e => exact settledRestore_of_untouched rfl not_succeeded_error
      | ok m =>
        refine obeys_ite (fun _ => settledRestore_of_untouched rfl not_succeeded_refused)
          fun _ => ?_
        rw [obeys_bind]
        refine ((obeys_untouching (uses_verifyComponents.mono fun _ => touches_of_reads)).and_returns
          returns_verifyComponents).weaken fun ds₁ result h => ?_
        obtain ⟨hds, hreport⟩ := h
        cases result with
        | error e => exact settledRestore_of_untouched hds.2 not_succeeded_error
        | ok failure =>
          cases failure with
          | some report =>
            obtain ⟨text, restored, rfl⟩ := hreport _ rfl report rfl
            exact settledRestore_of_untouched hds.2 not_succeeded_refused
          | none =>
            have hread : AnchorRead files req ds₁ m :=
              ⟨_, doc, hds.1.subset (.tail _ (.head _)), not_not.mp hdigest, hparse⟩
            have hstart : Restoring req [] ds₁ [] := ⟨⟨[], List.nil_sublist _, .nil⟩, hds.2⟩
            refine (obeys_restoreComponents_settled hstart).extends.weaken fun ds₂ result h => ?_
            exact ⟨_, h.2, .inr ⟨m, hread.mono h.1, rfl⟩⟩

end Settling

/-- Let the registry be keyed by component ids, and the manifests that the disk shows under the anchor
name no component twice. Whatever the disk and the providers answer, a restore that fails has asked
every provider that it has asked to restore to clean up, once and in reverse order, and no other
one. A restore that succeeds has restored and verified every required component, and has asked none
to clean up. -/
theorem restore_all_or_nothing {idOf : Provider → String} {result : FabricResult NodeRestoreResult}
    (hkeyed : ∀ id p, ⟨.providerGet req.workloadId id, .ok (some p)⟩ ∈ ds → idOf p = id)
    (hdistinct : ∀ m, AnchorRead files req ds m → (m.components.map (·.componentId)).Nodup)
    (hmemory : MemoryAnswers ds) (h : Follows (doRestore files node req) ds (.done result)) :
    (¬ Succeeded result → ∃ invoked : List Provider, invoked.Nodup ∧
      touches ds = (invoked.map .cleanup).reverse ++ invoked.map .restore) ∧
    (Succeeded result → (∀ p, .cleanup p ∉ touches ds) ∧
      ∃ m, AnchorRead files req ds m ∧
        ∀ e ∈ m.components, e.required = true → Applied req e.componentId ds) := by
  obtain ⟨ids, hsettled, hids⟩ := obeys_doRestore_settled.of_follows h
  have hnodup : ids.Nodup := by
    rcases hids with rfl | ⟨m, hread, rfl⟩
    · exact List.nodup_nil
    · exact hdistinct m hread
  obtain ⟨invoked, hfound, hcase⟩ := hsettled hmemory
  constructor
  · intro hfailed
    rcases hcase with ⟨hok, -⟩ | ⟨-, htouches⟩
    · exact absurd hok hfailed
    · exact ⟨invoked, hfound.nodup hkeyed hnodup, htouches⟩
  · intro hsucceeded
    rcases hcase with ⟨-, htouches⟩ | ⟨hfailed, -⟩
    · refine ⟨fun p hp => ?_, ?_⟩
      · rw [htouches] at hp
        simp at hp
      · obtain ⟨a, rfl, hok⟩ := hsucceeded
        exact obeys_doRestore_applied.of_follows h a rfl hok
    · exact absurd hsucceeded hfailed

end Restores

/-! ### Two providers

The second one does not verify what it has restored. -/

namespace Demo

def database : ComponentEntry :=
  { entryOf (utf8 "hello") "2cf24dba5fb0a30e26e83b2ac5b9e29e1b161e5c1fa7425e73043362938b9824" with
    componentId := "db"
    storageRepresentation :=
      ⟨"none", 5, 5, "2cf24dba5fb0a30e26e83b2ac5b9e29e1b161e5c1fa7425e73043362938b9824",
        "components/db"⟩ }

def pairRoot : String := "ade4aa2ed45f85210bd0551fc81cbc47548f8de1169502cb5b764c056b6e7d3e"

def pair : Manifest := manifestOf [entry, database] pairRoot

/-- The file of the manifest. -/
def pairDocument : Bytes := bytesOf pair

def pairDigest : String := "cd6bc3bef6daa6b8ee1e51daaa628d8c9e36b629b7476ee0f029fc359d03a2fe"

def pairHashes : List (Bytes × String) :=
  [(payload, entry.contentHash), (utf8 "hello", database.contentHash), (hashed pair, pairRoot),
    (pairDocument, pairDigest)]

def pairFiles : FileCodecs := library [pair] pairHashes

def pairRequest : NodeRestoreRequest := { request with expectedManifestDigest := pairDigest }

/-- Component `app` has provider 1 and component `db` has provider 2, which fails. -/
def unverified : (op : Op) → FabricResult op.Reply
  | .read path =>
    .ok (if path = node.commitDir 2 ++ "/manifest" then pairDocument
      else if path = node.commitDir 2 ++ "/components/db" then utf8 "hello" else payload)
  | .readText _ => .ok (pairDigest ++ "\n")
  | .metadataLen path => .ok (if path = node.commitDir 2 ++ "/components/db" then 5 else 2)
  | .providerGet _ id => .ok (some (if id = "app" then 1 else 2))
  | .verifyRestore p _ =>
    if p = 2 then .error (.restoreFailure "not what was captured") else .ok ()
  | op => answer op

theorem sha256Hex_pairDocument : pairFiles.sha256Hex pairDocument = pairDigest := by
  rw [pairFiles, sha256Hex_library, pairHashes, sha256_of_head? (by decide),
    sha256_of_head? (by decide), sha256_of_head? (by decide), sha256_self]

theorem parse_pairDocument : parse pairFiles pairDocument = .ok pair := by
  refine parse_bytesOf (by simp) rfl ?_
  rw [pairHashes, sha256_of_head? (by decide), sha256_of_head? (by decide), sha256_self]
  rfl

theorem finds_unverified : Finds pairFiles pairRequest pairDocument pair unverified where
  fire := rfl
  manifest := congrArg Except.ok (if_pos rfl)
  digest := rfl
  trimmed := by decide +kernel
  anchored := sha256Hex_pairDocument
  parsed := parse_pairDocument
  identity := ⟨rfl, rfl⟩

/-- The deeds of the restore, and its result. -/
def undone : List DiskDeed × Work NodeRestoreResult :=
  Program.advance unverified 30 [] (doRestore pairFiles node pairRequest)

theorem undone_eq : undone = Program.advance unverified 27 (opening pairRequest pairDocument)
    (applied pairFiles node pairRequest pair) :=
  advance_doRestore finds_unverified 27

/-- The components of providers 1 and 2. -/
def componentOf (p : Provider) : String := if p = 1 then "app" else "db"

end Demo

/-- The provider and the component of a lookup. -/
def lookedUp : DiskDeed → Option (String × Provider)
  | ⟨.providerGet _ id, .ok (some p)⟩ => some (id, p)
  | _ => none

/-- The two providers that were asked to restore are asked to clean up, the last one first. -/
theorem restore_all_or_nothing_undone :
    ∃ invoked : List Provider, invoked.Nodup ∧
      touches Demo.undone.1 = (invoked.map .cleanup).reverse ++ invoked.map .restore ∧
      touches Demo.undone.1 = [.cleanup 1, .cleanup 2, .restore 2, .restore 1] := by
  have hdone : Demo.undone.2.result?.map (fun result => result.toOption.map (·.ok)) =
      some (some false) := by
    rw [Demo.undone_eq]
    decide +kernel
  have hshown : touches Demo.undone.1 = [.cleanup 1, .cleanup 2, .restore 2, .restore 1] := by
    rw [Demo.undone_eq]
    decide +kernel
  obtain ⟨result, hresult, hok⟩ := Option.map_eq_some_iff.mp hdone
  have hfollows : Follows (doRestore Demo.pairFiles Demo.node Demo.pairRequest) Demo.undone.1
      (.done result) := by
    rw [← Program.eq_done_of_result? hresult]
    exact follows_advance 30 .start
  have hfailed : ¬ Succeeded result := by
    rintro ⟨a, rfl, ha⟩
    rw [show a.ok = false from Option.some.inj hok] at ha
    cases ha
  have hkeyed : ∀ id p, (⟨.providerGet Demo.pairRequest.workloadId id, .ok (some p)⟩ : DiskDeed) ∈
      Demo.undone.1 → Demo.componentOf p = id := by
    have hall : ∀ d ∈ Demo.undone.1, ∀ x ∈ lookedUp d, Demo.componentOf x.2 = x.1 := by
      rw [Demo.undone_eq]
      decide +kernel
    exact fun id p hmem => hall _ hmem (id, p) rfl
  have hmemory : MemoryAnswers Demo.undone.1 := by
    intro d hd hop
    rw [reply_of_mem_advance 30 (fun _ h => absurd h List.not_mem_nil) d hd]
    obtain ⟨op, reply⟩ := d
    cases op with
    | providerGet | insertPending => exact ⟨_, rfl⟩
    | _ => exact hop.elim
  have hdistinct : ∀ m, AnchorRead Demo.pairFiles Demo.pairRequest Demo.undone.1 m →
      (m.components.map (·.componentId)).Nodup := by
    rintro m ⟨_, doc, -, -, hparse⟩
    obtain rfl := List.mem_singleton.mp (Demo.mem_of_parse hparse)
    decide
  obtain ⟨invoked, hnodup, htouches⟩ :=
    (restore_all_or_nothing hkeyed hdistinct hmemory hfollows).1 hfailed
  exact ⟨invoked, hnodup, htouches, hshown⟩

end CheckpointFabric.Replica
