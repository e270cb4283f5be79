import CheckpointFabric.Properties.Replication

/-!
# Serving the chunks of a component

The peer of a replication answers each request for a component with the bytes that one read of its
file returns, and says whether the file ends there. A read may return fewer bytes than there are.

The two sides were written separately. Here the loop that fetches is run against the code that
serves, with a file that stays as it is: the copy is exact, whatever each read returns.

## Main definitions

* `serveComponent` — how the peer answers
* `Serves` — the answers when the peer has the file
* `HonestStep` — nothing fails, and the chunks come from such a peer

## Main results

* `serves_iff` — what is in a chunk
* `transfer_exact` — the fetch loop ends, and the copy is exact
-/

set_option autoImplicit false

namespace CheckpointFabric.Staging

open Concurrency Replica

structure FetchComponentRequest where
  checkpointId : Id
  componentId : String
  offset : ℕ
  fetchToken : FenceToken

/-- An operation of a node that serves a component. -/
inductive ServeOp
  | checkToken (checkpointId : Id) (fetchToken : FenceToken)
  | isFile (path : String)
  | openFile (path : String)
  | seek (path : String) (offset : ℕ)
  /-- Read from where the file was sought, into a buffer of this size. -/
  | readAt (path : String) (offset size : ℕ)
  | metadataLen (path : String)

@[reducible] def ServeOp.Reply : ServeOp → Type
  | checkToken .. | openFile _ | seek .. => Unit
  | isFile _ => Bool
  | readAt .. => Bytes
  | metadataLen _ => ℕ

abbrev serveInterface : Interface := ⟨ServeOp, ServeOp.Reply⟩

abbrev ServeWork := Program serveInterface FabricError

namespace ServeWork

abbrev perform (op : ServeOp) : ServeWork op.Reply := Program.call (I := serveInterface) op

end ServeWork

/-- The size of the buffer that a chunk is read into. -/
def chunkSize : ℕ := 2 ^ 20

/-- Answer a request for a part of a component. -/
def serveComponent (node : NodeState) (req : FetchComponentRequest) :
    ServeWork FetchChunkResponse := do
  ServeWork.perform (.checkToken req.checkpointId req.fetchToken)
  let path ← Program.ofExcept (safeJoin (node.commitDir req.checkpointId)
    (payloadPath req.componentId))
  let isFile ← (ServeWork.perform (.isFile path)).andThen fun
    | .ok answer => .done (.ok answer)
    | .error _ => .done (.ok false)
  if ¬ isFile then
    pure { ok := false, error := some s!"component '{req.componentId}' not found"
           offset := req.offset, bytes := [], last := true }
  else
    ServeWork.perform (.openFile path)
    ServeWork.perform (.seek path req.offset)
    let buf ← ServeWork.perform (.readAt path req.offset chunkSize)
    let total ← ServeWork.perform (.metadataLen path)
    -- The sum saturates in the source, where no file is long enough to tell the difference.
    pure { ok := true, error := none, offset := req.offset, bytes := buf
           last := total ≤ req.offset + buf.length }

section Names

/-- The path of a payload does not lead out of its directory. -/
theorem safeJoin_payloadPath (base name : String) :
    safeJoin base (payloadPath name) = .ok s!"{base}/{payloadPath name}" := by
  have hpath : (payloadPath name).toList =
      "components".toList ++ '/' :: (Capture.sanitizeSegment name).toList := by
    simp [payloadPath, toString]
  have hsplit : (payloadPath name).toList.splitOn '/' =
      ["components".toList, (Capture.sanitizeSegment name).toList] := by
    rw [hpath, List.splitOn_append_cons_self,
      List.splitOn_eq_singleton (Capture.slash_notMem_sanitizeSegment name)]
    rfl
  have hinside : ¬ ((payloadPath name).toList.head? = some '/' ∨
      ['.', '.'] ∈ (payloadPath name).toList.splitOn '/') := by
    rintro (hhead | hparent)
    · rw [hpath] at hhead
      simp at hhead
    · rw [hsplit] at hparent
      rcases List.mem_cons.mp hparent with h | h
      · simp at h
      · exact (Capture.sanitizeSegment_ne name).2.2
          (String.toList_inj.1 (List.mem_singleton.mp h).symm)
  rw [safeJoin, if_neg hinside]

end Names

section Honest

/-- What a read may return of the bytes that are left in a file: as many as it likes, but something
if there is something. -/
structure ShortRead (size left n : ℕ) : Prop where
  fits : n ≤ size
  bounded : n ≤ left
  progress : 0 < left → 0 < n

/-- How the operations are answered on a node that accepts the token and whose files stay as they
are. -/
def ServeStep (disk : Tree) :
    (op : ServeOp) → Unit → FabricResult op.Reply → Unit → Prop
  | .checkToken .., _, reply, _ => reply = .ok ()
  | .isFile path, _, reply, _ => reply = .ok (disk path).isSome
  | .openFile path, _, reply, _ | .seek path _, _, reply, _ =>
    (disk path).isSome ∧ reply = .ok ()
  | .readAt path offset size, _, reply, _ => ∃ data n, disk path = some data ∧
      ShortRead size (data.length - offset) n ∧ reply = .ok ((data.drop offset).take n)
  | .metadataLen path, _, reply, _ => ∃ data, disk path = some data ∧ reply = .ok data.length

/-- The node can answer the request in this way. -/
def Serves (disk : Tree) (peer : NodeState) (req : FetchComponentRequest)
    (result : FabricResult FetchChunkResponse) : Prop :=
  Runs (ServeStep disk) (serveComponent peer req) () result ()

/-- Where a node has the payload of a component. -/
def storedPath (peer : NodeState) (checkpointId : Id) (componentId : String) : String :=
  s!"{peer.commitDir checkpointId}/{payloadPath componentId}"

variable {disk : Tree} {data : Bytes} {peer : NodeState}

/-- The chunk that a read of `n` bytes makes. -/
def chunkOf (data : Bytes) (offset n : ℕ) : FetchChunkResponse where
  ok := true
  error := none
  offset := offset
  bytes := (data.drop offset).take n
  last := data.length ≤ offset + n

theorem length_chunkOf {offset n : ℕ} (h : n ≤ data.length - offset) :
    (chunkOf data offset n).bytes.length = n := by
  rw [chunkOf, List.length_take, List.length_drop]
  omega

theorem chunkOf_eq {offset n : ℕ} (h : n ≤ data.length - offset) :
    chunkOf data offset n =
      { ok := true, error := none, offset, bytes := (data.drop offset).take n
        last := data.length ≤ offset + ((data.drop offset).take n).length } := by
  rw [show ((data.drop offset).take n).length = n from length_chunkOf h]
  rfl

/-- The node itself does not change. -/
theorem serves_perform {α : Type} {op : serveInterface.Op}
    {rest : FabricResult (serveInterface.Reply op) → ServeWork α}
    {reply : FabricResult (serveInterface.Reply op)} {result : FabricResult α}
    (hstep : ServeStep disk op () reply ())
    (h : Runs (ServeStep disk) (rest reply) () result ()) :
    Runs (ServeStep disk) (.perform op rest) () result () :=
  .perform hstep h

section Served

variable {req : FetchComponentRequest}
  (hdata : disk (storedPath peer req.checkpointId req.componentId) = some data)

include hdata

theorem ends_serveComponent :
    Ends (ServeStep disk) (fun result _ => ∃ n,
      ShortRead chunkSize (data.length - req.offset) n ∧
        result = .ok (chunkOf data req.offset n)) (serveComponent peer req) () := by
  unfold serveComponent
  rw [safeJoin_payloadPath]
  refine ends_call_bind (fun _ _ _ => ?_) fun e _ hstep => by cases hstep
  intro reply _ hfile
  have hpresent : reply = .ok true := by
    rw [show reply = _ from hfile]
    exact congrArg Except.ok (Option.isSome_iff_exists.mpr ⟨data, hdata⟩)
  rw [hpresent]
  refine ends_call_bind (fun _ _ _ => ?_) fun e _ hstep => by cases hstep.2
  refine ends_call_bind (fun _ _ _ => ?_) fun e _ hstep => by cases hstep.2
  refine ends_call_bind (fun buf _ hread => ?_) fun e _ hread => ?_
  · obtain ⟨data', n, hdata', hn, hbuf⟩ := hread
    obtain rfl := Option.some.inj (hdata.symm.trans hdata')
    obtain rfl := Except.ok.inj hbuf
    refine ends_call_bind (fun total _ hlen => ?_) fun e _ hlen => ?_
    · obtain ⟨data', hdata', htotal⟩ := hlen
      obtain rfl := Option.some.inj (hdata.symm.trans hdata')
      obtain rfl := Except.ok.inj htotal
      exact ⟨n, hn, congrArg Except.ok (chunkOf_eq hn.bounded).symm⟩
    · obtain ⟨_, -, herror⟩ := hlen
      cases herror
  · obtain ⟨_, n, -, -, herror⟩ := hread
    cases herror

/-- A chunk is what one read has returned, and it is the last one if the file ends there. -/
theorem serves_iff {result : FabricResult FetchChunkResponse} :
    Serves disk peer req result ↔ ∃ n, ShortRead chunkSize (data.length - req.offset) n ∧
      result = .ok (chunkOf data req.offset n) := by
  have hpresent : (disk (storedPath peer req.checkpointId req.componentId)).isSome = true :=
    Option.isSome_iff_exists.mpr ⟨data, hdata⟩
  constructor
  · exact ends_iff.mp (ends_serveComponent hdata) result ()
  · rintro ⟨n, hn, rfl⟩
    unfold Serves serveComponent
    rw [safeJoin_payloadPath, chunkOf_eq hn.bounded]
    refine serves_perform (show _ = Except.ok () from rfl) ?_
    refine serves_perform (show Except.ok true = _ from congrArg Except.ok hpresent.symm) ?_
    refine serves_perform (show _ ∧ _ = Except.ok () from ⟨hpresent, rfl⟩) ?_
    refine serves_perform (show _ ∧ _ = Except.ok () from ⟨hpresent, rfl⟩) ?_
    refine serves_perform ⟨data, n, hdata, hn, rfl⟩ ?_
    refine serves_perform ⟨data, hdata, rfl⟩ ?_
    exact .done

end Served

/-- What a fetch meets: its own disk never fails, and every chunk is served by the peer. -/
def Honest (disk : Tree) (peer : NodeState) : (op : Op) → FabricResult op.Reply → Prop
  | .fetchComponent checkpointId componentId offset fetchToken, reply =>
    Serves disk peer ⟨checkpointId, componentId, offset, fetchToken⟩ reply
  | _, reply => ∃ a, reply = .ok a

def HonestStep (spec : Provider → ProviderSpec) (disk : Tree) (peer : NodeState) (op : Op)
    (s : Site) (reply : FabricResult op.Reply) (s' : Site) : Prop :=
  Step spec op s reply s' ∧ Honest disk peer op reply

/-- The part of the loop over the components that fetches one of them. -/
def fetchFile (req : NodeReplicateRequest) (c : ComponentEntry) :
    Work (Except NodeReplicateResult ℕ) := do
  perform (.createFile c.storageRepresentation.relativePath)
  fetchChunks req c 0

variable {spec : Provider → ProviderSpec} {req : NodeReplicateRequest} {c : ComponentEntry}
  {s : Site} {tree : Tree}

/-- An honest chunk is the next one. -/
theorem chunkError_chunkOf {offset n : ℕ} (hsize : data.length ≤ c.storageRepresentation.storedSize)
    (hoffset : offset ≤ data.length) (h : ShortRead chunkSize (data.length - offset) n) :
    chunkError c offset (chunkOf data offset n) = none := by
  have hlength := length_chunkOf h.bounded
  have hprogress : ¬ (((chunkOf data offset n).bytes = [] ∧ ¬ (chunkOf data offset n).last) ∨
      c.storageRepresentation.storedSize < offset + (chunkOf data offset n).bytes.length) := by
    rintro (⟨hempty, hlast⟩ | hexceeds)
    · -- Nothing was read, so nothing is left.
      rw [hempty] at hlength
      have hend : data.length ≤ offset + n := by
        have hleft := h.progress
        simp only [List.length_nil] at hlength
        omega
      exact hlast (decide_eq_true hend)
    · rw [hlength] at hexceeds
      have hbounded := h.bounded
      omega
  have hok : (chunkOf data offset n).ok = true := rfl
  have hplace : (chunkOf data offset n).offset = offset := rfl
  rw [chunkError, if_neg (not_not_intro hok), if_neg (not_not_intro hplace), if_neg hprogress]

section Copy

variable (hdata : disk (storedPath peer req.checkpointId c.componentId) = some data)
  (hsize : data.length ≤ c.storageRepresentation.storedSize)

include hdata hsize

/-- The loop continues a copy of the first `offset` bytes. -/
theorem completes_fetchChunks (offset : ℕ) (hoffset : offset ≤ data.length)
    (hs : s.staging = some tree)
    (hfile : tree c.storageRepresentation.relativePath = some (data.take offset)) :
    Completes (HonestStep spec disk peer) (fun result s' => result = .ok (.ok data.length) ∧
      s'.staging = some (tree.write c.storageRepresentation.relativePath data))
      (fetchChunks req c offset) s := by
  induction offset using fetchChunks.induct req c generalizing s tree with
  | case1 offset ih =>
    -- An honest peer always has an answer: the longest chunk that is allowed.
    have hread : ShortRead chunkSize (data.length - offset)
        (min chunkSize (data.length - offset)) := by
      refine ⟨Nat.min_le_left _ _, Nat.min_le_right _ _, fun hleft => ?_⟩
      have hsize : 0 < chunkSize := by decide
      omega
    have hserves (result : FabricResult FetchChunkResponse) :
        Serves disk peer ⟨req.checkpointId, c.componentId, offset, req.fetchToken⟩ result ↔
          ∃ n, ShortRead chunkSize (data.length - offset) n ∧
            result = .ok (chunkOf data offset n) :=
      @serves_iff disk data peer ⟨req.checkpointId, c.componentId, offset, req.fetchToken⟩ hdata _
    rw [fetchChunks]
    refine completes_call_bind ⟨rfl, (hserves _).mpr ⟨_, hread, rfl⟩⟩ ?_ ?_
    · intro chunk s₁ hstep
      obtain ⟨hfetched, hserved⟩ := hstep
      obtain ⟨n, hn, hchunk⟩ := (hserves _).mp hserved
      obtain rfl := Except.ok.inj hchunk
      obtain rfl := hfetched
      have haccepted := chunkError_chunkOf hsize hoffset hn
      have hbounded := hn.bounded
      split
      · rename_i error herror
        rw [haccepted] at herror
        cases herror
      · refine completes_call_bind ⟨⟨tree, hs, rfl⟩, ⟨(), rfl⟩⟩ ?_ ?_
        · intro _ s₂ hstep
          obtain ⟨⟨tree', htree', rfl⟩, -⟩ := hstep
          obtain rfl := Option.some.inj (hs.symm.trans htree')
          -- Appending the chunk makes the file the first `offset + n` bytes.
          have happended : (tree c.storageRepresentation.relativePath).getD [] ++
              (chunkOf data offset n).bytes = data.take (offset + n) := by
            rw [hfile, Option.getD_some, List.take_add]
            rfl
          rw [happended]
          split
          · rename_i hlast
            have hend : data.length ≤ offset + n := of_decide_eq_true hlast
            refine ⟨?_, ?_⟩
            · rw [length_chunkOf hbounded, show offset + n = data.length by omega]
            · rw [List.take_of_length_le hend]
              rfl
          · rename_i hlast
            have hmore : ¬ data.length ≤ offset + n := fun h => hlast (decide_eq_true h)
            have hnext := length_chunkOf hbounded
            have htaken : (tree.write c.storageRepresentation.relativePath (data.take (offset + n)))
                c.storageRepresentation.relativePath =
                  some (data.take (offset + (chunkOf data offset n).bytes.length)) := by
              rw [Tree.write_self, hnext]
            have hcopy : tree.write c.storageRepresentation.relativePath data =
                (tree.write c.storageRepresentation.relativePath (data.take (offset + n))).write
                  c.storageRepresentation.relativePath data := Tree.write_write.symm
            rw [hcopy]
            -- The chunk was not empty, so the rest is shorter.
            exact ih _ haccepted hlast (by omega) (Site.stage_staging _ _) htaken
        -- Neither writing the chunk nor asking for it fails here.
        · rintro e s₂ ⟨-, a, ha⟩
          cases ha
    · rintro e s₁ ⟨-, hserved⟩
      obtain ⟨n, -, herror⟩ := (hserves _).mp hserved
      cases herror

/-- A component is fetched into a file of its own. -/
theorem completes_fetchFile (hs : s.staging = some tree) :
    Completes (HonestStep spec disk peer) (fun result s' => result = .ok (.ok data.length) ∧
      s'.staging = some (tree.write c.storageRepresentation.relativePath data))
      (fetchFile req c) s := by
  refine completes_call_bind ⟨⟨tree, hs, rfl⟩, ⟨(), rfl⟩⟩ ?_ ?_
  · rintro _ s₁ ⟨⟨tree', htree', rfl⟩, -⟩
    obtain rfl := Option.some.inj (hs.symm.trans htree')
    have hempty : (tree.write c.storageRepresentation.relativePath [])
        c.storageRepresentation.relativePath = some (data.take 0) := by
      rw [Tree.write_self, List.take_zero]
    have hcopy : tree.write c.storageRepresentation.relativePath data =
        (tree.write c.storageRepresentation.relativePath []).write
          c.storageRepresentation.relativePath data := Tree.write_write.symm
    rw [hcopy]
    exact completes_fetchChunks hdata hsize 0 (Nat.zero_le _) (Site.stage_staging _ _) hempty
  · rintro e s₁ ⟨-, a, ha⟩
    cases ha

end Copy

end Honest

/-- Whatever each read returns, the loop ends, and the file it leaves is the one that is served. -/
theorem transfer_exact (spec : Provider → ProviderSpec) (disk : Tree) (peer : NodeState)
    (req : NodeReplicateRequest) (c : ComponentEntry) (data : Bytes)
    (hdata : disk (storedPath peer req.checkpointId c.componentId) = some data)
    (hsize : data.length ≤ c.storageRepresentation.storedSize)
    (s : Site) (tree : Tree) (hs : s.staging = some tree) :
    (∃ result s', Runs (HonestStep spec disk peer) (fetchFile req c) s result s') ∧
      ∀ result s', Runs (HonestStep spec disk peer) (fetchFile req c) s result s' →
        result = .ok (.ok data.length) ∧
          s'.staging = some (tree.write c.storageRepresentation.relativePath data) := by
  have hcompletes := @completes_fetchFile _ _ _ spec _ _ _ _ hdata hsize hs
  exact ⟨hcompletes.exists_runs, ends_iff.mp hcompletes.ends⟩

/-- The files of a node that serves one component. -/
def Demo.served : Tree :=
  Tree.write (fun _ => none) (storedPath Replica.Demo.node 2 "app") Replica.Demo.payload

theorem transfer_exact_payload :
    (∃ result s', Runs (HonestStep Demo.peer.spec Demo.served Replica.Demo.node)
      (fetchFile Demo.replicate Replica.Demo.entry) (Site.fresh.stage fun _ => none) result s') ∧
    ∀ result s', Runs (HonestStep Demo.peer.spec Demo.served Replica.Demo.node)
      (fetchFile Demo.replicate Replica.Demo.entry) (Site.fresh.stage fun _ => none) result s' →
        result = .ok (.ok 2) ∧
          s'.staging = some (Tree.write (fun _ => none) "components/app" [104, 105]) :=
  transfer_exact Demo.peer.spec Demo.served Replica.Demo.node Demo.replicate Replica.Demo.entry
    Replica.Demo.payload (Tree.write_self _ _ _) (by decide) _ _ (Site.stage_staging _ _)

end CheckpointFabric.Staging
