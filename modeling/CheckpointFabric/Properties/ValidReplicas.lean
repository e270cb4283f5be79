import CheckpointFabric.Footprints.Locations
import CheckpointFabric.Properties.Evidence
import CheckpointFabric.Properties.Locations

/-!
# Valid replicas

A restore is admitted when the row of its checkpoint counts enough replicas. What the coordinator
counts of its own has been compared with the anchor: a node promoted the checkpoint, or fetched it.
What a node reports is counted as well, and nobody has compared that with anything.

## Main definitions

* `confirmed` — a node compares the manifest of a checkpoint with a digest
* `Holds` — the directory of a node has a replica that was compared
* `ReportsVerified` — nobody reports a replica that was not
* `CheckpointObject.LostBy` — a replica that was compared is gone

## Main results

* `replicas_verified` — while the nodes report only what was verified, a restore is admitted only if
  enough nodes hold a verified replica
* `unverified_admitted` — the report of one node admits a restore
-/

set_option autoImplicit false

namespace CheckpointFabric

open Concurrency Coordinator System

variable {settings : Settings}

section Evidence

/-- The checkpoint whose manifest the node has compared, and with which digest. -/
def confirmation : (request : NodeRequest) → request.Result → Option (Id × String)
  | .promote req, result => if result.ok then some (req.checkpointId, req.digest) else none
  | .replicate req, result =>
    if result.ok then some (req.checkpointId, req.expectedManifestDigest) else none
  | .verify req, result =>
    if result.ok && result.manifestDigest == some req.expectedManifestDigest then
      some (req.checkpointId, req.expectedManifestDigest)
    else none
  | _, _ => none

/-- What a node compares when it serves a message. -/
def World.confirms (codecs : Codecs) (w : World) (sent : Transit) (o : Outcome) :
    Option (NodeId × Id × String) :=
  ((w.served codecs sent o).1.toOption.bind (confirmation sent.request)).map fun what =>
    (sent.node, what)

/-- What a node compares at an event. The message may come late, and the answer may be lost. -/
def confirmed : Event (fabric settings) → Option (NodeId × Id × String)
  | .performed _ (.call node request) input before =>
    match input.delivery with
    | .answered o | .replyLost o _ =>
      before.confirms settings.codecs ⟨node, before.coordinatorEpoch, request⟩ o
    | .unsent _ | .late _ => none
  | .moved (.arrive index o) before =>
    before.inFlight[index]?.bind fun sent => before.confirms settings.codecs sent o
  | _ => none

/-- The node that had before the event what the directory of `node` has of the checkpoint after it.
A process may start on the directory of another one, and a checkpoint may be deleted. -/
def keeper (id : Id) (e : Event (fabric settings)) (past : List (Event (fabric settings)))
    (node : NodeId) : Option NodeId :=
  match e with
  | .moved (.boot started predecessor _) _ =>
    if node = started then some predecessor
    else if node = predecessor then none else some node
  | _ =>
    if id ∈ ((stateOf past).nodes node).committed ∧ id ∉ ((after e).nodes node).committed then none
    else some node

/-- The directory of the node has a replica of the checkpoint, and this was compared with the
digest. -/
def Holds (id : Id) (digest : String) : List (Event (fabric settings)) → NodeId → Prop
  | [], _ => False
  | e :: past, node => confirmed e = some (node, id, digest) ∨
    ∃ n ∈ keeper id e past node, Holds id digest past n

instance decidableHolds (id : Id) (digest : String) :
    ∀ (t : List (Event (fabric settings))) (node : NodeId), Decidable (Holds id digest t node)
  | [], _ => isFalse not_false
  | e :: past, node =>
    have := decidableHolds id digest past
    inferInstanceAs (Decidable (confirmed e = some (node, id, digest) ∨
      ∃ n ∈ keeper id e past node, Holds id digest past n))

/-- The node holds a replica that was verified against the anchor of the row. -/
def CheckpointObject.VerifiedOn (c : CheckpointObject) (t : List (Event (fabric settings)))
    (node : NodeId) : Prop :=
  ∃ digest ∈ c.manifestDigest, Holds c.checkpointId digest t node

instance (c : CheckpointObject) (t : List (Event (fabric settings))) (node : NodeId) :
    Decidable (c.VerifiedOn t node) :=
  inferInstanceAs (Decidable (∃ digest ∈ c.manifestDigest, Holds c.checkpointId digest t node))

/-- The node held a verified replica. -/
def CheckpointObject.OnceVerifiedOn (c : CheckpointObject) (t : List (Event (fabric settings)))
    (node : NodeId) : Prop :=
  ∃ t', t' <:+ t ∧ c.VerifiedOn t' node

/-- The node held a verified replica, and has it no more. -/
def CheckpointObject.LostBy (c : CheckpointObject) (t : List (Event (fabric settings)))
    (node : NodeId) : Prop :=
  c.OnceVerifiedOn t node ∧ ¬ c.VerifiedOn t node

/-- The event starts a process of a node. -/
def startsProcess : Event (fabric settings) → Bool
  | .moved (.boot _ _ _) _ => true
  | _ => false

/-- The checkpoint that a node reports, and the node. -/
def StoreOp.reports : StoreOp → Option (Id × NodeId)
  | checkpointRebindLocation id node _ => some (id, node)
  | _ => none

end Evidence

section Confirmed

variable {t t' : List (Event (fabric settings))} {tid : ℕ} {node : NodeId} {id : Id}
  {digest : String} {c : CheckpointObject}

/-- Nothing but the answer itself is parsed as a confirmation. -/
theorem ok_of_confirmation {request : NodeRequest} {reply : FabricResult request.Result}
    {result : request.Result} {what : Id × String}
    (hparsed : World.parseReply request reply = .ok result)
    (hconfirms : confirmation request result = some what) : reply = .ok result := by
  cases request with
  | allowFetch => exact absurd hconfirms (by simp [confirmation])
  | _ =>
    cases reply with
    | error e => exact absurd hparsed (by simp [World.parseReply])
    | ok r => exact hparsed

/-- A call that was answered with a confirmation is one. -/
theorem confirmed_of_reply {request : NodeRequest} {result : request.Result} {input : Input}
    {before : World} {what : Id × String}
    (hreply : (World.handle settings.codecs (.call node request) input before).1 = .ok result)
    (hconfirms : confirmation request result = some what) :
    confirmed (.performed tid (.call node request) input before : Event (fabric settings)) =
      some (node, what) := by
  cases hdelivery : input.delivery with
  | answered o =>
    simp only [World.handle, hdelivery] at hreply
    have hserved := ok_of_confirmation hreply hconfirms
    simp only [confirmed, hdelivery, World.confirms, hserved, Except.toOption, Option.bind_some,
      hconfirms, Option.map_some]
  | unsent | replyLost | late =>
    simp only [World.handle, hdelivery] at hreply
    exact absurd hreply (by simp)

/-- Just after it has answered with a confirmation, a node holds a verified replica. -/
theorem holds_of_answer {request : NodeRequest} {result : request.Result} (h : Run t)
    (hd : (⟨.call node request, .ok result⟩ : FabricDeed) ∈ deeds tid t)
    (hconfirms : confirmation request result = some (id, digest)) :
    ∃ t', t' <:+ t ∧ Holds id digest t' node := by
  obtain ⟨later, ds, hsplit⟩ := List.append_of_mem hd
  obtain ⟨input, t', hsuffix, -, hreply⟩ := exists_event_of_deed h ⟨later, hsplit.symm⟩
  exact ⟨_, hsuffix, .inl (confirmed_of_reply hreply.symm hconfirms)⟩

theorem holds_of_promoted (h : Run t) (hpromoted : Promoted (deeds tid t) node id digest) :
    ∃ t', t' <:+ t ∧ Holds id digest t' node := by
  obtain ⟨req, result, hd, hok, rfl, rfl⟩ := hpromoted
  exact holds_of_answer h hd (by simp only [confirmation, hok, if_true])

theorem holds_of_fetched (h : Run t) (hfetched : Fetched (deeds tid t) node id digest) :
    ∃ t', t' <:+ t ∧ Holds id digest t' node := by
  obtain ⟨req, result, hd, hok, rfl, rfl⟩ := hfetched
  exact holds_of_answer h hd (by simp only [confirmation, hok, if_true])

theorem CheckpointObject.OnceVerifiedOn.mono (hsuffix : t' <:+ t)
    (h : c.OnceVerifiedOn t' node) : c.OnceVerifiedOn t node := by
  obtain ⟨t₁, hsuffix₁, hverified⟩ := h
  exact ⟨t₁, hsuffix₁.trans hsuffix, hverified⟩

/-- Only the id and the anchor of a row matter. -/
theorem CheckpointObject.OnceVerifiedOn.of_eq {c' : CheckpointObject}
    (h : c.OnceVerifiedOn t node) (hid : c'.checkpointId = c.checkpointId)
    (hdigest : c'.manifestDigest = c.manifestDigest) : c'.OnceVerifiedOn t node := by
  obtain ⟨t', hsuffix, digest, hanchor, hholds⟩ := h
  exact ⟨t', hsuffix, digest, hdigest ▸ hanchor, hid ▸ hholds⟩

theorem CheckpointObject.onceVerifiedOn_of_holds (hdigest : c.manifestDigest = some digest)
    (h : ∃ t', t' <:+ t ∧ Holds c.checkpointId digest t' node) : c.OnceVerifiedOn t node := by
  obtain ⟨t', hsuffix, hholds⟩ := h
  exact ⟨t', hsuffix, digest, hdigest, hholds⟩

end Confirmed

section Anchors

variable {t t' : List (Event (fabric settings))} {e : Event (fabric settings)} {tid : ℕ} {id : Id}
  {c c' : CheckpointObject}

/-- The event writes the full image of the checkpoint. -/
def WritesImage (e : Event (fabric settings)) (past : List (Event (fabric settings))) (id : Id) :
    Prop :=
  ∃ tid c, Calls e past tid (.checkpointUpdate c) () ∧ c.checkpointId = id

/-- Once its capture has gone on to promote it, a checkpoint is not sealed again: its anchor changes
with the full image only. -/
theorem manifestDigest_step (h : Run (e :: t)) (hc : (stateOf t).checkpoint id = some c)
    (hreached : Reached captureTimetable t c.captureAttempt 1) (hupdate : ¬ WritesImage e t id)
    (hc' : (after e).checkpoint id = some c') : c'.manifestDigest = c.manifestDigest := by
  rcases checkpoint_cases h id with ⟨tid, op, reply, hop, hcalls, hstep⟩ | hsame
  · rw [hc, hc'] at hstep
    cases hstep with
    | updated hid => exact absurd ⟨tid, _, hcalls, hid⟩ hupdate
    | «sealed» =>
      obtain ⟨request, hrequest, hwriter⟩ := hcalls.writer h hop
      cases hwriter with
      | capture hasks hdoes hwrites =>
        have hcaptures := Captures.of_does hrequest hasks hdoes
        obtain ⟨tid', run', himage⟩ := described_of_run h.tail hc
        obtain ⟨-, hsame⟩ := himage.eq_of_checkpoint h.tail hcaptures
          ((World.checkpointId_of_row hc).trans hwrites)
        rw [himage.2.captureAttempt, hsame.attemptId] at hreached
        have hle : 1 ≤ 0 := capture_inTurn h.tail hdoes hcaptures rfl hreached
        exact absurd hle (by decide)
      | restore _ hwrites | recovery hwrites | plain hwrites => exact absurd hwrites not_false
    | captured _ hlinks | relinked _ _ hlinks =>
      obtain ⟨supersedes, supersededBy, rfl⟩ := hlinks
      rfl
    | _ => rfl
  · rw [hsame, hc] at hc'
    rw [Option.some.inj hc']

/-- The anchor of a checkpoint that was persisted is final. -/
theorem manifestDigest_of_persisted (h : Run t) (hsuffix : t' <:+ t)
    (hc : (stateOf t').checkpoint id = some c) (hpersisted : Persisted t' c.captureAttempt) :
    ∃ c', (stateOf t).checkpoint id = some c' ∧ c'.manifestDigest = c.manifestDigest := by
  refine suffix_induction (P := fun past : List (Event (fabric settings)) =>
    ∃ c', (stateOf past).checkpoint id = some c' ∧ c'.manifestDigest = c.manifestDigest)
    hsuffix ⟨c, hc, rfl⟩ ?_
  rintro e past hold hpast ⟨c₁, hc₁, hdigest⟩
  have hrun := h.of_suffix hpast
  obtain ⟨c₂, hc₂, hsame⟩ := sameImage_of_suffix hrun.tail hold hc
  obtain rfl := Option.some.inj (hc₂.symm.trans hc₁)
  have hpersisted₁ : Persisted past c₂.captureAttempt :=
    hsame.captureAttempt ▸ hpersisted.mono hold
  obtain ⟨c₃, hc₃, -⟩ := sameImage_of_suffix hrun (List.suffix_cons e past) hc₁
  have hwrites : ¬ WritesImage e past id := by
    rintro ⟨tid, c₄, hcalls, hid⟩
    obtain ⟨request, hrequest, hwriter⟩ := hcalls.writer hrun not_false
    exact (late_of_writer hrun.tail hrequest hwriter hc₁ hpersisted₁).1 c₄ hid rfl
  have hreached := hpersisted₁.earlier (Nat.le_succ 1)
  exact ⟨c₃, hc₃, (manifestDigest_step hrun hc₁ hreached hwrites hc₃).trans hdigest⟩

/-- A row that a thread has read when it was committed was persisted then, and has kept its
anchor. -/
theorem manifestDigest_of_readCommitted {ck : CheckpointObject} (h : Run t)
    (hread : ReadCommitted (deeds tid t) id ck) :
    ck.checkpointId = id ∧
      ∃ c, (stateOf t).checkpoint id = some c ∧ c.manifestDigest = ck.manifestDigest := by
  obtain ⟨older, hdeed, hcommitted⟩ := hread
  obtain ⟨e, t', hsuffix, hcalls, rfl⟩ := exists_calls_of_deed h hdeed
  have hrun := (h.of_suffix hsuffix).tail
  have hread := (Prod.mk.inj (Except.ok.inj hcalls.run)).1
  obtain ⟨c, hc, rfl⟩ := Option.map_eq_some_iff.mp hread
  have hpersisted : Persisted t' c.captureAttempt := by
    rcases hcommitted with hrestorable | ⟨attemptId, hcommit⟩
    · refine (earlyOrPersisted_of_run hrun id c hc).resolve_left fun hearly => ?_
      have hpreliminary := hearly.preliminary
      rcases LifecycleState.isRestorable_iff.mp hrestorable with hstate | hstate
      all_goals
        change c.lifecycle = _ at hstate
        rw [hstate] at hpreliminary
        exact hpreliminary
    · obtain ⟨e', t₁, hsuffix', input, rfl, -⟩ := exists_calls_of_mem hrun hcommit
      exact (persisted_of_commit hrun hsuffix' hc).1
  obtain ⟨c', hc', hdigest⟩ := manifestDigest_of_persisted h
    ((List.suffix_cons e t').trans hsuffix) hc hpersisted
  have hid : c.checkpointId = id := World.checkpointId_of_row (w := stateOf t') hc
  exact ⟨hid, c', hc', hdigest⟩

/-- A capture has written its image before the event, or writes it there. -/
theorem imaged_cases (h : Run (e :: t)) (hc' : (after e).checkpoint id = some c')
    (himaged : Imaged (e :: t) c'.captureAttempt) :
    Imaged t c'.captureAttempt ∨ WritesImage e t id := by
  obtain ⟨e₁, t₁, tid, c, run, hsuffix, hcalls, hcaptures, hkey, hpersisted, -⟩ :=
    exists_update_of_imaged h himaged
  rcases List.suffix_cons_iff.mp hsuffix with heq | hsuffix
  · obtain ⟨rfl, rfl⟩ := List.cons.inj heq
    obtain ⟨tid', run', himage⟩ := described_of_run h hc'
    obtain ⟨-, hsame⟩ := himage.1.unique h (hcaptures.mono h (List.suffix_cons _ _))
      (himage.2.captureAttempt.symm.trans hkey.symm)
    refine .inr ⟨tid, c, hcalls, ?_⟩
    rw [hpersisted.staged.describes.checkpointId, ← hsame.checkpointId,
      ← himage.2.checkpointId]
    exact World.checkpointId_of_row hc'
  · refine .inl ⟨tid, run, hcaptures.mono h.tail ((List.suffix_cons _ _).trans hsuffix), hkey, c,
      hpersisted, ?_⟩
    exact (deeds_suffix hsuffix).subset (hcalls.deeds_eq ▸ .head _)

/-- The image that was written before is in the row before. -/
theorem exists_row_of_imaged (h : Run (e :: t)) (hc' : (after e).checkpoint id = some c')
    (himaged : Imaged t c'.captureAttempt) :
    ∃ c, (stateOf t).checkpoint id = some c ∧ c'.captureAttempt = c.captureAttempt ∧
      c'.checkpointId = c.checkpointId := by
  obtain ⟨tid, run, c, hcaptures, hkey, hc, -⟩ := full_of_run h.tail himaged
  obtain ⟨tid', run', himage⟩ := described_of_run h hc'
  obtain ⟨-, hsame⟩ := himage.1.unique h (hcaptures.mono h (List.suffix_cons e t))
    (himage.2.captureAttempt.symm.trans hkey.symm)
  have hid : run.checkpointId = id := by
    rw [← hsame.checkpointId, ← himage.2.checkpointId]
    exact World.checkpointId_of_row hc'
  subst hid
  obtain ⟨c₁, hc₁, hsame₁⟩ := sameImage_of_suffix h (List.suffix_cons e t) hc
  obtain rfl := Option.some.inj (hc₁.symm.trans hc')
  exact ⟨c, hc, hsame₁.captureAttempt, hsame₁.checkpointId⟩

/-- A capture that has written its image has come to that phase. -/
theorem reached_of_imaged {key : AttemptId} (h : Run t) (himaged : Imaged t key) :
    Reached captureTimetable t key 1 := by
  obtain ⟨e, t', tid, c, run, hsuffix, hcalls, hcaptures, rfl, -⟩ :=
    exists_update_of_imaged h himaged
  exact ⟨tid, ⟨.db (.checkpointUpdate c), .ok ()⟩, deeds tid t',
    hcalls.deeds_eq ▸ deeds_suffix hsuffix, hcaptures.drawn_nonce, 1, rfl, Nat.le_refl 1⟩

end Anchors

section Locations

variable {t t' : List (Event (fabric settings))} {e : Event (fabric settings)} {tid : ℕ} {id : Id}
  {c c' : CheckpointObject} {l : DurableLocation}

theorem mem_withLocation {location : DurableLocation} {locations : List DurableLocation}
    (hl : l ∈ withLocation location locations) : l ∈ locations ∨ l = location := by
  unfold withLocation at hl
  split at hl
  · exact .inl hl
  · exact (List.mem_append.mp hl).imp id List.mem_singleton.mp

theorem mem_reboundTo {node : NodeId} {path : String} {locations : List DurableLocation}
    (hl : l ∈ reboundTo node path locations) : l ∈ locations ∨ l.node = node := by
  by_cases hnode : l.node = node
  · exact .inr hnode
  · exact .inl ((mem_reboundTo_iff hnode).mp hl).1

/-- Every node that the row of a written image lists has held a verified replica. -/
def LocationsVerified (t : List (Event (fabric settings))) : Prop :=
  ∀ id c, (stateOf t).checkpoint id = some c → Imaged t c.captureAttempt →
    ∀ l ∈ c.durableLocations, c.OnceVerifiedOn t l.node

/-- A report of a checkpoint is accepted only from a node that holds a verified replica of it. -/
def ReportsVerified (e : Event (fabric settings)) (past : List (Event (fabric settings))) : Prop :=
  ∀ tid id node dataDir c, Calls e past tid (.checkpointRebindLocation id node dataDir) () →
    (stateOf past).checkpoint id = some c → c.VerifiedOn past node

/-- The full image comes with the location of the node that has promoted it. -/
theorem verified_of_writesImage (h : Run (e :: t)) (hwrites : WritesImage e t id)
    (hc : (after e).checkpoint id = some c) (hl : l ∈ c.durableLocations) :
    c.OnceVerifiedOn (e :: t) l.node := by
  obtain ⟨tid, c₁, hcalls, rfl⟩ := hwrites
  obtain ⟨hsome, hstore⟩ := Store.checkpointUpdate_ok (StoreOp.of_map_ok hcalls.run)
  obtain ⟨old, hold⟩ := Option.isSome_iff_exists.mp hsome
  rw [World.checkpoint, hstore, Table.get_modify_self, hold, Option.map_some] at hc
  obtain rfl := Option.some.inj hc
  obtain ⟨input, rfl, -⟩ := hcalls
  obtain ⟨node, path, digest, hlocations, hdigest, hpromoted⟩ := locationPermits_of_run h
  have hnode : l.node = node := by
    have hmem : l ∈ c₁.durableLocations := hl
    rw [hlocations, List.mem_singleton] at hmem
    rw [hmem]
  rw [hnode]
  refine CheckpointObject.OnceVerifiedOn.mono (List.suffix_cons _ t) ?_
  exact CheckpointObject.onceVerifiedOn_of_holds hdigest (holds_of_promoted h.tail hpromoted)

/-- A location that is added is on a node that has fetched the checkpoint of the row. -/
theorem verified_of_add {location : DurableLocation} (h : Run (e :: t))
    (hcalls : Calls e t tid (.checkpointAddLocation id location) ())
    (hc : (stateOf t).checkpoint id = some c) : c.OnceVerifiedOn t location.node := by
  obtain ⟨input, rfl, -⟩ := hcalls
  obtain ⟨id', ck, digest, hread, hid, hdigest, hfetched⟩ := locationPermits_of_run h
  obtain ⟨hck, c₁, hc₁, hanchor⟩ := manifestDigest_of_readCommitted h.tail hread
  obtain rfl : id = id' := hid.elim (fun h => h) fun h => h.trans hck
  obtain rfl := Option.some.inj (hc₁.symm.trans hc)
  refine CheckpointObject.onceVerifiedOn_of_holds (hanchor.trans hdigest) ?_
  rw [World.checkpointId_of_row hc]
  exact holds_of_fetched h.tail hfetched

theorem locationsVerified_step (h : Run (e :: t)) (hreports : ReportsVerified e t)
    (hpast : LocationsVerified t) : LocationsVerified (e :: t) := by
  intro id c' hc' himaged l hl
  rw [stateOf_cons] at hc'
  by_cases hwrites : WritesImage e t id
  · exact verified_of_writesImage h hwrites hc' hl
  · have himaged := (imaged_cases h hc' himaged).resolve_right hwrites
    obtain ⟨c, hc, hattempt, hid⟩ := exists_row_of_imaged h hc' himaged
    rw [hattempt] at himaged
    have hdigest := manifestDigest_step h hc (reached_of_imaged h.tail himaged) hwrites hc'
    refine CheckpointObject.OnceVerifiedOn.of_eq (c := c) ?_ hid hdigest
    refine CheckpointObject.OnceVerifiedOn.mono (List.suffix_cons e t) ?_
    have hold := hpast id c hc himaged
    rcases location_cases h id with ⟨tid, op, reply, -, hcalls, hstep⟩ | hsame
    · have hkey : c'.checkpointId = id := World.checkpointId_of_row hc'
      rw [hc, hc'] at hstep
      cases hstep with
      | kept hlocations => exact hold l (hlocations ▸ hl)
      | @updated c₁ => exact absurd ⟨tid, c₁, hcalls, hkey⟩ hwrites
      | retired hlocations =>
        rw [hlocations] at hl
        exact absurd hl List.not_mem_nil
      | added =>
        rcases mem_withLocation hl with hl | rfl
        · exact hold l hl
        · exact verified_of_add h hcalls hc
      | @rebound _ node dataDir =>
        rcases mem_reboundTo hl with hl | rfl
        · exact hold l hl
        · exact ⟨t, List.suffix_refl t, hreports tid id _ dataDir c hcalls hc⟩
    · obtain rfl := Option.some.inj (hc'.symm.trans (hsame.trans hc))
      exact hold l hl

theorem locationsVerified_of_run (h : Run t)
    (hreports : EveryStep (fun e past => ReportsVerified e past) t) : LocationsVerified t := by
  induction t with
  | nil =>
    intro id c hc
    exact absurd hc (by simp [World.checkpoint, World.initial, Store.empty])
  | cons e t ih =>
    obtain ⟨hreport, hpast⟩ := everyStep_cons.mp hreports
    exact locationsVerified_step h hreport (ih h.tail hpast)

end Locations

section Admission

variable {t t' : List (Event (fabric settings))} {e : Event (fabric settings)} {tid : ℕ} {id : Id}
  {c : CheckpointObject}

/-- A restore that reads this row gets past the checks of its checkpoint. -/
def Admits (settings : Settings) (c : CheckpointObject) : Prop :=
  Restore.validateRestoreRequest (Store.readCheckpoint c) settings.policy = .ok ()

instance (c : CheckpointObject) : Decidable (Admits settings c) :=
  inferInstanceAs (Decidable (Restore.validateRestoreRequest _ _ = _))

/-- Enough nodes hold a replica that was verified against the anchor of the row. -/
def EnoughReplicas (t : List (Event (fabric settings))) (c : CheckpointObject) : Prop :=
  ∃ nodes : List NodeId, nodes.Nodup ∧ settings.policy.minValidReplicas ≤ nodes.length ∧
    ∀ node ∈ nodes, c.VerifiedOn t node

/-- In every state of a run in which the nodes report only what was verified, a restore of a
checkpoint is admitted only if enough nodes hold a verified replica, unless one of the nodes that
the row lists has lost its own since. -/
theorem replicas_verified (h : Run t)
    (hreports : EveryStep (fun e past => ReportsVerified e past) t) (hsuffix : t' <:+ t)
    (hc : (stateOf t').checkpoint id = some c) (hadmits : Admits settings c)
    (hkept : ∀ l ∈ c.durableLocations, ¬ c.LostBy t' l.node) : EnoughReplicas t' c := by
  have hrun := h.of_suffix hsuffix
  obtain ⟨-, -, hcount, -⟩ := Restore.validateRestoreRequest_eq_ok_iff.mp hadmits
  obtain ⟨hreplicas, hdistinct⟩ := accounted_of_run hrun id c hc
  have himaged : Imaged t' c.captureAttempt := by
    have hcommitted : c.lifecycle.Committed := by
      rcases Restore.lifecycle_of_validateRestoreRequest hadmits with hstate | hstate
      · exact .inl hstate
      · exact .inr (.inr (.inr hstate))
    exact imaged_of_visible hrun hc hcommitted.visible
  refine ⟨c.durableLocations.map DurableLocation.node, hdistinct, ?_, ?_⟩
  · rw [List.length_map, ← hreplicas]
    exact hcount
  · intro node hnode
    obtain ⟨l, hl, rfl⟩ := List.mem_map.mp hnode
    have honce := locationsVerified_of_run hrun (hreports.of_suffix hsuffix) id c hc himaged l hl
    by_contra hlost
    exact hkept l hl ⟨honce, hlost⟩

/-- The first node reports the checkpoint of the small fabric. -/
def Demo.confirmedReport : List (Action (fabric Demo.settings)) :=
  Demo.captured ++ Demo.alone 3 (.nodeHeartbeat ⟨"n1", "boot", 1, [], [2], []⟩)

/-- It has promoted that checkpoint, so it holds a verified replica when it reports it, and at the
end. -/
theorem replicas_verified_reported :
    ∃ c, (stateOf (exec Demo.confirmedReport).trace).checkpoint 2 = some c ∧
      Admits Demo.settings c ∧ EnoughReplicas (exec Demo.confirmedReport).trace c := by
  obtain ⟨c, hc, hadmits, hverified⟩ :
      ∃ c ∈ (stateOf (exec Demo.confirmedReport).trace).checkpoint 2,
      Admits Demo.settings c ∧
        ∀ l ∈ c.durableLocations, c.VerifiedOn (exec Demo.confirmedReport).trace l.node := by
    decide +kernel
  have hreports : EveryStep (fun e past => ∀ call ∈ callOf e, ∀ report ∈ call.2.reports,
      ∀ c ∈ (stateOf past).checkpoint report.1, c.VerifiedOn past report.2)
      (exec Demo.confirmedReport).trace := by
    decide +kernel
  refine ⟨c, hc, hadmits, replicas_verified (exec_run _) ?_ (List.suffix_refl _) hc hadmits ?_⟩
  · intro e past hsuffix tid id node dataDir row hcalls hrow
    exact hreports e past hsuffix _ hcalls.callOf_eq _ rfl row hrow
  · rintro l hl ⟨-, hlost⟩
    exact hlost (hverified l hl)

end Admission

section Unverified

variable {t : List (Event (fabric settings))} {e : Event (fabric settings)} {node n : NodeId}
  {id : Id} {digest : String}

/-- Unless a process starts, a directory stays with its node. -/
theorem keeper_eq {past : List (Event (fabric settings))} (hstarts : startsProcess e = false)
    (hkeeper : n ∈ keeper id e past node) : n = node := by
  unfold keeper at hkeeper
  split at hkeeper
  · exact absurd hstarts (by simp [startsProcess])
  · split at hkeeper
    · exact absurd hkeeper (by simp)
    · exact (Option.some.inj hkeeper).symm

/-- Where no process starts, a node that holds a verified replica has compared it itself. -/
theorem exists_confirmed_of_holds (hstarts : EveryStep (fun e _ => startsProcess e = false) t)
    (h : Holds id digest t node) :
    ∃ e past, e :: past <:+ t ∧ confirmed e = some (node, id, digest) := by
  induction t with
  | nil => exact absurd h not_false
  | cons e past ih =>
    obtain ⟨hstart, hpast⟩ := everyStep_cons.mp hstarts
    rcases h with hnow | ⟨n, hn, hholds⟩
    · exact ⟨e, past, List.suffix_refl _, hnow⟩
    · obtain rfl := keeper_eq hstart hn
      obtain ⟨e', past', hsuffix, hconfirmed⟩ := ih hpast hholds
      exact ⟨e', past', hsuffix.trans (List.suffix_cons e past), hconfirmed⟩

/-- Nodes that are all the same are one. -/
theorem length_le_one_of_nodup {nodes : List NodeId} (hnodup : nodes.Nodup)
    (hsame : ∀ m ∈ nodes, m = node) : nodes.length ≤ 1 := by
  rw [List.eq_replicate_of_mem hsame, List.nodup_replicate] at hnodup
  exact hnodup

/-- Two replicas are asked for. -/
def Demo.strict : Settings := { Demo.settings with policy := { minValidReplicas := 2 } }

/-- A request is admitted as thread `tid` and runs alone. -/
def Demo.ask (tid : ℕ) (request : Request) : List (Action (fabric Demo.strict)) :=
  .accept request :: List.replicate 50 (.advance tid ({} : Input))

/-- A checkpoint is captured on the only node. Then another node registers and reports that it has
the checkpoint, and a restore is requested. -/
def Demo.unverified : List (Action (fabric Demo.strict)) :=
  .move (Move.adopt "n1" 1) ::
    ask 0 (.nodeRegister ⟨"n1", "addr", "boot", "/data", runtime, [], 1⟩) ++
    ask 1 (.workloadCreate spec (some "n1")) ++ ask 2 (.capture 7 {} operator) ++
    .move (Move.adopt "n2" 1) ::
    ask 3 (.nodeRegister ⟨"n2", "addr", "boot", "/other", runtime, [2], 1⟩) ++
    ask 4 (.restore 2 "n1" {} operator)

/-- The restore is admitted and reserves the checkpoint. The row counts two replicas, and no node
has lost its own, but only the first node holds a replica that was ever compared with the anchor. -/
theorem unverified_admitted : ∃ (t : List (Event (fabric Demo.strict)))
    (e : Event (fabric Demo.strict)) (c : CheckpointObject), Run (e :: t) ∧
      Calls e t 4
        (.reservationCreate (.restore 2 3) .restore none (some 2) "n1" reservationTtlMs) () ∧
      (stateOf t).checkpoint 2 = some c ∧ Admits Demo.strict c ∧
      (∀ l ∈ c.durableLocations, ¬ c.LostBy t l.node) ∧ ¬ EnoughReplicas t c := by
  obtain ⟨e, t, hsuffix, hcall, hrow⟩ : ∃ e t, e :: t <:+ (exec Demo.unverified).trace ∧
      callOf e =
        some (4, .reservationCreate (.restore 2 3) .restore none (some 2) "n1" reservationTtlMs) ∧
      ∃ c ∈ (stateOf t).checkpoint 2, Admits Demo.strict c ∧ c.VerifiedOn t "n1" ∧
        c.durableLocations.map DurableLocation.node = ["n1", "n2"] :=
    exists_of_not_everyStep (by decide +kernel)
  obtain ⟨c, hc, hadmits, hverified, hnodes⟩ := hrow
  have hconfirmed : EveryStep (fun e _ => startsProcess e = false ∧
      ∀ what ∈ confirmed e, what.1 = "n1") (exec Demo.unverified).trace := by
    decide +kernel
  have hrun := (exec_run Demo.unverified).of_suffix hsuffix
  have hpast := (List.suffix_cons e t).trans hsuffix
  -- Only the first node has compared anything.
  have honly {t' : List (Event (fabric Demo.strict))} (ht' : t' <:+ t) {node : NodeId}
      (hnode : c.VerifiedOn t' node) : node = "n1" := by
    obtain ⟨digest, -, hholds⟩ := hnode
    have hsteps := hconfirmed.of_suffix (ht'.trans hpast)
    obtain ⟨e', past, hsuffix', hwhat⟩ :=
      exists_confirmed_of_holds (hsteps.mono fun _ _ h => h.1) hholds
    exact (hsteps e' past hsuffix').2 _ hwhat
  obtain ⟨reply, hcalls⟩ := exists_calls_of_callOf hrun hcall
  refine ⟨t, e, c, hrun, hcalls, hc, hadmits, ?_, ?_⟩
  · rintro l hl ⟨⟨t', ht', honce⟩, hlost⟩
    rw [honly ht' honce] at hlost
    exact hlost hverified
  · rintro ⟨nodes, hnodup, hlength, hall⟩
    have hle := length_le_one_of_nodup hnodup fun m hm => honly (List.suffix_refl t) (hall m hm)
    exact absurd (Nat.le_trans hlength hle) (by decide)

end Unverified

end CheckpointFabric
