import CheckpointFabric.Policies
import CheckpointFabric.Serialization
import Mathlib.Data.List.Pairwise

/-!
# The policy in use

The mark of an active policy is set whenever one is stored, and nothing takes it away. What a
coordinator without a policy loads is the highest version that is stored, whatever was in use
before it. What a version stands for changes only when a policy of that version is given.

## Main definitions

* `PolicyTable.Written` — the rows have been written for policies
* `PolicyTable.Settles` — what settling on a policy comes to
* `Governed` — what an opening does to the policies

## Main results

* `PolicyTable.settles_openPolicy` — the cases of an opening
* `governed_of_opens` — every opening of a sequence is governed, and a content that is stored stays
-/

set_option autoImplicit false

namespace CheckpointFabric

open Concurrency

namespace PolicyTable

variable {codec : PolicyCodec} {t : PolicyTable} {p : PolicySet}

/-- The row that an active policy is stored as. -/
def rowOf (codec : PolicyCodec) (p : PolicySet) : PolicyRow :=
  ⟨p.version, codec.toCanonicalJson p, true⟩

/-- Every row has been written for a policy that its text is parsed as. -/
def Written (codec : PolicyCodec) (t : PolicyTable) : Prop :=
  ∀ row ∈ t.rows, ∃ p, codec.RoundTrips p ∧ row = rowOf codec p

/-- What settling on a policy comes to. -/
inductive Settles (codec : PolicyCodec) (t : PolicyTable) :
    Option PolicySet → FabricResult PolicySet → PolicyTable → Prop
  | given (p : PolicySet) : Settles codec t (some p) (.ok p) (t.policyInsert codec p true)
  | first : t.rows = [] → Settles codec t none (.ok {}) (t.policyInsert codec {} true)
  | highest (p : PolicySet) : rowOf codec p ∈ t.rows → (∀ row ∈ t.rows, row.version ≤ p.version) →
    (∀ row ∈ t.rows, row.version ≠ 0) → Settles codec t none (.ok p) t
  | refused (e : FabricError) : (∃ row ∈ t.rows, row.version = 0) →
    Settles codec t none (.error e) t

theorem get_policyInsert {version : ℕ} : (t.policyInsert codec p true).get version =
    if p.version = version then some (rowOf codec p) else t.get version :=
  Table.get_put _ _ _

theorem Written.policyInsert (h : Written codec t) (hp : codec.RoundTrips p) :
    Written codec (t.policyInsert codec p true) := by
  intro row hrow
  have hget := Table.get_of_mem hrow
  rw [get_policyInsert] at hget
  split at hget
  · exact ⟨p, hp, (Option.some.inj hget).symm⟩
  · exact h row (Table.mem_of_get hget)

theorem mem_ordered {row : PolicyRow} : row ∈ t.ordered ↔ row ∈ t.rows := List.mem_insertionSort _

/-- Rows that were written are parsed as their policies, unless one has version 0. -/
theorem parseRows_cases {rows : List PolicyRow}
    (h : ∀ row ∈ rows, ∃ p, codec.RoundTrips p ∧ row = rowOf codec p) :
    (∀ row ∈ rows, row.version ≠ 0) ∧
        (∃ ps, parseRows codec rows = .ok ps ∧ rows = ps.map (rowOf codec)) ∨
      (∃ row ∈ rows, row.version = 0) ∧ ∃ e, parseRows codec rows = .error e := by
  induction rows with
  | nil => exact .inl ⟨by simp, [], rfl, rfl⟩
  | cons row rows ih =>
    obtain ⟨p, hp, rfl⟩ := h row (.head rows)
    have hjson : codec.fromJson (rowOf codec p).json = if p.version = 0 then
        .error (.invalidArgument "policy version must be >= 1") else .ok p := by
      rw [PolicyCodec.fromJson, rowOf, hp]
    by_cases hzero : p.version = 0
    · refine .inr ⟨⟨_, .head rows, hzero⟩, .invalidArgument "policy version must be >= 1", ?_⟩
      rw [parseRows, hjson, if_pos hzero]
      rfl
    · rw [if_neg hzero] at hjson
      rcases ih fun row hrow => h row (.tail _ hrow) with ⟨hversions, ps, hps, hrows⟩ |
        ⟨⟨row, hrow, hversion⟩, e, he⟩
      · refine .inl ⟨List.forall_mem_cons.mpr ⟨hzero, hversions⟩, p :: ps, ?_, by rw [hrows]; rfl⟩
        rw [parseRows, hjson, hps]
        rfl
      · refine .inr ⟨⟨row, .tail _ hrow, hversion⟩, e, ?_⟩
        rw [parseRows, hjson, he]
        rfl

/-- The last one of the policies in the order of their versions has the highest version. -/
theorem exists_getLast?_ordered {ps : List PolicySet} (h : ps ≠ []) :
    ∃ p ∈ ps, ((ps.insertionSort fun a b => a.version ≤ b.version).insertionSort
        fun a b => a.version ≤ b.version).getLast? = some p ∧ ∀ p' ∈ ps, p'.version ≤ p.version := by
  have htotal : Std.Total fun a b : PolicySet => a.version ≤ b.version :=
    ⟨fun a b => Nat.le_total a.version b.version⟩
  have htrans : IsTrans PolicySet fun a b => a.version ≤ b.version :=
    ⟨fun _ _ _ => Nat.le_trans⟩
  have hrefl : Std.Refl fun a b : PolicySet => a.version ≤ b.version :=
    ⟨fun a => Nat.le_refl a.version⟩
  have hsorted := List.pairwise_insertionSort (fun a b : PolicySet => a.version ≤ b.version) ps
  rw [hsorted.insertionSort_eq]
  have hne : (ps.insertionSort fun a b => a.version ≤ b.version) ≠ [] := by
    rwa [Ne, ← List.length_eq_zero_iff, List.length_insertionSort, List.length_eq_zero_iff]
  refine ⟨_, (List.mem_insertionSort _).mp (List.getLast_mem hne), List.getLast?_eq_some_getLast hne,
    fun p' hp' => ?_⟩
  exact hsorted.rel_getLast ((List.mem_insertionSort _).mpr hp')

theorem settles_openPolicy (h : Written codec t) (policy : Option PolicySet) :
    Settles codec t policy (t.openPolicy codec policy).1 (t.openPolicy codec policy).2 := by
  cases policy with
  | some p => exact .given p
  | none =>
    by_cases hrows : t.rows = []
    · have hempty : t.policyVersions.isEmpty = true := by
        rw [policyVersions, ordered, hrows]
        rfl
      rw [openPolicy, if_pos hempty]
      exact .first hrows
    · have hstored : ¬ t.policyVersions.isEmpty = true := by
        rw [policyVersions, ordered, List.isEmpty_iff, List.map_eq_nil_iff,
          ← List.length_eq_zero_iff, List.length_insertionSort, List.length_eq_zero_iff]
        exact hrows
      rw [openPolicy, if_neg hstored, policyLoadAll]
      rcases parseRows_cases fun row hrow => h row (mem_ordered.mp hrow) with
        ⟨hversions, ps, hps, hordered⟩ | ⟨⟨row, hrow, hversion⟩, e, he⟩
      · have hnonempty : ps ≠ [] := by
          rintro rfl
          rw [policyVersions, hordered] at hstored
          exact hstored rfl
        obtain ⟨p, hp, hlast, hhighest⟩ := exists_getLast?_ordered hnonempty
        have hmem : rowOf codec p ∈ t.rows := by
          rw [← mem_ordered, hordered]
          exact List.mem_map_of_mem hp
        rw [hps]
        change Settles codec t none (.ok (List.getLast? _ |>.getD {})) t
        rw [hlast]
        refine .highest p hmem (fun row hrow => ?_) fun row hrow => hversions row (mem_ordered.mpr hrow)
        rw [← mem_ordered, hordered] at hrow
        obtain ⟨p', hp', rfl⟩ := List.mem_map.mp hrow
        exact hhighest p' hp'
      · rw [he]
        exact .refused e ⟨row, mem_ordered.mp hrow, hversion⟩

section Settles

variable {policy : Option PolicySet} {result : FabricResult PolicySet} {t' : PolicyTable}
  {version : ℕ} {row : PolicyRow}

theorem Settles.succeeds (h : Settles codec t policy result t') :
    (∃ p, result = .ok p) ↔ (policy = none → ∀ row ∈ t.rows, row.version ≠ 0) := by
  cases h with
  | given p => exact iff_of_true ⟨p, rfl⟩ (by simp)
  | first hrows => exact iff_of_true ⟨_, rfl⟩ (by simp [hrows])
  | highest p _ _ hversions => exact iff_of_true ⟨p, rfl⟩ fun _ => hversions
  | refused e hzero =>
    obtain ⟨row, hrow, hversion⟩ := hzero
    refine iff_of_false ?_ fun hversions => hversions rfl row hrow hversion
    rintro ⟨p, ⟨⟩⟩

theorem Settles.stored (h : Settles codec t policy (.ok p) t') :
    t'.get p.version = some (rowOf codec p) := by
  cases h with
  | given | first => rw [get_policyInsert, if_pos rfl]
  | highest _ hmem => exact Table.get_of_mem hmem

theorem Settles.eq_of_given (h : Settles codec t policy (.ok p) t') : ∀ p' ∈ policy, p = p' := by
  cases h with
  | given => exact fun _ hp' => Option.mem_some.mp hp'
  | first | highest => simp

theorem Settles.eq_default (h : Settles codec t none (.ok p) t') (hrows : t.rows = []) : p = {} := by
  cases h with
  | first => rfl
  | highest _ hmem =>
    rw [hrows] at hmem
    cases hmem

theorem Settles.version_le (h : Settles codec t none (.ok p) t') :
    ∀ row ∈ t'.rows, row.version ≤ p.version := by
  intro row hrow
  cases h with
  | first hrows =>
    have hget := Table.get_of_mem hrow
    rw [get_policyInsert] at hget
    split at hget
    · rw [← Option.some.inj hget]
      exact Nat.le_refl _
    · have hmem := Table.mem_of_get hget
      rw [hrows] at hmem
      cases hmem
  | highest _ _ hhighest => exact hhighest row hrow

theorem Settles.kept (h : Settles codec t none result t') (hrows : t.rows ≠ []) : t' = t := by
  cases h with
  | first hempty => exact absurd hempty hrows
  | highest | refused => rfl

theorem Settles.failed {e : FabricError} (h : Settles codec t policy (.error e) t') : t' = t := by
  cases h
  rfl

/-- The row of a version stays, unless a policy of that version with another text is given. -/
theorem Settles.get_of_same (h : Settles codec t policy result t')
    (hrow : t.get version = some row) (hactive : row.active = true)
    (hsame : ∀ p ∈ policy, p.version = version → codec.toCanonicalJson p = row.json) :
    t'.get version = some row := by
  cases h with
  | given p =>
    rw [get_policyInsert]
    split
    · rename_i hversion
      have hkey : row.version = version := Table.key_of_get hrow
      rw [rowOf, hsame p rfl hversion, hversion, ← hkey, ← hactive]
    · exact hrow
  | first hrows =>
    have hmem := Table.mem_of_get hrow
    rw [hrows] at hmem
    cases hmem
  | highest | refused => exact hrow

theorem Settles.written (h : Settles codec t policy result t') (ht : Written codec t)
    (hround : ∀ p, p = {} ∨ policy = some p → codec.RoundTrips p) : Written codec t' := by
  cases h with
  | given p => exact ht.policyInsert (hround p (.inr rfl))
  | first => exact ht.policyInsert (hround {} (.inl rfl))
  | highest | refused => exact ht

end Settles

end PolicyTable

section Openings

open PolicyTable

variable {codec : PolicyCodec} {dir : DataDir} {o : Opening} {os : List Opening}

/-- The opening gets its epoch, and the database does not fail it afterwards. -/
def Opening.Reaches (o : Opening) (dir : DataDir) : Prop :=
  (∃ epoch, (dir.metaRows.claim o.claim).1 = .ok epoch) ∧ o.fault = none

/-- An opening settles on a policy, or does not get that far. -/
theorem open_cases (codec : PolicyCodec) (dir : DataDir) (o : Opening) :
    o.Reaches dir ∧ (∃ epoch, (dir.open_ codec o).1 =
        (dir.policies.openPolicy codec o.policy).1.map (Prod.mk epoch)) ∧
        (dir.open_ codec o).2.policies = (dir.policies.openPolicy codec o.policy).2 ∨
      ¬ o.Reaches dir ∧ (∃ e, (dir.open_ codec o).1 = .error e) ∧
        (dir.open_ codec o).2.policies = dir.policies := by
  unfold DataDir.open_ Opening.Reaches
  rcases dir.metaRows.claim o.claim with ⟨epoch | epoch, metaRows⟩
  · refine .inr ⟨?_, ⟨_, rfl⟩, rfl⟩
    rintro ⟨⟨_, h⟩, -⟩
    cases h
  · cases hfault : o.fault with
    | some e => exact .inr ⟨by simp, ⟨e, rfl⟩, rfl⟩
    | none =>
      refine .inl ⟨⟨⟨epoch, rfl⟩, rfl⟩, ⟨epoch, ?_⟩, ?_⟩ <;>
        rcases dir.policies.openPolicy codec o.policy with ⟨e | p, policies⟩ <;> rfl

/-- What an opening does to the policies. -/
structure Governed (codec : PolicyCodec) (dir : DataDir) (o : Opening) : Prop where
  succeeds : (∃ opened, (dir.open_ codec o).1 = .ok opened) ↔
    o.Reaches dir ∧ (o.policy = none → ∀ row ∈ dir.policies.rows, row.version ≠ 0)
  stored : ∀ epoch p, (dir.open_ codec o).1 = .ok (epoch, p) →
    (dir.open_ codec o).2.policies.get p.version =
      some ⟨p.version, codec.toCanonicalJson p, true⟩
  given : ∀ epoch p, (dir.open_ codec o).1 = .ok (epoch, p) → ∀ p' ∈ o.policy, p = p'
  first : o.policy = none → dir.policies.rows = [] → ∀ epoch p,
    (dir.open_ codec o).1 = .ok (epoch, p) → p = {}
  highest : o.policy = none → ∀ epoch p, (dir.open_ codec o).1 = .ok (epoch, p) →
    ∀ row ∈ (dir.open_ codec o).2.policies.rows, row.version ≤ p.version
  kept : o.policy = none → dir.policies.rows ≠ [] →
    (dir.open_ codec o).2.policies = dir.policies
  others : ∀ version, (∀ p ∈ o.policy, p.version ≠ version) → ∀ row,
    dir.policies.get version = some row → (dir.open_ codec o).2.policies.get version = some row
  failed : ∀ e, (dir.open_ codec o).1 = .error e →
    (dir.open_ codec o).2.policies = dir.policies

theorem governed_of_written (h : Written codec dir.policies) (o : Opening) :
    Governed codec dir o := by
  have hsettles := settles_openPolicy h o.policy
  rcases open_cases codec dir o with ⟨hreaches, ⟨epoch, hresult⟩, hpolicies⟩ |
    ⟨hstopped, ⟨e, hresult⟩, hpolicies⟩
  · generalize (dir.policies.openPolicy codec o.policy).1 = result at hsettles hresult
    generalize (dir.policies.openPolicy codec o.policy).2 = policies at hsettles hpolicies
    have hok : ∀ epoch' p, (dir.open_ codec o).1 = .ok (epoch', p) → result = .ok p := by
      intro epoch' p hopen
      rw [hresult] at hopen
      cases result with
      | error => cases hopen
      | ok => rw [(Prod.mk.inj (Except.ok.inj hopen)).2]
    refine ⟨?_, fun epoch' p hopen => ?_, fun epoch' p hopen => ?_,
      fun hnone hrows epoch' p hopen => ?_, fun hnone epoch' p hopen => ?_, fun hnone hrows => ?_,
      fun version hother row hrow => ?_, fun e hopen => ?_⟩
    · rw [hresult, and_iff_right hreaches, ← hsettles.succeeds]
      cases result with
      | error e =>
        refine iff_of_false ?_ ?_ <;>
          · rintro ⟨_, ⟨⟩⟩
      | ok p => exact iff_of_true ⟨_, rfl⟩ ⟨p, rfl⟩
    · rw [hpolicies]
      exact (hok epoch' p hopen ▸ hsettles).stored
    · exact (hok epoch' p hopen ▸ hsettles).eq_of_given
    · exact (hnone ▸ hok epoch' p hopen ▸ hsettles).eq_default hrows
    · rw [hpolicies]
      exact (hnone ▸ hok epoch' p hopen ▸ hsettles).version_le
    · rw [hpolicies]
      exact (hnone ▸ hsettles).kept hrows
    · rw [hpolicies]
      obtain ⟨p, -, rfl⟩ := h row (Table.mem_of_get hrow)
      exact hsettles.get_of_same hrow rfl fun p' hp' hversion => absurd hversion (hother p' hp')
    · rw [hpolicies]
      cases result with
      | error e => exact hsettles.failed
      | ok p =>
        rw [hresult] at hopen
        cases hopen
  · have herror : ∀ opened, (dir.open_ codec o).1 ≠ .ok opened := by
      intro opened hopen
      rw [hresult] at hopen
      cases hopen
    refine ⟨iff_of_false (by simpa using herror) (fun hreaches => hstopped hreaches.1),
      fun _ _ hopen => absurd hopen (herror _), fun _ _ hopen => absurd hopen (herror _),
      fun _ _ _ _ hopen => absurd hopen (herror _), fun _ _ _ hopen => absurd hopen (herror _),
      fun _ _ => hpolicies, fun _ _ row hrow => ?_, fun _ _ => hpolicies⟩
    rw [hpolicies]
    exact hrow

theorem written_open (h : Written codec dir.policies)
    (hround : ∀ p, p = {} ∨ o.policy = some p → codec.RoundTrips p) :
    Written codec (dir.open_ codec o).2.policies := by
  rcases open_cases codec dir o with ⟨-, -, hpolicies⟩ | ⟨-, -, hpolicies⟩
  · rw [hpolicies]
    exact (settles_openPolicy h o.policy).written h hround
  · rwa [hpolicies]

/-- After any sequence of openings the rows have been written for policies. -/
theorem written_afterOpens (h : Written codec dir.policies)
    (hround : ∀ p, (p = {} ∨ ∃ o ∈ os, o.policy = some p) → codec.RoundTrips p) :
    Written codec (dir.afterOpens codec os).policies := by
  induction os generalizing dir with
  | nil => exact h
  | cons o os ih =>
    refine ih (written_open h fun p hp => hround p ?_) fun p hp => hround p ?_
    · exact hp.imp_right fun hp => ⟨o, .head os, hp⟩
    · exact hp.imp_right fun ⟨o', ho', hp⟩ => ⟨o', .tail o ho', hp⟩

/-- A row stays as long as no policy of its version with another text is given. -/
theorem get_afterOpens (h : Written codec dir.policies) {version : ℕ} {row : PolicyRow}
    (hrow : dir.policies.get version = some row)
    (hround : ∀ p, (p = {} ∨ ∃ o ∈ os, o.policy = some p) → codec.RoundTrips p)
    (hsame : ∀ o ∈ os, ∀ p ∈ o.policy, p.version = version →
      codec.toCanonicalJson p = row.json) :
    (dir.afterOpens codec os).policies.get version = some row := by
  induction os generalizing dir with
  | nil => exact hrow
  | cons o os ih =>
    have hactive : row.active = true := by
      obtain ⟨p, -, rfl⟩ := h row (Table.mem_of_get hrow)
      rfl
    have hround' : ∀ p, p = {} ∨ o.policy = some p → codec.RoundTrips p :=
      fun p hp => hround p (hp.imp_right fun hp => ⟨o, .head os, hp⟩)
    refine ih (written_open h hround') ?_ (fun p hp => hround p ?_) fun o' ho' => hsame o' (.tail o ho')
    · rcases open_cases codec dir o with ⟨-, -, hpolicies⟩ | ⟨-, -, hpolicies⟩
      · rw [hpolicies]
        exact (settles_openPolicy h o.policy).get_of_same hrow hactive (hsame o (.head os))
      · rwa [hpolicies]
    · exact hp.imp_right fun ⟨o', ho', hp⟩ => ⟨o', .tail o ho', hp⟩

end Openings

/-- Every opening of a sequence on a new data directory is governed: it succeeds iff it gets its
epoch and is given a policy or finds no version 0; the policy in use is stored under its version,
marked active, and is the given one, or the highest version, or the default when there is none; and
without a policy it changes no policy once there is one. The content of a version stays until a
policy of that version with another content is given. -/
theorem governed_of_opens (codec : PolicyCodec) (os : List Opening) (o : Opening)
    (hround : ∀ p, (p = {} ∨ ∃ o' ∈ os, o'.policy = some p) → codec.RoundTrips p) :
    Governed codec (DataDir.fresh.afterOpens codec os) o ∧
    ∀ later version row,
      (∀ p, (∃ o' ∈ later, o'.policy = some p) → codec.RoundTrips p) →
      (DataDir.fresh.afterOpens codec os).policies.get version = some row →
      (∀ o' ∈ later, ∀ p ∈ o'.policy, p.version = version →
        codec.toCanonicalJson p = row.json) →
      ((DataDir.fresh.afterOpens codec os).afterOpens codec later).policies.get version =
        some row := by
  have hfresh : PolicyTable.Written codec DataDir.fresh.policies := by
    rintro row ⟨⟩
  have hwritten := written_afterOpens hfresh hround
  refine ⟨governed_of_written hwritten o, fun later version row hlater hrow hsame => ?_⟩
  refine get_afterOpens hwritten hrow (fun p hp => ?_) hsame
  exact hp.elim (fun hp => hround p (.inl hp)) (hlater p)

/-! ### Two versions of a policy

The texts are those that the serializer writes. -/

namespace Demo

open Wire Serialization

def integer : ℤ → Json
  | .ofNat n => number n
  | .negSucc n => .number ⟨'-' :: Nat.toDigits 10 (n + 1), fun c hc => by
      rcases List.mem_cons.mp hc with rfl | hc
      · rfl
      · simp [isNumberChar, Nat.isDigit_of_mem_toDigits (by decide) (by decide) hc]⟩

def authorityJson (a : AuthorityPolicy) : Json :=
  .object [("capture", list .string a.capture), ("restore", list .string a.restore),
    ("seal", list .string a.seal_), ("retire", list .string a.retire),
    ("migrate", list .string a.migrate), ("fence", list .string a.fence),
    ("fork", list .string a.fork), ("rollback", list .string a.rollback),
    ("verify", list .string a.verify)]

def compatibilityJson (c : CompatibilityPolicy) : Json :=
  .object [("allow_cross_os", .bool c.allowCrossOs), ("allow_cross_arch", .bool c.allowCrossArch),
    ("schema_strict", .bool c.schemaStrict)]

def codecName : Codec → String
  | .none => "none"
  | .zstd => "zstd"

def policyJson (p : PolicySet) : Json :=
  .object [("version", number p.version), ("min_capture_interval_ms", number p.minCaptureIntervalMs),
    ("max_checkpoint_age_ms", option number p.maxCheckpointAgeMs),
    ("min_valid_replicas", number p.minValidReplicas),
    ("required_consistency", option (fun c => .string c.asStr) p.requiredConsistency),
    ("require_portable", .bool p.requirePortable),
    ("forbid_degraded_restore", .bool p.forbidDegradedRestore),
    ("protected_generations", number p.protectedGenerations),
    ("min_generations_retained", number p.minGenerationsRetained),
    ("max_incremental_chain_depth", number p.maxIncrementalChainDepth),
    ("single_active_default", .bool p.singleActiveDefault),
    ("archive_restore_permitted", .bool p.archiveRestorePermitted),
    ("max_component_bytes", option number p.maxComponentBytes),
    ("compression", .string (codecName p.compression)),
    ("compression_level", integer p.compressionLevel),
    ("authority", authorityJson p.authority),
    ("compatibility", compatibilityJson p.compatibility)]

def policyText (p : PolicySet) : String := String.ofList (policyJson p).text

/-- Texts differ if their fronts do. -/
theorem policyText_ne {p q : PolicySet} (n : ℕ)
    (h : (policyJson p).text.take n ≠ (policyJson q).text.take n) : policyText p ≠ policyText q :=
  fun heq => h (congrArg (List.take n) (String.ofList_injective heq))

/-- A library that reads back the texts of these policies. -/
def codecOf (text : PolicySet → String) : PolicyCodec where
  toCanonicalJson := text
  parse document :=
    let known : List PolicySet := [{}, { version := 2 }, { minCaptureIntervalMs := 5 }]
    match known.find? fun p => text p == document with
    | some p => .ok p
    | none => .error "expected value at line 1 column 1"

section Texts

variable {text : PolicySet → String}

theorem roundTrips_default : (codecOf text).RoundTrips {} := by
  rw [PolicyCodec.RoundTrips]
  simp only [codecOf, List.find?_cons, beq_self_eq_true]

theorem roundTrips_two (hne : text {} ≠ text { version := 2 }) :
    (codecOf text).RoundTrips { version := 2 } := by
  rw [PolicyCodec.RoundTrips]
  simp only [codecOf, List.find?_cons, beq_false_of_ne hne, beq_self_eq_true]

/-- The data directory after a coordinator was opened with version 2, and then with version 1. -/
def olderOf (text : PolicySet → String) : DataDir :=
  DataDir.fresh.afterOpens (codecOf text)
    [{ policy := some { version := 2 } }, { policy := some {} }]

theorem openPolicy_olderOf (hne : text {} ≠ text { version := 2 }) :
    (olderOf text).policies.openPolicy (codecOf text) none =
      (.ok { version := 2 }, (olderOf text).policies) := by
  have hordered : (olderOf text).policies.ordered =
      [⟨1, text {}, true⟩, ⟨2, text { version := 2 }, true⟩] := rfl
  rw [PolicyTable.openPolicy, PolicyTable.policyVersions, PolicyTable.policyLoadAll, hordered]
  have hdefault : (codecOf text).parse (text {}) = .ok {} := roundTrips_default
  have htwo : (codecOf text).parse (text { version := 2 }) = .ok { version := 2 } :=
    roundTrips_two hne
  simp only [PolicyTable.parseRows, PolicyCodec.fromJson, hdefault, htwo]
  rfl

/-- Without a policy the highest version is used. -/
theorem open_olderOf (hne : text {} ≠ text { version := 2 }) :
    (((olderOf text).open_ (codecOf text) {}).1.toOption.map fun opened => opened.2.version) =
      some 2 := by
  obtain ⟨epoch, metaRows, hclaim⟩ : ∃ epoch metaRows,
      (olderOf text).metaRows.claim ({} : Opening).claim = (.ok epoch, metaRows) := ⟨_, _, rfl⟩
  rw [DataDir.open_, hclaim]
  dsimp only
  rw [openPolicy_olderOf hne]
  rfl

end Texts

def policyCodec : PolicyCodec := codecOf policyText

def older : DataDir := olderOf policyText

theorem policyText_two : policyText {} ≠ policyText { version := 2 } :=
  policyText_ne 12 (by decide +kernel)

end Demo

/-- Then both versions are marked active, the next coordinator without a policy uses version 2, and
version 1 is stored with another content when one is given. -/
theorem open_older :
    (Demo.older.policies.rows.filter (·.active)).map (·.version) = [2, 1] ∧
    ((Demo.older.open_ Demo.policyCodec {}).1.toOption.map fun opened => opened.2.version) = some 2 ∧
    (Demo.older.policies.get 1).map (·.json) = some (Demo.policyText {}) ∧
    ((Demo.older.open_ Demo.policyCodec
        { policy := some { minCaptureIntervalMs := 5 } }).2.policies.get 1).map (·.json) =
      some (Demo.policyText { minCaptureIntervalMs := 5 }) ∧
    Demo.policyText {} ≠ Demo.policyText { minCaptureIntervalMs := 5 } := by
  refine ⟨rfl, ?_, rfl, rfl, Demo.policyText_ne 40 (by decide +kernel)⟩
  exact Demo.open_olderOf Demo.policyText_two

/-- Among the openings that are governed. -/
theorem governed_older : Governed Demo.policyCodec Demo.older {} := by
  refine (governed_of_opens Demo.policyCodec
    [{ policy := some { version := 2 } }, { policy := some {} }] {} fun p hp => ?_).1
  rcases hp with rfl | ⟨o', ho', hp⟩
  · exact Demo.roundTrips_default
  · rcases List.mem_pair.mp ho' with rfl | rfl
    · obtain rfl := Option.some.inj hp
      exact Demo.roundTrips_two Demo.policyText_two
    · obtain rfl := Option.some.inj hp
      exact Demo.roundTrips_default

end CheckpointFabric
