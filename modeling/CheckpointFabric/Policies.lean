import CheckpointFabric.Policy
import CheckpointFabric.Store.Epochs
import Mathlib.Data.List.Sort

/-!
# The policies of a data directory

A coordinator that opens a data directory claims an epoch and then settles on a policy: the one it
is given, which it stores under its version, or one that is stored. The store marks the policies
that are inserted as active ones; what is loaded is the highest version.

## Main definitions

* `PolicyCodec` — the text of a policy
* `PolicyTable` — the stored policies by version, with the statements about them
* `DataDir.open_` — what a coordinator does to a data directory when it opens it
-/

set_option autoImplicit false

namespace CheckpointFabric

open Concurrency

/-- The text that a policy is stored as. -/
structure PolicyCodec where
  toCanonicalJson : PolicySet → String
  parse : String → Except String PolicySet

namespace PolicyCodec

variable (codec : PolicyCodec)

/-- Parse a policy. There is no version 0. -/
def fromJson (text : String) : FabricResult PolicySet :=
  match codec.parse text with
  | .error e => .error (.invalidArgument s!"bad policy json: {e}")
  | .ok p =>
    if p.version = 0 then .error (.invalidArgument "policy version must be >= 1") else .ok p

/-- The text of a policy is parsed as this policy. -/
def RoundTrips (p : PolicySet) : Prop := codec.parse (codec.toCanonicalJson p) = .ok p

end PolicyCodec

/-- A row of the `policies` table. -/
structure PolicyRow where
  version : ℕ
  json : String
  active : Bool
  deriving DecidableEq, Repr

abbrev PolicyTable := Table PolicyRow.version

namespace PolicyTable

variable (codec : PolicyCodec) (t : PolicyTable)

/-- Store a policy under its version, in the place of the one that is there. -/
def policyInsert (policy : PolicySet) (active : Bool) : PolicyTable :=
  t.put ⟨policy.version, codec.toCanonicalJson policy, active⟩

/-- The rows in the order of their versions. -/
def ordered : List PolicyRow := t.rows.insertionSort fun a b => a.version ≤ b.version

def policyVersions : List ℕ := t.ordered.map (·.version)

/-- Parse the texts of rows, up to the first one that fails. -/
def parseRows : List PolicyRow → FabricResult (List PolicySet)
  | [] => .ok []
  | row :: rows => do
    let p ← codec.fromJson row.json
    let ps ← parseRows rows
    pure (p :: ps)

def policyLoadAll : FabricResult (List PolicySet) := do
  let out ← parseRows codec t.ordered
  pure (out.insertionSort fun a b => a.version ≤ b.version)

/-- Settle on a policy: the given one, or the highest version that is stored, or the default. -/
def openPolicy : Option PolicySet → FabricResult PolicySet × PolicyTable
  | some p => (.ok p, t.policyInsert codec p true)
  | none =>
    if t.policyVersions.isEmpty then (.ok {}, t.policyInsert codec {} true)
    else
      match t.policyLoadAll codec with
      | .error e => (.error e, t)
      | .ok loaded =>
        (.ok ((loaded.insertionSort fun a b => a.version ≤ b.version).getLast?.getD {}), t)

end PolicyTable

/-- What a coordinator opens a data directory with, and the failures of the database that it
meets: when it claims its epoch, and when it settles on a policy. -/
structure Opening where
  claim : EpochClaim := ⟨none, none⟩
  policy : Option PolicySet := none
  fault : Option FabricError := none

/-- What a coordinator that opens a data directory reads and writes there. -/
structure DataDir where
  metaRows : MetaTable
  policies : PolicyTable

namespace DataDir

variable (codec : PolicyCodec)

/-- A data directory that no coordinator has opened. -/
def fresh : DataDir := ⟨.fresh, Table.empty⟩

/-- Claim an epoch and settle on a policy. -/
def open_ (dir : DataDir) (o : Opening) : FabricResult (UInt64 × PolicySet) × DataDir :=
  match dir.metaRows.claim o.claim with
  | (.error e, metaRows) => (.error e, { dir with metaRows })
  | (.ok epoch, metaRows) =>
    match o.fault with
    | some e => (.error e, { dir with metaRows })
    | none =>
      match dir.policies.openPolicy codec o.policy with
      | (.error e, policies) => (.error e, ⟨metaRows, policies⟩)
      | (.ok policy, policies) => (.ok (epoch, policy), ⟨metaRows, policies⟩)

/-- The data directory after a sequence of openings. -/
def afterOpens (dir : DataDir) : List Opening → DataDir
  | [] => dir
  | o :: os => (dir.open_ codec o).2.afterOpens os

end DataDir

end CheckpointFabric
