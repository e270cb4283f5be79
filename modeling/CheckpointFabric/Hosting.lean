import CheckpointFabric.Staging
import Mathlib.Logic.Function.Basic

/-!
# Attaching a workload to a node

A node registers the providers of a workload before it asks the coordinator for the claim. A
provider takes the place of the one that was registered for its component. When the coordinator
refuses, every provider of the workload is removed, whoever registered it; when there was no answer,
none is.

## Main definitions

* `Registry`, `registerAll`, `removeWorkload` — the provider of each component of each workload
* `Hosts`, `attachWorkload` — what a node hosts, and how it attaches a workload
* `AddsNothing` — the providers are those that are registered already
* `Undisturbed` — where a refused attach leaves no trace

## Main results

* `registerAll_eq_self_iff`, `removeWorkload_eq_self_iff` — what leaves the registry as it is
* `attachWorkload_refused_iff` — a refused attach changes nothing in exactly these cases
-/

set_option autoImplicit false

namespace CheckpointFabric.Hosting

open Replica Staging

/-- The provider of each component of each workload. -/
abbrev Registry := Id × String → Option Provider

section Registry

variable (spec : Provider → ProviderSpec) (workloadId : Id)

/-- Register a provider for its component, in the place of the one before it. -/
def register (registry : Registry) (p : Provider) : Registry :=
  Function.update registry (workloadId, (spec p).componentId) (some p)

def registerAll (registry : Registry) (providers : List Provider) : Registry :=
  providers.foldl (register spec workloadId) registry

/-- Remove every provider of a workload. -/
def removeWorkload (registry : Registry) : Registry :=
  fun key => if key.1 = workloadId then none else registry key

end Registry

structure WorkloadAttachRequest where
  workloadId : Id
  node : NodeId
  nodeBootId : String
  providers : List ProviderSpec
  fenceEpoch : ℕ

structure WorkloadAttachResponse where
  accepted : Bool
  fenceToken : Option FenceToken
  error : Option String

/-- The connection to the coordinator: what comes of a request. -/
abbrev Client := WorkloadAttachRequest → FabricResult WorkloadAttachResponse

/-- What a node hosts, and for whom. -/
structure Hosts where
  nodeId : NodeId
  bootId : String
  registry : Registry
  attached : Id → Option AttachedWorkload

/-- The default token stands for one that the response does not have. -/
def tokenOf (resp : WorkloadAttachResponse) : FenceToken := resp.fenceToken.getD 0

section Attach

variable (spec : Provider → ProviderSpec) (node : Hosts) (coordinator : Option Client)
  (workloadId : Id) (fenceEpoch : ℕ) (providers : List Provider)

/-- The request for the claim. -/
def attachRequest : WorkloadAttachRequest where
  workloadId := workloadId
  node := node.nodeId
  nodeBootId := node.bootId
  providers := providers.map spec
  fenceEpoch := fenceEpoch

/-- What comes of the request. -/
def answerTo (req : WorkloadAttachRequest) : FabricResult WorkloadAttachResponse :=
  match coordinator with
  | none => .error (.internal "not connected to coordinator")
  | some client => client req

/-- Attach a workload: register providers locally and claim with the coordinator. -/
def attachWorkload : FabricResult AttachedWorkload × Hosts :=
  let registered :=
    { node with registry := registerAll spec workloadId node.registry providers }
  match answerTo coordinator (attachRequest spec node workloadId fenceEpoch providers) with
  | .error e => (.error e, registered)
  | .ok resp =>
    if resp.accepted then
      let attached : AttachedWorkload :=
        { fenceToken := tokenOf resp, executionEpoch := fenceEpoch }
      (.ok attached, { registered with
        attached := Function.update node.attached workloadId (some attached) })
    else
      (.error (.fencingFailure (resp.error.getD "attach rejected")),
        { registered with registry := removeWorkload workloadId registered.registry })

end Attach

section Refused

variable {spec : Provider → ProviderSpec} {workloadId : Id} {registry : Registry} {p : Provider}
  {providers : List Provider} {componentId : String}

/-- The provider that is registered last for a component. -/
def lastFor (spec : Provider → ProviderSpec) (providers : List Provider) (componentId : String) :
    Option Provider :=
  providers.reverse.find? fun p => (spec p).componentId = componentId

/-- Every component has the provider already that would be registered for it. -/
def AddsNothing (spec : Provider → ProviderSpec) (workloadId : Id) (registry : Registry)
    (providers : List Provider) : Prop :=
  ∀ componentId p, lastFor spec providers componentId = some p →
    registry (workloadId, componentId) = some p

/-- A component has the last provider that was registered for it. -/
theorem registerAll_apply (key : Id × String) :
    registerAll spec workloadId registry providers key =
      if key.1 = workloadId then (lastFor spec providers key.2).or (registry key)
      else registry key := by
  induction providers generalizing registry with
  | nil => simp [registerAll, lastFor]
  | cons p providers ih =>
    have hcons : registerAll spec workloadId registry (p :: providers) =
        registerAll spec workloadId (register spec workloadId registry p) providers := rfl
    rw [hcons, ih]
    by_cases hworkload : key.1 = workloadId
    · rw [if_pos hworkload, if_pos hworkload, lastFor, lastFor, List.reverse_cons,
        List.find?_append, Option.or_assoc]
      congr 1
      by_cases hcomponent : (spec p).componentId = key.2
      · have hkey : key = (workloadId, (spec p).componentId) := Prod.ext hworkload hcomponent.symm
        simp [register, hkey]
      · have hkey : key ≠ (workloadId, (spec p).componentId) := by
          rintro rfl
          exact hcomponent rfl
        simp [register, Function.update_of_ne hkey, hcomponent]
    · have hkey : key ≠ (workloadId, (spec p).componentId) := by
        rintro rfl
        exact hworkload rfl
      rw [if_neg hworkload, if_neg hworkload, register, Function.update_of_ne hkey]

/-- Registering leaves the registry as it is iff nothing is added. -/
theorem registerAll_eq_self_iff :
    registerAll spec workloadId registry providers = registry ↔
      AddsNothing spec workloadId registry providers := by
  constructor
  · intro h componentId p hlast
    have hkey := congrFun h (workloadId, componentId)
    rw [registerAll_apply, if_pos rfl, hlast, Option.some_or] at hkey
    exact hkey.symm
  · intro h
    funext key
    rw [registerAll_apply]
    split
    · rename_i hworkload
      cases hlast : lastFor spec providers key.2 with
      | none => rfl
      | some p =>
        rw [Option.some_or, ← h key.2 p hlast]
        exact congrArg registry (Prod.ext hworkload.symm rfl)
    · rfl

/-- Removing what was registered leaves the registry as it was iff the workload had nothing. -/
theorem removeWorkload_eq_self_iff (spec : Provider → ProviderSpec) (providers : List Provider) :
    removeWorkload workloadId (registerAll spec workloadId registry providers) = registry ↔
      ∀ componentId, registry (workloadId, componentId) = none := by
  constructor
  · intro h componentId
    have hkey := congrFun h (workloadId, componentId)
    rw [removeWorkload, if_pos rfl] at hkey
    exact hkey.symm
  · intro h
    funext key
    rw [removeWorkload]
    split
    · rename_i hworkload
      rw [← h key.2]
      exact congrArg registry (Prod.ext hworkload.symm rfl)
    · rename_i hworkload
      rw [registerAll_apply, if_neg hworkload]

/-- Where a refused attach leaves no trace: the coordinator rejects it and the workload had no
provider, or there is no answer and every provider was registered already. -/
def Undisturbed (spec : Provider → ProviderSpec) (node : Hosts) (coordinator : Option Client)
    (workloadId : Id) (fenceEpoch : ℕ) (providers : List Provider) : Prop :=
  match answerTo coordinator (attachRequest spec node workloadId fenceEpoch providers) with
  | .ok resp =>
    resp.accepted = false → ∀ componentId, node.registry (workloadId, componentId) = none
  | .error _ => AddsNothing spec workloadId node.registry providers

/-- For every node, every connection and every list of providers: an attach that returns an error
leaves the node exactly as it was, iff this is one of these cases. -/
theorem attachWorkload_refused_iff (spec : Provider → ProviderSpec) (node : Hosts)
    (coordinator : Option Client) (workloadId : Id) (fenceEpoch : ℕ) (providers : List Provider) :
    (∀ e, (attachWorkload spec node coordinator workloadId fenceEpoch providers).1 = .error e →
        (attachWorkload spec node coordinator workloadId fenceEpoch providers).2 = node) ↔
      Undisturbed spec node coordinator workloadId fenceEpoch providers := by
  have hregistry (registry : Registry) :
      { node with registry } = node ↔ registry = node.registry := by
    constructor
    · intro h
      exact congrArg Hosts.registry h
    · rintro rfl
      rfl
  unfold attachWorkload Undisturbed
  cases answerTo coordinator (attachRequest spec node workloadId fenceEpoch providers) with
  | error e =>
    rw [← registerAll_eq_self_iff, ← hregistry]
    simp
  | ok resp =>
    dsimp only
    cases haccepted : resp.accepted with
    | true => simp
    | false =>
      rw [← removeWorkload_eq_self_iff spec providers, ← hregistry]
      simp

end Refused

/-! ### A second attach that is rejected -/

/-- A node that hosts a provider of workload 7. -/
def Demo.hosting : Hosts where
  nodeId := "n1"
  bootId := "boot"
  registry := fun key => if key = (7, "app") then some 0 else none
  attached := fun _ => none

/-- Every provider is one of the component `app`. -/
def Demo.appSpec (_ : Provider) : ProviderSpec :=
  ⟨"app", .applicationState, true, 1, "application", "", []⟩

/-- The coordinator rejects every claim. -/
def Demo.rejecting : Client := fun _ => .ok ⟨false, none, some "claimed by another node"⟩

/-- The attach is refused, and the provider that was registered before is gone. -/
theorem attach_refused_disturbed :
    (attachWorkload Demo.appSpec Demo.hosting (some Demo.rejecting) 7 1 [0]).1 =
      .error (.fencingFailure "claimed by another node") ∧
    Demo.hosting.registry (7, "app") = some 0 ∧
    (attachWorkload Demo.appSpec Demo.hosting (some Demo.rejecting) 7 1 [0]).2.registry
      (7, "app") = none := by
  decide +kernel

end CheckpointFabric.Hosting
