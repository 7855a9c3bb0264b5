/-
What the message of a step says. It is made from the profile and the addresses recorded so
far; what earlier messages have filled into the working profile does not show in it.
-/

import PerpDeploy.Pipeline.Payload
import PerpDeploy.Proofs.Contract.Registry

namespace PerpDeploy

namespace Profile

/-- The profile without the fields that a run fills in. -/
def cleared (profile : Profile) : Profile :=
  { profile with
    vammInit := { profile.vammInit with priceFeed := "" }
    engineInit :=
      { profile.engineInit with
        insuranceFund := ""
        feePool := ""
        eligibleCollateral := ""
        vamms := [] } }

theorem cleared_withPriceFeed (profile : Profile) (address : String) :
    (profile.withPriceFeed address).cleared = profile.cleared := rfl

theorem cleared_withInsuranceFund (profile : Profile) (address : String) :
    (profile.withInsuranceFund address).cleared = profile.cleared := rfl

theorem cleared_withFeePool (profile : Profile) (address : String) :
    (profile.withFeePool address).cleared = profile.cleared := rfl

theorem cleared_withVamm (profile : Profile) (address : String) :
    (profile.withVamm address).cleared = profile.cleared := rfl

end Profile

namespace Payload

/-- The message that a payload stands for, with an address for each contract. -/
def message (payload : Payload) (profile : Profile) (address : ContractName → String) : Json :=
  match payload with
  | .insuranceFundInit => profile.insuranceFundInit.encode.canonical
  | .feePoolInit => profile.feePoolInit.encode.canonical
  | .priceFeedInit => profile.priceFeedInit.encode.canonical
  | .vammInit =>
      { profile.vammInit with priceFeed := address .priceFeed : VammInit }.encode.canonical
  | .engineInit collector =>
      { profile.engineInit with
        insuranceFund := address .insuranceFund
        feePool := address collector
        eligibleCollateral := profile.eligibleCollateral
        vamms := [address .vamm] : EngineInit }.encode.canonical
  | .vammSetMarginEngine =>
      (VammExecute.updateConfig none (some (address .engine)) none).encode.canonical
  | .insuranceFundAddVamm => (InsuranceFundExecute.addVamm (address .vamm)).encode.canonical
  | .insuranceFundSetBeneficiary =>
      (InsuranceFundExecute.updateConfig none (some (address .engine))).encode.canonical
  | .vammSetOpen => (VammExecute.setOpen true).encode.canonical
  | .vammState => VammQuery.state.encode.canonical

/-- The contracts in the order in which their addresses are looked up. -/
def lookups : Payload → List ContractName
  | .vammInit => [.priceFeed]
  | .engineInit collector => [.insuranceFund, collector, .vamm]
  | .vammSetMarginEngine => [.engine]
  | .insuranceFundAddVamm => [.vamm]
  | .insuranceFundSetBeneficiary => [.engine]
  | _ => []

/-- Looking up meets the contracts that are referred to, in an order of its own. -/
theorem mem_lookups_iff (payload : Payload) (name : ContractName) :
    name ∈ payload.lookups ↔ name ∈ payload.references := by
  cases payload with
  | engineInit collector =>
      cases collector <;> cases name <;> decide
  | _ => rfl

theorem withAddress_of_mem {working : Profile} {registry : Registry} {name : ContractName}
    (recorded : name ∈ registry.names) (next : String → Profile × Except Failure Json) :
    withAddress working registry name next = next (registry.addressOf name) := by
  simp only [withAddress, Registry.resolve_of_mem recorded]

theorem withAddress_of_not_mem {working : Profile} {registry : Registry} {name : ContractName}
    (absent : name ∉ registry.names) (next : String → Profile × Except Failure Json) :
    withAddress working registry name next =
      (working, .error (.unknownContract name none)) := by
  simp only [withAddress, Registry.resolve_of_not_mem absent]

private theorem withAddress_cleared {working : Profile} {registry : Registry}
    {name : ContractName} {next : String → Profile × Except Failure Json}
    (kept : ∀ address, (next address).1.cleared = working.cleared) :
    (withAddress working registry name next).1.cleared = working.cleared := by
  unfold withAddress
  cases registry.resolve name with
  | ok address => exact kept address
  | error failure => rfl

/-- Rendering fills in addresses and changes nothing else, also where it fails half-way. -/
theorem render_cleared (payload : Payload) (working : Profile) (registry : Registry) :
    (payload.render working registry).1.cleared = working.cleared := by
  cases payload with
  | engineInit collector =>
      apply withAddress_cleared
      intro insuranceFund
      rw [← Profile.cleared_withInsuranceFund working insuranceFund]
      apply withAddress_cleared
      intro pool
      rw [← Profile.cleared_withFeePool (working.withInsuranceFund insuranceFund) pool]
      exact withAddress_cleared (Profile.cleared_withVamm _)
  | vammInit => exact withAddress_cleared (Profile.cleared_withPriceFeed working)
  | vammSetMarginEngine => exact withAddress_cleared (fun engine => rfl)
  | insuranceFundAddVamm => exact withAddress_cleared (fun vamm => rfl)
  | insuranceFundSetBeneficiary => exact withAddress_cleared (fun engine => rfl)
  | _ => rfl

/-- The message, unless a contract of those that are looked up is not recorded. -/
def lookedUp (registry : Registry) (names : List ContractName) (message : Json) :
    Except Failure Json :=
  match names.find? fun name => name ∉ registry.names with
  | none => .ok message
  | some missing => .error (.unknownContract missing none)

theorem withAddress_lookedUp {working : Profile} {registry : Registry} {name : ContractName}
    {next : String → Profile × Except Failure Json} {rest : List ContractName} {message : Json}
    (onward : (next (registry.addressOf name)).2 = lookedUp registry rest message) :
    (withAddress working registry name next).2 = lookedUp registry (name :: rest) message := by
  unfold lookedUp
  by_cases recorded : name ∈ registry.names
  · rw [withAddress_of_mem recorded, onward, lookedUp,
      List.find?_cons_of_neg (by simpa using recorded)]
  · rw [withAddress_of_not_mem recorded, List.find?_cons_of_pos (by simpa using recorded)]

/-- What rendering gives is decided by the first contract that is looked up in vain. -/
theorem render_eq (payload : Payload) (working : Profile) (registry : Registry) :
    (payload.render working registry).2 =
      lookedUp registry payload.lookups (payload.message working registry.addressOf) := by
  cases payload with
  | engineInit collector =>
      apply withAddress_lookedUp
      apply withAddress_lookedUp
      apply withAddress_lookedUp
      rfl
  | vammInit => exact withAddress_lookedUp rfl
  | vammSetMarginEngine => exact withAddress_lookedUp rfl
  | insuranceFundAddVamm => exact withAddress_lookedUp rfl
  | insuranceFundSetBeneficiary => exact withAddress_lookedUp rfl
  | _ => rfl

/-- Rendering gives the message once every contract that it refers to is recorded. -/
theorem render_of_recorded {payload : Payload} {registry : Registry}
    (recorded : ∀ name ∈ payload.references, name ∈ registry.names) (working : Profile) :
    (payload.render working registry).2 = .ok (payload.message working registry.addressOf) := by
  have complete : payload.lookups.find? (fun name => name ∉ registry.names) = none := by
    rw [List.find?_eq_none]
    intro name sought
    simpa using recorded name ((mem_lookups_iff payload name).mp sought)
  rw [render_eq, lookedUp, complete]

/-- Rendering fails at a contract that it refers to and that is not recorded. -/
theorem render_of_missing {payload : Payload} {registry : Registry} {name : ContractName}
    (referred : name ∈ payload.references) (absent : name ∉ registry.names)
    (working : Profile) :
    ∃ missing ∈ payload.references, missing ∉ registry.names ∧
      (payload.render working registry).2 = .error (.unknownContract missing none) := by
  have sought := (mem_lookups_iff payload name).mpr referred
  cases found : payload.lookups.find? (fun name => name ∉ registry.names) with
  | none =>
      have recorded := List.find?_eq_none.mp found name sought
      exact absurd absent (by simpa using recorded)
  | some missing =>
      have among := List.mem_of_find?_eq_some found
      have lacking := List.find?_some found
      refine ⟨missing, (mem_lookups_iff payload missing).mp among, by simpa using lacking, ?_⟩
      rw [render_eq, lookedUp, found]

/-- Of the profile a message takes nothing that a run fills in. -/
theorem message_cleared (payload : Payload) (profile : Profile)
    (address : ContractName → String) :
    payload.message profile.cleared address = payload.message profile address := by
  cases payload <;> rfl

theorem message_of_cleared_eq {working profile : Profile}
    (same : working.cleared = profile.cleared) (payload : Payload)
    (address : ContractName → String) :
    payload.message working address = payload.message profile address := by
  rw [← message_cleared payload working, same, message_cleared]

/-- A message takes no other addresses than those of the contracts it refers to. -/
theorem message_congr {payload : Payload} {left right : ContractName → String}
    (agree : ∀ name ∈ payload.references, left name = right name) (profile : Profile) :
    payload.message profile left = payload.message profile right := by
  have same : ∀ name ∈ payload.lookups, left name = right name := fun name sought =>
    agree name ((mem_lookups_iff payload name).mp sought)
  cases payload <;> simp_all only [lookups, message, List.mem_cons, List.not_mem_nil, or_false,
    forall_eq_or_imp, forall_eq]

end Payload

end PerpDeploy
