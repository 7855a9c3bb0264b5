/-
Where a message holds the addresses of contracts. The message for other addresses is the same
message with these places filled anew, and nothing else in it depends on an address.
-/

import PerpDeploy.Proofs.Json.Place
import PerpDeploy.Proofs.Pipeline.Rendering

namespace PerpDeploy

/-- A place that is filled with the address of a contract. -/
structure Injection where
  contract : ContractName
  place : Json.Place
  deriving DecidableEq, Repr

namespace Payload

def injections : Payload → List Injection
  | .vammInit => [⟨.priceFeed, [.field "pricefeed"]⟩]
  | .engineInit collector =>
      [ ⟨.insuranceFund, [.field "insurance_fund"]⟩, ⟨collector, [.field "fee_pool"]⟩,
        ⟨.vamm, [.field "vamm", .item 0]⟩ ]
  | .vammSetMarginEngine => [⟨.engine, [.field "update_config", .field "margin_engine"]⟩]
  | .insuranceFundAddVamm => [⟨.vamm, [.field "add_vamm", .field "vamm"]⟩]
  | .insuranceFundSetBeneficiary => [⟨.engine, [.field "update_config", .field "beneficiary"]⟩]
  | _ => []

/-- The message with its places filled with other addresses. -/
def readdressed (payload : Payload) (address : ContractName → String) (message : Json) : Json :=
  payload.injections.foldl
    (fun json injection => json.replaceAt injection.place (.string (address injection.contract)))
    message

/-- Every address that is looked up is filled in at one place. -/
theorem contracts_injections (payload : Payload) :
    payload.injections.map Injection.contract = payload.lookups := by
  cases payload <;> rfl

theorem contract_mem_references {payload : Payload} {injection : Injection}
    (filled : injection ∈ payload.injections) : injection.contract ∈ payload.references := by
  rw [← mem_lookups_iff, ← contracts_injections]
  exact List.mem_map_of_mem filled

theorem at?_message {payload : Payload} {injection : Injection}
    (filled : injection ∈ payload.injections) (profile : Profile)
    (address : ContractName → String) :
    (payload.message profile address).at? injection.place =
      some (.string (address injection.contract)) := by
  cases payload <;> simp only [injections, List.mem_cons, List.not_mem_nil, or_false] at filled
  case engineInit collector => rcases filled with rfl | rfl | rfl <;> rfl
  all_goals
    subst filled
    rfl

theorem readdressed_message (payload : Payload) (profile : Profile)
    (before after : ContractName → String) :
    payload.readdressed after (payload.message profile before) =
      payload.message profile after := by
  cases payload <;> rfl

/-- Away from the places that are filled anew the message stays as it is. -/
theorem at?_readdressed {payload : Payload} {place : Json.Place}
    (apart : ∀ injection ∈ payload.injections, injection.place.Apart place)
    (address : ContractName → String) (message : Json) :
    (payload.readdressed address message).at? place = message.at? place := by
  unfold readdressed
  generalize payload.injections = injections at apart ⊢
  induction injections generalizing message with
  | nil => rfl
  | cons first rest ih =>
      have others : ∀ injection ∈ rest, injection.place.Apart place := fun injection later =>
        apart injection (List.mem_cons_of_mem first later)
      rw [List.foldl_cons, ih _ others]
      exact Json.at?_replaceAt_apart (apart first List.mem_cons_self) _ _

end Payload

end PerpDeploy
