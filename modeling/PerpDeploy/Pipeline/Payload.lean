/-
The messages that steps send. A message is made when its step runs, from the working
profile and the addresses recorded so far; addresses go into the working profile first.
-/

import PerpDeploy.Contract.Record
import PerpDeploy.Profile.Basic

namespace PerpDeploy

/-! ### Filling addresses into a profile -/

def Profile.withPriceFeed (profile : Profile) (address : String) : Profile :=
  { profile with vammInit := { profile.vammInit with priceFeed := address } }

def Profile.withInsuranceFund (profile : Profile) (address : String) : Profile :=
  { profile with engineInit := { profile.engineInit with insuranceFund := address } }

/-- The engine takes the collateral of the profile along with its fee pool. -/
def Profile.withFeePool (profile : Profile) (address : String) : Profile :=
  { profile with
    engineInit :=
      { profile.engineInit with
        feePool := address
        eligibleCollateral := profile.eligibleCollateral } }

def Profile.withVamm (profile : Profile) (address : String) : Profile :=
  { profile with engineInit := { profile.engineInit with vamms := [address] } }

inductive Payload
  | insuranceFundInit
  | feePoolInit
  | priceFeedInit
  | vammInit
  /-- Fees go to `collector`, which may be the insurance fund. -/
  | engineInit (collector : ContractName)
  | vammSetMarginEngine
  | insuranceFundAddVamm
  | insuranceFundSetBeneficiary
  | vammSetOpen
  | vammState
  deriving DecidableEq, Repr

namespace Payload

def describe : Payload → String
  | .insuranceFundInit => "InsuranceFundInit"
  | .feePoolInit => "FeePoolInit"
  | .priceFeedInit => "PriceFeedInit"
  | .vammInit => "VammInit"
  | .engineInit collector => "EngineInit \x7b fee_pool: " ++ collector.identifier ++ " \x7d"
  | .vammSetMarginEngine => "VammSetMarginEngine"
  | .insuranceFundAddVamm => "InsuranceFundAddVamm"
  | .insuranceFundSetBeneficiary => "InsuranceFundSetBeneficiary"
  | .vammSetOpen => "VammSetOpen"
  | .vammState => "VammState"

/-- The contracts whose addresses the message holds. -/
def references : Payload → List ContractName
  | .insuranceFundInit => []
  | .feePoolInit => []
  | .priceFeedInit => []
  | .vammInit => [.priceFeed]
  | .engineInit collector =>
      let always := [.insuranceFund, .vamm]
      if collector ∈ always then always else always ++ [collector]
  | .vammSetMarginEngine => [.engine]
  | .insuranceFundAddVamm => [.vamm]
  | .insuranceFundSetBeneficiary => [.engine]
  | .vammSetOpen => []
  | .vammState => []

def rendered (working : Profile) (message : Json) : Profile × Except Failure Json :=
  (working, .ok message.canonical)

def withAddress (working : Profile) (registry : Registry) (name : ContractName)
    (next : String → Profile × Except Failure Json) : Profile × Except Failure Json :=
  match registry.resolve name with
  | .ok address => next address
  | .error failure => (working, .error failure)

/-- The message and the working profile after it. What was filled in before a failure stays. -/
def render (payload : Payload) (working : Profile) (registry : Registry) :
    Profile × Except Failure Json :=
  match payload with
  | .insuranceFundInit => rendered working working.insuranceFundInit.encode
  | .feePoolInit => rendered working working.feePoolInit.encode
  | .priceFeedInit => rendered working working.priceFeedInit.encode
  | .vammInit =>
      withAddress working registry .priceFeed fun priceFeed =>
        let filled := working.withPriceFeed priceFeed
        rendered filled filled.vammInit.encode
  | .engineInit collector =>
      withAddress working registry .insuranceFund fun insuranceFund =>
        let funded := working.withInsuranceFund insuranceFund
        withAddress funded registry collector fun pool =>
          let pooled := funded.withFeePool pool
          withAddress pooled registry .vamm fun vamm =>
            let filled := pooled.withVamm vamm
            rendered filled filled.engineInit.encode
  | .vammSetMarginEngine =>
      withAddress working registry .engine fun engine =>
        rendered working (VammExecute.updateConfig none (some engine) none).encode
  | .insuranceFundAddVamm =>
      withAddress working registry .vamm fun vamm =>
        rendered working (InsuranceFundExecute.addVamm vamm).encode
  | .insuranceFundSetBeneficiary =>
      withAddress working registry .engine fun engine =>
        rendered working (InsuranceFundExecute.updateConfig none (some engine)).encode
  | .vammSetOpen => rendered working (VammExecute.setOpen true).encode
  | .vammState => rendered working VammQuery.state.encode

end Payload

end PerpDeploy
