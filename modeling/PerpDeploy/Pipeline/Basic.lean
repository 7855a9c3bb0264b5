/-
The steps of a deployment in order. Each step deploys a contract, or executes or queries
one that an earlier step has deployed.
-/

import PerpDeploy.Pipeline.Payload

namespace PerpDeploy

inductive StepKind
  | deploy
  | execute
  | query
  deriving DecidableEq, Repr

def StepKind.text : StepKind → String
  | .deploy => "deploy"
  | .execute => "execute"
  | .query => "query"

structure Step where
  label : String
  kind : StepKind
  /-- The contract that the step deploys, or the one that it addresses. -/
  contract : ContractName
  payload : Payload
  deriving DecidableEq, Repr

namespace Step

def deploying (contract : ContractName) (payload : Payload) : Step :=
  { label := "Deploy " ++ contract.title, kind := .deploy, contract, payload }

def executing (label : String) (contract : ContractName) (payload : Payload) : Step :=
  { label, kind := .execute, contract, payload }

def querying (label : String) (contract : ContractName) (payload : Payload) : Step :=
  { label, kind := .query, contract, payload }

/-- The contracts that are to be recorded before the step runs. -/
def dependencies (step : Step) : List ContractName :=
  let references := step.payload.references
  if step.kind = .deploy ∨ step.contract ∈ references then references
  else step.contract :: references

def instanceLabel (step : Step) : String := "margined-" ++ step.contract.text

end Step

structure Pipeline where
  steps : List Step
  deriving DecidableEq, Repr

namespace Pipeline

def stepIf (condition : Bool) (step : Step) : List Step := if condition then [step] else []

def feeCollector (profile : Profile) : ContractName :=
  match profile.topology.feePool with
  | .dedicated => .feePool
  | .sharedWithInsuranceFund => .insuranceFund

def forProfile (profile : Profile) : Pipeline :=
  let collector := feeCollector profile
  { steps :=
      [Step.deploying .insuranceFund .insuranceFundInit] ++
      stepIf (collector == .feePool) (Step.deploying .feePool .feePoolInit) ++
      [ Step.deploying .priceFeed .priceFeedInit,
        Step.deploying .vamm .vammInit,
        Step.deploying .engine (.engineInit collector),
        Step.executing "Set Margin Engine in vAMM" .vamm .vammSetMarginEngine ] ++
      stepIf profile.topology.registersVamm
        (Step.executing "Register vAMM in Insurance Fund" .insuranceFund .insuranceFundAddVamm) ++
      stepIf profile.topology.registersBeneficiary
        (Step.executing "Set Margin Engine as Insurance Fund beneficiary" .insuranceFund
          .insuranceFundSetBeneficiary) ++
      [ Step.executing "Set vAMM Open" .vamm .vammSetOpen,
        Step.querying "Query vAMM state" .vamm .vammState ] }

def deployedContracts (pipeline : Pipeline) : List ContractName :=
  (pipeline.steps.filter fun step => step.kind == .deploy).map Step.contract

/-- The contracts deployed after one more step, if the step may stand here. -/
def admitStep (deployed : List ContractName) (step : Step) : Except Failure (List ContractName) :=
  match step.dependencies.find? fun dependency => !deployed.contains dependency with
  | some missing => .error (.unknownContract missing (some step.label))
  | none =>
      if step.kind = .deploy then
        if step.contract ∈ deployed then
          .error (.configuration
            ("step '" ++ step.label ++ "' deploys " ++ step.contract.text ++ " a second time"))
        else .ok (deployed ++ [step.contract])
      else .ok deployed

def admitSteps : List ContractName → List Step → Except Failure Unit
  | _, [] => .ok ()
  | deployed, step :: rest =>
      match admitStep deployed step with
      | .ok next => admitSteps next rest
      | .error failure => .error failure

/-- Each step depends on contracts of earlier steps only, and none deploys a contract twice. -/
def validate (pipeline : Pipeline) : Except Failure Unit := admitSteps [] pipeline.steps

end Pipeline

end PerpDeploy
