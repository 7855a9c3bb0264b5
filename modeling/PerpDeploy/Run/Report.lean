/-
The report of a completed run, and its text for the operator.
-/

import PerpDeploy.Run.Outcome
import PerpDeploy.Run.Table

namespace PerpDeploy

structure Report where
  network : String
  fingerprint : String
  deployer : String
  contracts : List ContractRecord
  steps : List StepReport
  /-- The state of the market at the end, if it could be queried. -/
  vammState : Option Json

namespace Report

def addressOf? (report : Report) (name : ContractName) : Option String :=
  (report.contracts.find? fun record => record.name == name).map ContractRecord.address

private def row (record : ContractRecord) : List String :=
  [ toString record.ordinal, record.name.text, record.address,
    (record.codeId.map fun codeId => toString codeId).getD "-" ]

def contractsTable (report : Report) : Table :=
  { header := ["#", "Contract", "Address", "Code ID"]
    rows := report.contracts.map row }

private def stateText : Option Json → String
  | some state => "vAMM state:\n" ++ state.pretty ++ "\n"
  | none => "vAMM state: unavailable\n"

def text (report : Report) : String :=
  "Network:  " ++ report.network ++ "\n" ++
    "Deployer: " ++ report.deployer ++ "\n" ++
    "Profile:  " ++ report.fingerprint ++ "\n\n" ++
    report.contractsTable.draw ++ "\n" ++
    stateText report.vammState

end Report

end PerpDeploy
