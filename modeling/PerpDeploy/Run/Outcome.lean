/-
What becomes of a step, and what an observer of a run gets to see.
-/

import PerpDeploy.Chain.Client
import PerpDeploy.Contract.Record
import PerpDeploy.Json.Printer
import PerpDeploy.Pipeline.Basic

namespace PerpDeploy

inductive StepOutcome
  | deployed (record : ContractRecord)
  | executed (receipt : ExecuteReceipt)
  | queried (answer : Json)
  /-- A failed query is told and does not stop the run. -/
  | queryFailed (reason : String)
  | failed (reason : String)

structure StepReport where
  label : String
  kind : StepKind
  outcome : StepOutcome

inductive Notice
  | started (step : Step)
  | reported (step : Step) (outcome : StepOutcome)

def Notice.entry? : Notice → Option (String × StepOutcome)
  | .started _ => none
  | .reported step outcome => some (step.label, outcome)

inductive LogLevel
  | info
  | warning
  | error
  deriving DecidableEq, Repr

structure LogEvent where
  level : LogLevel
  message : String
  fields : List (String × String)
  deriving DecidableEq, Repr

private def optionalNumber : Option Nat → String
  | none => "None"
  | some value => "Some(" ++ toString value ++ ")"

def Notice.logEvent : Notice → LogEvent
  | .started step =>
      { level := .info, message := step.label ++ "..."
        fields := [("contract", step.contract.text), ("kind", step.kind.text)] }
  | .reported step (.deployed record) =>
      { level := .info, message := "✓ " ++ step.label ++ ": " ++ record.address
        fields :=
          [ ("contract", record.name.text), ("address", record.address),
            ("code_id", optionalNumber record.codeId) ] }
  | .reported step (.executed receipt) =>
      { level := .info, message := "✓ " ++ step.label
        fields := [("tx_hash", receipt.transaction)] }
  | .reported step (.queried answer) =>
      { level := .info, message := "✓ " ++ step.label ++ ":\n" ++ answer.pretty, fields := [] }
  | .reported step (.queryFailed reason) =>
      { level := .warning, message := "✗ " ++ step.label ++ " (diagnostic only)"
        fields := [("error", reason)] }
  | .reported step (.failed reason) =>
      { level := .error, message := "✗ " ++ step.label
        fields := [("contract", step.contract.text), ("error", reason)] }

end PerpDeploy
