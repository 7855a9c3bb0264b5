/-
Why a run stops. A failure that comes from outside keeps the trail of its causes, the
outermost first, down to the fault that started it.
-/

import PerpDeploy.Codec.Hex
import PerpDeploy.Contract.Name
import PerpDeploy.FileTree
import PerpDeploy.Number.Natural

namespace PerpDeploy

/-- One link of a trail: a text of this program, or a fault found by what it relies on. -/
inductive Cause
  | text (message : String)
  | json (fault : Json.Fault)
  | file (fault : FileFault)
  | hex (fault : Codec.HexFault)
  | natural (fault : Number.NaturalFault)
  | unanswered
  | unreadable
  | settings
  deriving DecidableEq, Repr

def Json.Fault.message : Json.Fault → String
  | .malformed => "the text is not JSON"
  | .truncated => "the JSON text ends too early"
  | .mismatched => "the JSON value has another shape"

def Cause.message : Cause → String
  | .text message => message
  | .json fault => fault.message
  | .file fault => fault.message
  | .hex fault => fault.message
  | .natural fault => fault.message
  | .unanswered => "no answer to the request"
  | .unreadable => "the answer is not JSON"
  | .settings => "the settings cannot be merged"

/-- A cause and what lies behind it. -/
structure Trail where
  outermost : Cause
  inner : List Cause
  deriving DecidableEq, Repr

namespace Trail

def ofCause (cause : Cause) : Trail := { outermost := cause, inner := [] }

def ofText (message : String) : Trail := ofCause (.text message)

def within (trail : Trail) (message : String) : Trail :=
  { outermost := .text message, inner := trail.outermost :: trail.inner }

def causes (trail : Trail) : List Cause := trail.outermost :: trail.inner

def oneLine (trail : Trail) : String :=
  ": ".intercalate (trail.causes.map Cause.message)

private def indented (firstIndent restIndent : String) (message : String) : String :=
  firstIndent ++ ("\n" ++ restIndent).intercalate (message.splitOn "\n")

private def numberedCause (entry : Cause × Nat) : String :=
  let number := toString entry.2
  let padding := String.ofList (List.replicate (5 - number.length) ' ')
  indented (padding ++ number ++ ": ") "       " entry.1.message

/-- The causes below one another, numbered if there are several behind the outermost. -/
def report (trail : Trail) : String :=
  let head := trail.outermost.message
  match trail.inner with
  | [] => head
  | [cause] => head ++ "\n\nCaused by:\n" ++ indented "    " "    " cause.message
  | causes => head ++ "\n\nCaused by:\n" ++ "\n".intercalate (causes.zipIdx.map numberedCause)

end Trail

inductive Failure
  /-- A mode, an endpoint, a secret or a field of the profile is bad or missing. -/
  | configuration (reason : String)
  | deployment (label : String) (contract : ContractName) (source : Trail)
  | execution (label : String) (contract : ContractName) (address : String) (source : Trail)
  | query (label : String) (contract : ContractName) (address : String) (source : Trail)
  | duplicateRegistration (name : ContractName) (existing : String)
  /-- No earlier step has deployed the contract. -/
  | unknownContract (name : ContractName) (step : Option String)
  | manifest (path : Path) (source : Trail)
  deriving DecidableEq, Repr

namespace Failure

private def stepSuffix : Option String → String
  | none => ""
  | some label => " (referenced by step '" ++ label ++ "')"

def message : Failure → String
  | .configuration reason => "configuration error: " ++ reason
  | .deployment label contract _ =>
      "step '" ++ label ++ "' failed to deploy " ++ contract.text
  | .execution label contract address _ =>
      "step '" ++ label ++ "' failed to execute on " ++ contract.text ++ " (" ++ address ++ ")"
  | .query label contract address _ =>
      "step '" ++ label ++ "' failed to query " ++ contract.text ++ " (" ++ address ++ ")"
  | .duplicateRegistration name existing =>
      "contract " ++ name.text ++ " is already registered at " ++ existing
  | .unknownContract name step =>
      "contract " ++ name.text ++ " has not been deployed yet" ++ stepSuffix step
  | .manifest path _ => "deployment manifest error at " ++ path

def source? : Failure → Option Trail
  | .deployment _ _ source => some source
  | .execution _ _ _ source => some source
  | .query _ _ _ source => some source
  | .manifest _ source => some source
  | _ => none

def stepLabel? : Failure → Option String
  | .deployment label _ _ => some label
  | .execution label _ _ _ => some label
  | .query label _ _ _ => some label
  | .unknownContract _ step => step
  | _ => none

def trail (failure : Failure) : Trail :=
  { outermost := .text failure.message
    inner := (failure.source?.map Trail.causes).getD [] }

end Failure

end PerpDeploy
