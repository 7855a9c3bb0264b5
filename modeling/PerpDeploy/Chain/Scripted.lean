/-
A chain whose answers are prepared: the first request gets the first of them, and so on.
-/

import PerpDeploy.Chain.Client

namespace PerpDeploy

/-- One prepared answer, good for whatever is asked for. -/
structure PreparedAnswer where
  address : String
  codeId : Option Nat
  transaction : String
  data : Json

abbrev Script := List (Except Trail PreparedAnswer)

namespace Script

def exhausted : Trail := Trail.ofText "script exhausted"

def replyTo (answer : PreparedAnswer) : (request : ChainRequest) → request.Reply
  | .accountAddress _ => answer.address
  | .deploy .. => { address := answer.address, codeId := answer.codeId }
  | .execute .. => { transaction := answer.transaction }
  | .query .. => answer.data

def client : ChainClient Script :=
  { answer := fun request script =>
      match script with
      | [] => (.error exhausted, [])
      | .error trail :: rest => (.error trail, rest)
      | .ok answer :: rest => (.ok (replyTo answer request), rest) }

end Script

end PerpDeploy
