/-
What a run asks of a chain. A client answers one request after the other and keeps a
state of its own between them.
-/

import PerpDeploy.Failure

namespace PerpDeploy

/-- The account that signs: a key of the keyring, and the mnemonic it can be recovered from. -/
structure Identity where
  keyName : String
  mnemonic : Option String
  deriving DecidableEq, Repr

inductive ChainRequest
  | accountAddress (identity : Identity)
  | deploy (identity : Identity) (artifact : Path) (message : Json) (label : String)
  | execute (identity : Identity) (contract : String) (message : Json)
  | query (contract : String) (message : Json)

structure DeployedContract where
  address : String
  codeId : Option Nat
  deriving DecidableEq, Repr

structure ExecuteReceipt where
  transaction : String
  deriving DecidableEq, Repr

abbrev ChainRequest.Reply : ChainRequest → Type
  | .accountAddress _ => String
  | .deploy .. => DeployedContract
  | .execute .. => ExecuteReceipt
  | .query .. => Json

structure ChainClient (σ : Type) where
  answer : (request : ChainRequest) → σ → Except Trail request.Reply × σ

/-- The name of a message: its first field in canonical order. -/
def messageName : Json → String
  | .object ((name, _) :: _) => name
  | _ => "<empty>"

end PerpDeploy
