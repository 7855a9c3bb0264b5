/-
What a client answers to requests sent one after the other. The answers of a run are those
to the requests that it has sent, so a statement about a run can speak of them without
looking into the state of the client.
-/

import PerpDeploy.Chain.Client

namespace PerpDeploy

/-- A request and the answer to it. -/
structure Exchange where
  request : ChainRequest
  reply : Except Trail request.Reply

/-- The label and the address of a contract that the chain has made. -/
def Exchange.deployed? : Exchange → Option (String × String)
  | ⟨.deploy _ _ _ label, .ok contract⟩ => some (label, contract.address)
  | _ => none

/-- A contract that was not made, or a transaction that was not executed. -/
def Exchange.Refused : Exchange → Prop
  | ⟨.deploy .., .error _⟩ => True
  | ⟨.execute .., .error _⟩ => True
  | _ => False

namespace ChainClient

variable {σ : Type}

def converse (client : ChainClient σ) : List ChainRequest → σ → List Exchange
  | [], _ => []
  | request :: rest, state =>
      ⟨request, (client.answer request state).1⟩ ::
        client.converse rest (client.answer request state).2

def settle (client : ChainClient σ) : List ChainRequest → σ → σ
  | [], state => state
  | request :: rest, state => client.settle rest (client.answer request state).2

theorem settle_append (client : ChainClient σ) (front back : List ChainRequest) (state : σ) :
    client.settle (front ++ back) state = client.settle back (client.settle front state) := by
  induction front generalizing state with
  | nil => rfl
  | cons request rest ih => exact ih _

theorem converse_append (client : ChainClient σ) (front back : List ChainRequest) (state : σ) :
    client.converse (front ++ back) state =
      client.converse front state ++ client.converse back (client.settle front state) := by
  induction front generalizing state with
  | nil => rfl
  | cons request rest ih =>
      simp only [List.cons_append, converse, settle]
      rw [ih]

theorem converse_requests (client : ChainClient σ) (requests : List ChainRequest) (state : σ) :
    (client.converse requests state).map Exchange.request = requests := by
  induction requests generalizing state with
  | nil => rfl
  | cons request rest ih => simp only [converse, List.map_cons, ih]

end ChainClient

end PerpDeploy
