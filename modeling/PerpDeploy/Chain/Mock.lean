/-
A chain in memory, for rehearsals. Its addresses count up behind a common mark, its
transactions count up too, and every query has the same answer. Failures can be asked for
by artifact, by message, and for all queries.
-/

import PerpDeploy.Chain.Client

namespace PerpDeploy

structure MockChain where
  addressMark : String
  queryAnswer : Json
  failingArtifacts : List String
  failingMessages : List String
  failingQueries : Bool

inductive MockCall
  | deploy (artifact : String) (message : Json) (label : String)
  | execute (contract : String) (message : Json)
  | query (contract : String) (message : Json)

structure MockState where
  deployments : Nat
  executions : Nat
  calls : List MockCall

namespace MockChain

def defaultAddressMark : String := "terra1mock"

def freshMarket : Json :=
  .object
    [ ("base_asset_reserve", .string "1000000000"),
      ("funding_rate", .string "0"),
      ("next_funding_time", .natural 0),
      ("quote_asset_reserve", .string "1200000000000"),
      ("total_position_size", .string "0") ]

def standard : MockChain :=
  { addressMark := defaultAddressMark
    queryAnswer := freshMarket
    failingArtifacts := []
    failingMessages := []
    failingQueries := false }

def initialState : MockState := { deployments := 0, executions := 0, calls := [] }

def upperHexDigit (value : Nat) : Char :=
  if value < 10 then Char.ofNat ('0'.toNat + value) else Char.ofNat ('A'.toNat + (value - 10))

/-- The number of a transaction, filled up with zeros to sixty-four digits. -/
def transactionHash (count : Nat) : String :=
  -- Four bits are one digit, and no digit is ever cut off.
  let digits := max 64 (count.log2 / 4 + 1)
  String.ofList
    ((List.range digits).reverse.map fun place => upperHexDigit (count / Nat.pow 16 place % 16))

def deploy (chain : MockChain) (artifact : Path) (message : Json) (label : String)
    (state : MockState) : Except Trail DeployedContract × MockState :=
  let stem := artifact.stem
  let state := { state with calls := state.calls ++ [.deploy stem message label] }
  if stem ∈ chain.failingArtifacts then
    (.error (Trail.ofText ("instantiation of " ++ stem ++ " rejected by mock chain")), state)
  else
    let count := state.deployments + 1
    (.ok { address := chain.addressMark ++ toString count, codeId := some count },
      { state with deployments := count })

def execute (chain : MockChain) (contract : String) (message : Json) (state : MockState) :
    Except Trail ExecuteReceipt × MockState :=
  let name := messageName message
  let state := { state with calls := state.calls ++ [.execute contract message] }
  if name ∈ chain.failingMessages then
    (.error (Trail.ofText
      ("execute " ++ name ++ " on " ++ contract ++ " rejected by mock chain: unauthorized")), state)
  else
    let count := state.executions + 1
    (.ok { transaction := transactionHash count }, { state with executions := count })

def query (chain : MockChain) (contract : String) (message : Json) (state : MockState) :
    Except Trail Json × MockState :=
  let state := { state with calls := state.calls ++ [.query contract message] }
  if chain.failingQueries then
    (.error (Trail.ofText
      ("query " ++ messageName message ++ " on " ++ contract ++ " failed on mock chain")), state)
  else (.ok chain.queryAnswer, state)

def client (chain : MockChain) : ChainClient MockState :=
  { answer := fun request state =>
      match request with
      | .accountAddress identity => (.ok (chain.addressMark ++ "-" ++ identity.keyName), state)
      | .deploy _ artifact message label => chain.deploy artifact message label state
      | .execute _ contract message => chain.execute contract message state
      | .query contract message => chain.query contract message state }

end MockChain

end PerpDeploy
