/-
The contracts of a deployment and the names they go by.
-/

import PerpDeploy.Json.Decoder

namespace PerpDeploy

inductive ContractName
  | insuranceFund
  | feePool
  | priceFeed
  | vamm
  | engine
  deriving DecidableEq, Repr, Inhabited

namespace ContractName

def all : List ContractName := [.insuranceFund, .feePool, .priceFeed, .vamm, .engine]

theorem mem_all (name : ContractName) : name ∈ all := by
  cases name <;> decide

def text : ContractName → String
  | .insuranceFund => "insurance_fund"
  | .feePool => "fee_pool"
  | .priceFeed => "price_feed"
  | .vamm => "vamm"
  | .engine => "engine"

def ofText? (text : String) : Option ContractName := all.find? fun name => name.text == text

/-- The constructor's name as diagnostics show it. -/
def identifier : ContractName → String
  | .insuranceFund => "InsuranceFund"
  | .feePool => "FeePool"
  | .priceFeed => "PriceFeed"
  | .vamm => "Vamm"
  | .engine => "Engine"

def artifact : ContractName → String
  | .insuranceFund => "margined_insurance_fund"
  | .feePool => "margined_fee_pool"
  | .priceFeed => "mock_pricefeed"
  | .vamm => "margined_vamm"
  | .engine => "margined_engine"

def title : ContractName → String
  | .insuranceFund => "Insurance Fund"
  | .feePool => "Fee Pool"
  | .priceFeed => "Mock PriceFeed"
  | .vamm => "vAMM"
  | .engine => "Margin Engine"

def encode (name : ContractName) : Json := .string name.text

def decoder : Json.Decoder ContractName :=
  Json.Alternative.decoder (all.map fun name => .plain name.text name)

end ContractName

end PerpDeploy
