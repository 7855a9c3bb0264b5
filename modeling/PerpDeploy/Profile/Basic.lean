/-
The configuration profile of a network: the message that creates each contract, and how
the contracts are wired together. A run fills addresses into a copy of its profile.
-/

import PerpDeploy.Contract.Message
import PerpDeploy.Failure

namespace PerpDeploy

inductive FeePoolTopology
  | sharedWithInsuranceFund
  | dedicated
  deriving DecidableEq, Repr

structure Topology where
  feePool : FeePoolTopology
  /-- The insurance fund gets to know the market once the engine is deployed. -/
  registersVamm : Bool
  /-- The engine becomes the beneficiary of the insurance fund. -/
  registersBeneficiary : Bool
  deriving DecidableEq, Repr

structure Profile where
  network : String
  addressPrefix : String
  eligibleCollateral : String
  topology : Topology
  insuranceFundInit : InsuranceFundInit
  feePoolInit : FeePoolInit
  priceFeedInit : PriceFeedInit
  vammInit : VammInit
  engineInit : EngineInit
  tokenInit : TokenInit
  deriving DecidableEq, Repr

namespace Profile

def contractDecimals : Nat := 6

def standardRatio : String := "50000"

def oneHour : Nat := 3600

def standard (network : String) (topology : Topology) : Profile :=
  { network
    addressPrefix := "terra"
    eligibleCollateral := "uusd"
    topology
    insuranceFundInit := {}
    feePoolInit := {}
    priceFeedInit := { decimals := contractDecimals, oracleHubContract := "" }
    vammInit :=
      { decimals := contractDecimals
        priceFeed := ""
        quoteAsset := "USDC"
        baseAsset := "ETH"
        quoteAssetReserve := "1200000000000"
        baseAssetReserve := "1000000000"
        fundingPeriod := oneHour
        tollRatio := "0"
        spreadRatio := "0"
        fluctuationLimitRatio := "0" }
    engineInit :=
      { decimals := contractDecimals
        insuranceFund := ""
        feePool := ""
        eligibleCollateral := ""
        initialMarginRatio := standardRatio
        maintenanceMarginRatio := standardRatio
        liquidationFee := standardRatio
        vamms := [] }
    tokenInit :=
      { name := "margined_usd"
        symbol := "musd"
        decimals := contractDecimals
        initialBalances := [] } }

def localName : String := "local"

def testnetName : String := "testnet"

/-- The insurance fund serves as fee pool, and nothing further is wired. -/
def localChain : Profile :=
  standard localName
    { feePool := .sharedWithInsuranceFund, registersVamm := false, registersBeneficiary := false }

/-- A fee pool of its own, and an insurance fund that knows its market and its beneficiary. -/
def testnet : Profile :=
  standard testnetName
    { feePool := .dedicated, registersVamm := true, registersBeneficiary := true }

def forNetwork (network : String) : Except Failure Profile :=
  if network = localName then .ok localChain
  else if network = testnetName then .ok testnet
  else .error (.configuration
    ("no configuration profile for network '" ++ network ++ "' (expected 'local' or 'testnet')"))

end Profile

end PerpDeploy
