/-
The messages that the contracts take: one that creates each contract, and those that
change or query the market and the insurance fund. Amounts and ratios are decimal text.
-/

import PerpDeploy.Json.Decoder

namespace PerpDeploy

open Json (Fields Alternative)

structure InsuranceFundInit where
  deriving DecidableEq, Repr

structure FeePoolInit where
  deriving DecidableEq, Repr

structure PriceFeedInit where
  decimals : Nat
  oracleHubContract : String
  deriving DecidableEq, Repr

/-- The address of the price feed is filled in during a run. -/
structure VammInit where
  decimals : Nat
  priceFeed : String
  quoteAsset : String
  baseAsset : String
  quoteAssetReserve : String
  baseAssetReserve : String
  fundingPeriod : Nat
  tollRatio : String
  spreadRatio : String
  fluctuationLimitRatio : String
  deriving DecidableEq, Repr

/-- The addresses of the fund, the pool and the markets are filled in during a run. -/
structure EngineInit where
  decimals : Nat
  insuranceFund : String
  feePool : String
  eligibleCollateral : String
  initialMarginRatio : String
  maintenanceMarginRatio : String
  liquidationFee : String
  vamms : List String
  deriving DecidableEq, Repr

structure TokenBalance where
  address : String
  amount : String
  deriving DecidableEq, Repr

structure TokenInit where
  name : String
  symbol : String
  decimals : Nat
  initialBalances : List TokenBalance
  deriving DecidableEq, Repr

inductive VammExecute
  | updateConfig (owner marginEngine priceFeed : Option String)
  | setOpen (isOpen : Bool)
  deriving DecidableEq, Repr

inductive InsuranceFundExecute
  | updateConfig (owner beneficiary : Option String)
  | addVamm (vamm : String)
  deriving DecidableEq, Repr

inductive VammQuery
  | config
  | state
  deriving DecidableEq, Repr

/-- A field that is left out when it has no value. -/
def presentField (name : String) : Option String → List (String × Json)
  | none => []
  | some value => [(name, .string value)]

def InsuranceFundInit.encode (_ : InsuranceFundInit) : Json := .object []

def InsuranceFundInit.decoder : Json.Decoder InsuranceFundInit :=
  (Fields.pure InsuranceFundInit.mk).decoder

def FeePoolInit.encode (_ : FeePoolInit) : Json := .object []

def FeePoolInit.decoder : Json.Decoder FeePoolInit :=
  (Fields.pure FeePoolInit.mk).decoder

def PriceFeedInit.encode (init : PriceFeedInit) : Json :=
  .object
    [ ("decimals", .natural init.decimals),
      ("oracle_hub_contract", .string init.oracleHubContract) ]

def PriceFeedInit.decoder : Json.Decoder PriceFeedInit :=
  (PriceFeedInit.mk <$> Fields.required "decimals" Json.Decoder.byte
    <*> Fields.required "oracle_hub_contract" Json.Decoder.string).decoder

def VammInit.encode (init : VammInit) : Json :=
  .object
    [ ("decimals", .natural init.decimals),
      ("pricefeed", .string init.priceFeed),
      ("quote_asset", .string init.quoteAsset),
      ("base_asset", .string init.baseAsset),
      ("quote_asset_reserve", .string init.quoteAssetReserve),
      ("base_asset_reserve", .string init.baseAssetReserve),
      ("funding_period", .natural init.fundingPeriod),
      ("toll_ratio", .string init.tollRatio),
      ("spread_ratio", .string init.spreadRatio),
      ("fluctuation_limit_ratio", .string init.fluctuationLimitRatio) ]

def VammInit.decoder : Json.Decoder VammInit :=
  (VammInit.mk <$> Fields.required "decimals" Json.Decoder.byte
    <*> Fields.required "pricefeed" Json.Decoder.string
    <*> Fields.required "quote_asset" Json.Decoder.string
    <*> Fields.required "base_asset" Json.Decoder.string
    <*> Fields.required "quote_asset_reserve" Json.Decoder.string
    <*> Fields.required "base_asset_reserve" Json.Decoder.string
    <*> Fields.required "funding_period" Json.Decoder.word
    <*> Fields.required "toll_ratio" Json.Decoder.string
    <*> Fields.required "spread_ratio" Json.Decoder.string
    <*> Fields.required "fluctuation_limit_ratio" Json.Decoder.string).decoder

def EngineInit.encode (init : EngineInit) : Json :=
  .object
    [ ("decimals", .natural init.decimals),
      ("insurance_fund", .string init.insuranceFund),
      ("fee_pool", .string init.feePool),
      ("eligible_collateral", .string init.eligibleCollateral),
      ("initial_margin_ratio", .string init.initialMarginRatio),
      ("maintenance_margin_ratio", .string init.maintenanceMarginRatio),
      ("liquidation_fee", .string init.liquidationFee),
      ("vamm", .strings init.vamms) ]

def EngineInit.decoder : Json.Decoder EngineInit :=
  (EngineInit.mk <$> Fields.required "decimals" Json.Decoder.byte
    <*> Fields.required "insurance_fund" Json.Decoder.string
    <*> Fields.required "fee_pool" Json.Decoder.string
    <*> Fields.required "eligible_collateral" Json.Decoder.string
    <*> Fields.required "initial_margin_ratio" Json.Decoder.string
    <*> Fields.required "maintenance_margin_ratio" Json.Decoder.string
    <*> Fields.required "liquidation_fee" Json.Decoder.string
    <*> Fields.required "vamm" (Json.Decoder.list Json.Decoder.string)).decoder

def TokenBalance.encode (balance : TokenBalance) : Json :=
  .object [("address", .string balance.address), ("amount", .string balance.amount)]

def TokenBalance.decoder : Json.Decoder TokenBalance :=
  (TokenBalance.mk <$> Fields.required "address" Json.Decoder.string
    <*> Fields.required "amount" Json.Decoder.string).decoder

def TokenInit.encode (init : TokenInit) : Json :=
  .object
    [ ("name", .string init.name),
      ("symbol", .string init.symbol),
      ("decimals", .natural init.decimals),
      ("initial_balances", .array (init.initialBalances.map TokenBalance.encode)) ]

def TokenInit.decoder : Json.Decoder TokenInit :=
  (TokenInit.mk <$> Fields.required "name" Json.Decoder.string
    <*> Fields.required "symbol" Json.Decoder.string
    <*> Fields.required "decimals" Json.Decoder.byte
    <*> Fields.required "initial_balances" (Json.Decoder.list TokenBalance.decoder)).decoder

def VammExecute.encode : VammExecute → Json
  | .updateConfig owner marginEngine priceFeed =>
      .object [("update_config", .object
        (presentField "owner" owner ++ presentField "margin_engine" marginEngine ++
          presentField "pricefeed" priceFeed))]
  | .setOpen isOpen => .object [("set_open", .object [("open", .bool isOpen)])]

def VammExecute.decoder : Json.Decoder VammExecute :=
  Alternative.decoder
    [ .record "update_config"
        (VammExecute.updateConfig <$> Fields.omissible "owner" Json.Decoder.string
          <*> Fields.omissible "margin_engine" Json.Decoder.string
          <*> Fields.omissible "pricefeed" Json.Decoder.string),
      .record "set_open" (VammExecute.setOpen <$> Fields.required "open" Json.Decoder.bool) ]

def InsuranceFundExecute.encode : InsuranceFundExecute → Json
  | .updateConfig owner beneficiary =>
      .object [("update_config", .object
        (presentField "owner" owner ++ presentField "beneficiary" beneficiary))]
  | .addVamm vamm => .object [("add_vamm", .object [("vamm", .string vamm)])]

def InsuranceFundExecute.decoder : Json.Decoder InsuranceFundExecute :=
  Alternative.decoder
    [ .record "update_config"
        (InsuranceFundExecute.updateConfig <$> Fields.omissible "owner" Json.Decoder.string
          <*> Fields.omissible "beneficiary" Json.Decoder.string),
      .record "add_vamm"
        (InsuranceFundExecute.addVamm <$> Fields.required "vamm" Json.Decoder.string) ]

def VammQuery.encode : VammQuery → Json
  | .config => .object [("config", .object [])]
  | .state => .object [("state", .object [])]

def VammQuery.decoder : Json.Decoder VammQuery :=
  Alternative.decoder
    [.record "config" (Fields.pure VammQuery.config), .record "state" (Fields.pure VammQuery.state)]

end PerpDeploy
