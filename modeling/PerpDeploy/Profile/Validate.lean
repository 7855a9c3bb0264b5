/-
What a profile must hold before a run: names, amounts and ratios that can be read, and no
address in a place that a run fills in. All problems are told at once.
-/

import PerpDeploy.Number.Natural
import PerpDeploy.Profile.Basic

namespace PerpDeploy

def bech32Charset : List Char := "qpzry9x8gf2tvdw0s3jn54khce6mua7l".toList

def isDenominationChar (c : Char) : Bool := ('a' ≤ c && c ≤ 'z') || ('0' ≤ c && c ≤ '9')

/-- A native denomination such as `uusd`. -/
def isDenomination (collateral : String) : Bool :=
  collateral.toList.head? == some 'u' &&
    3 ≤ collateral.utf8ByteSize && collateral.utf8ByteSize ≤ 128 &&
    collateral.toList.all isDenominationChar

/-- What follows the address mark of a chain, if the text starts with it. -/
def afterAddressMark? (addressPrefix collateral : String) : Option (List Char) :=
  if addressPrefix.isEmpty then none
  else
    let mark := (addressPrefix ++ "1").toList
    if mark.isPrefixOf collateral.toList then some (collateral.toList.drop mark.length) else none

/-- The problem with a collateral: it is to be a denomination or an address of the chain. -/
def collateralProblem? (collateral addressPrefix : String) : Option String :=
  if collateral.isEmpty then some "eligible_collateral is empty"
  else match afterAddressMark? addressPrefix collateral with
    | some data =>
        if 38 ≤ collateral.utf8ByteSize ∧ collateral.utf8ByteSize ≤ 90 ∧
            data.all fun c => bech32Charset.contains c then none
        else some
          ("eligible_collateral '" ++ collateral ++ "' is not a valid " ++ addressPrefix ++
            " address")
    | none =>
        if isDenomination collateral then none
        else some
          ("eligible_collateral '" ++ collateral ++ "' is neither a native denom nor a " ++
            addressPrefix ++ " address")

namespace Profile

def amount? (text : String) : Option Nat :=
  (Number.readNatural Number.doubleWordLimit text).toOption

def problemIf (condition : Bool) (problem : String) : List String :=
  if condition then [problem] else []

def reserveProblems (field value : String) : List String :=
  match amount? value with
  | some 0 => ["vamm_init_msg." ++ field ++ " must be non-zero"]
  | some _ => []
  | none => ["vamm_init_msg." ++ field ++ " is not an amount: '" ++ value ++ "'"]

def ratioProblems (message field value : String) : List String :=
  problemIf (amount? value).isNone (message ++ "." ++ field ++ " is not a ratio: '" ++ value ++ "'")

def networkProblems (profile : Profile) : List String :=
  problemIf profile.network.isEmpty "network name is empty"

def collateralProblems (profile : Profile) : List String :=
  (collateralProblem? profile.eligibleCollateral profile.addressPrefix).toList

def priceFeedProblems (init : PriceFeedInit) : List String :=
  problemIf (init.decimals == 0) "price_feed_init_msg.decimals must be positive"

def vammProblems (init : VammInit) : List String :=
  problemIf (init.decimals == 0) "vamm_init_msg.decimals must be positive" ++
  problemIf (!init.priceFeed.isEmpty) "vamm_init_msg.pricefeed must be left empty in the profile" ++
  problemIf init.quoteAsset.isEmpty "vamm_init_msg.quote_asset is empty" ++
  problemIf init.baseAsset.isEmpty "vamm_init_msg.base_asset is empty" ++
  reserveProblems "quote_asset_reserve" init.quoteAssetReserve ++
  reserveProblems "base_asset_reserve" init.baseAssetReserve ++
  ratioProblems "vamm_init_msg" "toll_ratio" init.tollRatio ++
  ratioProblems "vamm_init_msg" "spread_ratio" init.spreadRatio ++
  ratioProblems "vamm_init_msg" "fluctuation_limit_ratio" init.fluctuationLimitRatio ++
  problemIf (init.fundingPeriod == 0) "vamm_init_msg.funding_period must be positive"

def engineProblems (init : EngineInit) : List String :=
  problemIf (init.decimals == 0) "engine_init_msg.decimals must be positive" ++
  ratioProblems "engine_init_msg" "initial_margin_ratio" init.initialMarginRatio ++
  ratioProblems "engine_init_msg" "maintenance_margin_ratio" init.maintenanceMarginRatio ++
  ratioProblems "engine_init_msg" "liquidation_fee" init.liquidationFee ++
  problemIf (!init.insuranceFund.isEmpty || !init.feePool.isEmpty || !init.vamms.isEmpty)
    "engine_init_msg contract references must be left empty in the profile"

def problems (profile : Profile) : List String :=
  profile.networkProblems ++ profile.collateralProblems ++
    priceFeedProblems profile.priceFeedInit ++ vammProblems profile.vammInit ++
    engineProblems profile.engineInit

def validate (profile : Profile) : Except Failure Unit :=
  match profile.problems with
  | [] => .ok ()
  | problems => .error (.configuration
      ("profile '" ++ profile.network ++ "' is invalid: " ++ "; ".intercalate problems))

end Profile

end PerpDeploy
