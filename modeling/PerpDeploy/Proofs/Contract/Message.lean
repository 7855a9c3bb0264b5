/-
The messages to the contracts are decoded from what they are encoded to, with every text in
them, every number that their decoders allow and each of their optional fields there or not.
-/

import PerpDeploy.Contract.Message
import PerpDeploy.Proofs.Json.Writing
import PerpDeploy.Proofs.Manifest.Entry

namespace PerpDeploy

open Json (Decoder Fields Reads Gives)

def IsByte (value : Nat) : Prop := value < Nat.pow 2 8

instance (value : Nat) : Decidable (IsByte value) :=
  inferInstanceAs (Decidable (value < Nat.pow 2 8))

theorem reads_word {value : Nat} (word : IsWord value) :
    Reads Decoder.word 0 (.natural value) value :=
  .natural word (inWords_of_word word)

theorem reads_byte {value : Nat} (byte : IsByte value) :
    Reads Decoder.byte 0 (.natural value) value := by
  have word : IsWord value := Nat.lt_of_lt_of_le byte (by decide)
  exact .natural byte (inWords_of_word word)

theorem gives_string (name value : String) :
    Gives (Fields.required name Decoder.string) 0 [(name, .string value)] value :=
  .required name (.string value)

theorem gives_presentField (name : String) (value : Option String) :
    Gives (Fields.omissible name Decoder.string) 0 (presentField name value) value := by
  cases value with
  | none => exact .omitted name Decoder.string
  | some held => exact .given name (fun null => by cases null) (.string held)

/-! ### Messages that create a contract -/

theorem InsuranceFundInit.reads (init : InsuranceFundInit) : Reads decoder 1 init.encode init :=
  (Gives.pure InsuranceFundInit.mk).reads

theorem FeePoolInit.reads (init : FeePoolInit) : Reads decoder 1 init.encode init :=
  (Gives.pure FeePoolInit.mk).reads

namespace PriceFeedInit

structure InRange (init : PriceFeedInit) : Prop where
  decimals : IsByte init.decimals

theorem reads {init : PriceFeedInit} (inRange : init.InRange) :
    Reads decoder 1 init.encode init :=
  (((Gives.required "decimals" (reads_byte inRange.decimals)).map PriceFeedInit.mk).andThen
    (gives_string "oracle_hub_contract" init.oracleHubContract) (by decide)).reads

end PriceFeedInit

namespace VammInit

structure InRange (init : VammInit) : Prop where
  decimals : IsByte init.decimals
  fundingPeriod : IsWord init.fundingPeriod

theorem reads {init : VammInit} (inRange : init.InRange) : Reads decoder 1 init.encode init := by
  have assets :=
    ((((Gives.required "decimals" (reads_byte inRange.decimals)).map VammInit.mk).andThen
      (gives_string "pricefeed" init.priceFeed) (by decide)).andThen
      (gives_string "quote_asset" init.quoteAsset) (by decide)).andThen
      (gives_string "base_asset" init.baseAsset) (by decide)
  have reserves := (assets.andThen
    (gives_string "quote_asset_reserve" init.quoteAssetReserve) (by decide)).andThen
    (gives_string "base_asset_reserve" init.baseAssetReserve) (by decide)
  have period := reserves.andThen
    (Gives.required "funding_period" (reads_word inRange.fundingPeriod)) (by decide)
  have ratios := ((period.andThen
    (gives_string "toll_ratio" init.tollRatio) (by decide)).andThen
    (gives_string "spread_ratio" init.spreadRatio) (by decide)).andThen
    (gives_string "fluctuation_limit_ratio" init.fluctuationLimitRatio) (by decide)
  exact ratios.reads

end VammInit

namespace EngineInit

structure InRange (init : EngineInit) : Prop where
  decimals : IsByte init.decimals

theorem reads {init : EngineInit} (inRange : init.InRange) :
    Reads decoder 2 init.encode init := by
  have addresses :=
    (((Gives.required "decimals" (reads_byte inRange.decimals)).map EngineInit.mk).andThen
      (gives_string "insurance_fund" init.insuranceFund) (by decide)).andThen
      (gives_string "fee_pool" init.feePool) (by decide)
  have ratios := (((addresses.andThen
    (gives_string "eligible_collateral" init.eligibleCollateral) (by decide)).andThen
    (gives_string "initial_margin_ratio" init.initialMarginRatio) (by decide)).andThen
    (gives_string "maintenance_margin_ratio" init.maintenanceMarginRatio) (by decide)).andThen
    (gives_string "liquidation_fee" init.liquidationFee) (by decide)
  have vamms := ratios.andThen
    (Gives.required "vamm" (.list init.vamms fun vamm _ => .string vamm)) (by decide)
  exact vamms.reads

end EngineInit

theorem TokenBalance.reads (balance : TokenBalance) : Reads decoder 1 balance.encode balance :=
  (((gives_string "address" balance.address).map TokenBalance.mk).andThen
    (gives_string "amount" balance.amount) (by decide)).reads

namespace TokenInit

structure InRange (init : TokenInit) : Prop where
  decimals : IsByte init.decimals

theorem reads {init : TokenInit} (inRange : init.InRange) : Reads decoder 3 init.encode init := by
  have named := (((gives_string "name" init.name).map TokenInit.mk).andThen
    (gives_string "symbol" init.symbol) (by decide)).andThen
    (Gives.required "decimals" (reads_byte inRange.decimals)) (by decide)
  have balances := named.andThen
    (Gives.required "initial_balances"
      (.list init.initialBalances fun balance _ => TokenBalance.reads balance)) (by decide)
  exact balances.reads

end TokenInit

/-! ### Messages to a contract that is there -/

theorem VammExecute.reads (message : VammExecute) : Reads decoder 2 message.encode message := by
  cases message with
  | updateConfig owner marginEngine priceFeed =>
      have fields := (((gives_presentField "owner" owner).map VammExecute.updateConfig).andThen
        (gives_presentField "margin_engine" marginEngine) (by decide)).andThen
        (gives_presentField "pricefeed" priceFeed) (by decide)
      exact fields.alternative rfl
  | setOpen isOpen =>
      exact ((Gives.required "open" (.bool isOpen)).map VammExecute.setOpen).alternative rfl

theorem InsuranceFundExecute.reads (message : InsuranceFundExecute) :
    Reads decoder 2 message.encode message := by
  cases message with
  | updateConfig owner beneficiary =>
      have fields := ((gives_presentField "owner" owner).map
        InsuranceFundExecute.updateConfig).andThen
        (gives_presentField "beneficiary" beneficiary) (by decide)
      exact fields.alternative rfl
  | addVamm vamm =>
      exact ((gives_string "vamm" vamm).map InsuranceFundExecute.addVamm).alternative rfl

theorem VammQuery.reads (message : VammQuery) : Reads decoder 2 message.encode message := by
  cases message with
  | config => exact (Gives.pure VammQuery.config).alternative rfl
  | state => exact (Gives.pure VammQuery.state).alternative rfl

end PerpDeploy
