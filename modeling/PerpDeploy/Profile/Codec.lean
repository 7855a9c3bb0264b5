/-
The JSON form of a profile and its fingerprint: the digest of the compact text.
-/

import PerpDeploy.Codec.Sha256
import PerpDeploy.Json.Printer
import PerpDeploy.Profile.Basic

namespace PerpDeploy

open Json (Fields Alternative)

def FeePoolTopology.text : FeePoolTopology → String
  | .sharedWithInsuranceFund => "shared_with_insurance_fund"
  | .dedicated => "dedicated"

def FeePoolTopology.encode (topology : FeePoolTopology) : Json := .string topology.text

def FeePoolTopology.decoder : Json.Decoder FeePoolTopology :=
  Alternative.decoder
    [ .plain "shared_with_insurance_fund" .sharedWithInsuranceFund, .plain "dedicated" .dedicated ]

def Topology.encode (topology : Topology) : Json :=
  .object
    [ ("fee_pool", topology.feePool.encode),
      ("registers_vamm_with_insurance_fund", .bool topology.registersVamm),
      ("registers_beneficiary", .bool topology.registersBeneficiary) ]

def Topology.decoder : Json.Decoder Topology :=
  (Topology.mk <$> Fields.required "fee_pool" FeePoolTopology.decoder
    <*> Fields.required "registers_vamm_with_insurance_fund" Json.Decoder.bool
    <*> Fields.required "registers_beneficiary" Json.Decoder.bool).decoder

namespace Profile

def encode (profile : Profile) : Json :=
  .object
    [ ("network", .string profile.network),
      ("bech32_prefix", .string profile.addressPrefix),
      ("eligible_collateral", .string profile.eligibleCollateral),
      ("topology", profile.topology.encode),
      ("insurance_fund_init_msg", profile.insuranceFundInit.encode),
      ("fee_pool_init_msg", profile.feePoolInit.encode),
      ("price_feed_init_msg", profile.priceFeedInit.encode),
      ("vamm_init_msg", profile.vammInit.encode),
      ("engine_init_msg", profile.engineInit.encode),
      ("cw20_init_msg", profile.tokenInit.encode) ]

def decoder : Json.Decoder Profile :=
  (Profile.mk <$> Fields.required "network" Json.Decoder.string
    <*> Fields.required "bech32_prefix" Json.Decoder.string
    <*> Fields.required "eligible_collateral" Json.Decoder.string
    <*> Fields.required "topology" Topology.decoder
    <*> Fields.required "insurance_fund_init_msg" InsuranceFundInit.decoder
    <*> Fields.required "fee_pool_init_msg" FeePoolInit.decoder
    <*> Fields.required "price_feed_init_msg" PriceFeedInit.decoder
    <*> Fields.required "vamm_init_msg" VammInit.decoder
    <*> Fields.required "engine_init_msg" EngineInit.decoder
    <*> Fields.required "cw20_init_msg" TokenInit.decoder).decoder

def compactText (profile : Profile) : String := profile.encode.compact

def fingerprint (profile : Profile) : String :=
  Codec.encodeHex (Codec.sha256 profile.compactText.toUTF8.toList)

end Profile

end PerpDeploy
