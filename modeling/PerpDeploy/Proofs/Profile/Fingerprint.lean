/-
What a profile is written as tells the profile: it is read back from its text, however its
texts are escaped and however long its lists are. So the fingerprints of two profiles are
those of the same profile, or the hash has a collision.
-/

import PerpDeploy.Profile.Codec
import PerpDeploy.Proofs.Codec.Hex
import PerpDeploy.Proofs.Contract.Message
import PerpDeploy.Proofs.Json.Quotation
import PerpDeploy.Proofs.Settings.Confirmation

namespace PerpDeploy

open Json (Decoder Fields Gives Reads ReadsBack)

/-! ### Digits of a digest -/

namespace Codec

theorem hexDigit_inj {left right : Nat} (leftSmall : left < 16) (rightSmall : right < 16)
    (same : hexDigit left = hexDigit right) : left = right := by
  have read := Json.hexDigitValue?_hexDigit left leftSmall
  rw [same, Json.hexDigitValue?_hexDigit right rightSmall] at read
  exact (Option.some.inj read).symm

theorem encodeHexList_inj {left right : List UInt8}
    (same : encodeHexList left = encodeHexList right) : left = right := by
  induction left generalizing right with
  | nil =>
      cases right with
      | nil => rfl
      | cons byte rest => cases same
  | cons byte rest ih =>
      cases right with
      | nil => cases same
      | cons other more =>
          obtain ⟨high, following⟩ := List.cons.inj same
          obtain ⟨low, others⟩ := List.cons.inj following
          have small := byte.toNat_lt
          have also := other.toNat_lt
          have upper := hexDigit_inj (by omega) (by omega) high
          have lower := hexDigit_inj (by omega) (by omega) low
          have bytes : byte = other := UInt8.toNat.inj (by omega)
          rw [bytes, ih others]

theorem encodeHex_inj {left right : List UInt8} (same : encodeHex left = encodeHex right) :
    left = right :=
  encodeHexList_inj (String.ofList_injective same)

theorem toUTF8_toList_inj {left right : String}
    (same : left.toUTF8.toList = right.toUTF8.toList) : left = right := by
  rw [toList_eq, toList_eq] at same
  exact String.toByteArray_inj.mp (ByteArray.ext (Array.toList_inj.mp same))

end Codec

/-! ### Profiles -/

theorem FeePoolTopology.reads (topology : FeePoolTopology) :
    Reads decoder 0 topology.encode topology := by
  cases topology with
  | sharedWithInsuranceFund => exact .name rfl
  | dedicated => exact .name rfl

theorem Topology.reads (topology : Topology) : Reads decoder 1 topology.encode topology :=
  ((((Gives.required "fee_pool" topology.feePool.reads).map Topology.mk).andThen
    (Gives.required "registers_vamm_with_insurance_fund" (.bool topology.registersVamm))
    (by decide)).andThen
    (Gives.required "registers_beneficiary" (.bool topology.registersBeneficiary))
    (by decide)).reads

namespace Profile

/-- The numbers of a profile are of the widths that its fields have. -/
structure InRange (profile : Profile) : Prop where
  priceFeedInit : profile.priceFeedInit.InRange
  vammInit : profile.vammInit.InRange
  engineInit : profile.engineInit.InRange
  tokenInit : profile.tokenInit.InRange

theorem reads {profile : Profile} (inRange : profile.InRange) :
    Reads decoder 4 profile.encode profile := by
  have front := ((((gives_string "network" profile.network).map Profile.mk).andThen
    (gives_string "bech32_prefix" profile.addressPrefix) (by decide)).andThen
    (gives_string "eligible_collateral" profile.eligibleCollateral) (by decide)).andThen
    (Gives.required "topology" profile.topology.reads) (by decide)
  have pools := (front.andThen
    (Gives.required "insurance_fund_init_msg" profile.insuranceFundInit.reads)
    (by decide)).andThen
    (Gives.required "fee_pool_init_msg" profile.feePoolInit.reads) (by decide)
  have markets := (pools.andThen
    (Gives.required "price_feed_init_msg" (PriceFeedInit.reads inRange.priceFeedInit))
    (by decide)).andThen
    (Gives.required "vamm_init_msg" (VammInit.reads inRange.vammInit)) (by decide)
  have whole := (markets.andThen
    (Gives.required "engine_init_msg" (EngineInit.reads inRange.engineInit)) (by decide)).andThen
    (Gives.required "cw20_init_msg" (TokenInit.reads inRange.tokenInit)) (by decide)
  exact whole.reads

theorem readsBack {profile : Profile} (inRange : profile.InRange) :
    ReadsBack decoder profile.encode profile :=
  (reads inRange).readsBack (by decide)

theorem compactText_inj {left right : Profile} (leftInRange : left.InRange)
    (rightInRange : right.InRange) (same : left.compactText = right.compactText) :
    left = right :=
  (readsBack leftInRange).eq_of_compact (readsBack rightInRange) same

/-- The bytes that the fingerprint is the digest of. -/
def hashed (profile : Profile) : List UInt8 := profile.compactText.toUTF8.toList

/-- Two profiles with one digest. -/
structure Collides (left right : Profile) : Prop where
  bytes : left.hashed ≠ right.hashed
  digest : Codec.sha256 left.hashed = Codec.sha256 right.hashed

theorem fingerprint_eq_iff {left right : Profile} (leftInRange : left.InRange)
    (rightInRange : right.InRange) :
    left.fingerprint = right.fingerprint ↔ left = right ∨ Collides left right := by
  constructor
  · intro same
    have digest : Codec.sha256 left.hashed = Codec.sha256 right.hashed :=
      Codec.encodeHex_inj same
    by_cases bytes : left.hashed = right.hashed
    · exact Or.inl (compactText_inj leftInRange rightInRange (Codec.toUTF8_toList_inj bytes))
    · exact Or.inr { bytes, digest }
  · rintro (rfl | collides)
    · rfl
    · exact congrArg Codec.encodeHex collides.digest

end Profile

theorem ContractRecord.reads {record : ContractRecord} (inRange : record.InRange) :
    Reads decoder 1 record.encode record where
  exact := encode_exact inRange
  decoded _ holds := decode_encode inRange holds

/-- What is written is read back as it was, and tells one profile from another. -/
theorem wire_forms_read_back :
    (∀ profile : Profile, profile.InRange → ReadsBack Profile.decoder profile.encode profile) ∧
    (∀ message : VammExecute, ReadsBack VammExecute.decoder message.encode message) ∧
    (∀ message : InsuranceFundExecute,
      ReadsBack InsuranceFundExecute.decoder message.encode message) ∧
    (∀ message : VammQuery, ReadsBack VammQuery.decoder message.encode message) ∧
    (∀ record : ContractRecord, record.InRange →
      ReadsBack ContractRecord.decoder record.encode record) ∧
    (∀ confirmation : Confirmation, confirmation.InRange →
      ReadsBack Confirmation.decoder confirmation.encode confirmation) ∧
    ∀ left right : Profile, left.InRange → right.InRange →
      (left.compactText = right.compactText ↔ left = right) ∧
      (left.fingerprint = right.fingerprint ↔ left = right ∨ Profile.Collides left right) := by
  refine ⟨fun profile inRange => Profile.readsBack inRange,
    fun message => message.reads.readsBack (by decide),
    fun message => message.reads.readsBack (by decide),
    fun message => message.reads.readsBack (by decide),
    fun record inRange => (ContractRecord.reads inRange).readsBack (by decide),
    fun confirmation inRange => (Confirmation.reads inRange).readsBack (by decide), ?_⟩
  intro left right leftInRange rightInRange
  exact ⟨⟨Profile.compactText_inj leftInRange rightInRange, congrArg Profile.compactText⟩,
    Profile.fingerprint_eq_iff leftInRange rightInRange⟩

/-- Texts that need escapes, and numbers at the upper end of what fits. -/
def extremeProfile : Profile :=
  { Profile.testnet with
    network := "\"\\\u0000\n"
    addressPrefix := "é😀"
    priceFeedInit := { decimals := 255, oracleHubContract := "\x7b\x7d" }
    vammInit := { Profile.testnet.vammInit with decimals := 0, fundingPeriod := Nat.pow 2 64 - 1 }
    engineInit := { Profile.testnet.engineInit with vamms := ["", "\t"] }
    tokenInit :=
      { Profile.testnet.tokenInit with initialBalances := [{ address := "", amount := "1" }] } }

/-- Another amount in the one balance, and nothing else. -/
def extremeProfileRebalanced : Profile :=
  { extremeProfile with
    tokenInit :=
      { extremeProfile.tokenInit with initialBalances := [{ address := "", amount := "2" }] } }

theorem extremeProfile_inRange : extremeProfile.InRange :=
  { priceFeedInit := { decimals := by decide }
    vammInit := { decimals := by decide, fundingPeriod := by decide }
    engineInit := { decimals := by decide }
    tokenInit := { decimals := by decide } }

theorem extremeProfileRebalanced_inRange : extremeProfileRebalanced.InRange :=
  { extremeProfile_inRange with tokenInit := { decimals := by decide } }

def extremeRecord : ContractRecord :=
  { name := .vamm, address := "\u0000", ordinal := Nat.pow 2 64 - 1, deployedAt := -(Int.pow 2 63)
    artifact := "", codeId := none }

theorem extremeRecord_inRange : extremeRecord.InRange :=
  { ordinal := by decide, deployedAt := by decide, codeId := fun codeId given => by cases given }

theorem wire_forms_read_back_extreme :
    ReadsBack Profile.decoder extremeProfile.encode extremeProfile ∧
      ReadsBack ContractRecord.decoder extremeRecord.encode extremeRecord ∧
      ReadsBack Confirmation.decoder (Confirmation.poll 0 (Nat.pow 2 64 - 1)).encode
        (.poll 0 (Nat.pow 2 64 - 1)) ∧
      extremeProfile.compactText ≠ extremeProfileRebalanced.compactText := by
  obtain ⟨profiles, -, -, -, records, confirmations, identified⟩ := wire_forms_read_back
  refine ⟨profiles _ extremeProfile_inRange, records _ extremeRecord_inRange,
    confirmations _ ⟨by decide, by decide⟩, fun same => ?_⟩
  have texts := (identified _ _ extremeProfile_inRange extremeProfileRebalanced_inRange).1
  exact absurd (texts.mp same) (by decide)

end PerpDeploy
