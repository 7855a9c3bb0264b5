/-
Which texts name a collateral: a denomination of the chain itself, or an address that starts
with the mark of the chain. The two exclude each other, and the check of a collateral tells
them apart by the mark.
-/

import PerpDeploy.Profile.Validate
import PerpDeploy.Proofs.Codec.Hex

namespace PerpDeploy

/-- A denomination of the chain itself, such as `uusd`. -/
inductive NativeDenomination (text : String) : Prop
  | micro {name : List Char} (spelled : text.toList = 'u' :: name) (long : 2 ≤ name.length)
      (short : name.length ≤ 127)
      (plain : ∀ c ∈ name, ('a' ≤ c ∧ c ≤ 'z') ∨ ('0' ≤ c ∧ c ≤ '9'))

/-- The text is the mark of the addresses of a chain, and some data behind it. -/
structure MarkedAddress (addressPrefix text data : String) : Prop where
  named : addressPrefix ≠ ""
  spelled : text = addressPrefix ++ "1" ++ data

/-- An address as the chain writes it; its length is in bytes. -/
inductive ChainAddress (addressPrefix text : String) : Prop
  | marked {data : String} (address : MarkedAddress addressPrefix text data)
      (long : 38 ≤ text.utf8ByteSize) (short : text.utf8ByteSize ≤ 90)
      (alphabet : ∀ c ∈ data.toList, c ∈ bech32Charset)

/-- What starts like an address is no denomination. -/
inductive Collateral (addressPrefix text : String) : Prop
  | native (denomination : NativeDenomination text)
      (unmarked : ∀ data, ¬ MarkedAddress addressPrefix text data)
  | address (address : ChainAddress addressPrefix text)

theorem MarkedAddress.toList {addressPrefix text data : String}
    (address : MarkedAddress addressPrefix text data) :
    text.toList = (addressPrefix ++ "1").toList ++ data.toList := by
  rw [address.spelled, String.toList_append]

theorem MarkedAddress.ne_empty {addressPrefix text data : String}
    (address : MarkedAddress addressPrefix text data) : text ≠ "" := by
  rintro rfl
  have lengths := congrArg List.length address.toList
  simp only [String.toList_append, List.length_append] at lengths
  have mark : "1".toList.length = 1 := rfl
  have empty : "".toList.length = 0 := rfl
  omega

theorem afterAddressMark?_eq_some_iff {addressPrefix text data : String} :
    afterAddressMark? addressPrefix text = some data.toList ↔
      MarkedAddress addressPrefix text data := by
  unfold afterAddressMark?
  constructor
  · intro found
    split at found
    · cases found
    rename_i named
    dsimp only at found
    split at found
    · rename_i starts
      obtain ⟨rest, split⟩ := List.isPrefixOf_iff_prefix.mp starts
      rw [← split, List.drop_left, Option.some.injEq] at found
      refine { named := fun empty => named (String.isEmpty_iff.mpr empty), spelled := ?_ }
      rw [← String.toList_inj, ← split, found]
      simp only [String.toList_append]
    · cases found
  · intro address
    have starts : (addressPrefix ++ "1").toList.isPrefixOf text.toList = true :=
      List.isPrefixOf_iff_prefix.mpr ⟨data.toList, address.toList.symm⟩
    rw [if_neg fun empty => address.named (String.isEmpty_iff.mp empty)]
    dsimp only
    rw [if_pos starts, address.toList, List.drop_left]

theorem afterAddressMark?_eq_none_iff {addressPrefix text : String} :
    afterAddressMark? addressPrefix text = none ↔
      ∀ data, ¬ MarkedAddress addressPrefix text data := by
  constructor
  · intro missing data address
    rw [afterAddressMark?_eq_some_iff.mpr address] at missing
    cases missing
  · intro unmarked
    cases found : afterAddressMark? addressPrefix text with
    | none => rfl
    | some data =>
        have marked : afterAddressMark? addressPrefix text = some (String.ofList data).toList := by
          rw [found, String.toList_ofList]
        exact absurd (afterAddressMark?_eq_some_iff.mp marked) (unmarked _)

theorem utf8ByteSize_of_ascii {text : String} (ascii : ∀ c ∈ text.toList, c.toNat < 128) :
    text.utf8ByteSize = text.toList.length := by
  have encoded : ∀ chars : List Char, (∀ c ∈ chars, c.toNat < 128) →
      (chars.flatMap String.utf8EncodeChar).length = chars.length := by
    intro chars all
    induction chars with
    | nil => rfl
    | cons c rest ih =>
        obtain ⟨first, others⟩ := List.forall_mem_cons.mp all
        have single : c.utf8Size = 1 := Char.utf8Size_eq_one_iff.mpr (Nat.le_of_lt_succ first)
        rw [List.flatMap_cons, List.length_append, String.length_utf8EncodeChar, single, ih others,
          List.length_cons, Nat.add_comm]
  rw [← encoded text.toList ascii, ← Codec.toUTF8_toList, Codec.toList_eq]
  rfl

theorem isDenominationChar_iff {c : Char} :
    isDenominationChar c = true ↔ ('a' ≤ c ∧ c ≤ 'z') ∨ ('0' ≤ c ∧ c ≤ '9') := by
  simp only [isDenominationChar, Bool.or_eq_true, Bool.and_eq_true, decide_eq_true_eq]

theorem ascii_of_isDenominationChar {c : Char} (plain : isDenominationChar c = true) :
    c.toNat < 128 := by
  rcases isDenominationChar_iff.mp plain with ⟨-, bound⟩ | ⟨-, bound⟩
  · have below : c.toNat ≤ 122 := bound
    omega
  · have below : c.toNat ≤ 57 := bound
    omega

theorem isDenomination_iff {text : String} :
    isDenomination text = true ↔ NativeDenomination text := by
  unfold isDenomination
  simp only [Bool.and_eq_true, beq_iff_eq, decide_eq_true_eq]
  constructor
  · rintro ⟨⟨⟨starts, long⟩, short⟩, plain⟩
    have all := List.all_eq_true.mp plain
    rw [utf8ByteSize_of_ascii fun c member => ascii_of_isDenominationChar (all c member)]
      at long short
    obtain ⟨name, spelled⟩ := List.head?_eq_some_iff.mp starts
    rw [spelled, List.length_cons] at long short
    refine .micro spelled (by omega) (by omega) fun c member => ?_
    exact isDenominationChar_iff.mp (all c (spelled ▸ List.mem_cons_of_mem _ member))
  · rintro ⟨spelled, long, short, plain⟩
    rename_i name
    have all : ∀ c ∈ text.toList, isDenominationChar c = true := by
      rw [spelled, List.forall_mem_cons]
      exact ⟨by decide, fun c member => isDenominationChar_iff.mpr (plain c member)⟩
    rw [utf8ByteSize_of_ascii fun c member => ascii_of_isDenominationChar (all c member),
      spelled, List.length_cons]
    exact ⟨⟨⟨rfl, by omega⟩, by omega⟩, List.all_eq_true.mpr (spelled ▸ all)⟩

theorem chainAddress_iff {addressPrefix text data : String}
    (address : MarkedAddress addressPrefix text data) :
    ChainAddress addressPrefix text ↔
      38 ≤ text.utf8ByteSize ∧ text.utf8ByteSize ≤ 90 ∧
        (data.toList.all fun c => bech32Charset.contains c) = true := by
  rw [List.all_eq_true]
  simp only [List.contains_iff_mem]
  constructor
  · rintro ⟨other, long, short, alphabet⟩
    rename_i inside
    have same : inside.toList = data.toList := by
      rw [← List.append_cancel_left_eq, ← other.toList, address.toList]
    exact ⟨long, short, same ▸ alphabet⟩
  · rintro ⟨long, short, alphabet⟩
    exact .marked address long short alphabet

theorem not_collateral_empty {addressPrefix : String} : ¬ Collateral addressPrefix "" := by
  rintro (⟨⟨spelled, -, -, -⟩, -⟩ | ⟨-, long, -, -⟩)
  · cases spelled
  · exact absurd long (by decide)

end PerpDeploy
