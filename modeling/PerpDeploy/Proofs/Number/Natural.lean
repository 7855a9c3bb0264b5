/-
Which texts are numerals. A text is read if it is a numeral for a number below the limit, with
or without a plus sign and whatever zeros it starts with, and no other text is.
-/

import PerpDeploy.Number.Natural
import PerpDeploy.Proofs.Json.Numeral

namespace PerpDeploy.Number

open Json (digitOf numeralValue)

/-- The text is a numeral for the value: decimal digits behind an optional plus sign. -/
inductive Denotes (text : String) (value : Nat) : Prop
  | numeral {sign digits : List Char} (spelled : text.toList = sign ++ digits)
      (signed : sign = [] ∨ sign = ['+']) (nonempty : digits ≠ [])
      (decimal : ∀ c ∈ digits, c.isDigit = true)
      (stands : numeralValue 0 (digits.map digitOf) = value)

theorem digitValue?_eq_some_iff {c : Char} {digit : Nat} :
    digitValue? c = some digit ↔ c.isDigit = true ∧ digitOf c = digit := by
  constructor
  · intro read
    unfold digitValue? at read
    split at read
    · rename_i bounds
      cases read
      refine ⟨?_, rfl⟩
      simpa only [Char.isDigit, Bool.and_eq_true, decide_eq_true_eq, Char.le_def, ge_iff_le]
        using bounds
    · cases read
  · rintro ⟨decimal, rfl⟩
    exact Json.digitValue?_of_isDigit decimal

/-- What digits add to a value only grows, so the limit holds on the way if it holds at the end. -/
theorem readDigits_ok_iff {limit value result : Nat} (below : value < limit) {chars : List Char} :
    readDigits limit value chars = .ok result ↔
      (∀ c ∈ chars, c.isDigit = true) ∧ numeralValue value (chars.map digitOf) = result ∧
        result < limit := by
  induction chars generalizing value with
  | nil =>
      constructor
      · intro read
        cases read
        exact ⟨List.forall_mem_nil _, rfl, below⟩
      · rintro ⟨-, stands, -⟩
        exact congrArg Except.ok stands
  | cons c rest ih =>
      rw [readDigits, List.forall_mem_cons, List.map_cons]
      cases read : digitValue? c with
      | none =>
          constructor
          · intro refused
            cases refused
          · rintro ⟨⟨decimal, -⟩, -⟩
            rw [digitValue?_eq_some_iff.mpr ⟨decimal, rfl⟩] at read
            cases read
      | some digit =>
          obtain ⟨decimal, rfl⟩ := digitValue?_eq_some_iff.mp read
          have onward : numeralValue value (digitOf c :: rest.map digitOf) =
              numeralValue (value * 10 + digitOf c) (rest.map digitOf) := rfl
          simp only [onward, decimal, true_and]
          by_cases room : value * 10 + digitOf c < limit
          · rw [if_pos room]
            exact ih room
          · rw [if_neg room]
            constructor
            · intro refused
              cases refused
            · rintro ⟨-, stands, within⟩
              have grown := Json.le_numeralValue (value * 10 + digitOf c) (rest.map digitOf)
              omega

/-- A text that starts with no plus sign is a numeral if it is made of digits. -/
theorem denotes_iff_of_unsigned {text : String} {value : Nat}
    (unsigned : text.toList.head? ≠ some '+') :
    Denotes text value ↔ text.toList ≠ [] ∧ (∀ c ∈ text.toList, c.isDigit = true) ∧
      numeralValue 0 (text.toList.map digitOf) = value := by
  constructor
  · rintro ⟨spelled, rfl | rfl, nonempty, decimal, stands⟩
    · rw [List.nil_append] at spelled
      rw [spelled]
      exact ⟨nonempty, decimal, stands⟩
    · rw [spelled] at unsigned
      exact absurd rfl unsigned
  · rintro ⟨nonempty, decimal, stands⟩
    exact .numeral (List.nil_append _).symm (Or.inl rfl) nonempty decimal stands

theorem denotes_iff_of_signed {text : String} {value : Nat} {digits : List Char}
    (signed : text.toList = '+' :: digits) :
    Denotes text value ↔ digits ≠ [] ∧ (∀ c ∈ digits, c.isDigit = true) ∧
      numeralValue 0 (digits.map digitOf) = value := by
  constructor
  · rintro ⟨spelled, rfl | rfl, nonempty, decimal, stands⟩
    · rw [List.nil_append, signed] at spelled
      subst spelled
      exact absurd (decimal '+' List.mem_cons_self) (by decide)
    · rw [signed] at spelled
      cases spelled
      exact ⟨nonempty, decimal, stands⟩
  · rintro ⟨nonempty, decimal, stands⟩
    exact .numeral signed (Or.inr rfl) nonempty decimal stands

theorem readNatural_ok_iff {limit value : Nat} (positive : 0 < limit) {text : String} :
    readNatural limit text = .ok value ↔ Denotes text value ∧ value < limit := by
  unfold readNatural
  split
  · rename_i empty
    have unsigned : text.toList.head? ≠ some '+' := by
      rw [empty]
      exact nofun
    rw [denotes_iff_of_unsigned unsigned, empty]
    simp
  · rename_i alone
    rw [denotes_iff_of_signed alone]
    simp
  · rename_i digits nonempty signed
    have nonempty : digits ≠ [] := nonempty
    rw [denotes_iff_of_signed signed, readDigits_ok_iff positive, and_iff_right nonempty, and_assoc]
  · rename_i nonempty _ unsigned
    have head : text.toList.head? ≠ some '+' := by
      intro plus
      obtain ⟨digits, signed⟩ := List.head?_eq_some_iff.mp plus
      exact unsigned digits signed
    rw [denotes_iff_of_unsigned head, readDigits_ok_iff positive, and_iff_right nonempty, and_assoc]

end PerpDeploy.Number
