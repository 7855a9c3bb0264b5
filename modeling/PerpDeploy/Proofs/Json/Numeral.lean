/-
Whole numbers in JSON texts. A number of at most sixty-four bits is read as it was written,
whatever follows it, as long as that cannot belong to the number.
-/

import PerpDeploy.Json.Document
import PerpDeploy.Json.Printer

namespace PerpDeploy.Json

/-! ### Limits -/

theorem wordLimit_eq : Number.wordLimit = 18446744073709551616 := rfl

theorem signedLimit_eq : Int.pow 2 63 = 9223372036854775808 := rfl

/-! ### Digits -/

def digitOf (c : Char) : Nat := c.toNat - '0'.toNat

theorem digitValue?_of_isDigit {c : Char} (digit : c.isDigit) :
    Number.digitValue? c = some (digitOf c) := by
  have bounds : '0' ≤ c ∧ c ≤ '9' := by
    simpa only [Char.isDigit, Bool.and_eq_true, decide_eq_true_eq, Char.le_def, ge_iff_le]
      using digit
  simp only [Number.digitValue?, if_pos bounds, digitOf]

theorem spanDigitValues_append {digits rest : List Char} (all : ∀ c ∈ digits, c.isDigit)
    (stop : ∀ c ∈ rest.head?, Number.digitValue? c = none) :
    spanDigitValues (digits ++ rest) = (digits.map digitOf, rest) := by
  induction digits with
  | nil =>
      cases rest with
      | nil => rfl
      | cons c tail =>
          simp only [List.nil_append, spanDigitValues, stop c rfl, List.map_nil]
  | cons c digits ih =>
      have here := digitValue?_of_isDigit (all c List.mem_cons_self)
      have onward := ih fun d member => all d (List.mem_cons_of_mem c member)
      simp only [List.cons_append, spanDigitValues, here, onward, List.map_cons]

/-- The number that digits stand for behind those of `value`. -/
def numeralValue (value : Nat) (digits : List Nat) : Nat :=
  digits.foldl (fun value digit => value * 10 + digit) value

theorem le_numeralValue (value : Nat) (digits : List Nat) : value ≤ numeralValue value digits := by
  induction digits generalizing value with
  | nil => exact Nat.le_refl value
  | cons digit rest ih =>
      have further := ih (value * 10 + digit)
      simp only [numeralValue, List.foldl_cons] at further ⊢
      omega

theorem takeUp_of_fits {value : Nat} {digits : List Nat}
    (fits : numeralValue value digits < Number.wordLimit) :
    takeUp value digits = (numeralValue value digits, []) := by
  induction digits generalizing value with
  | nil => rfl
  | cons digit rest ih =>
      have bound := le_numeralValue (value * 10 + digit) rest
      have room : value * 10 + digit < Number.wordLimit := Nat.lt_of_le_of_lt bound fits
      simp only [takeUp, if_pos room]
      exact ih fits

/-! ### Written numbers -/

theorem numeralValue_toDigits (n : Nat) :
    numeralValue 0 ((Nat.toDigits 10 n).map digitOf) = n := by
  induction n using Nat.strongRecOn with
  | _ n ih =>
      rw [Nat.toDigits_eq_if (by decide)]
      split
      · rename_i small
        have one := Nat.toNat_digitChar_sub_48_of_lt_ten small
        simpa [numeralValue, digitOf] using one
      · rename_i large
        have last := Nat.toNat_digitChar_sub_48_of_lt_ten (Nat.mod_lt n (by decide : 10 > 0))
        have front := ih (n / 10) (by omega)
        simp only [numeralValue, digitOf, List.map_append, List.foldl_append, List.map_cons,
          List.map_nil, List.foldl_cons, List.foldl_nil] at front last ⊢
        rw [front]
        change _ + ((n % 10).digitChar.toNat - 48) = n
        omega

theorem toDigits_front_ne_zero {n : Nat} (positive : 0 < n) (rest : List Nat) :
    (Nat.toDigits 10 n).map digitOf ≠ 0 :: rest := by
  induction n using Nat.strongRecOn generalizing rest with
  | _ n ih =>
      rw [Nat.toDigits_eq_if (by decide)]
      split
      · rename_i small
        have one := Nat.toNat_digitChar_sub_48_of_lt_ten small
        intro zero
        have first : n.digitChar.toNat - 48 = 0 := (List.cons.inj zero).1
        omega
      · rename_i large
        have front := ih (n / 10) (by omega) (by omega)
        intro zero
        rw [List.map_append] at zero
        cases digits : (Nat.toDigits 10 (n / 10)).map digitOf with
        | nil => exact Nat.toDigits_ne_nil (List.map_eq_nil_iff.mp digits)
        | cons first others =>
            rw [digits] at zero front
            obtain ⟨rfl, _⟩ := List.cons.inj zero
            exact front others rfl

/-! ### Reading them -/

/-- What follows a number cannot belong to it. -/
def EndsNumber (rest : List Char) : Prop :=
  ∀ c ∈ rest.head?, Number.digitValue? c = none ∧ c ≠ '.' ∧ c ≠ 'e' ∧ c ≠ 'E'

theorem readAfterWhole_of_ends {rest : List Char} (ends : EndsNumber rest) (lexeme : Lexeme) :
    readAfterWhole lexeme rest = finishNumber lexeme rest := by
  cases rest with
  | nil => rfl
  | cons c tail =>
      obtain ⟨_, point, small, large⟩ := ends c rfl
      unfold readAfterWhole
      split
      · rename_i same
        exact absurd (List.cons.inj same).1 point
      · unfold readAfterFraction
        split
        · rename_i same
          exact absurd (List.cons.inj same).1 small
        · rename_i same
          exact absurd (List.cons.inj same).1 large
        · rfl

theorem readNumber_toDigits (negative : Bool) (n : Nat) {rest : List Char}
    (ends : EndsNumber rest) :
    readNumber negative (Nat.toDigits 10 n ++ rest) =
      finishNumber
        { negative, whole := (Nat.toDigits 10 n).map digitOf, fraction := [], exponent := none }
        rest := by
  have span : spanDigitValues (Nat.toDigits 10 n ++ rest) =
      ((Nat.toDigits 10 n).map digitOf, rest) :=
    spanDigitValues_append
      (fun c member => Nat.isDigit_of_mem_toDigits (by decide) (by decide) member)
      fun c head => (ends c head).1
  unfold readNumber
  rw [span]
  split
  · rename_i none
    exact absurd (List.map_eq_nil_iff.mp (Prod.mk.inj none).1) Nat.toDigits_ne_nil
  · rename_i zeros
    have front := (Prod.mk.inj zeros).1
    rcases Nat.eq_zero_or_pos n with rfl | positive
    · rw [Nat.toDigits_zero] at front
      cases front
    · exact absurd front (toDigits_front_ne_zero positive _)
  · rename_i same
    obtain ⟨rfl, rfl⟩ := Prod.mk.inj same
    exact readAfterWhole_of_ends ends _

/-- The whole numbers that are exact in a document. -/
def InWords (value : Int) : Prop := -(Int.pow 2 63) ≤ value ∧ value < Number.wordLimit

theorem number?_of_digits (n : Nat) (word : n < Number.wordLimit) :
    Lexeme.number?
        { negative := false, whole := (Nat.toDigits 10 n).map digitOf, fraction := []
          exponent := none } = some (.integer n) := by
  have fits : numeralValue 0 ((Nat.toDigits 10 n).map digitOf) < Number.wordLimit := by
    rwa [numeralValue_toDigits]
  have taken := takeUp_of_fits fits
  rw [numeralValue_toDigits] at taken
  simp only [Lexeme.number?, taken]
  rfl

theorem number?_of_negative_digits {n : Nat} (positive : 0 < n) (word : n ≤ Nat.pow 2 63) :
    Lexeme.number?
        { negative := true, whole := (Nat.toDigits 10 n).map digitOf, fraction := []
          exponent := none } = some (.integer (-(n : Int))) := by
  have fits : numeralValue 0 ((Nat.toDigits 10 n).map digitOf) < Number.wordLimit := by
    rw [numeralValue_toDigits]
    exact Nat.lt_of_le_of_lt word (by decide)
  have taken := takeUp_of_fits fits
  rw [numeralValue_toDigits] at taken
  have exact : n ≠ 0 ∧ n ≤ Nat.pow 2 63 := ⟨Nat.ne_of_gt positive, word⟩
  simp only [Lexeme.number?, taken, List.isEmpty_nil, Option.isNone_none, Bool.and_self,
    Bool.not_true, Bool.false_eq_true, if_false, if_true, if_pos exact]

theorem text_of_nonnegative {value : Int} (nonnegative : 0 ≤ value) :
    (Number.integer value).text.toList = Nat.toDigits 10 value.toNat := by
  change (toString value).toList = _
  rw [Int.toString_eq_repr, Int.repr_eq_if, if_pos nonnegative, Nat.toList_repr]

theorem text_of_negative {value : Int} (negative : value < 0) :
    (Number.integer value).text.toList = '-' :: Nat.toDigits 10 (-value).toNat := by
  change (toString value).toList = _
  rw [Int.toString_eq_repr, Int.repr_eq_if, if_neg (Int.not_le.mpr negative),
    String.toList_append, Nat.toList_repr]
  rfl

end PerpDeploy.Json
