/-
Base 64 as a code. What is written for some bytes is read back as these bytes, and a text
that is read is the one that is written for them, so a value has one encoded form.
-/

import PerpDeploy.Codec.Base64

namespace PerpDeploy.Codec

/-! ### Digits -/

theorem base64Value?_base64Digit :
    ∀ value < 64, base64Value? (base64Digit value) = some value := by
  decide

theorem base64Digit_ne_padding : ∀ value < 64, base64Digit value ≠ '=' := by
  decide

private theorem ofNat_shifted {c start : Char} (above : start ≤ c) :
    Char.ofNat (start.toNat + (c.toNat - start.toNat)) = c := by
  have order : start.toNat ≤ c.toNat := above
  rw [Nat.add_sub_cancel' order, Char.ofNat_toNat]

/-- A character is read as a digit only if it is the one that is written for its value. -/
theorem base64Digit_of_value {c : Char} {value : Nat} (read : base64Value? c = some value) :
    value < 64 ∧ base64Digit value = c := by
  unfold base64Value? at read
  split at read
  · rename_i upper
    have bound : c.toNat ≤ 90 := upper.2
    have start : 'A'.toNat = 65 := rfl
    have small : c.toNat - 'A'.toNat < 26 := by omega
    cases read
    refine ⟨by omega, ?_⟩
    rw [base64Digit, if_pos small, ofNat_shifted upper.1]
  split at read
  · rename_i lower
    have bound : c.toNat ≤ 122 := lower.2
    have start : 'a'.toNat = 97 := rfl
    cases read
    refine ⟨by omega, ?_⟩
    rw [base64Digit, if_neg (by omega), if_pos (by omega), Nat.add_sub_cancel,
      ofNat_shifted lower.1]
  split at read
  · rename_i decimal
    have bound : c.toNat ≤ 57 := decimal.2
    have start : '0'.toNat = 48 := rfl
    cases read
    refine ⟨by omega, ?_⟩
    rw [base64Digit, if_neg (by omega), if_neg (by omega), if_pos (by omega),
      Nat.add_sub_cancel, ofNat_shifted decimal.1]
  split at read
  · rename_i plus
    cases read
    exact ⟨by decide, plus.symm⟩
  split at read
  · rename_i slash
    cases read
    exact ⟨by decide, slash.symm⟩
  · cases read

/-! ### Quanta -/

private theorem toNat_ofNat_small {value : Nat} (small : value < 256) :
    (UInt8.ofNat value).toNat = value := by
  rw [UInt8.toNat_ofNat', Nat.mod_eq_of_lt small]

theorem lastOne?_written (a : UInt8) :
    lastOne? (base64Digit (a.toNat / 4)) (base64Digit (a.toNat % 4 * 16)) = some [a] := by
  have byte := a.toNat_lt
  have whole : a.toNat / 4 * 4 + a.toNat % 4 * 16 / 16 = a.toNat := by omega
  unfold lastOne?
  rw [base64Value?_base64Digit _ (by omega), base64Value?_base64Digit _ (by omega)]
  simp only [Option.bind_eq_bind, Option.bind_some, Nat.mul_mod_left, if_true, whole,
    UInt8.ofNat_toNat]

theorem lastTwo?_written (a b : UInt8) :
    lastTwo? (base64Digit (a.toNat / 4)) (base64Digit (a.toNat % 4 * 16 + b.toNat / 16))
      (base64Digit (b.toNat % 16 * 4)) = some [a, b] := by
  have first := a.toNat_lt
  have second := b.toNat_lt
  have high : a.toNat / 4 * 4 + (a.toNat % 4 * 16 + b.toNat / 16) / 16 = a.toNat := by omega
  have low : (a.toNat % 4 * 16 + b.toNat / 16) % 16 * 16 + b.toNat % 16 * 4 / 4 = b.toNat := by
    omega
  unfold lastTwo?
  rw [base64Value?_base64Digit _ (by omega), base64Value?_base64Digit _ (by omega),
    base64Value?_base64Digit _ (by omega)]
  simp only [Option.bind_eq_bind, Option.bind_some, Nat.mul_mod_left, if_true, high, low,
    UInt8.ofNat_toNat]

theorem three?_written (a b c : UInt8) :
    three? (base64Digit (a.toNat / 4)) (base64Digit (a.toNat % 4 * 16 + b.toNat / 16))
      (base64Digit (b.toNat % 16 * 4 + c.toNat / 64)) (base64Digit (c.toNat % 64)) =
      some [a, b, c] := by
  have first := a.toNat_lt
  have second := b.toNat_lt
  have third := c.toNat_lt
  have high : a.toNat / 4 * 4 + (a.toNat % 4 * 16 + b.toNat / 16) / 16 = a.toNat := by omega
  have middle : (a.toNat % 4 * 16 + b.toNat / 16) % 16 * 16 +
      (b.toNat % 16 * 4 + c.toNat / 64) / 4 = b.toNat := by omega
  have low : (b.toNat % 16 * 4 + c.toNat / 64) % 4 * 64 + c.toNat % 64 = c.toNat := by omega
  unfold three?
  rw [base64Value?_base64Digit _ (by omega), base64Value?_base64Digit _ (by omega),
    base64Value?_base64Digit _ (by omega), base64Value?_base64Digit _ (by omega)]
  simp only [Option.bind_eq_bind, Option.bind_some, high, middle, low, UInt8.ofNat_toNat]

theorem written_of_lastOne? {p q : Char} {bytes : List UInt8}
    (read : lastOne? p q = some bytes) : encodeBase64List bytes = [p, q, '=', '='] := by
  unfold lastOne? at read
  obtain ⟨a, readP, behind⟩ := Option.bind_eq_some_iff.mp read
  obtain ⟨b, readQ, joined⟩ := Option.bind_eq_some_iff.mp behind
  obtain ⟨smallA, rfl⟩ := base64Digit_of_value readP
  obtain ⟨smallB, rfl⟩ := base64Digit_of_value readQ
  split at joined
  · rename_i aligned
    cases joined
    have byte : (UInt8.ofNat (a * 4 + b / 16)).toNat = a * 4 + b / 16 :=
      toNat_ofNat_small (by omega)
    have high : (a * 4 + b / 16) / 4 = a := by omega
    have low : (a * 4 + b / 16) % 4 * 16 = b := by omega
    rw [encodeBase64List, byte, high, low]
  · cases joined

theorem written_of_lastTwo? {p q r : Char} {bytes : List UInt8}
    (read : lastTwo? p q r = some bytes) : encodeBase64List bytes = [p, q, r, '='] := by
  unfold lastTwo? at read
  obtain ⟨a, readP, behindP⟩ := Option.bind_eq_some_iff.mp read
  obtain ⟨b, readQ, behindQ⟩ := Option.bind_eq_some_iff.mp behindP
  obtain ⟨c, readR, joined⟩ := Option.bind_eq_some_iff.mp behindQ
  obtain ⟨smallA, rfl⟩ := base64Digit_of_value readP
  obtain ⟨smallB, rfl⟩ := base64Digit_of_value readQ
  obtain ⟨smallC, rfl⟩ := base64Digit_of_value readR
  split at joined
  · rename_i aligned
    cases joined
    have first : (UInt8.ofNat (a * 4 + b / 16)).toNat = a * 4 + b / 16 :=
      toNat_ofNat_small (by omega)
    have second : (UInt8.ofNat (b % 16 * 16 + c / 4)).toNat = b % 16 * 16 + c / 4 :=
      toNat_ofNat_small (by omega)
    have high : (a * 4 + b / 16) / 4 = a := by omega
    have middle : (a * 4 + b / 16) % 4 * 16 + (b % 16 * 16 + c / 4) / 16 = b := by omega
    have low : (b % 16 * 16 + c / 4) % 16 * 4 = c := by omega
    rw [encodeBase64List, first, second, high, middle, low]
  · cases joined

theorem written_of_three? {p q r s : Char} {bytes : List UInt8}
    (read : three? p q r s = some bytes) (rest : List UInt8) :
    encodeBase64List (bytes ++ rest) = p :: q :: r :: s :: encodeBase64List rest := by
  unfold three? at read
  obtain ⟨a, readP, behindP⟩ := Option.bind_eq_some_iff.mp read
  obtain ⟨b, readQ, behindQ⟩ := Option.bind_eq_some_iff.mp behindP
  obtain ⟨c, readR, behindR⟩ := Option.bind_eq_some_iff.mp behindQ
  obtain ⟨d, readS, joined⟩ := Option.bind_eq_some_iff.mp behindR
  obtain ⟨smallA, rfl⟩ := base64Digit_of_value readP
  obtain ⟨smallB, rfl⟩ := base64Digit_of_value readQ
  obtain ⟨smallC, rfl⟩ := base64Digit_of_value readR
  obtain ⟨smallD, rfl⟩ := base64Digit_of_value readS
  cases joined
  have first : (UInt8.ofNat (a * 4 + b / 16)).toNat = a * 4 + b / 16 :=
    toNat_ofNat_small (by omega)
  have second : (UInt8.ofNat (b % 16 * 16 + c / 4)).toNat = b % 16 * 16 + c / 4 :=
    toNat_ofNat_small (by omega)
  have third : (UInt8.ofNat (c % 4 * 64 + d)).toNat = c % 4 * 64 + d :=
    toNat_ofNat_small (by omega)
  have front : (a * 4 + b / 16) / 4 = a := by omega
  have high : (a * 4 + b / 16) % 4 * 16 + (b % 16 * 16 + c / 4) / 16 = b := by omega
  have low : (b % 16 * 16 + c / 4) % 16 * 4 + (c % 4 * 64 + d) / 64 = c := by omega
  have last : (c % 4 * 64 + d) % 64 = d := by omega
  simp only [List.cons_append, List.nil_append, encodeBase64List, first, second, third, front,
    high, low, last]

/-! ### Texts -/

/-- Four digits that do not end in padding are a quantum of three bytes. -/
theorem decodeBase64List?_cons {p q r s : Char} (digit : s ≠ '=') (rest : List Char) :
    decodeBase64List? (p :: q :: r :: s :: rest) =
      (three? p q r s).bind fun front =>
        (decodeBase64List? rest).bind fun back => some (front ++ back) := by
  rw [decodeBase64List?]
  · rfl
  · exact fun _ padding => absurd padding digit
  · exact fun padding => absurd padding digit

theorem decodeBase64List?_encodeBase64List (bytes : List UInt8) :
    decodeBase64List? (encodeBase64List bytes) = some bytes := by
  fun_induction encodeBase64List bytes with
  | case1 => rfl
  | case2 a => exact lastOne?_written a
  | case3 a b =>
      have digit : base64Digit (b.toNat % 16 * 4) ≠ '=' := base64Digit_ne_padding _ (by omega)
      rw [decodeBase64List?]
      · exact lastTwo?_written a b
      · exact fun padding => absurd padding digit
  | case4 a b c rest ih =>
      have digit : base64Digit (c.toNat % 64) ≠ '=' := base64Digit_ne_padding _ (by omega)
      rw [decodeBase64List?_cons digit, three?_written, ih]
      rfl

theorem encodeBase64List_of_read {chars : List Char} {bytes : List UInt8}
    (read : decodeBase64List? chars = some bytes) : encodeBase64List bytes = chars := by
  fun_induction decodeBase64List? chars generalizing bytes with
  | case1 =>
      cases read
      rfl
  | case2 p q => exact written_of_lastOne? read
  | case3 p q r => exact written_of_lastTwo? read
  | case4 p q r s rest _ _ ih =>
      obtain ⟨front, digits, behind⟩ := Option.bind_eq_some_iff.mp read
      obtain ⟨back, others, joined⟩ := Option.bind_eq_some_iff.mp behind
      cases joined
      rw [written_of_three? digits, ih others]
  | case5 => cases read

/-- A text denotes bytes if it is the one that is written for them. -/
theorem decodeBase64?_eq_some_iff {text : String} {bytes : List UInt8} :
    decodeBase64? text = some bytes ↔ text = encodeBase64 bytes := by
  unfold decodeBase64? encodeBase64
  constructor
  · intro read
    rw [encodeBase64List_of_read read, String.ofList_toList]
  · rintro rfl
    rw [String.toList_ofList, decodeBase64List?_encodeBase64List]

theorem mem_encodeBase64List {c : Char} {bytes : List UInt8}
    (written : c ∈ encodeBase64List bytes) : c = '=' ∨ ∃ value, base64Value? c = some value := by
  have digit {value : Nat} (small : value < 64) (same : c = base64Digit value) :
      c = '=' ∨ ∃ value, base64Value? c = some value :=
    Or.inr ⟨value, by rw [same, base64Value?_base64Digit value small]⟩
  fun_induction encodeBase64List bytes with
  | case1 => cases written
  | case2 a =>
      have byte := a.toNat_lt
      simp only [List.mem_cons, List.not_mem_nil, or_false] at written
      rcases written with same | same | padding | padding
      · exact digit (by omega) same
      · exact digit (by omega) same
      · exact Or.inl padding
      · exact Or.inl padding
  | case3 a b =>
      have first := a.toNat_lt
      have second := b.toNat_lt
      simp only [List.mem_cons, List.not_mem_nil, or_false] at written
      rcases written with same | same | same | padding
      · exact digit (by omega) same
      · exact digit (by omega) same
      · exact digit (by omega) same
      · exact Or.inl padding
  | case4 a b c rest ih =>
      have first := a.toNat_lt
      have second := b.toNat_lt
      have third := c.toNat_lt
      simp only [List.mem_cons] at written
      rcases written with same | same | same | same | later
      · exact digit (by omega) same
      · exact digit (by omega) same
      · exact digit (by omega) same
      · exact digit (by omega) same
      · exact ih later

end PerpDeploy.Codec
