/-
Reading pairs of hexadecimal digits. A text of an even number of digits is always read: it
has as many bytes as characters, and each byte is the code of its digit. No other text is
read, and what is read are the bytes whose digits the text is made of.
-/

import PerpDeploy.Codec.Hex

namespace PerpDeploy.Codec

/-- Digits in either case, as `hexValue?` knows them. -/
def isHexDigit (c : Char) : Bool :=
  ('0' ≤ c && c ≤ '9') || ('a' ≤ c && c ≤ 'f') || ('A' ≤ c && c ≤ 'F')

/-- A text of whole bytes in hexadecimal digits. -/
structure HexPairs (text : String) : Prop where
  even : text.length % 2 = 0
  digits : ∀ c ∈ text.toList, isHexDigit c = true

private theorem toList_loop (bytes : ByteArray) (position : Nat) (read : List UInt8) :
    ByteArray.toList.loop bytes position read =
      read.reverse ++ bytes.data.toList.drop position := by
  fun_induction ByteArray.toList.loop bytes position read with
  | case1 position read within ih =>
      have inside : position < bytes.data.toList.length := within
      rw [ih, List.drop_eq_getElem_cons inside]
      simp [ByteArray.get!, within]
  | case2 position read beyond =>
      rw [List.drop_eq_nil_of_le (Nat.le_of_not_lt beyond), List.append_nil]

theorem toList_eq (bytes : ByteArray) : bytes.toList = bytes.data.toList :=
  toList_loop bytes 0 []

theorem isHexDigit_iff (c : Char) :
    isHexDigit c = true ↔
      (48 ≤ c.toNat ∧ c.toNat ≤ 57) ∨ (97 ≤ c.toNat ∧ c.toNat ≤ 102) ∨
        (65 ≤ c.toNat ∧ c.toNat ≤ 70) := by
  simp only [isHexDigit, Bool.or_eq_true, Bool.and_eq_true, decide_eq_true_eq, or_assoc]
  rfl

theorem hexValue?_of_isHexDigit {c : Char} (digit : isHexDigit c = true) :
    ∃ value, hexValue? (UInt8.ofNat c.toNat) = some value := by
  have range := (isHexDigit_iff c).mp digit
  have code : (UInt8.ofNat c.toNat).toNat = c.toNat := by
    rw [UInt8.toNat_ofNat']
    omega
  unfold hexValue?
  simp only [code]
  rcases range with decimal | lower | upper
  · exact ⟨_, if_pos decimal⟩
  · have above : ¬ (48 ≤ c.toNat ∧ c.toNat ≤ 57) := by omega
    exact ⟨_, (if_neg above).trans (if_pos lower)⟩
  · have above : ¬ (48 ≤ c.toNat ∧ c.toNat ≤ 57) := by omega
    have apart : ¬ (97 ≤ c.toNat ∧ c.toNat ≤ 102) := by omega
    exact ⟨_, (if_neg above).trans ((if_neg apart).trans (if_pos upper))⟩

/-- A digit is one byte. -/
theorem utf8EncodeChar_of_isHexDigit {c : Char} (digit : isHexDigit c = true) :
    String.utf8EncodeChar c = [UInt8.ofNat c.toNat] := by
  have range := (isHexDigit_iff c).mp digit
  have single : c.utf8Size = 1 := by
    apply Char.utf8Size_eq_one_iff.mpr
    have small : c.toNat ≤ 127 := by omega
    exact small
  rw [String.utf8EncodeChar_eq_singleton single]
  rfl

theorem toUTF8_toList (text : String) :
    text.toUTF8.toList = text.toList.flatMap String.utf8EncodeChar := by
  rw [toList_eq]
  change text.toByteArray.data.toList = _
  rw [← String.utf8Encode_toList, List.utf8Encode, List.data_toByteArray]

theorem toUTF8_of_digits {text : String} (digits : ∀ c ∈ text.toList, isHexDigit c = true) :
    text.toUTF8.toList = text.toList.map fun c => UInt8.ofNat c.toNat := by
  have encoded : ∀ chars : List Char, (∀ c ∈ chars, isHexDigit c = true) →
      chars.flatMap String.utf8EncodeChar = chars.map fun c => UInt8.ofNat c.toNat := by
    intro chars all
    induction chars with
    | nil => rfl
    | cons c rest ih =>
        obtain ⟨first, others⟩ := List.forall_mem_cons.mp all
        rw [List.flatMap_cons, utf8EncodeChar_of_isHexDigit first, ih others]
        rfl
  rw [toUTF8_toList, encoded text.toList digits]

/-- Each pair is two digits, so that reading goes on to the end. -/
theorem decodeHexList_of_digits {bytes : List UInt8} (even : bytes.length % 2 = 0)
    (digits : ∀ byte ∈ bytes, ∃ value, hexValue? byte = some value) (position : Nat) :
    ∃ decoded, decodeHexList position bytes = .ok decoded := by
  fun_induction decodeHexList position bytes with
  | case1 position => exact ⟨[], rfl⟩
  | case2 position byte => simp at even
  | case3 position high low rest unread =>
      obtain ⟨value, read⟩ := digits high (by simp)
      rw [unread] at read
      cases read
  | case4 position high low rest upper unread read =>
      obtain ⟨value, also⟩ := digits low (by simp)
      rw [unread] at also
      cases also
  | case5 position high low rest upper lower => exact ⟨_, rfl⟩
  | case6 position high low rest upper lower _ _ fault stopped ih =>
      have shorter : rest.length % 2 = 0 := by
        simp only [List.length_cons] at even
        omega
      obtain ⟨decoded, read⟩ := ih shorter fun byte member => digits byte (by simp [member])
      rw [stopped] at read
      cases read

theorem decodeHex_of_pairs {text : String} (pairs : HexPairs text) :
    ∃ bytes, decodeHex text = .ok bytes := by
  have bytes := toUTF8_of_digits pairs.digits
  have even : text.toUTF8.toList.length % 2 = 0 := by
    rw [bytes, List.length_map, String.length_toList]
    exact pairs.even
  have digits : ∀ byte ∈ text.toUTF8.toList, ∃ value, hexValue? byte = some value := by
    intro byte member
    rw [bytes] at member
    obtain ⟨c, among, rfl⟩ := List.mem_map.mp member
    exact hexValue?_of_isHexDigit (pairs.digits c among)
  obtain ⟨decoded, read⟩ := decodeHexList_of_digits even digits 0
  refine ⟨decoded, ?_⟩
  unfold decodeHex
  dsimp only
  rw [if_neg (by omega), read]

/-! ### What is read -/

/-- The text is made of the digits of the bytes, in either case. -/
def Spells (text : String) (bytes : List UInt8) : Prop :=
  text.toList.map Char.toLower = encodeHexList bytes

/-- The byte is the code of the digit for a value. -/
structure DigitByte (byte : UInt8) (value : Nat) : Prop where
  digit : isHexDigit (Char.ofNat byte.toNat) = true
  lower : (Char.ofNat byte.toNat).toLower = hexDigit value
  ascii : byte.toNat < 128
  small : value < 16

private theorem hexValue?_table : ∀ code < 256, (hexValue? (UInt8.ofNat code)).all (fun value =>
    isHexDigit (Char.ofNat code) && (Char.ofNat code).toLower == hexDigit value &&
      code < 128 && value < 16) = true := by
  decide +kernel

theorem digitByte_of_hexValue? {byte : UInt8} {value : Nat}
    (read : hexValue? byte = some value) : DigitByte byte value := by
  have row := hexValue?_table byte.toNat byte.toNat_lt
  rw [UInt8.ofNat_toNat, read] at row
  simp only [Option.all_some, Bool.and_eq_true, beq_iff_eq, decide_eq_true_eq] at row
  obtain ⟨⟨⟨digit, lower⟩, ascii⟩, small⟩ := row
  exact { digit, lower, ascii, small }

/-- The first byte of a character is its code, or else it is beyond the digits. -/
theorem utf8EncodeChar_lead (c : Char) :
    ∃ lead rest, String.utf8EncodeChar c = UInt8.ofNat lead :: rest ∧ lead < 256 ∧
      (lead < 128 → lead = c.toNat) := by
  fun_cases String.utf8EncodeChar c with
  | case1 code single => exact ⟨code, [], rfl, by omega, fun _ => rfl⟩
  | case2 code => exact ⟨_, _, rfl, by omega, by omega⟩
  | case3 code => exact ⟨_, _, rfl, by omega, by omega⟩
  | case4 code => exact ⟨_, _, rfl, by omega, by omega⟩

theorem isHexDigit_of_bytes {c : Char}
    (digits : ∀ byte ∈ String.utf8EncodeChar c, ∃ value, hexValue? byte = some value) :
    isHexDigit c = true := by
  obtain ⟨lead, rest, encoded, byte, single⟩ := utf8EncodeChar_lead c
  obtain ⟨value, read⟩ := digits (UInt8.ofNat lead) (encoded ▸ List.mem_cons_self)
  have found := digitByte_of_hexValue? read
  have code : (UInt8.ofNat lead).toNat = lead := by rw [UInt8.toNat_ofNat', Nat.mod_eq_of_lt byte]
  have same : lead = c.toNat := single (code ▸ found.ascii)
  have digit := found.digit
  rwa [code, same, Char.ofNat_toNat] at digit

/-- Bytes are read in pairs, every one of them as a digit. -/
theorem decodeHexList_reads {position : Nat} {bytes decoded : List UInt8}
    (read : decodeHexList position bytes = .ok decoded) :
    bytes.length % 2 = 0 ∧ (∀ byte ∈ bytes, ∃ value, hexValue? byte = some value) ∧
      bytes.map (fun byte => (Char.ofNat byte.toNat).toLower) = encodeHexList decoded := by
  fun_induction decodeHexList position bytes generalizing decoded with
  | case1 =>
      cases read
      exact ⟨rfl, List.forall_mem_nil _, rfl⟩
  | case2 => cases read
  | case3 => cases read
  | case4 => cases read
  | case5 position high low rest upper lower readLow readHigh bytes more ih =>
      cases read
      obtain ⟨even, digits, spelled⟩ := ih more
      have first := digitByte_of_hexValue? readHigh
      have second := digitByte_of_hexValue? readLow
      have upperSmall := first.small
      have lowerSmall := second.small
      have byte : (UInt8.ofNat (upper * 16 + lower)).toNat = upper * 16 + lower := by
        rw [UInt8.toNat_ofNat', Nat.mod_eq_of_lt (by omega)]
      have quotient : (upper * 16 + lower) / 16 = upper := by omega
      have remainder : (upper * 16 + lower) % 16 = lower := by omega
      refine ⟨?_, ?_, ?_⟩
      · simp only [List.length_cons]
        omega
      · exact List.forall_mem_cons.mpr ⟨⟨upper, readHigh⟩,
          List.forall_mem_cons.mpr ⟨⟨lower, readLow⟩, digits⟩⟩
      · rw [List.map_cons, List.map_cons, first.lower, second.lower, spelled, encodeHexList, byte,
          quotient, remainder]
  | case6 => cases read

theorem decodeHex_reads {text : String} {bytes : List UInt8} (read : decodeHex text = .ok bytes) :
    HexPairs text ∧ Spells text bytes := by
  unfold decodeHex at read
  dsimp only at read
  split at read
  · cases read
  obtain ⟨even, found, spelled⟩ := decodeHexList_reads read
  have digits : ∀ c ∈ text.toList, isHexDigit c = true := by
    intro c member
    apply isHexDigit_of_bytes
    intro byte within
    apply found
    rw [toUTF8_toList]
    exact List.mem_flatMap_of_mem member within
  have codes := toUTF8_of_digits digits
  rw [codes, List.length_map, String.length_toList] at even
  refine ⟨{ even, digits }, ?_⟩
  rw [Spells, ← spelled, codes, List.map_map]
  refine List.map_congr_left fun c member => ?_
  have range := (isHexDigit_iff c).mp (digits c member)
  have code : (UInt8.ofNat c.toNat).toNat = c.toNat := by
    rw [UInt8.toNat_ofNat']
    omega
  rw [Function.comp_apply, code, Char.ofNat_toNat]

end PerpDeploy.Codec
