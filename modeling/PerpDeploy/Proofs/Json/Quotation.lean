/-
Strings in JSON texts. Whatever the characters of a string are, its written form is read
back as that string, and reading goes on behind the closing quote.
-/

import PerpDeploy.Json.Document
import PerpDeploy.Json.Printer

namespace PerpDeploy.Json

theorem hexDigitValue?_hexDigit :
    ∀ value < 16, hexDigitValue? (Codec.hexDigit value) = some value := by
  decide

theorem utf8Size_hexDigit : ∀ value < 16, (Codec.hexDigit value).utf8Size = 1 := by
  decide

theorem fewerBytes_cons {c : Char} (single : c.utf8Size = 1) (count : Nat) (rest : List Char) :
    fewerBytes (count + 1) (c :: rest) = fewerBytes count rest := by
  rw [fewerBytes, single, Nat.add_sub_cancel]
  exact Nat.succ_ne_zero count

theorem hexUnit_of_byte {value : Nat} (small : value < 0x20) (rest : List Char) :
    hexUnit ('0' :: '0' :: Codec.hexDigit (value / 16) :: Codec.hexDigit (value % 16) :: rest) =
      .ok (value, rest) := by
  have upper : value / 16 < 16 := by omega
  have lower : value % 16 < 16 := by omega
  have zero : hexDigitValue? '0' = some 0 := rfl
  have long : fewerBytes 4 ('0' :: '0' :: Codec.hexDigit (value / 16) ::
      Codec.hexDigit (value % 16) :: rest) = false := by
    rw [fewerBytes_cons rfl, fewerBytes_cons rfl, fewerBytes_cons (utf8Size_hexDigit _ upper),
      fewerBytes_cons (utf8Size_hexDigit _ lower), fewerBytes]
  have whole : ((0 * 16 + 0) * 16 + value / 16) * 16 + value % 16 = value := by omega
  unfold hexUnit
  simp only [long, zero, hexDigitValue?_hexDigit _ upper, hexDigitValue?_hexDigit _ lower, whole]
  rfl

theorem nextPiece_of_plain {c : Char} (quote : c ≠ '"') (backslash : c ≠ '\\')
    (printable : ¬ c.toNat < 0x20) (rest : List Char) :
    nextPiece (c :: rest) = .ok (some (.char c), rest) := by
  unfold nextPiece
  split
  · rename_i same
    cases same
  · rename_i same
    exact absurd (List.cons.inj same).1 quote
  · rename_i same
    exact absurd (List.cons.inj same).1 backslash
  · rename_i same
    exact absurd (List.cons.inj same).1 backslash
  · rename_i same
    exact absurd (List.cons.inj same).1 backslash
  · rename_i same
    obtain ⟨rfl, rfl⟩ := List.cons.inj same
    rw [if_neg printable]

theorem nextPiece_escaped (c : Char) (rest : List Char) :
    nextPiece (escapedCharacter c ++ rest) = .ok (some (.char c), rest) := by
  unfold escapedCharacter
  split
  · rename_i same; subst same; rfl
  split
  · rename_i same; subst same; rfl
  split
  · rename_i same; subst same; rfl
  split
  · rename_i same; subst same; rfl
  split
  · rename_i same; subst same; rfl
  split
  · rename_i same; subst same; rfl
  split
  · rename_i same; subst same; rfl
  split
  -- The other control characters are written by their number.
  · rename_i control
    have unit := hexUnit_of_byte control rest
    have piece : pieceOfUnit c.toNat = .char c := by
      have whole : isSurrogate c.toNat = false := by
        simp only [isSurrogate, Bool.and_eq_false_iff, decide_eq_false_iff_not]
        omega
      rw [pieceOfUnit, whole, Char.ofNat_toNat]
      rfl
    simp only [List.cons_append, List.nil_append, nextPiece, unit, piece]
  · rename_i quote backslash _ _ _ _ _ printable
    exact nextPiece_of_plain quote backslash printable rest

theorem readPieces_escaped (text rest : List Char) {fuel : Nat} (enough : text.length < fuel) :
    readPieces fuel (text.flatMap escapedCharacter ++ '"' :: rest) =
      (text.map StringPiece.char, .ok rest) := by
  induction text generalizing fuel with
  | nil =>
      cases fuel with
      | zero => cases enough
      | succ fuel => rfl
  | cons c text ih =>
      cases fuel with
      | zero => cases enough
      | succ fuel =>
          have onward := ih (Nat.lt_of_succ_lt_succ enough)
          rw [List.flatMap_cons, List.append_assoc]
          simp only [readPieces, nextPiece_escaped, onward, List.map_cons]

theorem joinPieces_chars (text : List Char) : joinPieces (text.map .char) = some text := by
  induction text with
  | nil => rfl
  | cons c text ih => simp only [List.map_cons, joinPieces, ih, Option.map_some]

theorem escapedCharacter_ne_nil (c : Char) : escapedCharacter c ≠ [] := by
  intro empty
  have next := nextPiece_escaped c []
  rw [empty] at next
  cases next

theorem length_le_escaped (text : List Char) :
    text.length ≤ (text.flatMap escapedCharacter).length := by
  induction text with
  | nil => exact Nat.le_refl 0
  | cons c text ih =>
      have nonempty := List.length_pos_iff.mpr (escapedCharacter_ne_nil c)
      rw [List.flatMap_cons, List.length_append, List.length_cons]
      omega

theorem readString_escaped (text : String) (rest : List Char) :
    readString (text.toList.flatMap escapedCharacter ++ '"' :: rest) =
      { text := .ok (some text), skipped := .malformed, rest := some rest } := by
  have enough : text.toList.length <
      (text.toList.flatMap escapedCharacter ++ '"' :: rest).length + 1 := by
    have short := length_le_escaped text.toList
    rw [List.length_append]
    omega
  have pieces := readPieces_escaped text.toList rest enough
  simp only [readString, pieces, joinPieces_chars, Option.map_some, String.ofList_toList]

end PerpDeploy.Json
