/-
Text from bytes. Strict reading is the standard library's; lenient reading puts
one replacement character in the place of each longest run of bytes that starts
a character and does not finish it.
-/

namespace PerpDeploy.Text

/-- The bytes of a text, and no other bytes, are read as that text. -/
theorem fromUTF8?_eq_some_iff {content : ByteArray} {text : String} :
    String.fromUTF8? content = some text ↔ content = text.toUTF8 := by
  unfold String.fromUTF8?
  constructor
  · intro read
    split at read
    · cases read
      rfl
    · cases read
  · rintro rfl
    rw [String.toUTF8_eq_toByteArray, dif_pos text.isValidUTF8]
    rfl

def replacementCharacter : Char := Char.ofNat 0xFFFD

/-- The bytes that may follow a leading byte, and how many continuation bytes come after that
one. -/
structure LeadingByte where
  lead : Nat
  secondLow : Nat
  secondHigh : Nat
  further : Nat

def isContinuation (byte : UInt8) : Bool := 0x80 ≤ byte && byte ≤ 0xBF

/-- The form of the characters that start with `byte`, if more than one byte long. -/
def LeadingByte.of? (byte : UInt8) : Option LeadingByte :=
  if 0xC2 ≤ byte && byte ≤ 0xDF then some ⟨byte.toNat - 0xC0, 0x80, 0xBF, 0⟩
  else if byte = 0xE0 then some ⟨0, 0xA0, 0xBF, 1⟩
  else if byte = 0xED then some ⟨0xD, 0x80, 0x9F, 1⟩
  else if 0xE1 ≤ byte && byte ≤ 0xEF then some ⟨byte.toNat - 0xE0, 0x80, 0xBF, 1⟩
  else if byte = 0xF0 then some ⟨0, 0x90, 0xBF, 2⟩
  else if byte = 0xF4 then some ⟨4, 0x80, 0x8F, 2⟩
  else if 0xF1 ≤ byte && byte ≤ 0xF3 then some ⟨byte.toNat - 0xF0, 0x80, 0xBF, 2⟩
  else none

inductive Utf8State
  | fresh
  | second (form : LeadingByte)
  | further (value : Nat) (left : Nat)

private def startByte (byte : UInt8) : List Char × Utf8State :=
  if byte < 0x80 then ([Char.ofNat byte.toNat], .fresh)
  else match LeadingByte.of? byte with
    | some form => ([], .second form)
    | none => ([replacementCharacter], .fresh)

private def continueByte (value : Nat) (left : Nat) : List Char × Utf8State :=
  match left with
  | 0 => ([Char.ofNat value], .fresh)
  | left + 1 => ([], .further value (left + 1))

private def afterBroken (byte : UInt8) : List Char × Utf8State :=
  let (chars, state) := startByte byte
  (replacementCharacter :: chars, state)

/-- One byte read: the characters that it settles and the state after it. -/
def Utf8State.step (state : Utf8State) (byte : UInt8) : List Char × Utf8State :=
  match state with
  | .fresh => startByte byte
  | .second form =>
      if form.secondLow ≤ byte.toNat && byte.toNat ≤ form.secondHigh then
        continueByte (form.lead * 64 + (byte.toNat - 0x80)) form.further
      else afterBroken byte
  | .further value left =>
      if isContinuation byte then
        continueByte (value * 64 + (byte.toNat - 0x80)) (left - 1)
      else afterBroken byte

def lenientChars : Utf8State → List UInt8 → List Char
  | .fresh, [] => []
  | .second _, [] => [replacementCharacter]
  | .further _ _, [] => [replacementCharacter]
  | state, byte :: rest =>
      let (chars, next) := state.step byte
      chars ++ lenientChars next rest

/-- Text that keeps every well-formed character and replaces the rest. -/
def lenientText (bytes : ByteArray) : String :=
  match String.fromUTF8? bytes with
  | some text => text
  | none => String.ofList (lenientChars .fresh bytes.toList)

theorem lenientText_toUTF8 (text : String) : lenientText text.toUTF8 = text := by
  simp only [lenientText, fromUTF8?_eq_some_iff.mpr rfl]

end PerpDeploy.Text
