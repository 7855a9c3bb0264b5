/-
Attributes as nodes write them, plain or in base 64. Which of the two forms a node has chosen
for an attribute makes no difference to what is found, as long as no key can be taken for the
other form of the key that is looked for. What is found is the value of the first attribute
with that key.
-/

import PerpDeploy.Chain.Transaction
import PerpDeploy.Proofs.Codec.Base64
import PerpDeploy.Proofs.Codec.Hex
import PerpDeploy.Text.Utf8
import Mathlib.Data.List.Forall2

namespace PerpDeploy

def encodedText (text : String) : String := Codec.encodeBase64 text.toUTF8.toList

/-- The attribute as an older node writes it. -/
def EventAttribute.encoded (entry : EventAttribute) : EventAttribute :=
  { key := encodedText entry.key, value := entry.value.map encodedText }

/-- The same attribute in one of its two forms. -/
inductive EventAttribute.Form (entry : EventAttribute) : EventAttribute → Prop
  | plain : Form entry entry
  | encoded : Form entry entry.encoded

/-- The same event, each of its attributes in a form of its own. -/
structure TransactionEvent.Form (event written : TransactionEvent) : Prop where
  kind : written.kind = event.kind
  attributes : List.Forall₂ EventAttribute.Form event.attributes written.attributes

/-- Neither of two keys is the encoded form of the other. -/
structure Unmistakable (sought key : String) : Prop where
  notEncoded : key ≠ encodedText sought
  notDecoded : sought ≠ encodedText key

/-- The attributes of the events of a kind, in their order. -/
def attributesOf (kind : String) (events : List TransactionEvent) : List EventAttribute :=
  (events.filter fun event => event.kind == kind).flatMap TransactionEvent.attributes

theorem findAttribute?_eq (events : List TransactionEvent) (kind key : String) :
    findAttribute? events kind key =
      (attributesOf kind events).findSome? (EventAttribute.valueFor? key) := rfl

/-! ### Encoded texts -/

theorem decodedText?_eq_some_iff {encoded text : String} :
    decodedText? encoded = some text ↔ encoded = encodedText text := by
  unfold decodedText? encodedText
  simp only [Option.bind_eq_some_iff, Codec.decodeBase64?_eq_some_iff, Text.fromUTF8?_eq_some_iff]
  constructor
  · rintro ⟨bytes, rfl, content⟩
    rw [← content, Codec.toList_eq, List.data_toByteArray]
  · rintro rfl
    refine ⟨_, rfl, ?_⟩
    rw [Codec.toList_eq]
    exact ByteArray.ext (by rw [List.data_toByteArray, Array.toArray_toList])

theorem encodedText_empty : encodedText "" = "" := by
  rw [encodedText, Codec.toList_eq]
  rfl

theorem encodedText_inj {left right : String} (same : encodedText left = encodedText right) :
    left = right := by
  have read := decodedText?_eq_some_iff.mpr same
  rw [decodedText?_eq_some_iff.mpr rfl] at read
  exact Option.some.inj read

/-- A text with a character that is no digit is not the encoded form of any text. -/
theorem ne_encodedText {key : String} (underscore : '_' ∈ key.toList) (text : String) :
    key ≠ encodedText text := by
  rintro rfl
  rw [encodedText, Codec.encodeBase64, String.toList_ofList] at underscore
  rcases Codec.mem_encodeBase64List underscore with padding | ⟨value, digit⟩
  · exact absurd padding (by decide)
  · cases digit

/-! ### One attribute -/

namespace EventAttribute

/-- The value of a plain attribute, if it has the key. -/
def plainValueFor? (sought : String) (entry : EventAttribute) : Option String :=
  if entry.key = sought then some (entry.value.getD "") else none

theorem valueFor?_plain {sought : String} {entry : EventAttribute}
    (clear : Unmistakable sought entry.key) :
    entry.valueFor? sought = entry.plainValueFor? sought := by
  have apart : ¬ decodedText? entry.key = some sought :=
    fun read => clear.notEncoded (decodedText?_eq_some_iff.mp read)
  unfold valueFor? plainValueFor?
  simp only [if_neg apart]

/-- An absent value stands for an empty one in either form. -/
theorem decodedText?_value (entry : EventAttribute) :
    decodedText? (entry.encoded.value.getD "") = some (entry.value.getD "") := by
  rw [decodedText?_eq_some_iff]
  unfold encoded
  cases entry.value with
  | none => exact encodedText_empty.symm
  | some value => rfl

theorem valueFor?_encoded {sought : String} {entry : EventAttribute}
    (clear : Unmistakable sought entry.key) :
    entry.encoded.valueFor? sought = entry.plainValueFor? sought := by
  have key : entry.encoded.key = encodedText entry.key := rfl
  unfold valueFor? plainValueFor?
  simp only [key, decodedText?_eq_some_iff, decodedText?_value]
  rw [if_neg fun same => clear.notDecoded same.symm]
  by_cases same : entry.key = sought
  · rw [if_pos same, if_pos (congrArg encodedText same)]
  · rw [if_neg same, if_neg fun alike => same (encodedText_inj alike)]

theorem Form.valueFor? {sought : String} {entry written : EventAttribute}
    (form : Form entry written) (clear : Unmistakable sought entry.key) :
    written.valueFor? sought = entry.plainValueFor? sought := by
  cases form with
  | plain => exact valueFor?_plain clear
  | encoded => exact valueFor?_encoded clear

end EventAttribute

/-! ### All attributes -/

theorem attributesOf_forms {plain written : List TransactionEvent}
    (forms : List.Forall₂ TransactionEvent.Form plain written) (kind : String) :
    List.Forall₂ EventAttribute.Form (attributesOf kind plain) (attributesOf kind written) := by
  refine List.rel_flatMap (List.rel_filter ?_ forms) fun _ _ form => form.attributes
  intro event other form
  simp only [beq_iff_eq, form.kind]

theorem findSome?_congr {α β γ : Type} {R : α → β → Prop} {left : α → Option γ}
    {right : β → Option γ} (same : ∀ first second, R first second → right second = left first)
    {items : List α} {others : List β} (related : List.Forall₂ R items others) :
    others.findSome? right = items.findSome? left := by
  induction related with
  | nil => rfl
  | cons first _ ih => rw [List.findSome?_cons, List.findSome?_cons, same _ _ first, ih]

theorem findSome?_plainValueFor? (sought : String) (entries : List EventAttribute) :
    entries.findSome? (EventAttribute.plainValueFor? sought) =
      (entries.find? fun entry => entry.key == sought).map fun entry => entry.value.getD "" := by
  induction entries with
  | nil => rfl
  | cons entry rest ih =>
      rw [List.findSome?_cons, List.find?_cons, ih, EventAttribute.plainValueFor?]
      by_cases same : entry.key = sought
      · rw [if_pos same, beq_iff_eq.mpr same]
        rfl
      · rw [if_neg same, beq_false_of_ne same]

theorem findAttribute?_of_forms {plain written : List TransactionEvent} {kind sought : String}
    (forms : List.Forall₂ TransactionEvent.Form plain written)
    (clear : ∀ entry ∈ attributesOf kind plain, Unmistakable sought entry.key) :
    findAttribute? written kind sought =
      ((attributesOf kind plain).find? fun entry => entry.key == sought).map
        fun entry => entry.value.getD "" := by
  have marked := (List.forall₂_and_left _ _).mpr ⟨clear, attributesOf_forms forms kind⟩
  rw [findAttribute?_eq, ← findSome?_plainValueFor?]
  exact findSome?_congr (fun _ _ both => both.2.valueFor? both.1) marked

/-- In whichever forms the attributes of a list stand, the value of the first one with the key
is found. -/
theorem findAttribute?_ignores_forms {plain written : List TransactionEvent}
    {kind sought : String} (forms : List.Forall₂ TransactionEvent.Form plain written)
    (clear : ∀ entry ∈ attributesOf kind plain, Unmistakable sought entry.key) :
    findAttribute? written kind sought = findAttribute? plain kind sought ∧
      findAttribute? plain kind sought =
        ((attributesOf kind plain).find? fun entry => entry.key == sought).map
          (fun entry => entry.value.getD "") ∧
      ('_' ∈ sought.toList → ∀ text, sought ≠ encodedText text) := by
  have unchanged : List.Forall₂ TransactionEvent.Form plain plain :=
    List.forall₂_same.mpr fun event _ =>
      { kind := rfl, attributes := List.forall₂_same.mpr fun entry _ => .plain }
  have found := findAttribute?_of_forms unchanged clear
  exact ⟨(findAttribute?_of_forms forms clear).trans found.symm, found, ne_encodedText⟩

/-- A key with letters outside of the alphabet of the code, and an attribute without a value. -/
def storedPlain : List TransactionEvent :=
  [ { kind := "message", attributes := [⟨"code_id", some "7"⟩] },
    { kind := "store_code"
      attributes := [⟨"größe", some "1"⟩, ⟨"code_id", some "42"⟩, ⟨"code_id", none⟩] } ]

/-- The same events from a node that has encoded the first two attributes of the second. -/
def storedMixed : List TransactionEvent :=
  [ { kind := "message", attributes := [⟨"code_id", some "7"⟩] },
    { kind := "store_code"
      attributes :=
        [⟨"Z3LDtsOfZQ==", some "MQ=="⟩, ⟨"Y29kZV9pZA==", some "NDI="⟩, ⟨"code_id", none⟩] } ]

theorem encodedText_eq (text : String) :
    encodedText text = Codec.encodeBase64 text.toByteArray.data.toList := by
  rw [encodedText, Codec.toList_eq]
  rfl

theorem storedMixed_forms : List.Forall₂ TransactionEvent.Form storedPlain storedMixed := by
  have size : EventAttribute.encoded ⟨"größe", some "1"⟩ = ⟨"Z3LDtsOfZQ==", some "MQ=="⟩ := by
    simp only [EventAttribute.encoded, Option.map_some, encodedText_eq]
    decide +kernel
  have code : EventAttribute.encoded ⟨"code_id", some "42"⟩ = ⟨"Y29kZV9pZA==", some "NDI="⟩ := by
    simp only [EventAttribute.encoded, Option.map_some, encodedText_eq]
    decide +kernel
  refine .cons ⟨rfl, .cons .plain .nil⟩ (.cons ⟨rfl, ?_⟩ .nil)
  exact .cons (size ▸ .encoded) (.cons (code ▸ .encoded) (.cons .plain .nil))

theorem storedPlain_unmistakable :
    ∀ entry ∈ attributesOf "store_code" storedPlain, Unmistakable "code_id" entry.key := by
  have code : encodedText "code_id" = "Y29kZV9pZA==" := by
    rw [encodedText_eq]
    decide +kernel
  intro entry member
  refine { notEncoded := ?_, notDecoded := ne_encodedText (by decide) entry.key }
  rw [code]
  revert entry
  decide +kernel

theorem findAttribute?_ignores_forms_mixed :
    List.Forall₂ TransactionEvent.Form storedPlain storedMixed ∧
      (∀ entry ∈ attributesOf "store_code" storedPlain, Unmistakable "code_id" entry.key) ∧
      findAttribute? storedMixed "store_code" "code_id" = some "42" := by
  refine ⟨storedMixed_forms, storedPlain_unmistakable, ?_⟩
  obtain ⟨same, found, -⟩ :=
    findAttribute?_ignores_forms storedMixed_forms storedPlain_unmistakable
  exact same.trans (found.trans rfl)

end PerpDeploy
