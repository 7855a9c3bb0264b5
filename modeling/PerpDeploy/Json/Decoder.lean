/-
Typed values from JSON. A decoder walks a document in the order of its text and gives
the first fault that it meets: a fault of the text, or a shape other than its own.
Records are objects, or lists of their fields in order; unknown fields are skipped.
-/

import PerpDeploy.Json.Document

namespace PerpDeploy.Json

/-- Where a document comes from: straight from a text, from fields set aside while their
record's tag was sought, or from a finished value. -/
inductive Source
  | text
  | setAside
  | value
  deriving DecidableEq, Repr

/-- `room` is the number of brackets that may still be opened in a text. -/
structure Context where
  source : Source
  room : Nat
  deriving Repr

def Context.ofText : Context := { source := .text, room := 127 }

def Context.ofValue : Context := { source := .value, room := 0 }

def Context.ofSetAside : Context := { source := .setAside, room := 0 }

/-- Inside one more bracket. Only texts are limited in depth. -/
def Context.enter (context : Context) : Except Fault Context :=
  match context.source, context.room with
  | .text, 0 => .error .malformed
  | .text, room + 1 => .ok { context with room }
  | _, _ => .ok context

abbrev Decoder (α : Type) := Context → Document → Except Fault α

/-! ### Faults in order -/

def Ending.forReader : Ending → Except Fault Unit
  | .closed => .ok ()
  | .cut read _ => .error read
  | .dangling read _ => .error read

def Ending.forSkipper : Ending → Except Fault Unit
  | .closed => .ok ()
  | .cut _ skipped => .error skipped
  | .dangling _ skipped => .error skipped

/-- The fault found by a reader who expects another shape. A scalar is read to its end first. -/
def Document.mismatch : Document → Fault
  | .missing => .truncated
  | .broken read _ => read
  | .brokenString read _ => read
  | .number none => .malformed
  | .string none => .malformed
  | _ => .mismatched

mutual

def Document.skip : Document → Except Fault Unit
  | .array items ending => do Document.skipItems items; ending.forSkipper
  | .object fields ending => do Document.skipFields fields; ending.forSkipper
  | .unkeyed _ => .error .malformed
  | .missing => .error .truncated
  | .broken _ skipped => .error skipped
  | .brokenString _ skipped => .error skipped
  | .null => .ok ()
  | .bool _ => .ok ()
  | .number _ => .ok ()
  | .string _ => .ok ()

def Document.skipItems : List Document → Except Fault Unit
  | [] => .ok ()
  | item :: rest => do item.skip; Document.skipItems rest

def Document.skipFields : List (Option String × Document) → Except Fault Unit
  | [] => .ok ()
  | (_, value) :: rest => do value.skip; Document.skipFields rest

end

/-! ### Untyped values -/

mutual

/-- The value as it stands in the text, with its fields in order and none dropped. -/
def readJson (context : Context) : Document → Except Fault Json
  | .null => .ok .null
  | .bool value => .ok (.bool value)
  | .number (some value) => .ok (.number value)
  | .string (some value) => .ok (.string value)
  | .array items ending => do
      let inner ← context.enter
      let values ← readJsonItems inner items
      ending.forReader
      .ok (.array values)
  | .object fields ending => do
      let inner ← context.enter
      let values ← readJsonFields inner fields
      ending.forReader
      .ok (.object values)
  | .unkeyed _ => do
      let _ ← context.enter
      .error .malformed
  | .number none => .error .malformed
  | .string none => .error .malformed
  | .missing => .error .truncated
  | .broken read _ => .error read
  | .brokenString read _ => .error read

def readJsonItems (context : Context) : List Document → Except Fault (List Json)
  | [] => .ok []
  | item :: rest => do
      let value ← readJson context item
      let values ← readJsonItems context rest
      .ok (value :: values)

def readJsonFields (context : Context) :
    List (Option String × Document) → Except Fault (List (String × Json))
  | [] => .ok []
  | (none, _) :: _ => .error .malformed
  | (some name, item) :: rest => do
      let value ← readJson context item
      let values ← readJsonFields context rest
      .ok ((name, value) :: values)

end

namespace Decoder

def json : Decoder Json := fun context document =>
  (readJson context document).map canonical

/-! ### Scalars -/

def string : Decoder String
  | _, .string (some value) => .ok value
  | _, document => .error document.mismatch

def bool : Decoder Bool
  | _, .bool value => .ok value
  | _, document => .error document.mismatch

def integer (low limit : Int) : Decoder Int
  | _, .number (some (.integer value)) =>
      if low ≤ value ∧ value < limit then .ok value else .error .mismatched
  | _, document => .error document.mismatch

def natural (limit : Nat) : Decoder Nat := fun context document =>
  (integer 0 limit context document).map Int.toNat

def byte : Decoder Nat := natural (Nat.pow 2 8)

def halfWord : Decoder Nat := natural (Nat.pow 2 32)

def word : Decoder Nat := natural Number.wordLimit

def signedWord : Decoder Int := integer (-(Int.pow 2 63)) (Int.pow 2 63)

def float : Decoder Float
  | _, .number (some value) => .ok value.toFloat
  | _, document => .error document.mismatch

def nullable {α : Type} (decoder : Decoder α) : Decoder (Option α)
  | _, .null => .ok none
  | context, document => (decoder context document).map some

/-! ### Lists -/

def items {α : Type} (decoder : Decoder α) (context : Context) :
    List Document → Except Fault (List α)
  | [] => .ok []
  | item :: rest => do
      let value ← decoder context item
      let values ← items decoder context rest
      .ok (value :: values)

def list {α : Type} (decoder : Decoder α) : Decoder (List α)
  | context, .array documents ending => do
      let inner ← context.enter
      let values ← items decoder inner documents
      ending.forReader
      .ok values
  | _, document => .error document.mismatch

end Decoder

/-! ### Records -/

structure Slot where
  name : String
  check : Decoder Unit
  /-- A record written as a list may end before this field. -/
  mayBeCutOff : Bool

/-- The fields of a record in order, and the record made of the documents found for them. -/
structure Fields (α : Type) where
  slots : List Slot
  build : Context → (String → Option Document) → Except Fault α

namespace Fields

def pure {α : Type} (value : α) : Fields α := { slots := [], build := fun _ _ => .ok value }

def andThen {α β : Type} (fields : Fields (α → β)) (more : Fields α) : Fields β :=
  { slots := fields.slots ++ more.slots
    build := fun context found => do
      let function ← fields.build context found
      let value ← more.build context found
      .ok (function value) }

def map {α β : Type} (function : α → β) (fields : Fields α) : Fields β :=
  { slots := fields.slots
    build := fun context found => (fields.build context found).map function }

instance : Functor Fields where map := Fields.map

instance : Seq Fields where seq := fun fields more => Fields.andThen fields (more ())

def checkOf {α : Type} (decoder : Decoder α) : Decoder Unit := fun context document =>
  (decoder context document).map fun _ => ()

def required {α : Type} (name : String) (decoder : Decoder α) : Fields α :=
  { slots := [⟨name, checkOf decoder, false⟩]
    build := fun context found =>
      match found name with
      | some document => decoder context document
      | none => .error .mismatched }

/-- Stands for `value` where the field is absent, in an object as in a list. -/
def defaulted {α : Type} (name : String) (decoder : Decoder α) (value : α) : Fields α :=
  { slots := [⟨name, checkOf decoder, true⟩]
    build := fun context found =>
      match found name with
      | some document => decoder context document
      | none => .ok value }

/-- May be null, and absent from an object but not from a list. -/
def optional {α : Type} (name : String) (decoder : Decoder α) : Fields (Option α) :=
  { defaulted name (Decoder.nullable decoder) none with
    slots := [⟨name, checkOf (Decoder.nullable decoder), false⟩] }

/-- May be null, and absent from an object as from a list. -/
def omissible {α : Type} (name : String) (decoder : Decoder α) : Fields (Option α) :=
  defaulted name (Decoder.nullable decoder) none

/-- Checks fields as they come; a known field that comes again is at fault by its name alone. -/
def checkFields (context : Context) (slots : List Slot) (seen : List String) :
    List (Option String × Document) → Except Fault Unit
  | [] => .ok ()
  | (none, _) :: _ => .error .malformed
  | (some name, value) :: rest =>
      match slots.find? fun slot => slot.name == name with
      | none => do
          value.skip
          checkFields context slots seen rest
      | some slot =>
          if name ∈ seen then .error .mismatched
          else do
            slot.check context value
            checkFields context slots (name :: seen) rest

def surplusFault (context : Context) : Fault :=
  if context.source = .text then .malformed else .mismatched

def checkItems (context : Context) (ending : Ending) :
    List Slot → List Document → Except Fault Unit
  | [], [] =>
      match ending with
      | .closed => .ok ()
      | .cut read _ => .error read
      | .dangling _ _ => .error .malformed
  | [], _ :: _ => .error (surplusFault context)
  | slot :: slots, [] =>
      match ending with
      | .closed =>
          if slot.mayBeCutOff then checkItems context ending slots [] else .error .mismatched
      | .cut read _ => .error read
      | .dangling read _ => .error read
  | slot :: slots, item :: items => do
      slot.check context item
      checkItems context ending slots items

def findField (fields : List (Option String × Document)) (name : String) : Option Document :=
  (fields.find? fun field => field.1 == some name).map Prod.snd

def findItem (slots : List Slot) (items : List Document) (name : String) : Option Document :=
  ((slots.zip items).find? fun pair => pair.1.name == name).map Prod.snd

def decoder {α : Type} (record : Fields α) : Decoder α
  | context, .object fields ending => do
      let inner ← context.enter
      checkFields inner record.slots [] fields
      ending.forReader
      record.build inner (findField fields)
  | context, .array items ending => do
      let inner ← context.enter
      checkItems inner ending record.slots items
      record.build inner (findItem record.slots items)
  | context, .unkeyed _ => do
      let _ ← context.enter
      .error .malformed
  | _, document => .error document.mismatch

end Fields

/-! ### Alternatives -/

inductive Carried (α : Type)
  | nothing (value : α)
  | record (fields : Fields α)

structure Alternative (α : Type) where
  name : String
  carried : Carried α

namespace Alternative

def plain {α : Type} (name : String) (value : α) : Alternative α := ⟨name, .nothing value⟩

def record {α : Type} (name : String) (fields : Fields α) : Alternative α :=
  ⟨name, .record fields⟩

def find? {α : Type} (alternatives : List (Alternative α)) (name : String) :
    Option (Carried α) :=
  (alternatives.find? fun alternative => alternative.name == name).map Alternative.carried

def byName {α : Type} (alternatives : List (Alternative α)) (name : String) : Except Fault α :=
  match find? alternatives name with
  | some (.nothing value) => .ok value
  | _ => .error .mismatched

/-- Null, where nothing is carried. Fields set aside may say it with an empty object. -/
def readNothing : Decoder Unit
  | _, .null => .ok ()
  | context, document =>
      match context.source, document with
      | .setAside, .object [] .closed => .ok ()
      | _, _ => .error document.mismatch

def readCarried {α : Type} (alternatives : List (Alternative α)) (name : String) : Decoder α :=
  fun context document =>
    match find? alternatives name with
    | none => .error .mismatched
    | some (.nothing value) => (readNothing context document).map fun _ => value
    | some (.record fields) => fields.decoder context document

/-- An object with one field, in a text. What follows the field is at fault as text. -/
def readField {α : Type} (alternatives : List (Alternative α)) (context : Context) :
    List (Option String × Document) → Ending → Except Fault α
  | [], .closed => .error .malformed
  | [], .cut read _ => .error read
  | [], .dangling read _ => .error read
  | (none, _) :: _, _ => .error .malformed
  | (some name, value) :: rest, ending => do
      let result ← readCarried alternatives name context value
      match rest, ending with
      | [], .closed => .ok result
      | [], .cut read _ => .error read
      | _, _ => .error .malformed

def readTextual {α : Type} (alternatives : List (Alternative α)) : Decoder α
  | _, .string (some name) => byName alternatives name
  | _, .string none => .error .malformed
  | _, .brokenString read _ => .error read
  | _, .missing => .error .truncated
  | context, .object fields ending => do
      let inner ← context.enter
      readField alternatives inner fields ending
  | context, .unkeyed found => do
      let _ ← context.enter
      .error found.mismatch
  | _, _ => .error .malformed

def readFinished {α : Type} (alternatives : List (Alternative α)) : Decoder α
  | _, .string (some name) => byName alternatives name
  | context, .object [(some name, value)] _ => readCarried alternatives name context value
  | _, _ => .error .mismatched

def decoder {α : Type} (alternatives : List (Alternative α)) : Decoder α :=
  fun context document =>
    if context.source = .text then readTextual alternatives context document
    else readFinished alternatives context document

end Alternative

/-! ### Whole inputs -/

def decodeText {α : Type} (decoder : Decoder α) (text : String) : Except Fault α :=
  let (document, rest) := Document.read text
  match decoder Context.ofText document with
  | .error fault => .error fault
  | .ok value =>
      match rest with
      | some rest => if (skipBlanks rest).isEmpty then .ok value else .error .malformed
      | none => .error .malformed

def decodeValue {α : Type} (decoder : Decoder α) (value : Json) : Except Fault α :=
  decoder Context.ofValue (Document.ofJson value)

def parse (text : String) : Except Fault Json := decodeText Decoder.json text

end PerpDeploy.Json
