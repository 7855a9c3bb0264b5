/-
Transactions as nodes tell of them: a result code, a log, and events with attributes.
Older nodes write the names and values of attributes in base 64.
-/

import PerpDeploy.Codec.Base64
import PerpDeploy.Json.Decoder

namespace PerpDeploy

open Json (Fields)

structure EventAttribute where
  key : String
  value : Option String
  deriving DecidableEq, Repr

structure TransactionEvent where
  kind : String
  attributes : List EventAttribute
  deriving DecidableEq, Repr

/-- A transaction in a block; a code other than zero means that it has failed. -/
structure TransactionResult where
  code : Nat
  log : String
  events : List TransactionEvent
  deriving DecidableEq, Repr

def EventAttribute.decoder : Json.Decoder EventAttribute :=
  (EventAttribute.mk <$> Fields.required "key" Json.Decoder.string
    <*> Fields.omissible "value" Json.Decoder.string).decoder

def TransactionEvent.decoder : Json.Decoder TransactionEvent :=
  (TransactionEvent.mk <$> Fields.required "type" Json.Decoder.string
    <*> Fields.defaulted "attributes" (Json.Decoder.list EventAttribute.decoder) []).decoder

def TransactionResult.decoder : Json.Decoder TransactionResult :=
  (TransactionResult.mk <$> Fields.defaulted "code" Json.Decoder.halfWord 0
    <*> Fields.defaulted "log" Json.Decoder.string ""
    <*> Fields.defaulted "events" (Json.Decoder.list TransactionEvent.decoder) []).decoder

def decodedText? (encoded : String) : Option String :=
  (Codec.decodeBase64? encoded).bind fun bytes => String.fromUTF8? bytes.toByteArray

/-- The value that an attribute has for a key: as written, or decoded where the key is encoded. -/
def EventAttribute.valueFor? (key : String) (entry : EventAttribute) : Option String :=
  let value := entry.value.getD ""
  if entry.key = key then some value
  else if decodedText? entry.key = some key then decodedText? value
  else none

def findAttribute? (events : List TransactionEvent) (kind key : String) : Option String :=
  ((events.filter fun event => event.kind == kind).flatMap TransactionEvent.attributes).findSome?
    (EventAttribute.valueFor? key)

end PerpDeploy
