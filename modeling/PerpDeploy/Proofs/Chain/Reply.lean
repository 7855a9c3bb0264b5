/-
What the replies of a node stand for: which documents are those of an attribute, an event, a
transaction in a block, a broadcast transaction and a derived key, and that they are read so.
A command tells of such a value if it succeeds and prints a document that stands for it.
-/

import PerpDeploy.Proofs.Chain.Command
import PerpDeploy.Proofs.Json.Meaning

namespace PerpDeploy

open Json (Decoder Document Fields Meaning)

/-! ### Documents -/

/-- The value of an attribute may be null or left out. -/
structure EventAttribute.Means (document : Document) (entry : EventAttribute) : Prop where
  record : document.IsRecord ["key", "value"]
  key : Meaning.text.Given (document.field? ["key", "value"] "key") entry.key
  value : Meaning.text.nullable.GivenOr none (document.field? ["key", "value"] "value") entry.value

structure TransactionEvent.Means (document : Document) (event : TransactionEvent) : Prop where
  record : document.IsRecord ["type", "attributes"]
  kind : Meaning.text.Given (document.field? ["type", "attributes"] "type") event.kind
  attributes : (Meaning.list EventAttribute.Means).GivenOr []
    (document.field? ["type", "attributes"] "attributes") event.attributes

def TransactionResult.fieldNames : List String := ["code", "log", "events"]

/-- A code that is left out is zero. -/
structure TransactionResult.Means (document : Document) (result : TransactionResult) :
    Prop where
  record : document.IsRecord fieldNames
  code : (Meaning.natural (Nat.pow 2 32)).GivenOr 0 (document.field? fieldNames "code") result.code
  log : Meaning.text.GivenOr "" (document.field? fieldNames "log") result.log
  events : (Meaning.list TransactionEvent.Means).GivenOr []
    (document.field? fieldNames "events") result.events

/-- The events of one message of a transaction. -/
structure BroadcastReply.LogMeans (document : Document) (events : List TransactionEvent) :
    Prop where
  record : document.IsRecord ["events"]
  events : (Meaning.list TransactionEvent.Means).GivenOr [] (document.field? ["events"] "events")
    events

def BroadcastReply.fieldNames : List String := ["txhash", "code", "raw_log", "logs", "events"]

/-- The hash has to be there; a code that is left out is zero. -/
structure BroadcastReply.Means (document : Document) (reply : BroadcastReply) : Prop where
  record : document.IsRecord fieldNames
  hash : Meaning.text.Given (document.field? fieldNames "txhash") reply.hash
  code : (Meaning.natural (Nat.pow 2 32)).GivenOr 0 (document.field? fieldNames "code") reply.code
  rawLog : Meaning.text.GivenOr "" (document.field? fieldNames "raw_log") reply.rawLog
  logs : (Meaning.list LogMeans).GivenOr [] (document.field? fieldNames "logs") reply.logs
  events : (Meaning.list TransactionEvent.Means).GivenOr [] (document.field? fieldNames "events")
    reply.events

/-- A transaction that has been asked for. -/
structure Rpc.LookupMeans (document : Document) (result : TransactionResult) : Prop where
  record : document.IsRecord ["tx_result"]
  result : Meaning.Given TransactionResult.Means (document.field? ["tx_result"] "tx_result") result

structure DerivedKeyMeans (document : Document) (address : String) : Prop where
  record : document.IsRecord ["address"]
  address : Meaning.text.Given (document.field? ["address"] "address") address

/-- The answer to a broadcast that a command has printed. -/
structure ProcessReply.Answers (reply : ProcessReply) (broadcast : BroadcastReply) : Prop where
  succeeds : reply.Succeeds false
  printed : ∃ document : Document,
    document.IsIn (Text.lenientText reply.stdout) ∧ BroadcastReply.Means document broadcast

/-- The address that a derivation has printed, with blanks around its document or without. -/
structure ProcessReply.Derives (reply : ProcessReply) (address : String) : Prop where
  succeeds : reply.Succeeds true
  printed : ∃ document : Document,
    document.IsIn (Text.trim (Text.lenientText reply.stdout)) ∧ DerivedKeyMeans document address

/-! ### Their decoders -/

theorem EventAttribute.decoder_exact :
    EventAttribute.decoder.Exact EventAttribute.Means 1 := by
  have fields := Fields.andThen_exact
    (Fields.map_exact (Fields.required_exact "key" Decoder.string_exact) EventAttribute.mk)
    (Fields.defaulted_exact "value" (Decoder.nullable_exact Decoder.string_exact) none)
  refine (fields.decoder (by decide)).congr fun document entry => ⟨?_, ?_⟩
  · rintro ⟨record, _, _, ⟨_, key, rfl⟩, value, rfl⟩
    exact { record, key, value }
  · intro means
    exact ⟨means.record, _, _, ⟨_, means.key, rfl⟩, means.value, rfl⟩

theorem TransactionEvent.decoder_exact :
    TransactionEvent.decoder.Exact TransactionEvent.Means 3 := by
  have fields := Fields.andThen_exact
    (Fields.map_exact (Fields.required_exact "type"
      (Decoder.string_exact.mono (Nat.zero_le 2))) TransactionEvent.mk)
    (Fields.defaulted_exact "attributes" (Decoder.list_exact EventAttribute.decoder_exact) [])
  refine (fields.decoder (by decide)).congr fun document event => ⟨?_, ?_⟩
  · rintro ⟨record, _, _, ⟨_, kind, rfl⟩, attributes, rfl⟩
    exact { record, kind, attributes }
  · intro means
    exact ⟨means.record, _, _, ⟨_, means.kind, rfl⟩, means.attributes, rfl⟩

theorem TransactionResult.decoder_exact :
    TransactionResult.decoder.Exact TransactionResult.Means 5 := by
  have code : Decoder.halfWord.Exact (Meaning.natural (Nat.pow 2 32)) 4 :=
    (Decoder.natural_exact _).mono (Nat.zero_le 4)
  have text : Decoder.string.Exact Meaning.text 4 := Decoder.string_exact.mono (Nat.zero_le 4)
  have fields := Fields.andThen_exact (Fields.andThen_exact
    (Fields.map_exact (Fields.defaulted_exact "code" code 0) TransactionResult.mk)
    (Fields.defaulted_exact "log" text ""))
    (Fields.defaulted_exact "events" (Decoder.list_exact TransactionEvent.decoder_exact) [])
  refine (fields.decoder (by decide)).congr fun document result => ⟨?_, ?_⟩
  · rintro ⟨record, _, _, ⟨_, _, ⟨_, code, rfl⟩, log, rfl⟩, events, rfl⟩
    exact { record, code, log, events }
  · intro means
    exact ⟨means.record, _, _, ⟨_, _, ⟨_, means.code, rfl⟩, means.log, rfl⟩, means.events, rfl⟩

theorem BroadcastReply.decoder_exact :
    BroadcastReply.decoder.Exact BroadcastReply.Means 7 := by
  have code : Decoder.halfWord.Exact (Meaning.natural (Nat.pow 2 32)) 6 :=
    (Decoder.natural_exact _).mono (Nat.zero_le 6)
  have text : Decoder.string.Exact Meaning.text 6 := Decoder.string_exact.mono (Nat.zero_le 6)
  have events := Decoder.list_exact TransactionEvent.decoder_exact
  have log := ((Fields.defaulted_exact "events" events []).decoder (by decide)).congr
    fun document told => ⟨fun ⟨record, events⟩ => BroadcastReply.LogMeans.mk record events,
      fun means => ⟨means.record, means.events⟩⟩
  have fields := Fields.andThen_exact (Fields.andThen_exact (Fields.andThen_exact
    (Fields.andThen_exact
      (Fields.map_exact (Fields.required_exact "txhash" text) BroadcastReply.mk)
      (Fields.defaulted_exact "code" code 0))
    (Fields.defaulted_exact "raw_log" text ""))
    (Fields.defaulted_exact "logs" (Decoder.list_exact log) []))
    (Fields.defaulted_exact "events" (events.mono (by decide : 4 ≤ 6)) [])
  refine (fields.decoder (by decide)).congr fun document reply => ⟨?_, ?_⟩
  · rintro ⟨record, _, _, ⟨_, _, ⟨_, _, ⟨_, _, ⟨_, hash, rfl⟩, code, rfl⟩, rawLog, rfl⟩, logs,
      rfl⟩, events, rfl⟩
    exact { record, hash, code, rawLog, logs, events }
  · intro means
    exact ⟨means.record, _, _, ⟨_, _, ⟨_, _, ⟨_, _, ⟨_, means.hash, rfl⟩, means.code, rfl⟩,
      means.rawLog, rfl⟩, means.logs, rfl⟩, means.events, rfl⟩

theorem Rpc.lookupDecoder_exact : lookupDecoder.Exact LookupMeans 6 :=
  ((Fields.required_exact "tx_result" TransactionResult.decoder_exact).decoder (by decide)).congr
    fun _ _ => ⟨fun ⟨record, result⟩ => { record, result },
      fun means => ⟨means.record, means.result⟩⟩

theorem derivedKeyDecoder_exact : derivedKeyDecoder.Exact DerivedKeyMeans 1 :=
  ((Fields.required_exact "address" Decoder.string_exact).decoder (by decide)).congr
    fun _ _ => ⟨fun ⟨record, address⟩ => { record, address },
      fun means => ⟨means.record, means.address⟩⟩

/-! ### Replies -/

theorem Rpc.decodeValue_lookup_ok_iff (json : Json) (result : TransactionResult) :
    Json.decodeValue lookupDecoder json = .ok result ↔
      LookupMeans (Document.ofJson json) result :=
  Json.decodeValue_ok_iff lookupDecoder_exact json result

namespace ProcessReply

/-- The answer to a broadcast in what a command has printed. -/
def broadcast? (reply : ProcessReply) : Option BroadcastReply :=
  (reply.output? false).bind fun output =>
    (Json.decodeText BroadcastReply.decoder output).toOption

theorem answers_iff {reply : ProcessReply} {broadcast : BroadcastReply} :
    reply.Answers broadcast ↔ ∃ output, reply.output? false = some output ∧
      Json.decodeText BroadcastReply.decoder output = .ok broadcast := by
  have decoded := fun output => Json.decodeText_ok_iff BroadcastReply.decoder_exact
    (by decide : 7 ≤ 127) output broadcast
  simp only [output?_eq_some_iff, decoded]
  constructor
  · intro answers
    exact ⟨_, ⟨answers.succeeds, rfl⟩, answers.printed⟩
  · rintro ⟨_, ⟨succeeds, rfl⟩, printed⟩
    exact { succeeds, printed }

theorem broadcast?_eq_some_iff {reply : ProcessReply} {broadcast : BroadcastReply} :
    reply.broadcast? = some broadcast ↔ reply.Answers broadcast := by
  simp only [broadcast?, answers_iff, Option.bind_eq_some_iff, Json.toOption_eq_some_iff]

theorem derives_iff {reply : ProcessReply} {address : String} :
    reply.Derives address ↔ ∃ output, reply.output? true = some output ∧
      Json.decodeText derivedKeyDecoder (Text.trim output) = .ok address := by
  have decoded := fun output => Json.decodeText_ok_iff derivedKeyDecoder_exact
    (by decide : 1 ≤ 127) (Text.trim output) address
  simp only [output?_eq_some_iff, decoded]
  constructor
  · intro derives
    exact ⟨_, ⟨derives.succeeds, rfl⟩, derives.printed⟩
  · rintro ⟨_, ⟨succeeds, rfl⟩, printed⟩
    exact { succeeds, printed }

/-- No two addresses can be read from one reply. -/
theorem Derives.unique {reply : ProcessReply} {address other : String}
    (derives : reply.Derives address) (also : reply.Derives other) : address = other := by
  obtain ⟨output, printed, decoded⟩ := derives_iff.mp derives
  obtain ⟨_, again, read⟩ := derives_iff.mp also
  cases printed.symm.trans again
  exact Except.ok.inj (decoded.symm.trans read)

end ProcessReply

end PerpDeploy
