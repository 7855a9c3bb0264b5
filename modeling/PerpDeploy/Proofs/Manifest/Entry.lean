/-
The records and the entries of a manifest are decoded from what they are encoded to. The
numbers in them are of the widths that their decoders allow, and whatever has been decoded
is within these widths.
-/

import PerpDeploy.Manifest
import PerpDeploy.Proofs.Json.Decoding

namespace PerpDeploy

open Json (Fields Document Context Decoder)

namespace ContractName

theorem decode_encode (name : ContractName) (context : Context) :
    decoder context (Document.ofJson name.encode) = .ok name := by
  unfold decoder encode
  rw [Json.named_decoded]
  cases name <;> rfl

end ContractName

namespace RunStatus

theorem decode_encode (status : RunStatus) (context : Context) :
    decoder context (Document.ofJson status.encode) = .ok status := by
  unfold decoder encode
  rw [Json.named_decoded]
  cases status <;> rfl

end RunStatus

/-! ### Records -/

def IsWord (value : Nat) : Prop := value < Number.wordLimit

def IsSignedWord (value : Int) : Prop := -(Int.pow 2 63) ≤ value ∧ value < Int.pow 2 63

instance (value : Nat) : Decidable (IsWord value) :=
  inferInstanceAs (Decidable (value < Number.wordLimit))

instance (value : Int) : Decidable (IsSignedWord value) :=
  inferInstanceAs (Decidable (-(Int.pow 2 63) ≤ value ∧ value < Int.pow 2 63))

theorem inWords_of_word {value : Nat} (word : IsWord value) : Json.InWords value := by
  unfold IsWord at word
  unfold Json.InWords
  rw [Json.wordLimit_eq] at word ⊢
  rw [Json.signedLimit_eq]
  omega

theorem inWords_of_signedWord {value : Int} (word : IsSignedWord value) : Json.InWords value := by
  unfold IsSignedWord at word
  unfold Json.InWords
  rw [Json.signedLimit_eq] at word ⊢
  rw [Json.wordLimit_eq]
  omega

namespace ContractRecord

structure InRange (record : ContractRecord) : Prop where
  ordinal : IsWord record.ordinal
  deployedAt : IsSignedWord record.deployedAt
  codeId : ∀ codeId ∈ record.codeId, IsWord codeId

theorem decode_encode {record : ContractRecord} (inRange : record.InRange) {context : Context}
    (holds : context.Holds 1) :
    decoder context (Document.ofJson record.encode) = .ok record := by
  obtain ⟨inner, entered, _⟩ := holds.enter
  have front :=
    ((((Fields.takes_required "name" (record.name.decode_encode inner)).map
      ContractRecord.mk).andThen
        (Fields.takes_required "address" (Json.string_decoded inner record.address))
        (by decide)).andThen
        (Fields.takes_required "ordinal" (Json.natural_decoded inner inRange.ordinal))
        (by decide)).andThen
        (Fields.takes_required "deployed_at" (Json.integer_decoded inner inRange.deployedAt))
        (by decide)
  have named := front.andThen
    (Fields.takes_required "artifact" (Json.string_decoded inner record.artifact)) (by decide)
  cases code : record.codeId with
  | none =>
      have omitted : (Fields.omissible "code_id" Decoder.word).Takes inner [] none :=
        Fields.takes_omitted "code_id" Decoder.word
      have takes := named.andThen omitted (by decide)
      have whole : record = { record with codeId := none } := by rw [← code]
      rw [whole]
      exact takes.decoder entered
  | some codeId =>
      have takes := named.andThen
        (Fields.takes_given "code_id" (fun null => by cases null)
          (Json.natural_decoded inner (inRange.codeId codeId code))) (by decide)
      have whole : record = { record with codeId := some codeId } := by rw [← code]
      rw [whole]
      exact takes.decoder entered

theorem inRange_of_decoded {context : Context} {document : Document} {record : ContractRecord}
    (decoded : decoder context document = .ok record) : record.InRange := by
  obtain ⟨inner, found, built⟩ := Fields.build_of_decoded decoded
  obtain ⟨_, codeId, five, code, rfl⟩ := Fields.andThen_of_built built
  obtain ⟨_, artifact, four, _, rfl⟩ := Fields.andThen_of_built five
  obtain ⟨_, deployedAt, three, time, rfl⟩ := Fields.andThen_of_built four
  obtain ⟨_, ordinal, two, place, rfl⟩ := Fields.andThen_of_built three
  obtain ⟨_, address, one, _, rfl⟩ := Fields.andThen_of_built two
  obtain ⟨name, _, rfl⟩ := Fields.map_of_built one
  obtain ⟨_, ordinalRead⟩ := Fields.required_of_built place
  obtain ⟨_, timeRead⟩ := Fields.required_of_built time
  refine ⟨Json.natural_below ordinalRead, Json.integer_within timeRead, ?_⟩
  intro held member
  obtain ⟨_, codeRead⟩ := Fields.omissible_of_built code held member
  exact Json.natural_below codeRead

theorem encode_exact {record : ContractRecord} (inRange : record.InRange) :
    record.encode.Exact := by
  have ordinal := inWords_of_word inRange.ordinal
  have time := inWords_of_signedWord inRange.deployedAt
  unfold encode
  cases code : record.codeId with
  | none => exact ⟨trivial, trivial, ordinal, time, trivial, trivial⟩
  | some codeId =>
      have word := inWords_of_word (inRange.codeId codeId code)
      exact ⟨trivial, trivial, ordinal, time, trivial, word, trivial⟩

theorem depth_encode (record : ContractRecord) : record.encode.depth = 1 := by
  unfold encode
  cases record.codeId <;> rfl

end ContractRecord

/-! ### Entries -/

namespace NetworkEntry

structure InRange (entry : NetworkEntry) : Prop where
  updatedAt : IsSignedWord entry.updatedAt
  contracts : ∀ record ∈ entry.contracts, record.InRange

theorem contracts_decoded {records : List ContractRecord}
    (inRange : ∀ record ∈ records, record.InRange) {context : Context} (holds : context.Holds 2) :
    Decoder.list ContractRecord.decoder context
      (Document.ofJson (.array (records.map ContractRecord.encode))) = .ok records := by
  obtain ⟨inner, entered, inside, _⟩ := holds.enter
  have read : Decoder.items ContractRecord.decoder inner
      (Document.ofItems (records.map ContractRecord.encode)) = .ok records :=
    Json.items_decoded fun record member =>
      ContractRecord.decode_encode (inRange record member) inside
  simp only [Document.ofJson, Decoder.list, entered, bind, Except.bind, read,
    Json.Ending.forReader]

theorem decode_encode {entry : NetworkEntry} (inRange : entry.InRange) {context : Context}
    (holds : context.Holds 3) :
    decoder context (Document.ofJson entry.encode) = .ok entry := by
  obtain ⟨inner, entered, inside, _⟩ := holds.enter
  have front :=
    ((((Fields.takes_required "chain_id" (Json.string_decoded inner entry.chainId)).map
      NetworkEntry.mk).andThen
        (Fields.takes_required "profile_fingerprint"
          (Json.string_decoded inner entry.fingerprint)) (by decide)).andThen
        (Fields.takes_required "status" (entry.status.decode_encode inner)) (by decide)).andThen
        (Fields.takes_required "updated_at" (Json.integer_decoded inner inRange.updatedAt))
        (by decide)
  have whole := (front.andThen
    (Fields.takes_required "deployer_version" (Json.string_decoded inner entry.deployerVersion))
    (by decide)).andThen
      (Fields.takes_required "contracts" (contracts_decoded inRange.contracts inside)) (by decide)
  exact whole.decoder entered

theorem inRange_of_decoded {context : Context} {document : Document} {entry : NetworkEntry}
    (decoded : decoder context document = .ok entry) : entry.InRange := by
  obtain ⟨inner, found, built⟩ := Fields.build_of_decoded decoded
  obtain ⟨_, contracts, five, records, rfl⟩ := Fields.andThen_of_built built
  obtain ⟨_, version, four, _, rfl⟩ := Fields.andThen_of_built five
  obtain ⟨_, updatedAt, three, time, rfl⟩ := Fields.andThen_of_built four
  obtain ⟨_, status, two, _, rfl⟩ := Fields.andThen_of_built three
  obtain ⟨_, fingerprint, one, _, rfl⟩ := Fields.andThen_of_built two
  obtain ⟨chainId, _, rfl⟩ := Fields.map_of_built one
  obtain ⟨_, timeRead⟩ := Fields.required_of_built time
  obtain ⟨_, listRead⟩ := Fields.required_of_built records
  refine ⟨Json.integer_within timeRead, ?_⟩
  intro record member
  obtain ⟨_, _, recordRead⟩ := Json.list_of_decoded listRead record member
  exact ContractRecord.inRange_of_decoded recordRead

theorem exact_records {records : List ContractRecord}
    (inRange : ∀ record ∈ records, record.InRange) :
    Json.ExactItems (records.map ContractRecord.encode) := by
  induction records with
  | nil => trivial
  | cons record rest ih =>
      exact ⟨ContractRecord.encode_exact (inRange record List.mem_cons_self),
        ih fun other later => inRange other (List.mem_cons_of_mem record later)⟩

theorem encode_exact {entry : NetworkEntry} (inRange : entry.InRange) : entry.encode.Exact :=
  ⟨trivial, trivial, trivial, inWords_of_signedWord inRange.updatedAt, trivial,
    exact_records inRange.contracts, trivial⟩

theorem depth_records (records : List ContractRecord) :
    Json.depthItems (records.map ContractRecord.encode) ≤ 1 := by
  induction records with
  | nil => exact Nat.zero_le 1
  | cons record rest ih =>
      have one := record.depth_encode
      simp only [List.map_cons, Json.depthItems]
      omega

theorem depth_encode (entry : NetworkEntry) : entry.encode.depth ≤ 3 := by
  have records := depth_records entry.contracts
  have status : entry.status.encode.depth = 0 := rfl
  simp only [encode, Json.depth, Json.depthFields, status, Json.integer]
  omega

end NetworkEntry

end PerpDeploy
