/-
What decoders make of values that have been written. The laws go both ways: a record is read
from the fields that it was written with, and what a decoder gives has passed the decoders of
all its parts.
-/

import PerpDeploy.Json.Decoder
import PerpDeploy.Proofs.Json.Layout

namespace PerpDeploy.Json

/-! ### Values as they stand -/

mutual

/-- The number of brackets around the innermost value. -/
def depth : Json → Nat
  | .array items => depthItems items + 1
  | .object fields => depthFields fields + 1
  | _ => 0

def depthItems : List Json → Nat
  | [] => 0
  | item :: rest => max (depth item) (depthItems rest)

def depthFields : List (String × Json) → Nat
  | [] => 0
  | (_, value) :: rest => max (depth value) (depthFields rest)

end

def Context.Holds (context : Context) (depth : Nat) : Prop :=
  context.source = .text → depth ≤ context.room

theorem Context.Holds.enter {context : Context} {depth : Nat} (holds : context.Holds (depth + 1)) :
    ∃ inner, context.enter = .ok inner ∧ inner.Holds depth ∧ inner.source = context.source := by
  obtain ⟨source, room⟩ := context
  cases source with
  | text =>
      cases room with
      | zero =>
          have none := holds rfl
          exact absurd none (Nat.not_succ_le_zero depth)
      | succ room => exact ⟨_, rfl, fun _ => Nat.le_of_succ_le_succ (holds rfl), rfl⟩
  | setAside => exact ⟨_, rfl, fun same => Source.noConfusion same, rfl⟩
  | value => exact ⟨_, rfl, fun same => Source.noConfusion same, rfl⟩

theorem Context.Holds.mono {context : Context} {small large : Nat} (holds : context.Holds large)
    (le : small ≤ large) : context.Holds small :=
  fun text => Nat.le_trans le (holds text)

mutual

theorem readJson_ofJson (context : Context) :
    (json : Json) → context.Holds json.depth → readJson context (Document.ofJson json) = .ok json
  | .null, _ => rfl
  | .bool _, _ => rfl
  | .number _, _ => rfl
  | .string _, _ => rfl
  | .array items, holds => by
      obtain ⟨inner, entered, inside, _⟩ := Context.Holds.enter holds
      have read := readJsonItems_ofItems inner items inside
      simp only [Document.ofJson, readJson, entered, bind, Except.bind, read, Ending.forReader]
  | .object fields, holds => by
      obtain ⟨inner, entered, inside, _⟩ := Context.Holds.enter holds
      have read := readJsonFields_ofFields inner fields inside
      simp only [Document.ofJson, readJson, entered, bind, Except.bind, read, Ending.forReader]

theorem readJsonItems_ofItems (context : Context) :
    (items : List Json) → context.Holds (depthItems items) →
      readJsonItems context (Document.ofItems items) = .ok items
  | [], _ => rfl
  | item :: rest, holds => by
      have one := readJson_ofJson context item (holds.mono (Nat.le_max_left _ _))
      have others := readJsonItems_ofItems context rest (holds.mono (Nat.le_max_right _ _))
      simp only [Document.ofItems, readJsonItems, one, bind, Except.bind, others]

theorem readJsonFields_ofFields (context : Context) :
    (fields : List (String × Json)) → context.Holds (depthFields fields) →
      readJsonFields context (Document.ofFields fields) = .ok fields
  | [], _ => rfl
  | (name, value) :: rest, holds => by
      have one := readJson_ofJson context value (holds.mono (Nat.le_max_left _ _))
      have others := readJsonFields_ofFields context rest (holds.mono (Nat.le_max_right _ _))
      simp only [Document.ofFields, readJsonFields, one, bind, Except.bind, others]

end

/-- A text that has been written is decoded as the value that it stands for. -/
theorem decodeText_pretty {α : Type} (decoder : Decoder α) {json : Json} (exact : json.Exact) :
    decodeText decoder json.pretty = decoder Context.ofText (Document.ofJson json) := by
  simp only [decodeText, read_pretty exact]
  cases decoder Context.ofText (Document.ofJson json) with
  | error fault => rfl
  | ok value => rfl

theorem ok_of_toOption {ε α : Type} {result : Except ε α} {value : α}
    (read : result.toOption = some value) : result = .ok value := by
  cases result with
  | error fault => cases read
  | ok found => exact congrArg Except.ok (Option.some.inj read)

theorem toOption_eq_some_iff {ε α : Type} {result : Except ε α} {value : α} :
    result.toOption = some value ↔ result = .ok value :=
  ⟨ok_of_toOption, fun done => congrArg Except.toOption done⟩

theorem document_of_decodeText {α : Type} {decoder : Decoder α} {text : String} {value : α}
    (decoded : decodeText decoder text = .ok value) :
    ∃ document, decoder Context.ofText document = .ok value := by
  unfold decodeText at decoded
  refine ⟨(Document.read text).1, ?_⟩
  cases read : decoder Context.ofText (Document.read text).1 with
  | error fault => simp only [read] at decoded; cases decoded
  | ok found =>
      simp only [read] at decoded
      split at decoded
      · split at decoded
        · exact decoded
        · cases decoded
      · cases decoded

/-! ### Scalars and lists -/

theorem string_decoded (context : Context) (text : String) :
    Decoder.string context (Document.ofJson (.string text)) = .ok text := rfl

theorem integer_decoded (context : Context) {low limit value : Int}
    (within : low ≤ value ∧ value < limit) :
    Decoder.integer low limit context (Document.ofJson (.integer value)) = .ok value := by
  simp only [Json.integer, Document.ofJson, Decoder.integer, if_pos within]

theorem integer_within {context : Context} {document : Document} {low limit value : Int}
    (decoded : Decoder.integer low limit context document = .ok value) :
    low ≤ value ∧ value < limit := by
  unfold Decoder.integer at decoded
  split at decoded
  · split at decoded
    · rename_i within
      cases decoded
      exact within
    · cases decoded
  · cases decoded

theorem natural_decoded (context : Context) {limit value : Nat} (below : value < limit) :
    Decoder.natural limit context (Document.ofJson (.natural value)) = .ok value := by
  have within : (0 : Int) ≤ value ∧ (value : Int) < limit :=
    ⟨Int.natCast_nonneg value, Int.ofNat_lt.mpr below⟩
  have whole := integer_decoded context within
  change (Decoder.integer 0 limit context (Document.ofJson (.integer value))).map Int.toNat = _
  rw [whole]
  rfl

theorem natural_below {context : Context} {document : Document} {limit value : Nat}
    (decoded : Decoder.natural limit context document = .ok value) : value < limit := by
  unfold Decoder.natural at decoded
  cases whole : Decoder.integer 0 limit context document with
  | error fault => rw [whole] at decoded; cases decoded
  | ok number =>
      rw [whole] at decoded
      cases decoded
      have within := integer_within whole
      omega

theorem nullable_decoded {α : Type} {decoder : Decoder α} {context : Context} {json : Json}
    {value : α} (there : json ≠ .null)
    (decoded : decoder context (Document.ofJson json) = .ok value) :
    Decoder.nullable decoder context (Document.ofJson json) = .ok (some value) := by
  cases json with
  | null => exact absurd rfl there
  | _ =>
      simp only [Document.ofJson] at decoded ⊢
      simp only [Decoder.nullable, decoded]
      rfl

theorem named_decoded {α : Type} (alternatives : List (Alternative α)) (context : Context)
    (name : String) :
    Alternative.decoder alternatives context (Document.ofJson (.string name)) =
      Alternative.byName alternatives name := by
  unfold Alternative.decoder
  split
  · rfl
  · rfl

theorem items_decoded {α : Type} {decoder : Decoder α} {encode : α → Json} {context : Context}
    {values : List α}
    (each : ∀ value ∈ values, decoder context (Document.ofJson (encode value)) = .ok value) :
    Decoder.items decoder context (Document.ofItems (values.map encode)) = .ok values := by
  induction values with
  | nil => rfl
  | cons value rest ih =>
      have one := each value List.mem_cons_self
      have others := ih fun other member => each other (List.mem_cons_of_mem value member)
      simp only [List.map_cons, Document.ofItems, Decoder.items, one, bind, Except.bind, others]

theorem items_of_decoded {α : Type} {decoder : Decoder α} {context : Context}
    {documents : List Document} {values : List α}
    (decoded : Decoder.items decoder context documents = .ok values) :
    ∀ value ∈ values, ∃ document, decoder context document = .ok value := by
  induction documents generalizing values with
  | nil => cases decoded; intro value member; cases member
  | cons document rest ih =>
      unfold Decoder.items at decoded
      cases one : decoder context document with
      | error fault => rw [one] at decoded; cases decoded
      | ok first =>
          cases others : Decoder.items decoder context rest with
          | error fault => rw [one, others] at decoded; cases decoded
          | ok more =>
              rw [one, others] at decoded
              cases decoded
              intro value member
              rcases List.mem_cons.mp member with rfl | later
              · exact ⟨document, one⟩
              · exact ih others value later

theorem list_of_decoded {α : Type} {decoder : Decoder α} {context : Context}
    {document : Document} {values : List α}
    (decoded : Decoder.list decoder context document = .ok values) :
    ∀ value ∈ values, ∃ inner part, decoder inner part = .ok value := by
  unfold Decoder.list at decoded
  split at decoded
  · rename_i documents ending
    cases entered : context.enter with
    | error fault => rw [entered] at decoded; cases decoded
    | ok inner =>
        cases read : Decoder.items decoder inner documents with
        | error fault =>
            rw [entered] at decoded
            simp only [bind, Except.bind, read] at decoded
            cases decoded
        | ok found =>
            rw [entered] at decoded
            simp only [bind, Except.bind, read] at decoded
            split at decoded
            · cases decoded
            · cases decoded
              intro value member
              obtain ⟨part, one⟩ := items_of_decoded read value member
              exact ⟨inner, part, one⟩
  · cases decoded

/-! ### Records from their fields -/

theorem lookup?_append (name : String) (front back : List (String × Json)) :
    lookup? name (front ++ back) = (lookup? name front).or (lookup? name back) := by
  induction front with
  | nil => rfl
  | cons field rest ih =>
      simp only [List.cons_append, lookup?]
      split
      · rfl
      · exact ih

theorem lookup?_eq_none {name : String} {fields : List (String × Json)}
    (absent : name ∉ fields.map Prod.fst) : lookup? name fields = none := by
  induction fields with
  | nil => rfl
  | cons field rest ih =>
      rw [List.map_cons, List.mem_cons, not_or] at absent
      simp only [lookup?, if_neg (Ne.symm absent.1), ih absent.2]

namespace Fields

def names {α : Type} (record : Fields α) : List String := record.slots.map Slot.name

/-- Out of these fields the record takes `value`. Other fields around them do not matter. -/
structure Takes {α : Type} (record : Fields α) (context : Context)
    (fields : List (String × Json)) (value : α) : Prop where
  namesOnce : record.names.Nodup
  fieldsOnce : (fields.map Prod.fst).Nodup
  known : ∀ field ∈ fields, ∃ slot ∈ record.slots, slot.name = field.1 ∧
    slot.check context (Document.ofJson field.2) = .ok ()
  built : ∀ all, (∀ name ∈ record.names, lookup? name all = lookup? name fields) →
    record.build context (findField (Document.ofFields all)) = .ok value

theorem findField_ofFields (fields : List (String × Json)) (name : String) :
    findField (Document.ofFields fields) name = (lookup? name fields).map Document.ofJson := by
  unfold findField
  induction fields with
  | nil => rfl
  | cons field rest ih =>
      obtain ⟨key, value⟩ := field
      simp only [Document.ofFields, List.find?_cons, lookup?]
      by_cases same : key = name
      · simp only [same, beq_self_eq_true, if_true]
        rfl
      · have apart : (some key == some name) = false := by
          rw [beq_eq_false_iff_ne]
          exact fun equal => same (Option.some.inj equal)
        simp only [apart, if_neg same, ih]

theorem find?_slot {slots : List Slot} {slot : Slot} (once : (slots.map Slot.name).Nodup)
    (member : slot ∈ slots) : slots.find? (fun held => held.name == slot.name) = some slot := by
  induction slots with
  | nil => cases member
  | cons first rest ih =>
      rw [List.map_cons, List.nodup_cons] at once
      rcases List.mem_cons.mp member with rfl | later
      · simp only [List.find?_cons, beq_self_eq_true]
      · have apart : (first.name == slot.name) = false := by
          rw [beq_eq_false_iff_ne]
          exact fun same => once.1 (same ▸ List.mem_map_of_mem later)
        simp only [List.find?_cons, apart, ih once.2 later]

/-- Fields are in order if each is known and passes its check, and none comes twice. -/
theorem checkFields_of_known {context : Context} {slots : List Slot}
    {fields : List (String × Json)} {seen : List String} (slotsOnce : (slots.map Slot.name).Nodup)
    (known : ∀ field ∈ fields, ∃ slot ∈ slots, slot.name = field.1 ∧
      slot.check context (Document.ofJson field.2) = .ok ())
    (once : (fields.map Prod.fst).Nodup) (new : ∀ name ∈ fields.map Prod.fst, name ∉ seen) :
    checkFields context slots seen (Document.ofFields fields) = .ok () := by
  induction fields generalizing seen with
  | nil => rfl
  | cons field rest ih =>
      obtain ⟨slot, member, named, passed⟩ := known field List.mem_cons_self
      have found := find?_slot slotsOnce member
      rw [named] at found
      rw [List.map_cons, List.nodup_cons] at once
      have unseen := new field.1 List.mem_cons_self
      have onward : checkFields context slots (field.1 :: seen) (Document.ofFields rest) =
          .ok () := ih
        (fun other later => known other (List.mem_cons_of_mem field later)) once.2
        (fun name later => by
          rw [List.mem_cons, not_or]
          exact ⟨fun same => once.1 (same ▸ later), new name (List.mem_cons_of_mem _ later)⟩)
      simp only [Document.ofFields, checkFields, found, if_neg unseen, passed, bind, Except.bind,
        onward]

theorem Takes.decoder {α : Type} {record : Fields α} {context inner : Context}
    {fields : List (String × Json)} {value : α} (entered : context.enter = .ok inner)
    (takes : record.Takes inner fields value) :
    record.decoder context (Document.ofJson (.object fields)) = .ok value := by
  have checked : checkFields inner record.slots [] (Document.ofFields fields) = .ok () :=
    checkFields_of_known takes.namesOnce takes.known takes.fieldsOnce
      fun name _ => List.not_mem_nil
  have built := takes.built fields fun name _ => rfl
  simp only [Document.ofJson, Fields.decoder, entered, bind, Except.bind, checked,
    Ending.forReader, built]

section Building

variable {α β : Type} {context : Context} {found : String → Option Document}

theorem check_of_decoded {decoder : Decoder α} {document : Document} {value : α}
    (decoded : decoder context document = .ok value) :
    checkOf decoder context document = .ok () := by
  simp only [checkOf, decoded]
  rfl

theorem Takes.names_subset {record : Fields α} {fields : List (String × Json)} {value : α}
    (takes : record.Takes context fields value) :
    ∀ name ∈ fields.map Prod.fst, name ∈ record.names := by
  intro name member
  obtain ⟨field, among, rfl⟩ := List.mem_map.mp member
  obtain ⟨slot, held, named, _⟩ := takes.known field among
  rw [← named]
  exact List.mem_map_of_mem held

theorem takes_required (name : String) {decoder : Decoder α} {json : Json} {value : α}
    (decoded : decoder context (Document.ofJson json) = .ok value) :
    (required name decoder).Takes context [(name, json)] value where
  namesOnce := List.pairwise_singleton _ name
  fieldsOnce := List.pairwise_singleton _ name
  known field member := by
    cases List.mem_singleton.mp member
    exact ⟨_, List.mem_singleton_self _, rfl, check_of_decoded decoded⟩
  built all agree := by
    have there : findField (Document.ofFields all) name = some (Document.ofJson json) := by
      rw [findField_ofFields, agree name (List.mem_singleton_self name)]
      simp only [lookup?, if_true, Option.map_some]
    simp only [required, there, decoded]

theorem takes_omitted (name : String) (decoder : Decoder α) :
    (omissible name decoder).Takes context [] none where
  namesOnce := List.pairwise_singleton _ name
  fieldsOnce := List.nodup_nil
  known field member := by cases member
  built all agree := by
    have absent : findField (Document.ofFields all) name = none := by
      rw [findField_ofFields, agree name (List.mem_singleton_self name)]
      rfl
    simp only [omissible, defaulted, absent]

theorem takes_given (name : String) {decoder : Decoder α} {json : Json} {value : α}
    (there : json ≠ .null) (decoded : decoder context (Document.ofJson json) = .ok value) :
    (omissible name decoder).Takes context [(name, json)] (some value) where
  namesOnce := List.pairwise_singleton _ name
  fieldsOnce := List.pairwise_singleton _ name
  known field member := by
    cases List.mem_singleton.mp member
    exact ⟨_, List.mem_singleton_self _, rfl, check_of_decoded (nullable_decoded there decoded)⟩
  built all agree := by
    have found : findField (Document.ofFields all) name = some (Document.ofJson json) := by
      rw [findField_ofFields, agree name (List.mem_singleton_self name)]
      simp only [lookup?, if_true, Option.map_some]
    simp only [omissible, defaulted, found, nullable_decoded there decoded]

theorem Takes.map {record : Fields α} {fields : List (String × Json)} {value : α}
    (takes : record.Takes context fields value) (function : α → β) :
    (function <$> record).Takes context fields (function value) where
  namesOnce := takes.namesOnce
  fieldsOnce := takes.fieldsOnce
  known := takes.known
  built all agree := by
    have inner := takes.built all agree
    change (record.build context (findField (Document.ofFields all))).map function = _
    rw [inner]
    rfl

/-- Two records side by side take their values if they have no field in common. -/
theorem Takes.andThen {record : Fields (α → β)} {more : Fields α}
    {fields added : List (String × Json)} {function : α → β} {value : α}
    (takes : record.Takes context fields function) (further : more.Takes context added value)
    (apart : ∀ name ∈ record.names, name ∉ more.names) :
    (record <*> more).Takes context (fields ++ added) (function value) where
  namesOnce := by
    change ((record.slots ++ more.slots).map Slot.name).Nodup
    rw [List.map_append, List.nodup_append]
    exact ⟨takes.namesOnce, further.namesOnce,
      fun name first other second same => apart name first (same ▸ second)⟩
  fieldsOnce := by
    rw [List.map_append, List.nodup_append]
    exact ⟨takes.fieldsOnce, further.fieldsOnce, fun name first other second same =>
      apart name (takes.names_subset name first) (same ▸ further.names_subset other second)⟩
  known field member := by
    rcases List.mem_append.mp member with first | second
    · obtain ⟨slot, held, named, passed⟩ := takes.known field first
      exact ⟨slot, List.mem_append_left _ held, named, passed⟩
    · obtain ⟨slot, held, named, passed⟩ := further.known field second
      exact ⟨slot, List.mem_append_right _ held, named, passed⟩
  built all agree := by
    have joined : (record <*> more).names = record.names ++ more.names := List.map_append
    rw [joined] at agree
    have first := takes.built all fun name member => by
      have absent : name ∉ added.map Prod.fst := fun among =>
        apart name member (further.names_subset name among)
      rw [agree name (List.mem_append_left _ member), lookup?_append, lookup?_eq_none absent,
        Option.or_none]
    have second := further.built all fun name member => by
      have absent : name ∉ fields.map Prod.fst := fun among =>
        apart name (takes.names_subset name among) member
      rw [agree name (List.mem_append_right _ member), lookup?_append, lookup?_eq_none absent,
        Option.none_or]
    change (do
      let function ← record.build context (findField (Document.ofFields all))
      let value ← more.build context (findField (Document.ofFields all))
      .ok (function value)) = _
    rw [first, second]
    rfl

/-! What has been built has come from decoders. -/

theorem map_of_built {fields : Fields α} {function : α → β} {result : β}
    (built : (function <$> fields).build context found = .ok result) :
    ∃ value, fields.build context found = .ok value ∧ result = function value := by
  change (fields.build context found).map function = _ at built
  cases inner : fields.build context found with
  | error fault => rw [inner] at built; cases built
  | ok value => rw [inner] at built; exact ⟨value, rfl, (Except.ok.inj built).symm⟩

theorem andThen_of_built {fields : Fields (α → β)} {more : Fields α} {result : β}
    (built : (fields <*> more).build context found = .ok result) :
    ∃ function value, fields.build context found = .ok function ∧
      more.build context found = .ok value ∧ result = function value := by
  change (do
    let function ← fields.build context found
    let value ← more.build context found
    .ok (function value)) = _ at built
  cases first : fields.build context found with
  | error fault => rw [first] at built; cases built
  | ok function =>
      cases second : more.build context found with
      | error fault => rw [first, second] at built; cases built
      | ok value =>
          rw [first, second] at built
          exact ⟨function, value, rfl, rfl, (Except.ok.inj built).symm⟩

theorem required_of_built {name : String} {decoder : Decoder α} {value : α}
    (built : (required name decoder).build context found = .ok value) :
    ∃ document, decoder context document = .ok value := by
  simp only [required] at built
  split at built
  · exact ⟨_, built⟩
  · cases built

theorem omissible_of_built {name : String} {decoder : Decoder α} {value : Option α}
    (built : (omissible name decoder).build context found = .ok value) :
    ∀ held ∈ value, ∃ document, decoder context document = .ok held := by
  intro held member
  simp only [omissible, defaulted] at built
  split at built
  · rename_i document _
    unfold Decoder.nullable at built
    split at built
    · cases built
      cases member
    · cases decoded : decoder context document with
      | error fault => rw [decoded] at built; cases built
      | ok inner =>
          rw [decoded] at built
          cases built
          cases member
          exact ⟨document, decoded⟩
  · cases built
    cases member

end Building

theorem build_of_decoded {α : Type} {record : Fields α} {context : Context}
    {document : Document} {value : α} (decoded : record.decoder context document = .ok value) :
    ∃ inner found, record.build inner found = .ok value := by
  unfold Fields.decoder at decoded
  split at decoded
  · rename_i fields ending
    cases entered : context.enter with
    | error fault => rw [entered] at decoded; cases decoded
    | ok inner =>
        rw [entered] at decoded
        simp only [bind, Except.bind] at decoded
        split at decoded
        · cases decoded
        · split at decoded
          · cases decoded
          · exact ⟨inner, _, decoded⟩
  · rename_i items ending
    cases entered : context.enter with
    | error fault => rw [entered] at decoded; cases decoded
    | ok inner =>
        rw [entered] at decoded
        simp only [bind, Except.bind] at decoded
        split at decoded
        · cases decoded
        · exact ⟨inner, _, decoded⟩
  · cases entered : context.enter with
    | error fault => rw [entered] at decoded; cases decoded
    | ok inner => rw [entered] at decoded; cases decoded
  · cases decoded

end Fields

end PerpDeploy.Json
