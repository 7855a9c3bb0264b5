/-
Written values that are read back. What is true of the parts of a value is true of the whole:
of lists of values, of records made of fields, and of alternatives with a record in them. The
round trip of a message is put together from these laws as its decoder is from its parts.
-/

import PerpDeploy.Proofs.Json.Decoding

namespace PerpDeploy.Json

variable {α β : Type}

/-- The decoder gives `value` out of `json`, as long as `depth` brackets may be opened. -/
structure Reads (decoder : Decoder α) (depth : Nat) (json : Json) (value : α) : Prop where
  exact : json.Exact
  decoded : ∀ context : Context, context.Holds depth →
    decoder context (Document.ofJson json) = .ok value

/-- The record gives `value` out of these fields. -/
structure Gives (record : Fields α) (depth : Nat) (fields : List (String × Json)) (value : α) :
    Prop where
  exact : ExactFields fields
  takes : ∀ context : Context, context.Holds depth → record.Takes context fields value

/-- The text of a value, on one line or laid out, is decoded as the value. -/
structure ReadsBack (decoder : Decoder α) (json : Json) (value : α) : Prop where
  compact : decodeText decoder json.compact = .ok value
  pretty : decodeText decoder json.pretty = .ok value

/-! ### Scalars and lists -/

namespace Reads

theorem string (text : String) : Reads Decoder.string 0 (.string text) text where
  exact := trivial
  decoded _ _ := rfl

theorem bool (value : Bool) : Reads Decoder.bool 0 (.bool value) value where
  exact := trivial
  decoded _ _ := rfl

theorem natural {limit value : Nat} (below : value < limit) (words : InWords value) :
    Reads (Decoder.natural limit) 0 (.natural value) value where
  exact := words
  decoded context _ := natural_decoded context below

theorem name {alternatives : List (Alternative α)} {name : String} {value : α}
    (named : Alternative.byName alternatives name = .ok value) :
    Reads (Alternative.decoder alternatives) 0 (.string name) value where
  exact := trivial
  decoded context _ := (named_decoded alternatives context name).trans named

theorem exactItems {decoder : Decoder α} {depth : Nat} {encode : α → Json} {values : List α}
    (each : ∀ value ∈ values, Reads decoder depth (encode value) value) :
    ExactItems (values.map encode) := by
  induction values with
  | nil => trivial
  | cons value rest ih =>
      exact ⟨(each value List.mem_cons_self).exact,
        ih fun other later => each other (List.mem_cons_of_mem value later)⟩

theorem list {decoder : Decoder α} {depth : Nat} {encode : α → Json} (values : List α)
    (each : ∀ value ∈ values, Reads decoder depth (encode value) value) :
    Reads (Decoder.list decoder) (depth + 1) (.array (values.map encode)) values where
  exact := exactItems each
  decoded context holds := by
    obtain ⟨inner, entered, inside, _⟩ := holds.enter
    have read : Decoder.items decoder inner (Document.ofItems (values.map encode)) = .ok values :=
      items_decoded fun value member => (each value member).decoded inner inside
    simp only [Document.ofJson, Decoder.list, entered, bind, Except.bind, read, Ending.forReader]

end Reads

/-! ### Records -/

theorem exactFields_append {front back : List (String × Json)} (first : ExactFields front)
    (second : ExactFields back) : ExactFields (front ++ back) := by
  induction front with
  | nil => exact second
  | cons field rest ih => exact ⟨first.1, ih first.2⟩

namespace Gives

theorem pure (value : α) : Gives (Fields.pure value) 0 [] value where
  exact := trivial
  takes _ _ :=
    { namesOnce := List.nodup_nil
      fieldsOnce := List.nodup_nil
      known := fun field member => by cases member
      built := fun all agree => rfl }

theorem required (name : String) {decoder : Decoder α} {depth : Nat} {json : Json} {value : α}
    (reads : Reads decoder depth json value) :
    Gives (Fields.required name decoder) depth [(name, json)] value where
  exact := ⟨reads.exact, trivial⟩
  takes context holds := Fields.takes_required name (reads.decoded context holds)

theorem omitted (name : String) (decoder : Decoder α) :
    Gives (Fields.omissible name decoder) 0 [] none where
  exact := trivial
  takes _ _ := Fields.takes_omitted name decoder

theorem given (name : String) {decoder : Decoder α} {depth : Nat} {json : Json} {value : α}
    (there : json ≠ .null) (reads : Reads decoder depth json value) :
    Gives (Fields.omissible name decoder) depth [(name, json)] (some value) where
  exact := ⟨reads.exact, trivial⟩
  takes context holds := Fields.takes_given name there (reads.decoded context holds)

theorem map {record : Fields α} {depth : Nat} {fields : List (String × Json)} {value : α}
    (gives : Gives record depth fields value) (function : α → β) :
    Gives (function <$> record) depth fields (function value) where
  exact := gives.exact
  takes context holds := (gives.takes context holds).map function

theorem andThen {record : Fields (α → β)} {more : Fields α} {left right : Nat}
    {fields added : List (String × Json)} {function : α → β} {value : α}
    (gives : Gives record left fields function) (further : Gives more right added value)
    (apart : ∀ name ∈ record.names, name ∉ more.names) :
    Gives (record <*> more) (max left right) (fields ++ added) (function value) where
  exact := exactFields_append gives.exact further.exact
  takes context holds :=
    (gives.takes context (holds.mono (Nat.le_max_left left right))).andThen
      (further.takes context (holds.mono (Nat.le_max_right left right))) apart

theorem reads {record : Fields α} {depth : Nat} {fields : List (String × Json)} {value : α}
    (gives : Gives record depth fields value) :
    Reads record.decoder (depth + 1) (.object fields) value where
  exact := gives.exact
  decoded context holds := by
    obtain ⟨inner, entered, inside, _⟩ := holds.enter
    exact (gives.takes inner inside).decoder entered

/-- A record in an object whose only field tells which alternative it is. -/
theorem alternative {record : Fields α} {depth : Nat} {fields : List (String × Json)} {value : α}
    (gives : Gives record depth fields value) {alternatives : List (Alternative α)}
    {name : String} (listed : Alternative.find? alternatives name = some (.record record)) :
    Reads (Alternative.decoder alternatives) (depth + 2) (.object [(name, .object fields)])
      value where
  exact := ⟨gives.exact, trivial⟩
  decoded context holds := by
    have carried : ∀ inner : Context, inner.Holds (depth + 1) →
        Alternative.readCarried alternatives name inner
          (Document.ofJson (.object fields)) = .ok value := by
      intro inner inside
      simp only [Alternative.readCarried, listed]
      exact gives.reads.decoded inner inside
    unfold Alternative.decoder
    split
    · obtain ⟨inner, entered, inside, _⟩ := holds.enter
      have read := carried inner inside
      simp only [Document.ofJson, Document.ofFields, Alternative.readTextual, entered, bind,
        Except.bind, Alternative.readField] at read ⊢
      rw [read]
    · exact carried context (holds.mono (Nat.le_succ _))

end Gives

/-! ### Whole texts -/

theorem decodeText_compact (decoder : Decoder α) {json : Json} (exact : json.Exact) :
    decodeText decoder json.compact = decoder Context.ofText (Document.ofJson json) := by
  simp only [decodeText, read_compact exact]
  cases decoder Context.ofText (Document.ofJson json) with
  | error fault => rfl
  | ok value => rfl

theorem Reads.readsBack {decoder : Decoder α} {depth : Nat} {json : Json} {value : α}
    (reads : Reads decoder depth json value) (shallow : depth ≤ Context.ofText.room) :
    ReadsBack decoder json value where
  compact :=
    (decodeText_compact decoder reads.exact).trans
      (reads.decoded Context.ofText fun _ => shallow)
  pretty :=
    (decodeText_pretty decoder reads.exact).trans (reads.decoded Context.ofText fun _ => shallow)

/-- Values with the same text are the same. -/
theorem ReadsBack.eq_of_compact {decoder : Decoder α} {json other : Json} {value found : α}
    (here : ReadsBack decoder json value) (there : ReadsBack decoder other found)
    (same : json.compact = other.compact) : value = found := by
  have read := here.compact
  rw [same, there.compact] at read
  exact (Except.ok.inj read).symm

end PerpDeploy.Json
