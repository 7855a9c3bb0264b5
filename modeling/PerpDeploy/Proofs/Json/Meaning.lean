/-
What documents stand for, apart from how they are decoded. A meaning says which documents stand
for which values; a record has the meanings of its fields, wherever the document has them. A
decoder is exact for a meaning if it gives a value for the documents that stand for it and for
no others.
-/

import Mathlib.Data.List.Forall2
import Mathlib.Data.List.Nodup
import PerpDeploy.Json.Decoder
import PerpDeploy.Proofs.Json.Decoding

namespace PerpDeploy.Json

/-- The documents that stand for each value. -/
abbrev Meaning (α : Type) := Document → α → Prop

namespace Meaning

variable {α : Type}

def text : Meaning String := fun document value => document = .string (some value)

def natural (limit : Nat) : Meaning Nat := fun document value =>
  document = .number (some (.integer value)) ∧ value < limit

/-- Null stands for nothing. -/
def nullable (meaning : Meaning α) : Meaning (Option α)
  | document, none => document = .null
  | document, some value => document ≠ .null ∧ meaning document value

def list (meaning : Meaning α) : Meaning (List α) := fun document values =>
  ∃ items, document = .array items .closed ∧ List.Forall₂ meaning items values

/-- A field that has to be there. -/
def Given (meaning : Meaning α) (found : Option Document) (value : α) : Prop :=
  ∃ document, found = some document ∧ meaning document value

/-- A field that stands for `default` where it is not there. -/
def GivenOr (meaning : Meaning α) (default : α) (found : Option Document) (value : α) : Prop :=
  meaning.Given found value ∨ found = none ∧ value = default

end Meaning

/-- A document that is read as a record with these fields. What an object has besides is skipped;
a list has the fields in their order, and may end before all have come. -/
inductive Document.IsRecord (names : List String) : Document → Prop
  | object {fields : List (Option String × Document)}
      (keyed : ∀ field ∈ fields, field.1 ≠ none)
      (once : fields.Pairwise fun early late =>
        ∀ name ∈ names, early.1 = some name → late.1 ≠ some name)
      (skipped : ∀ field ∈ fields, (∀ name ∈ names, field.1 ≠ some name) →
        field.2.skip = .ok ()) :
      IsRecord names (.object fields .closed)
  | list {items : List Document} (few : items.length ≤ names.length) :
      IsRecord names (.array items .closed)

/-- What a record has for a field. -/
def Document.field? (names : List String) (document : Document) (name : String) :
    Option Document :=
  match document with
  | .object fields _ => (fields.find? fun field => field.1 == some name).map Prod.snd
  | .array items _ => ((names.zip items).find? fun pair => pair.1 == name).map Prod.snd
  | _ => none

/-- The text is that of the document, with nothing but blanks after it. -/
def Document.IsIn (document : Document) (text : String) : Prop :=
  ∃ rest, Document.read text = (document, some rest) ∧ skipBlanks rest = []

/-- The decoder gives what documents stand for, as long as that many brackets may be opened. -/
def Decoder.Exact {α : Type} (decoder : Decoder α) (meaning : Meaning α) (depth : Nat) : Prop :=
  ∀ context document value, context.Holds depth →
    (decoder context document = .ok value ↔ meaning document value)

namespace Decoder

variable {α : Type}

theorem Exact.mono {decoder : Decoder α} {meaning : Meaning α} {small large : Nat}
    (exact : decoder.Exact meaning small) (le : small ≤ large) : decoder.Exact meaning large :=
  fun context document value holds => exact context document value (holds.mono le)

theorem Exact.congr {decoder : Decoder α} {meaning other : Meaning α} {depth : Nat}
    (exact : decoder.Exact meaning depth)
    (same : ∀ document value, meaning document value ↔ other document value) :
    decoder.Exact other depth :=
  fun context document value holds =>
    (exact context document value holds).trans (same document value)

theorem string_exact : string.Exact Meaning.text 0 := by
  intro context document value _
  unfold Meaning.text
  constructor
  · intro decoded
    unfold string at decoded
    split at decoded
    · cases decoded
      rfl
    · cases decoded
  · rintro rfl
    rfl

theorem natural_exact (limit : Nat) : (natural limit).Exact (Meaning.natural limit) 0 := by
  intro context document value _
  constructor
  · intro decoded
    have below := natural_below decoded
    unfold natural integer at decoded
    split at decoded
    · rename_i number
      split at decoded
      · rename_i within
        cases decoded
        refine ⟨?_, below⟩
        rw [Int.toNat_of_nonneg within.1]
      · cases decoded
    · cases decoded
  · rintro ⟨rfl, below⟩
    exact natural_decoded context below

theorem nullable_exact {decoder : Decoder α} {meaning : Meaning α} {depth : Nat}
    (exact : decoder.Exact meaning depth) : (nullable decoder).Exact meaning.nullable depth := by
  intro context document value holds
  unfold nullable
  split
  · cases value <;> simp [Meaning.nullable]
  · rename_i other
    have notNull : document ≠ .null := other
    cases value with
    | none =>
        cases decoder context document <;> simp [Meaning.nullable, Except.map, notNull]
    | some held =>
        have inner := exact context document held holds
        cases decoded : decoder context document with
        | error fault =>
            rw [decoded] at inner
            simpa [Meaning.nullable, Except.map, notNull] using inner
        | ok found =>
            rw [decoded] at inner
            simpa [Meaning.nullable, Except.map, notNull] using inner

theorem items_ok_iff {decoder : Decoder α} {meaning : Meaning α} {depth : Nat}
    (exact : decoder.Exact meaning depth) {context : Context} (holds : context.Holds depth)
    (documents : List Document) (values : List α) :
    items decoder context documents = .ok values ↔ List.Forall₂ meaning documents values := by
  induction documents generalizing values with
  | nil => simp [items, eq_comm]
  | cons document rest ih =>
      rw [List.forall₂_cons_left_iff]
      unfold items
      cases one : decoder context document with
      | error fault =>
          simp only [bind, Except.bind, reduceCtorEq, false_iff, not_exists, not_and]
          intro value more means
          rw [← exact context document value holds, one] at means
          cases means
      | ok value =>
          have means := (exact context document value holds).mp one
          have unique : ∀ other, meaning document other → other = value := by
            intro other also
            rw [← exact context document other holds, one] at also
            exact (Except.ok.inj also).symm
          cases others : items decoder context rest with
          | error fault =>
              simp only [bind, Except.bind, reduceCtorEq, false_iff, not_exists, not_and]
              intro other more _ also
              rw [← ih, others] at also
              cases also
          | ok more =>
              have later := (ih more).mp others
              simp only [bind, Except.bind, Except.ok.injEq]
              constructor
              · rintro rfl
                exact ⟨value, more, means, later, rfl⟩
              · rintro ⟨other, further, also, onward, rfl⟩
                rw [← ih, others] at onward
                rw [unique other also, Except.ok.inj onward]

theorem list_exact {decoder : Decoder α} {meaning : Meaning α} {depth : Nat}
    (exact : decoder.Exact meaning depth) : (list decoder).Exact meaning.list (depth + 1) := by
  intro context document values holds
  obtain ⟨inner, entered, inside, _⟩ := holds.enter
  unfold list
  split
  · rename_i documents ending
    have each := items_ok_iff exact inside documents
    cases read : items decoder inner documents with
    | error fault =>
        simp only [entered, read, bind, Except.bind, reduceCtorEq, false_iff]
        rintro ⟨_, same, all⟩
        cases same
        rw [← each, read] at all
        cases all
    | ok found =>
        have all := (each found).mp read
        cases ending with
        | closed =>
            simp only [entered, read, bind, Except.bind, Ending.forReader, Except.ok.injEq]
            constructor
            · rintro rfl
              exact ⟨documents, rfl, all⟩
            · rintro ⟨_, same, others⟩
              cases same
              rw [← each, read] at others
              exact Except.ok.inj others
        | cut | dangling =>
            simp [entered, read, bind, Except.bind, Ending.forReader, Meaning.list]
  · rename_i other
    simp only [reduceCtorEq, false_iff]
    rintro ⟨items, rfl, _⟩
    exact other items .closed rfl

end Decoder

/-! ### Records -/

/-- Whether a record may have this for the field. -/
def Slot.Admits (slot : Slot) (context : Context) : Option Document → Prop
  | some document => slot.check context document = .ok ()
  | none => slot.mayBeCutOff = true

namespace Fields

variable {α β : Type}

/-- The record is made exactly of fields that mean its value, and each of these passes its check. -/
structure Exact (record : Fields α) (names : List String)
    (means : (String → Option Document) → α → Prop) (depth : Nat) : Prop where
  names : record.slots.map Slot.name = names
  built : ∀ context found value, context.Holds depth →
    (record.build context found = .ok value ↔ means found value)
  admitted : ∀ context found value, context.Holds depth → means found value →
    ∀ slot ∈ record.slots, slot.Admits context (found slot.name)

theorem required_exact (name : String) {decoder : Decoder α} {meaning : Meaning α} {depth : Nat}
    (exact : decoder.Exact meaning depth) :
    (required name decoder).Exact [name] (fun found => meaning.Given (found name)) depth where
  names := rfl
  built context found value holds := by
    simp only [required, Meaning.Given]
    cases found name with
    | none => simp
    | some document => simpa using exact context document value holds
  admitted context found value holds means slot member := by
    cases List.mem_singleton.mp member
    obtain ⟨document, there, meant⟩ := means
    simp only [there]
    exact check_of_decoded ((exact context document value holds).mpr meant)

theorem defaulted_exact (name : String) {decoder : Decoder α} {meaning : Meaning α} {depth : Nat}
    (exact : decoder.Exact meaning depth) (default : α) :
    (defaulted name decoder default).Exact [name]
      (fun found => meaning.GivenOr default (found name)) depth where
  names := rfl
  built context found value holds := by
    simp only [defaulted, Meaning.GivenOr, Meaning.Given]
    cases found name with
    | none => simp [eq_comm]
    | some document => simpa using exact context document value holds
  admitted context found value holds means slot member := by
    cases List.mem_singleton.mp member
    rcases means with ⟨document, there, meant⟩ | ⟨absent, _⟩
    · simp only [there]
      exact check_of_decoded ((exact context document value holds).mpr meant)
    · simp only [absent]
      rfl

theorem map_exact {record : Fields α} {names : List String}
    {means : (String → Option Document) → α → Prop} {depth : Nat}
    (exact : record.Exact names means depth) (function : α → β) :
    (function <$> record).Exact names
      (fun found result => ∃ value, means found value ∧ result = function value) depth where
  names := exact.names
  built context found result holds := by
    constructor
    · intro built
      obtain ⟨value, inner, rfl⟩ := map_of_built built
      exact ⟨value, (exact.built context found value holds).mp inner, rfl⟩
    · rintro ⟨value, meant, rfl⟩
      change (record.build context found).map function = _
      rw [(exact.built context found value holds).mpr meant]
      rfl
  admitted context found result holds means := by
    obtain ⟨value, meant, _⟩ := means
    exact exact.admitted context found value holds meant

theorem andThen_exact {record : Fields (α → β)} {more : Fields α} {names others : List String}
    {means : (String → Option Document) → (α → β) → Prop}
    {further : (String → Option Document) → α → Prop} {depth : Nat}
    (exact : record.Exact names means depth) (onward : more.Exact others further depth) :
    (record <*> more).Exact (names ++ others)
      (fun found result => ∃ function value, means found function ∧ further found value ∧
        result = function value) depth where
  names := by
    change (record.slots ++ more.slots).map Slot.name = _
    rw [List.map_append, exact.names, onward.names]
  built context found result holds := by
    constructor
    · intro built
      obtain ⟨function, value, first, second, rfl⟩ := andThen_of_built built
      exact ⟨function, value, (exact.built context found function holds).mp first,
        (onward.built context found value holds).mp second, rfl⟩
    · rintro ⟨function, value, first, second, rfl⟩
      change (do
        let function ← record.build context found
        let value ← more.build context found
        .ok (function value)) = _
      rw [(exact.built context found function holds).mpr first,
        (onward.built context found value holds).mpr second]
      rfl
  admitted context found result holds means slot member := by
    obtain ⟨function, value, first, second, _⟩ := means
    rcases List.mem_append.mp member with earlier | later
    · exact exact.admitted context found function holds first slot earlier
    · exact onward.admitted context found value holds second slot later

/-! ### Records in lists -/

theorem checkItems_shape {context : Context} {ending : Ending} {slots : List Slot}
    {items : List Document} (checked : checkItems context ending slots items = .ok ()) :
    ending = .closed ∧ items.length ≤ slots.length := by
  induction slots generalizing items with
  | nil =>
      cases items with
      | nil => cases ending <;> simp_all [checkItems]
      | cons item rest => cases checked
  | cons slot slots ih =>
      cases items with
      | nil =>
          unfold checkItems at checked
          split at checked
          · exact ⟨rfl, Nat.zero_le _⟩
          · cases checked
          · cases checked
      | cons item rest =>
          unfold checkItems at checked
          cases one : slot.check context item with
          | error fault => rw [one] at checked; cases checked
          | ok passed =>
              rw [one] at checked
              obtain ⟨closed, few⟩ := ih checked
              exact ⟨closed, Nat.succ_le_succ few⟩

theorem checkItems_of_admitted {context : Context} {slots : List Slot} {items : List Document}
    (once : (slots.map Slot.name).Nodup) (few : items.length ≤ slots.length)
    (admitted : ∀ slot ∈ slots, slot.Admits context (findItem slots items slot.name)) :
    checkItems context .closed slots items = .ok () := by
  induction slots generalizing items with
  | nil =>
      cases items with
      | nil => rfl
      | cons item rest => cases few
  | cons slot slots ih =>
      rw [List.map_cons, List.nodup_cons] at once
      have first := admitted slot List.mem_cons_self
      cases items with
      | nil =>
          have cutOff : slot.mayBeCutOff = true := first
          simp only [checkItems, cutOff, if_true]
          refine ih once.2 (Nat.zero_le _) fun other later => ?_
          simpa [findItem] using admitted other (List.mem_cons_of_mem slot later)
      | cons item rest =>
          have passed : slot.check context item = .ok () := by
            simpa [findItem, Slot.Admits] using first
          have others : ∀ other ∈ slots, other.Admits context (findItem slots rest other.name) := by
            intro other later
            have apart : (slot.name == other.name) = false := by
              rw [beq_eq_false_iff_ne]
              exact fun same => once.1 (same ▸ List.mem_map_of_mem later)
            have admits := admitted other (List.mem_cons_of_mem slot later)
            simpa [findItem, apart] using admits
          have onward := ih once.2 (Nat.le_of_succ_le_succ few) others
          simp only [checkItems, passed, bind, Except.bind, onward]

theorem findItem_eq_field? (slots : List Slot) (items : List Document) (ending : Ending)
    (name : String) :
    findItem slots items name =
      (Document.array items ending).field? (slots.map Slot.name) name := by
  unfold findItem Document.field?
  induction slots generalizing items with
  | nil => rfl
  | cons slot slots ih =>
      cases items with
      | nil => rfl
      | cons item rest =>
          simp only [List.map_cons, List.zip_cons_cons, List.find?_cons]
          cases slot.name == name with
          | true => rfl
          | false => exact ih rest

/-! ### Records in objects -/

/-- A record is one field in front of another record: its name is not to come again if it is one of
the record, and its value is skipped if not. -/
theorem isRecord_cons_iff {names : List String} {key : Option String} {value : Document}
    {rest : List (Option String × Document)} :
    (Document.object ((key, value) :: rest) .closed).IsRecord names ↔
      ∃ name, key = some name ∧ (name ∈ names → ∀ late ∈ rest, late.1 ≠ some name) ∧
        (name ∉ names → value.skip = .ok ()) ∧
        (Document.object rest .closed).IsRecord names := by
  constructor
  · intro record
    cases record with
    | object keyed once skipped =>
        obtain ⟨apart, others⟩ := List.pairwise_cons.mp once
        cases key with
        | none => exact absurd rfl (keyed _ List.mem_cons_self)
        | some name =>
            refine ⟨name, rfl, fun known late later => apart late later name known rfl,
              fun unknown => skipped _ List.mem_cons_self ?_,
              .object (fun field later => keyed field (List.mem_cons_of_mem _ later)) others
                fun field later => skipped field (List.mem_cons_of_mem _ later)⟩
            intro other known same
            cases same
            exact unknown known
  · rintro ⟨name, rfl, apart, skips, record⟩
    cases record with
    | object keyed once skipped =>
        refine .object (by simpa using keyed) (.cons ?_ once) ?_
        · intro late later other known same
          cases same
          exact apart known late later
        · intro field member unknown
          rcases List.mem_cons.mp member with rfl | later
          · exact skips fun known => unknown name known rfl
          · exact skipped field later unknown

/-- All that the check of a record does with one field. -/
theorem checkFields_cons_ok_iff {context : Context} {slots : List Slot} {seen : List String}
    {key : Option String} {value : Document} {rest : List (Option String × Document)}
    (slotsOnce : (slots.map Slot.name).Nodup) :
    checkFields context slots seen ((key, value) :: rest) = .ok () ↔
      ∃ name, key = some name ∧
        ((name ∉ slots.map Slot.name ∧ value.skip = .ok () ∧
            checkFields context slots seen rest = .ok ()) ∨
          ∃ slot ∈ slots, slot.name = name ∧ name ∉ seen ∧ slot.check context value = .ok () ∧
            checkFields context slots (name :: seen) rest = .ok ()) := by
  cases key with
  | none => simp [checkFields]
  | some name =>
      rw [checkFields]
      by_cases known : name ∈ slots.map Slot.name
      · obtain ⟨slot, held, rfl⟩ := List.mem_map.mp known
        have unique : ∀ other ∈ slots, other.name = slot.name → other = slot :=
          fun other also same => List.inj_on_of_nodup_map slotsOnce also held same
        simp only [find?_slot slotsOnce held]
        constructor
        · intro checked
          split at checked
          · cases checked
          · rename_i fresh
            cases one : slot.check context value with
            | error fault => rw [one] at checked; cases checked
            | ok passed =>
                rw [one] at checked
                exact ⟨_, rfl, .inr ⟨slot, held, rfl, fresh, one, checked⟩⟩
        · rintro ⟨_, same, ⟨unknown, _⟩ | ⟨other, also, named, fresh, one, checked⟩⟩
          · cases same
            exact absurd known unknown
          · cases same
            rw [unique other also named] at one
            rw [if_neg fresh, one]
            exact checked
      · have missing : (slots.find? fun slot => slot.name == name) = none := by
          simpa [List.find?_eq_none] using known
        simp only [missing]
        constructor
        · intro checked
          cases one : value.skip with
          | error fault => rw [one] at checked; cases checked
          | ok passed =>
              rw [one] at checked
              exact ⟨_, rfl, .inl ⟨known, rfl, checked⟩⟩
        · rintro ⟨_, same, ⟨_, one, checked⟩ | ⟨slot, held, rfl, _⟩⟩
          · rw [one]
            exact checked
          · cases same
            exact absurd (List.mem_map_of_mem held) known

/-- Fields are those of a record if none of them has been seen and each passes its check. -/
theorem checkFields_ok_iff {context : Context} {slots : List Slot} {seen : List String}
    {fields : List (Option String × Document)} (slotsOnce : (slots.map Slot.name).Nodup) :
    checkFields context slots seen fields = .ok () ↔
      (Document.object fields .closed).IsRecord (slots.map Slot.name) ∧
        (∀ field ∈ fields, ∀ name ∈ slots.map Slot.name, field.1 = some name → name ∉ seen) ∧
        ∀ slot ∈ slots, ∀ field ∈ fields, field.1 = some slot.name →
          slot.check context field.2 = .ok () := by
  induction fields generalizing seen with
  | nil =>
      have empty : (Document.object [] .closed).IsRecord (slots.map Slot.name) :=
        .object (fun _ member => nomatch member) .nil fun _ member => nomatch member
      simp [checkFields, empty]
  | cons field rest ih =>
      obtain ⟨key, value⟩ := field
      rw [checkFields_cons_ok_iff slotsOnce, isRecord_cons_iff]
      constructor
      · rintro ⟨name, rfl, ⟨unknown, skips, checked⟩ | ⟨slot, held, rfl, fresh, one, checked⟩⟩
        · obtain ⟨record, unseen, passed⟩ := ih.mp checked
          refine ⟨⟨name, rfl, fun known => absurd known unknown, fun _ => skips, record⟩,
            fun field member other known same => ?_, fun slot held field member same => ?_⟩
          · rcases List.mem_cons.mp member with rfl | later
            · cases same
              exact absurd known unknown
            · exact unseen field later other known same
          · rcases List.mem_cons.mp member with rfl | later
            · cases same
              exact absurd (List.mem_map_of_mem held) unknown
            · exact passed slot held field later same
        · have known : slot.name ∈ slots.map Slot.name := List.mem_map_of_mem held
          obtain ⟨record, unseen, passed⟩ := ih.mp checked
          refine ⟨⟨slot.name, rfl, fun _ late later same =>
              unseen late later slot.name known same List.mem_cons_self,
            fun unknown => absurd known unknown, record⟩,
            fun field member other among same => ?_, fun other also field member same => ?_⟩
          · rcases List.mem_cons.mp member with rfl | later
            · cases same
              exact fresh
            · exact fun before =>
                unseen field later other among same (List.mem_cons_of_mem _ before)
          · rcases List.mem_cons.mp member with rfl | later
            · have named : slot.name = other.name := Option.some.inj same
              rw [← List.inj_on_of_nodup_map slotsOnce held also named]
              exact one
            · exact passed other also field later same
      · rintro ⟨⟨name, rfl, apart, skips, record⟩, unseen, passed⟩
        have checks : ∀ slot ∈ slots, ∀ field ∈ rest, field.1 = some slot.name →
            slot.check context field.2 = .ok () :=
          fun slot held field later => passed slot held field (List.mem_cons_of_mem _ later)
        refine ⟨name, rfl, ?_⟩
        by_cases known : name ∈ slots.map Slot.name
        · obtain ⟨slot, held, rfl⟩ := List.mem_map.mp known
          have still : ∀ field ∈ rest, ∀ other ∈ slots.map Slot.name,
              field.1 = some other → other ∉ slot.name :: seen := by
            intro field later other among same
            rw [List.mem_cons, not_or]
            refine ⟨fun again => ?_,
              unseen field (List.mem_cons_of_mem _ later) other among same⟩
            rw [again] at same
            exact apart known field later same
          exact .inr ⟨slot, held, rfl, unseen _ List.mem_cons_self slot.name known rfl,
            passed slot held _ List.mem_cons_self rfl, ih.mpr ⟨record, still, checks⟩⟩
        · exact .inl ⟨known, skips known, ih.mpr ⟨record,
            fun field later => unseen field (List.mem_cons_of_mem _ later), checks⟩⟩

/-- Where no known name comes twice, each field is found under its name. -/
theorem findField_of_once {names : List String} {fields : List (Option String × Document)}
    (once : fields.Pairwise fun early late =>
      ∀ name ∈ names, early.1 = some name → late.1 ≠ some name)
    {field : Option String × Document} (member : field ∈ fields) {name : String}
    (known : name ∈ names) (named : field.1 = some name) :
    findField fields name = some field.2 := by
  induction fields with
  | nil => cases member
  | cons first rest ih =>
      obtain ⟨apart, others⟩ := List.pairwise_cons.mp once
      unfold findField
      rcases List.mem_cons.mp member with rfl | later
      · simp [named]
      · have different : (first.1 == some name) = false := by
          rw [beq_eq_false_iff_ne]
          exact fun same => apart field later name known same named
        rw [List.find?_cons, different]
        exact ih others later

/-! ### Both -/

section Exact

variable {record : Fields α} {names : List String}
  {means : (String → Option Document) → α → Prop} {depth : Nat}

theorem Exact.slotsOnce (exact : record.Exact names means depth) (once : names.Nodup) :
    (record.slots.map Slot.name).Nodup := by
  rw [exact.names]
  exact once

theorem Exact.decoder_object (exact : record.Exact names means depth) (once : names.Nodup)
    {context : Context} (holds : context.Holds (depth + 1))
    (fields : List (Option String × Document)) (ending : Ending) (value : α) :
    record.decoder context (.object fields ending) = .ok value ↔
      (Document.object fields ending).IsRecord names ∧ means (findField fields) value := by
  obtain ⟨inner, entered, inside, _⟩ := holds.enter
  have meant := exact.built inner (findField fields) value inside
  simp only [Fields.decoder, entered, bind, Except.bind]
  constructor
  · intro decoded
    split at decoded
    · cases decoded
    · rename_i checked
      split at decoded
      · cases decoded
      · rename_i closed
        have sealed : ending = .closed := by
          cases ending with
          | closed => rfl
          | cut | dangling => cases closed
        have shape := ((checkFields_ok_iff (exact.slotsOnce once)).mp checked).1
        rw [exact.names] at shape
        rw [sealed]
        exact ⟨shape, meant.mp decoded⟩
  · rintro ⟨shape, means⟩
    have closed : ending = .closed := by cases shape; rfl
    rw [closed] at shape ⊢
    rw [← exact.names] at shape
    have passed : checkFields inner record.slots [] fields = .ok () := by
      refine (checkFields_ok_iff (exact.slotsOnce once)).mpr
        ⟨shape, fun _ _ _ _ _ => List.not_mem_nil, fun slot held field member named => ?_⟩
      cases shape with
      | object keyed unique skipped =>
          have found := findField_of_once unique member (List.mem_map_of_mem held) named
          have admits := exact.admitted inner (findField fields) value inside means slot held
          rw [found] at admits
          exact admits
    rw [passed]
    exact meant.mpr means

theorem Exact.decoder_array (exact : record.Exact names means depth) (once : names.Nodup)
    {context : Context} (holds : context.Holds (depth + 1)) (items : List Document)
    (ending : Ending) (value : α) :
    record.decoder context (.array items ending) = .ok value ↔
      (Document.array items ending).IsRecord names ∧
        means (findItem record.slots items) value := by
  obtain ⟨inner, entered, inside, _⟩ := holds.enter
  have meant := exact.built inner (findItem record.slots items) value inside
  simp only [Fields.decoder, entered, bind, Except.bind]
  constructor
  · intro decoded
    split at decoded
    · cases decoded
    · rename_i checked
      obtain ⟨closed, few⟩ := checkItems_shape checked
      rw [closed]
      refine ⟨.list ?_, meant.mp decoded⟩
      rw [← exact.names, List.length_map]
      exact few
  · rintro ⟨shape, means⟩
    have passed : checkItems inner ending record.slots items = .ok () := by
      cases shape with
      | list few =>
          rw [← exact.names, List.length_map] at few
          exact checkItems_of_admitted (exact.slotsOnce once) few
            (exact.admitted inner (findItem record.slots items) value inside means)
    rw [passed]
    exact meant.mpr means

theorem Exact.decoder (exact : record.Exact names means depth) (once : names.Nodup) :
    record.decoder.Exact
      (fun document value => document.IsRecord names ∧ means (document.field? names) value)
      (depth + 1) := by
  intro context document value holds
  cases document with
  | object fields ending => exact exact.decoder_object once holds fields ending value
  | array items ending =>
      have same : (Document.array items ending).field? names = findItem record.slots items := by
        funext name
        rw [findItem_eq_field? record.slots items ending, exact.names]
      have decoded := exact.decoder_array once holds items ending value
      rw [← same] at decoded
      exact decoded
  | unkeyed fields =>
      obtain ⟨inner, entered, _⟩ := holds.enter
      simp only [Fields.decoder, entered, bind, Except.bind, reduceCtorEq, false_iff, not_and]
      intro shape
      cases shape
  | _ =>
      simp only [Fields.decoder, reduceCtorEq, false_iff, not_and]
      intro shape
      cases shape

end Exact

end Fields

/-! ### Whole texts and finished values -/

theorem decodeValue_ok_iff {α : Type} {decoder : Decoder α} {meaning : Meaning α} {depth : Nat}
    (exact : decoder.Exact meaning depth) (json : Json) (value : α) :
    decodeValue decoder json = .ok value ↔ meaning (Document.ofJson json) value :=
  exact Context.ofValue (Document.ofJson json) value fun text => by cases text

theorem decodeText_ok_iff {α : Type} {decoder : Decoder α} {meaning : Meaning α} {depth : Nat}
    (exact : decoder.Exact meaning depth) (shallow : depth ≤ 127) (text : String) (value : α) :
    decodeText decoder text = .ok value ↔
      ∃ document, document.IsIn text ∧ meaning document value := by
  have holds : Context.ofText.Holds depth := fun _ => shallow
  unfold decodeText Document.IsIn
  cases read : Document.read text with
  | mk document ending =>
      have decoded := exact Context.ofText document value holds
      dsimp only
      constructor
      · intro done
        cases result : decoder Context.ofText document with
        | error fault => rw [result] at done; cases done
        | ok found =>
            rw [result] at done decoded
            cases ending with
            | none => cases done
            | some rest =>
                dsimp only at done
                split at done
                · rename_i blank
                  exact ⟨document, ⟨rest, rfl, List.isEmpty_iff.mp blank⟩, decoded.mp done⟩
                · cases done
      · rintro ⟨_, ⟨rest, same, blank⟩, means⟩
        cases same
        rw [decoded.mpr means]
        simp [blank]

end PerpDeploy.Json
