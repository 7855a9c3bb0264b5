/-
A registry over any history. Of every name the first registration is kept, in its place and with its
number, and all later ones are refused; every way of looking a name up tells of the first one.
-/

import Mathlib.Data.List.Induction
import Mathlib.Data.List.Nodup
import PerpDeploy.Proofs.Contract.Registry

namespace PerpDeploy

/-- A contract to be recorded, and the time at which that is asked for. -/
structure Registration where
  name : ContractName
  address : String
  artifact : String
  codeId : Option Nat
  now : Int

namespace Registration

/-- The record of a registration that is accepted. -/
def toRecord (registration : Registration) (ordinal : Nat) : ContractRecord :=
  { name := registration.name
    address := registration.address
    ordinal
    deployedAt := registration.now
    artifact := registration.artifact
    codeId := registration.codeId }

/-- The first registration of a name. -/
def first? (history : List Registration) (name : ContractName) : Option Registration :=
  history.find? fun registration => registration.name == name

/-- The first registration of each name, in order. -/
def firsts : List Registration → List Registration
  | [] => []
  | first :: rest => first :: (firsts rest).filter fun later => later.name != first.name

theorem first?_eq_none_iff {history : List Registration} {name : ContractName} :
    first? history name = none ↔ name ∉ history.map Registration.name := by
  simp only [first?, List.find?_eq_none, beq_iff_eq, List.mem_map, not_exists, not_and]

theorem first?_append_singleton (history : List Registration) (next : Registration)
    (name : ContractName) :
    first? (history ++ [next]) name =
      (first? history name).or (if next.name = name then some next else none) := by
  simp only [first?, List.find?_append, List.find?_singleton, beq_iff_eq]

theorem firsts_append_of_not_mem {history : List Registration} {next : Registration}
    (unseen : next.name ∉ history.map Registration.name) :
    firsts (history ++ [next]) = firsts history ++ [next] := by
  induction history with
  | nil => rfl
  | cons first rest ih =>
      rw [List.map_cons, List.mem_cons, not_or] at unseen
      have other : (next.name != first.name) = true := bne_iff_ne.mpr unseen.1
      rw [List.cons_append, firsts, firsts, ih unseen.2, List.filter_append,
        List.filter_singleton, other, Bool.cond_true, List.cons_append]

theorem firsts_append_of_mem {history : List Registration} {next : Registration}
    (seen : next.name ∈ history.map Registration.name) :
    firsts (history ++ [next]) = firsts history := by
  induction history with
  | nil => cases seen
  | cons first rest ih =>
      rw [List.cons_append, firsts, firsts]
      by_cases again : next.name ∈ rest.map Registration.name
      · rw [ih again]
      · have same : next.name = first.name := (List.mem_cons.mp seen).resolve_right again
        rw [firsts_append_of_not_mem again, List.filter_append, List.filter_singleton, same]
        simp

theorem nodup_firsts (history : List Registration) :
    ((firsts history).map Registration.name).Nodup := by
  induction history with
  | nil => exact List.nodup_nil
  | cons first rest ih =>
      rw [firsts, List.map_cons, List.nodup_cons]
      constructor
      · simp
      · exact ih.sublist ((List.filter_sublist).map Registration.name)

end Registration

open Registration (first? firsts)

namespace Registry

/-! ### One registration -/

def register (registry : Registry) (registration : Registration) : Except Failure Registry :=
  registry.record registration.now registration.name registration.address registration.artifact
    registration.codeId

/-- A registration that is refused leaves the registry alone. -/
def after (registry : Registry) (registration : Registration) : Registry :=
  match registry.register registration with
  | .ok later => later
  | .error _ => registry

theorem register_of_mem {registry : Registry} {registration : Registration}
    (recorded : registration.name ∈ registry.names) :
    registry.register registration =
      .error (.duplicateRegistration registration.name (registry.addressOf registration.name)) :=
  record_of_mem recorded _ _ _ _

theorem register_of_not_mem {registry : Registry} {registration : Registration}
    (absent : registration.name ∉ registry.names) :
    registry.register registration =
      .ok { records := registry.records ++ [registration.toRecord (registry.size + 1)] } :=
  record_of_not_mem absent _ _ _ _

theorem after_of_mem {registry : Registry} {registration : Registration}
    (recorded : registration.name ∈ registry.names) : registry.after registration = registry := by
  rw [after, register_of_mem recorded]

theorem after_of_not_mem {registry : Registry} {registration : Registration}
    (absent : registration.name ∉ registry.names) :
    registry.after registration =
      { records := registry.records ++ [registration.toRecord (registry.size + 1)] } := by
  rw [after, register_of_not_mem absent]

/-- Whatever is registered next, a name that is recorded keeps its record. -/
theorem get?_after (registry : Registry) (registration : Registration) (name : ContractName) :
    (registry.after registration).get? name =
      (registry.get? name).or
        (if registration.name = name then some (registration.toRecord (registry.size + 1))
          else none) := by
  by_cases recorded : registration.name ∈ registry.names
  · rw [after_of_mem recorded]
    by_cases same : registration.name = name
    · obtain ⟨record, found⟩ := exists_get?_of_mem (same ▸ recorded)
      rw [found, Option.some_or]
    · rw [if_neg same, Option.or_none]
  · rw [after_of_not_mem recorded, get?, List.find?_append, List.find?_singleton]
    simp only [beq_iff_eq, Registration.toRecord, get?]

theorem records_prefix_after (registry : Registry) (registration : Registration) :
    registry.records <+: (registry.after registration).records := by
  by_cases recorded : registration.name ∈ registry.names
  · exact (after_of_mem recorded).symm ▸ List.prefix_refl registry.records
  · rw [after_of_not_mem recorded]
    exact List.prefix_append _ _

/-! ### A history of them -/

def ofHistory (history : List Registration) : Registry := history.foldl after empty

theorem ofHistory_append_singleton (history : List Registration) (next : Registration) :
    ofHistory (history ++ [next]) = (ofHistory history).after next := by
  rw [ofHistory, List.foldl_append]
  rfl

theorem records_prefix_foldl (registry : Registry) (history : List Registration) :
    registry.records <+: (history.foldl after registry).records := by
  induction history generalizing registry with
  | nil => exact List.prefix_refl _
  | cons first rest ih => exact (registry.records_prefix_after first).trans (ih _)

theorem mem_names_ofHistory (history : List Registration) (name : ContractName) :
    name ∈ (ofHistory history).names ↔ name ∈ history.map Registration.name := by
  induction history using List.reverseRecOn with
  | nil => rfl
  | append_singleton history next ih =>
      rw [ofHistory_append_singleton, List.map_append, List.mem_append, ← ih]
      by_cases recorded : next.name ∈ (ofHistory history).names
      · rw [after_of_mem recorded]
        constructor
        · exact Or.inl
        · rintro (earlier | last)
          · exact earlier
          · rw [List.mem_singleton.mp last]
            exact recorded
      · rw [after_of_not_mem recorded, names, List.map_append, List.mem_append]
        rfl

/-- The records are those of the first registrations, numbered from one on. -/
theorem records_ofHistory (history : List Registration) :
    (ofHistory history).records =
      (firsts history).mapIdx fun place registration => registration.toRecord (place + 1) := by
  induction history using List.reverseRecOn with
  | nil => rfl
  | append_singleton history next ih =>
      rw [ofHistory_append_singleton]
      by_cases seen : next.name ∈ history.map Registration.name
      · rw [after_of_mem ((mem_names_ofHistory history next.name).mpr seen),
          Registration.firsts_append_of_mem seen, ih]
      · have absent := (mem_names_ofHistory history next.name).not.mpr seen
        rw [after_of_not_mem absent, Registration.firsts_append_of_not_mem seen,
          List.mapIdx_concat, size, ih, List.length_mapIdx]

theorem nodup_names_ofHistory (history : List Registration) : (ofHistory history).names.Nodup := by
  have same : (ofHistory history).names = (firsts history).map Registration.name := by
    rw [names, records_ofHistory]
    exact List.ext_getElem (by simp) fun place _ _ => by simp [Registration.toRecord]
  rw [same]
  exact Registration.nodup_firsts history

theorem ordinals_ofHistory (history : List Registration) :
    (ofHistory history).records.map ContractRecord.ordinal =
      List.range' 1 (ofHistory history).size := by
  rw [size, records_ofHistory]
  refine List.ext_getElem (by simp) fun place _ _ => ?_
  simp [Registration.toRecord, Nat.add_comm]

theorem get?_ofHistory_eq_none_iff {history : List Registration} {name : ContractName} :
    (ofHistory history).get? name = none ↔ first? history name = none := by
  rw [get?_eq_none_iff, mem_names_ofHistory, Registration.first?_eq_none_iff]

theorem get?_ofHistory {history : List Registration} {name : ContractName} {first : Registration}
    (found : first? history name = some first) :
    ∃ ordinal, (ofHistory history).get? name = some (first.toRecord ordinal) := by
  induction history using List.reverseRecOn with
  | nil => cases found
  | append_singleton history next ih =>
      rw [Registration.first?_append_singleton] at found
      rw [ofHistory_append_singleton, get?_after]
      cases earlier : first? history name with
      | some known =>
          rw [earlier, Option.some_or] at found
          obtain ⟨ordinal, kept⟩ := ih (earlier.trans found)
          exact ⟨ordinal, by rw [kept, Option.some_or]⟩
      | none =>
          rw [earlier, Option.none_or] at found
          rw [get?_ofHistory_eq_none_iff.mpr earlier, Option.none_or]
          split at found
          case isTrue same =>
            cases found
            exact ⟨_, if_pos same⟩
          case isFalse => cases found

/-! ### Looking a name up -/

/-- A name has this one record, whichever way it is asked for. -/
structure Holds (registry : Registry) (name : ContractName) (record : ContractRecord) : Prop where
  member : record ∈ registry.records
  sole : ∀ other ∈ registry.records, other.name = name ↔ other = record
  get : registry.get? name = some record
  contains : registry.contains name = true
  resolve : registry.resolve name = .ok record.address
  reported : ∀ report : Report, report.contracts = registry.records →
    report.addressOf? name = some record.address

/-- A name has no record, whichever way it is asked for. -/
structure Lacks (registry : Registry) (name : ContractName) : Prop where
  absent : ∀ record ∈ registry.records, record.name ≠ name
  get : registry.get? name = none
  contains : registry.contains name = false
  resolve : registry.resolve name = .error (.unknownContract name none)
  reported : ∀ report : Report, report.contracts = registry.records →
    report.addressOf? name = none

theorem holds_of_get {registry : Registry} {name : ContractName} {record : ContractRecord}
    (distinct : registry.names.Nodup) (found : registry.get? name = some record) :
    registry.Holds name record where
  member := List.mem_of_find?_eq_some found
  sole other member := by
    have unique := List.inj_on_of_nodup_map distinct member (List.mem_of_find?_eq_some found)
    rw [← name_of_get found]
    exact ⟨unique, fun same => same ▸ rfl⟩
  get := found
  contains := by rw [Registry.contains, found, Option.isSome_some]
  resolve := by rw [Registry.resolve, found]
  reported report same := by rw [addressOf?_eq same, found, Option.map_some]

theorem lacks_of_get {registry : Registry} {name : ContractName}
    (missing : registry.get? name = none) : registry.Lacks name where
  absent record member named :=
    (get?_eq_none_iff registry name).mp missing (List.mem_map.mpr ⟨record, member, named⟩)
  get := missing
  contains := by rw [Registry.contains, missing, Option.isSome_none]
  resolve := by rw [Registry.resolve, missing]
  reported report same := by rw [addressOf?_eq same, missing, Option.map_none]

/-! ### The next registration -/

theorem register_new {history : List Registration} {next : Registration}
    (unseen : next.name ∉ history.map Registration.name) :
    (ofHistory history).register next = .ok (ofHistory (history ++ [next])) ∧
      (ofHistory (history ++ [next])).records =
        (ofHistory history).records ++ [next.toRecord ((ofHistory history).size + 1)] := by
  have absent := (mem_names_ofHistory history next.name).not.mpr unseen
  rw [ofHistory_append_singleton, after_of_not_mem absent]
  exact ⟨register_of_not_mem absent, rfl⟩

/-- A name that is registered again is told what it was registered with first. -/
theorem register_again {history : List Registration} {next first : Registration}
    (found : first? history next.name = some first) :
    (ofHistory history).register next =
        .error (.duplicateRegistration next.name first.address) ∧
      ofHistory (history ++ [next]) = ofHistory history := by
  obtain ⟨ordinal, kept⟩ := get?_ofHistory found
  have recorded : next.name ∈ (ofHistory history).names :=
    List.mem_map.mpr ⟨_, List.mem_of_find?_eq_some kept, name_of_get kept⟩
  have address : (ofHistory history).addressOf next.name = first.address := by
    rw [addressOf, kept]
    rfl
  rw [ofHistory_append_singleton, register_of_mem recorded, address]
  exact ⟨rfl, after_of_mem recorded⟩

/-- Of a history of registrations the registry keeps the first of each name. -/
theorem ofHistory_keeps_firsts (history : List Registration) :
    (∀ next : Registration,
      ((∃ later, (ofHistory history).register next = .ok later) ↔
        next.name ∉ history.map Registration.name) ∧
      (next.name ∉ history.map Registration.name →
        (ofHistory history).register next = .ok (ofHistory (history ++ [next])) ∧
        (ofHistory (history ++ [next])).records =
          (ofHistory history).records ++ [next.toRecord ((ofHistory history).size + 1)]) ∧
      ∀ first, first? history next.name = some first →
        (ofHistory history).register next =
          .error (.duplicateRegistration next.name first.address) ∧
        ofHistory (history ++ [next]) = ofHistory history) ∧
    (ofHistory history).records =
      (firsts history).mapIdx (fun place registration => registration.toRecord (place + 1)) ∧
    (∀ later, (ofHistory history).records <+: (ofHistory (history ++ later)).records) ∧
    (ofHistory history).names.Nodup ∧
    (ofHistory history).records.map ContractRecord.ordinal =
      List.range' 1 (ofHistory history).size ∧
    ∀ name,
      (∀ first, first? history name = some first →
        ∃ ordinal, (ofHistory history).Holds name (first.toRecord ordinal)) ∧
      (first? history name = none → (ofHistory history).Lacks name) := by
  have distinct := nodup_names_ofHistory history
  refine ⟨fun next => ⟨?_, register_new, fun first => register_again⟩, records_ofHistory history,
    fun later => ?_, distinct, ordinals_ofHistory history, fun name => ⟨fun first found => ?_, ?_⟩⟩
  · constructor
    · intro ⟨later, accepted⟩ seen
      rw [register_of_mem ((mem_names_ofHistory history next.name).mpr seen)] at accepted
      cases accepted
    · intro unseen
      exact ⟨_, (register_new unseen).1⟩
  · rw [ofHistory, ofHistory, List.foldl_append]
    exact records_prefix_foldl _ later
  · obtain ⟨ordinal, kept⟩ := get?_ofHistory found
    exact ⟨ordinal, holds_of_get distinct kept⟩
  · intro missing
    exact lacks_of_get (get?_ofHistory_eq_none_iff.mpr missing)

end Registry

end PerpDeploy
