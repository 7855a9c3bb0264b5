/-
The names in a registry, and what looking one up gives. A name that is recorded keeps its
address while further contracts are recorded.
-/

import PerpDeploy.Run.Report

namespace PerpDeploy.Registry

def names (registry : Registry) : List ContractName := registry.records.map ContractRecord.name

/-- The address of a contract, empty unless it is recorded. -/
def addressOf (registry : Registry) (name : ContractName) : String :=
  ((registry.get? name).map ContractRecord.address).getD ""

theorem get?_eq_none_iff (registry : Registry) (name : ContractName) :
    registry.get? name = none ↔ name ∉ registry.names := by
  simp only [get?, names, List.find?_eq_none, beq_iff_eq, List.mem_map, not_exists, not_and]

theorem not_contains_iff (registry : Registry) (name : ContractName) :
    registry.contains name = false ↔ name ∉ registry.names := by
  rw [contains, Option.isSome_eq_false_iff, Option.isNone_iff_eq_none, get?_eq_none_iff]

theorem exists_get?_of_mem {registry : Registry} {name : ContractName}
    (recorded : name ∈ registry.names) : ∃ record, registry.get? name = some record := by
  cases found : registry.get? name with
  | none => exact absurd recorded ((get?_eq_none_iff registry name).mp found)
  | some record => exact ⟨record, rfl⟩

theorem name_of_get {registry : Registry} {name : ContractName} {record : ContractRecord}
    (found : registry.get? name = some record) : record.name = name := by
  rw [get?] at found
  have same := List.find?_some found
  exact beq_iff_eq.mp same

theorem exists_record_of_mem {registry : Registry} {name : ContractName}
    (recorded : name ∈ registry.names) :
    ∃ record ∈ registry.records, record.name = name ∧
      record.address = registry.addressOf name := by
  obtain ⟨record, found⟩ := exists_get?_of_mem recorded
  refine ⟨record, List.mem_of_find?_eq_some found, name_of_get found, ?_⟩
  rw [addressOf, found]
  rfl

/-- A report looks a name up as the registry does. -/
theorem addressOf?_eq {registry : Registry} {report : Report}
    (same : report.contracts = registry.records) (name : ContractName) :
    report.addressOf? name = (registry.get? name).map ContractRecord.address := by
  rw [Report.addressOf?, same, get?]

theorem resolve_of_mem {registry : Registry} {name : ContractName}
    (recorded : name ∈ registry.names) :
    registry.resolve name = .ok (registry.addressOf name) := by
  obtain ⟨record, found⟩ := exists_get?_of_mem recorded
  simp only [resolve, addressOf, found, Option.map_some, Option.getD_some]

theorem resolve_of_not_mem {registry : Registry} {name : ContractName}
    (absent : name ∉ registry.names) :
    registry.resolve name = .error (.unknownContract name none) := by
  simp only [resolve, (get?_eq_none_iff registry name).mpr absent]

theorem record_of_not_mem {registry : Registry} {name : ContractName}
    (absent : name ∉ registry.names) (now : Int) (address artifact : String)
    (codeId : Option Nat) :
    registry.record now name address artifact codeId =
      .ok { records :=
        registry.records ++ [registry.nextRecord now name address artifact codeId] } := by
  simp only [record, (get?_eq_none_iff registry name).mpr absent]

theorem record_of_mem {registry : Registry} {name : ContractName}
    (recorded : name ∈ registry.names) (now : Int) (address artifact : String)
    (codeId : Option Nat) :
    registry.record now name address artifact codeId =
      .error (.duplicateRegistration name (registry.addressOf name)) := by
  obtain ⟨existing, found⟩ := exists_get?_of_mem recorded
  simp only [record, addressOf, found, Option.map_some, Option.getD_some]

/-- Records at the end do not hide those before them. -/
theorem addressOf_append {registry : Registry} {name : ContractName}
    (recorded : name ∈ registry.names) (later : List ContractRecord) :
    addressOf { records := registry.records ++ later } name = registry.addressOf name := by
  obtain ⟨record, found⟩ := exists_get?_of_mem recorded
  have kept : get? { records := registry.records ++ later } name = some record := by
    simp only [get?] at found ⊢
    rw [List.find?_append, found, Option.some_or]
  simp only [addressOf, kept, found]

end PerpDeploy.Registry
