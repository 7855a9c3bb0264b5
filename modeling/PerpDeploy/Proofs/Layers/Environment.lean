/-
Which variables of the environment set which fields. The name of a variable leads to at most
one field, and of the variables that lead to a field the last one gives its value.
-/

import Mathlib.Data.List.Induction
import PerpDeploy.Layers.Environment

namespace PerpDeploy.Layers

/-- The last of the entries that fulfil the condition. -/
inductive IsLast {α : Type} (condition : α → Prop) (entries : List α) (entry : α) : Prop
  | behind {before after : List α} (split : entries = before ++ entry :: after)
      (holds : condition entry) (later : ∀ other ∈ after, ¬ condition other)

section

variable {α : Type} {condition : α → Prop} {entries : List α} {entry last : α}

theorem isLast_nil : ¬ IsLast condition [] entry := by
  rintro ⟨split, -, -⟩
  simp at split

theorem isLast_append_iff :
    IsLast condition (entries ++ [last]) entry ↔
      (condition last ∧ entry = last) ∨ (¬ condition last ∧ IsLast condition entries entry) := by
  constructor
  · rintro ⟨split, holds, later⟩
    rename_i before after
    -- the entry is the added one, or the added one stands somewhere behind it
    rcases List.eq_nil_or_concat after with rfl | ⟨between, final, rfl⟩
    · obtain ⟨rfl, same⟩ := List.append_inj' split rfl
      cases same
      exact Or.inl ⟨holds, rfl⟩
    · rw [List.concat_eq_append, ← List.cons_append, ← List.append_assoc] at split
      obtain ⟨rfl, same⟩ := List.append_inj' split rfl
      cases same
      rw [List.concat_eq_append, List.forall_mem_append, List.forall_mem_singleton] at later
      exact Or.inr ⟨later.2, .behind rfl holds later.1⟩
  · rintro (⟨holds, rfl⟩ | ⟨fails, ⟨rfl, holds, later⟩⟩)
    · exact .behind rfl holds (List.forall_mem_nil _)
    · rename_i before after
      have split : before ++ entry :: after ++ [last] = before ++ entry :: (after ++ [last]) := by
        rw [List.append_assoc, List.cons_append]
      exact .behind split holds
        (List.forall_mem_append.mpr ⟨later, List.forall_mem_singleton.mpr fails⟩)

theorem find?_reverse_eq_some_iff {test : α → Bool} :
    entries.reverse.find? test = some entry ↔
      IsLast (fun entry => test entry = true) entries entry := by
  induction entries using List.reverseRecOn with
  | nil => exact ⟨nofun, fun last => absurd last isLast_nil⟩
  | append_singleton entries last ih =>
      rw [List.reverse_append, List.reverse_singleton, List.singleton_append, List.find?_cons,
        isLast_append_iff, ← ih]
      cases test last with
      | true => simp [eq_comm]
      | false => simp

end

namespace Fields

theorem lookup?_append (left right : Fields) (name : String) :
    lookup? name (left ++ right) = (left.lookup? name).or (right.lookup? name) := by
  induction left with
  | nil => rfl
  | cons entry rest ih =>
      obtain ⟨key, value⟩ := entry
      rw [List.cons_append, lookup?, lookup?]
      split
      · rfl
      · exact ih

theorem lookup?_without {key name : String} (differs : key ≠ name) (front back : Fields)
    (value : Value) :
    lookup? name (front ++ (key, value) :: back) = lookup? name (front ++ back) := by
  rw [lookup?_append, lookup?_append, lookup?, if_neg differs]

theorem lookup?_filter_of_ne {name other : String} (differs : other ≠ name) (fields : Fields) :
    lookup? name (fields.filter fun held => held.1 ≠ other) = fields.lookup? name := by
  induction fields with
  | nil => rfl
  | cons entry rest ih =>
      obtain ⟨key, value⟩ := entry
      by_cases same : key = other
      · subst same
        rw [List.filter_cons_of_neg (by simp), lookup?, if_neg differs, ih]
      · rw [List.filter_cons_of_pos (by simpa using same), lookup?, lookup?, ih]

theorem lookup?_filter_self (name : String) (fields : Fields) :
    lookup? name (fields.filter fun held => held.1 ≠ name) = none := by
  induction fields with
  | nil => rfl
  | cons entry rest ih =>
      obtain ⟨key, value⟩ := entry
      by_cases same : key = name
      · rw [List.filter_cons_of_neg (by simpa using same), ih]
      · rw [List.filter_cons_of_pos (by simpa using same), lookup?, if_neg same, ih]

theorem lookup?_put_self (fields : Fields) (name : String) (value : Value) :
    (fields.put name value).lookup? name = some value := by
  rw [put, lookup?_append, lookup?_filter_self, Option.none_or, lookup?, if_pos rfl]

theorem lookup?_put_of_ne {name other : String} (differs : other ≠ name) (fields : Fields)
    (value : Value) : (fields.put other value).lookup? name = fields.lookup? name := by
  rw [put, lookup?_append, lookup?_filter_of_ne differs, lookup?, if_neg differs, lookup?,
    Option.or_none]

theorem lookup?_eq_some_iff_mem {fields : Fields} (distinct : (fields.map Prod.fst).Nodup)
    {name : String} {value : Value} :
    fields.lookup? name = some value ↔ (name, value) ∈ fields := by
  induction fields with
  | nil => exact ⟨nofun, nofun⟩
  | cons entry rest ih =>
      obtain ⟨key, held⟩ := entry
      obtain ⟨apart, distinct⟩ := List.nodup_cons.mp distinct
      rw [lookup?, List.mem_cons, Prod.mk.injEq]
      by_cases same : key = name
      · subst same
        have absent : (key, value) ∉ rest := fun member => apart (List.mem_map.mpr ⟨_, member, rfl⟩)
        simp only [if_true, Option.some.injEq, true_and, absent, or_false]
        exact eq_comm
      · rw [if_neg same, ih distinct]
        simp only [Ne.symm same, false_and, false_or]

end Fields

namespace Environment

/-- The name of a variable leads to the field at a path: blanks around it and case apart, it is
the mark of the program and the names of the path with dots between them. -/
inductive LeadsTo (key : String) (path : List String) : Prop
  | marked {rest : String}
      (spelled : (Text.trim key).toList.map Char.toLower = (mark ++ rest).toList)
      (joined : Text.trim rest = ".".intercalate path) (nonempty : path ≠ [])
      (named : ∀ piece ∈ path, piece ≠ "" ∧ '.' ∉ piece.toList)

theorem splitDots_eq_splitOn (chars : List Char) : splitDots chars = chars.splitOn '.' := by
  induction chars with
  | nil => rfl
  | cons c rest ih =>
      rw [splitDots, List.splitOn_cons_eq_if_modifyHead, ih]
      by_cases dot : c = '.'
      · rw [if_pos dot, if_pos (beq_iff_eq.mpr dot)]
      · rw [if_neg dot, if_neg (mt beq_iff_eq.mp dot)]
        cases pieces : rest.splitOn '.' with
        | nil => exact absurd pieces (List.splitOnP_ne_nil _ _)
        | cons piece others => rfl

theorem no_dot_of_mem_splitDots {chars piece : List Char} (member : piece ∈ splitDots chars) :
    '.' ∉ piece := by
  induction chars generalizing piece with
  | nil =>
      rw [splitDots, List.mem_singleton] at member
      rw [member]
      exact List.not_mem_nil
  | cons c rest ih =>
      rw [splitDots] at member
      split at member
      · rcases List.mem_cons.mp member with rfl | later
        · exact List.not_mem_nil
        · exact ih later
      rename_i other
      split at member
      · rw [List.mem_singleton.mp member, List.mem_singleton]
        exact Ne.symm other
      · rename_i first others pieces
        rw [pieces] at ih
        rcases List.mem_cons.mp member with rfl | later
        · rw [List.mem_cons, not_or]
          exact ⟨Ne.symm other, ih List.mem_cons_self⟩
        · exact ih (List.mem_cons_of_mem _ later)

theorem splitDots_eq_iff {chars : List Char} {pieces : List (List Char)} :
    splitDots chars = pieces ↔
      ['.'].intercalate pieces = chars ∧ pieces ≠ [] ∧ ∀ piece ∈ pieces, '.' ∉ piece := by
  constructor
  · rintro rfl
    refine ⟨?_, ?_, fun piece => no_dot_of_mem_splitDots⟩
    · rw [splitDots_eq_splitOn, List.intercalate_splitOn]
    · rw [splitDots_eq_splitOn]
      exact List.splitOn_ne_nil _ _
  · rintro ⟨rfl, nonempty, plain⟩
    rw [splitDots_eq_splitOn, List.splitOn_intercalate '.' plain nonempty]

theorem splitDots_eq_map_iff {field : String} {path : List String} :
    splitDots field.toList = path.map String.toList ↔
      field = ".".intercalate path ∧ path ≠ [] ∧ ∀ piece ∈ path, '.' ∉ piece.toList := by
  have joined : (".".intercalate path).toList = ['.'].intercalate (path.map String.toList) :=
    String.toList_intercalate
  rw [splitDots_eq_iff, ← joined, String.toList_inj, eq_comm, List.forall_mem_map, Ne,
    List.map_eq_nil_iff]

theorem isPrefixOf_mark_iff {chars : List Char} :
    mark.toList.isPrefixOf chars = true ↔ ∃ rest, chars = (mark ++ rest).toList := by
  rw [List.isPrefixOf_iff_prefix]
  constructor
  · rintro ⟨rest, rfl⟩
    exact ⟨String.ofList rest, by rw [String.toList_append, String.toList_ofList]⟩
  · rintro ⟨rest, rfl⟩
    rw [String.toList_append]
    exact List.prefix_append _ _

theorem drop_mark (rest : String) :
    String.ofList ((mark ++ rest).toList.drop mark.length) = rest := by
  have length : mark.length = mark.toList.length := rfl
  rw [length, String.toList_append, List.drop_left, String.ofList_toList]

theorem map_ofList_eq_iff {pieces : List (List Char)} {path : List String} :
    pieces.map String.ofList = path ↔ pieces = path.map String.toList := by
  have there : String.ofList ∘ String.toList = id := funext fun _ => String.ofList_toList
  have back : String.toList ∘ String.ofList = id := funext fun _ => String.toList_ofList
  constructor
  · rintro rfl
    rw [List.map_map, back, List.map_id]
  · rintro rfl
    rw [List.map_map, there, List.map_id]

theorem any_isEmpty_map_toList (path : List String) :
    (path.map String.toList).any List.isEmpty = false ↔ ∀ piece ∈ path, piece ≠ "" := by
  rw [List.any_map, List.any_eq_false]
  refine forall₂_congr fun piece _ => not_congr ?_
  rw [Function.comp_apply, List.isEmpty_iff, ← String.toList_inj]
  rfl

/-- The names in a field that is spelled with dots, if there is no gap between two of them. -/
theorem names_eq_some_iff {field : String} {path : List String} :
    (if (splitDots field.toList).any List.isEmpty then none
      else some ((splitDots field.toList).map String.ofList)) = some path ↔
      field = ".".intercalate path ∧ path ≠ [] ∧
        ∀ piece ∈ path, piece ≠ "" ∧ '.' ∉ piece.toList := by
  constructor
  · intro found
    split at found
    · cases found
    rename_i filled
    have pieces := map_ofList_eq_iff.mp (Option.some.inj found)
    obtain ⟨joined, nonempty, plain⟩ := splitDots_eq_map_iff.mp pieces
    rw [pieces, Bool.not_eq_true, any_isEmpty_map_toList] at filled
    exact ⟨joined, nonempty, fun piece member => ⟨filled piece member, plain piece member⟩⟩
  · rintro ⟨joined, nonempty, named⟩
    have pieces := splitDots_eq_map_iff.mpr
      ⟨joined, nonempty, fun piece member => (named piece member).2⟩
    have filled := (any_isEmpty_map_toList path).mpr fun piece member => (named piece member).1
    rw [pieces, filled, map_ofList_eq_iff.mpr rfl]
    rfl

theorem settingPath?_eq_some_iff {key : String} {path : List String} :
    settingPath? key = some path ↔ LeadsTo key path := by
  unfold settingPath?
  dsimp only
  by_cases starts : mark.toList.isPrefixOf ((Text.trim key).toList.map Char.toLower) = true
  · obtain ⟨rest, spelled⟩ := isPrefixOf_mark_iff.mp starts
    rw [if_pos starts, spelled, drop_mark, names_eq_some_iff]
    constructor
    · rintro ⟨joined, nonempty, named⟩
      exact .marked spelled joined nonempty named
    · rintro ⟨again, joined, nonempty, named⟩
      rename_i other
      rw [spelled, String.toList_inj, String.append_right_inj] at again
      subst again
      exact ⟨joined, nonempty, named⟩
  · rw [if_neg starts]
    constructor
    · intro found
      cases found
    · rintro ⟨spelled, -, -, -⟩
      exact absurd (isPrefixOf_mark_iff.mpr ⟨_, spelled⟩) starts

theorem LeadsTo.ne_nil {key : String} {path : List String} (leads : LeadsTo key path) :
    path ≠ [] := by
  obtain ⟨-, -, nonempty, -⟩ := leads
  exact nonempty

theorem LeadsTo.unique {key : String} {path other : List String} (leads : LeadsTo key path)
    (again : LeadsTo key other) : path = other :=
  Option.some.inj
    ((settingPath?_eq_some_iff.mpr leads).symm.trans (settingPath?_eq_some_iff.mpr again))

/-- The last of the variables that lead to a field, or into it, gives its value. -/
inductive Sets (environment : Environment) (name : String) : Value → Prop
  | last {key text : String} {path : List String} (leads : LeadsTo key (name :: path))
      (last : IsLast (fun entry : String × String => ∃ path, LeadsTo entry.1 (name :: path))
        environment (key, text)) :
      Sets environment name (nest (readValue text) path)

theorem fields_append_of_leads {entry : String × String} {name : String} {path : List String}
    (leads : LeadsTo entry.1 (name :: path)) (environment : Environment) :
    fields (environment ++ [entry]) =
      environment.fields.put name (nest (readValue entry.2) path) := by
  unfold fields
  rw [List.foldl_append, List.foldl_cons, List.foldl_nil, settingPath?_eq_some_iff.mpr leads]

theorem fields_append_of_not {entry : String × String} (astray : ∀ path, ¬ LeadsTo entry.1 path)
    (environment : Environment) : fields (environment ++ [entry]) = environment.fields := by
  have missing : settingPath? entry.1 = none :=
    Option.eq_none_iff_forall_ne_some.mpr
      fun path found => astray path (settingPath?_eq_some_iff.mp found)
  unfold fields
  rw [List.foldl_append, List.foldl_cons, List.foldl_nil, missing]

theorem sets_nil {name : String} {value : Value} : ¬ Sets [] name value := by
  rintro ⟨-, last⟩
  exact isLast_nil last

theorem sets_append_of_leads {entry : String × String} {name : String} {path : List String}
    (leads : LeadsTo entry.1 (name :: path)) (environment : Environment) {value : Value} :
    Sets (environment ++ [entry]) name value ↔ nest (readValue entry.2) path = value := by
  constructor
  · rintro ⟨other, last⟩
    rcases isLast_append_iff.mp last with ⟨-, same⟩ | ⟨astray, -⟩
    · subst same
      have paths := leads.unique other
      rw [List.cons.injEq] at paths
      rw [paths.2]
    · exact absurd ⟨path, leads⟩ astray
  · rintro rfl
    exact .last leads (isLast_append_iff.mpr (Or.inl ⟨⟨path, leads⟩, rfl⟩))

theorem sets_append_of_not {entry : String × String} {name : String}
    (astray : ∀ path, ¬ LeadsTo entry.1 (name :: path)) (environment : Environment)
    {value : Value} : Sets (environment ++ [entry]) name value ↔ Sets environment name value := by
  have fails : ¬ ∃ path, LeadsTo entry.1 (name :: path) := not_exists.mpr astray
  constructor
  · rintro ⟨leads, last⟩
    rcases isLast_append_iff.mp last with ⟨holds, -⟩ | ⟨-, last⟩
    · exact absurd holds fails
    · exact .last leads last
  · rintro ⟨leads, last⟩
    exact .last leads (isLast_append_iff.mpr (Or.inr ⟨fails, last⟩))

/-- Variables behind others have the last word, so they keep what the others have in common. -/
theorem sets_append_congr {environment others : Environment} {name : String}
    (alike : ∀ value, environment.Sets name value ↔ others.Sets name value)
    (after : Environment) (value : Value) :
    Sets (environment ++ after) name value ↔ Sets (others ++ after) name value := by
  induction after using List.reverseRecOn with
  | nil =>
      rw [List.append_nil, List.append_nil]
      exact alike value
  | append_singleton after entry ih =>
      rw [← List.append_assoc, ← List.append_assoc]
      by_cases leads : ∃ path, LeadsTo entry.1 (name :: path)
      · obtain ⟨path, leads⟩ := leads
        rw [sets_append_of_leads leads, sets_append_of_leads leads]
      · have astray := not_exists.mp leads
        rw [sets_append_of_not astray, sets_append_of_not astray, ih]

theorem sets_without {before after : Environment} {entry : String × String} {name : String}
    (astray : ∀ path, ¬ LeadsTo entry.1 (name :: path)) (value : Value) :
    Sets (before ++ entry :: after) name value ↔ Sets (before ++ after) name value := by
  rw [List.append_cons]
  exact sets_append_congr (fun _ => sets_append_of_not astray before) after value

theorem lookup?_fields_iff {environment : Environment} {name : String} {value : Value} :
    environment.fields.lookup? name = some value ↔ environment.Sets name value := by
  induction environment using List.reverseRecOn with
  | nil => exact ⟨nofun, fun sets => absurd sets sets_nil⟩
  | append_singleton environment entry ih =>
      -- from the end, since a variable that is put later replaces what was there
      by_cases leads : ∃ path, LeadsTo entry.1 path
      · obtain ⟨path, leads⟩ := leads
        cases path with
        | nil => exact absurd rfl leads.ne_nil
        | cons field path =>
            rw [fields_append_of_leads leads]
            by_cases same : field = name
            · subst same
              rw [Fields.lookup?_put_self, sets_append_of_leads leads, Option.some.injEq]
            · have astray : ∀ path, ¬ LeadsTo entry.1 (name :: path) := fun other again =>
                same (List.cons.inj (leads.unique again)).1
              rw [Fields.lookup?_put_of_ne same, sets_append_of_not astray, ih]
      · have astray := not_exists.mp leads
        rw [fields_append_of_not astray, ih, sets_append_of_not fun path => astray (name :: path)]

end Environment

end PerpDeploy.Layers
