/-
Places inside a JSON value. What stands at a place can be replaced by something else, and
everything that stands elsewhere stays as it is.
-/

import PerpDeploy.Json.Basic

namespace PerpDeploy.Json

/-- One move further into a value. -/
inductive Move
  | field (name : String)
  | item (index : Nat)
  deriving DecidableEq, Repr

abbrev Place := List Move

/-- Neither place lies within the other. -/
def Place.Apart (place other : Place) : Prop := ¬ place <+: other ∧ ¬ other <+: place

def at? : Json → Place → Option Json
  | json, [] => some json
  | .object fields, .field name :: rest => (lookup? name fields).bind fun held => at? held rest
  | .array items, .item index :: rest => items[index]?.bind fun held => at? held rest
  | _, _ => none

/-- A value without such a place stays as it is. -/
def replaceAt : Json → Place → Json → Json
  | _, [], value => value
  | .object fields, .field name :: rest, value =>
      .object (fields.map fun (key, held) =>
        (key, if key = name then replaceAt held rest value else held))
  | .array items, .item index :: rest, value =>
      .array (items.modify index fun held => replaceAt held rest value)
  | json, _, _ => json

theorem Place.Apart.tail {move : Move} {place other : Place}
    (apart : Apart (move :: place) (move :: other)) : Apart place other :=
  ⟨fun within => apart.1 ((List.prefix_cons_inj move).mpr within),
    fun within => apart.2 ((List.prefix_cons_inj move).mpr within)⟩

theorem lookup?_map (change : String → Json → Json) (name : String)
    (fields : List (String × Json)) :
    lookup? name (fields.map fun (key, held) => (key, change key held)) =
      (lookup? name fields).map (change name) := by
  induction fields with
  | nil => rfl
  | cons field rest ih =>
      obtain ⟨key, held⟩ := field
      simp only [List.map_cons, lookup?]
      by_cases same : key = name
      · rw [if_pos same, if_pos same, same]
        rfl
      · rw [if_neg same, if_neg same, ih]

theorem at?_replaceAt_apart {place other : Place} (apart : place.Apart other) (json value : Json) :
    (json.replaceAt place value).at? other = json.at? other := by
  induction place generalizing other json with
  | nil => exact absurd List.nil_prefix apart.1
  | cons move rest ih =>
      cases other with
      | nil => exact absurd List.nil_prefix apart.2
      | cons next further =>
          cases move with
          | field name =>
              cases json with
              | object fields =>
                  cases next with
                  | item index => rfl
                  | field sought =>
                      simp only [replaceAt, at?]
                      rw [lookup?_map fun key held =>
                        if key = name then replaceAt held rest value else held]
                      cases lookup? sought fields with
                      | none => rfl
                      | some held =>
                          by_cases same : sought = name
                          · subst same
                            rw [Option.map_some, if_pos rfl]
                            exact ih apart.tail held
                          · rw [Option.map_some, if_neg same]
              | _ => rfl
          | item index =>
              cases json with
              | array items =>
                  cases next with
                  | field name => rfl
                  | item position =>
                      simp only [replaceAt, at?, List.getElem?_modify]
                      cases items[position]? with
                      | none => rfl
                      | some held =>
                          by_cases same : index = position
                          · subst same
                            simp only [if_true]
                            exact ih apart.tail held
                          · simp only [if_neg same]
                            rfl
              | _ => rfl

end PerpDeploy.Json
