/-
The tables of a settings file while it is read. A table can be opened once; one that has
only been mentioned on the way to another can be opened later; and one that has come about
from dotted keys can only be extended by dotted keys.
-/

import PerpDeploy.Layers.Value

namespace PerpDeploy.Layers.Toml

inductive Standing
  /-- By a header or braces of its own. -/
  | opened
  /-- By the header of a table below it. -/
  | mentioned
  /-- By a dotted key. -/
  | dotted
  deriving DecidableEq, Repr

inductive Item
  | value (content : Value)
  | table (standing : Standing) (entries : List (String × Item))
  /-- Tables under one name; only the last one can still grow. -/
  | series (tables : List (List (String × Item)))

abbrev Entries := List (String × Item)

mutual

def Item.toValue : Item → Value
  | .value content => content
  | .table _ entries => .table (entriesToFields entries)
  | .series tables => .list (seriesToValues tables)

def entriesToFields : List (String × Item) → List (String × Value)
  | [] => []
  | (name, item) :: rest => (name, item.toValue) :: entriesToFields rest

def seriesToValues : List (List (String × Item)) → List Value
  | [] => []
  | entries :: rest => .table (entriesToFields entries) :: seriesToValues rest

end

namespace Entries

def lookup? (name : String) : Entries → Option Item
  | [] => none
  | (key, item) :: rest => if key = name then some item else lookup? name rest

/-- Changes the item of a name in its place; without one the new item comes last. -/
def set (name : String) (item : Item) : Entries → Entries
  | [] => [(name, item)]
  | (key, held) :: rest =>
      if key = name then (name, item) :: rest else (key, held) :: set name item rest

def remove (name : String) (entries : Entries) : Entries :=
  entries.filter fun held => held.1 ≠ name

/-- Changes the table at the end of a path and gives what the change has found there. Tables are
made on the way as need be. Along dotted keys no table is entered that has a header or braces of
its own. -/
def change {α : Type} (made : Standing) (edit : Standing → Entries → Option (α × Entries)) :
    List String → Standing → Entries → Option (α × Entries)
  | [], standing, entries => edit standing entries
  | name :: path, _, entries =>
      match entries.lookup? name with
      | none =>
          (change made edit path made []).map fun (found, inner) =>
            (found, entries.set name (.table made inner))
      | some (.value _) => none
      | some (.table held inner) =>
          if made = .dotted ∧ held = .opened then none
          else (change made edit path held inner).map fun (found, inner) =>
            (found, entries.set name (.table held inner))
      | some (.series tables) =>
          match tables.getLast? with
          | none => none
          | some last =>
              (change made edit path .opened last).map fun (found, inner) =>
                (found, entries.set name (.series (tables.dropLast ++ [inner])))

/-- Puts a value under a key behind a path of dotted keys. A key is used once, and dotted keys
extend only what dotted keys have made. -/
def putKey (entries : Entries) (path : List String) (name : String) (content : Value) :
    Option Entries :=
  let edit := fun (standing : Standing) (inner : Entries) =>
    if decide (standing = .dotted) = path.isEmpty then none
    else match inner.lookup? name with
      | some _ => none
      | none => some ((), inner ++ [(name, .value content)])
  (change .dotted edit path .opened entries).map Prod.snd

/-- Takes out the table that a header opens: a new one, or one that has only been mentioned. -/
def openTable (entries : Entries) (path : List String) (name : String) :
    Option (Entries × Entries) :=
  let edit := fun (_ : Standing) (inner : Entries) =>
    match inner.lookup? name with
    | none => some ([], inner)
    | some (.table .mentioned held) => some (held, inner.remove name)
    | some _ => none
  change .mentioned edit path .opened entries

def closeTable (entries : Entries) (path : List String) (name : String) (table : Entries) :
    Option Entries :=
  let edit := fun (_ : Standing) (inner : Entries) =>
    some ((), inner.set name (.table .opened table))
  (change .mentioned edit path .opened entries).map Prod.snd

def openSeries (entries : Entries) (path : List String) (name : String) : Option Entries :=
  let edit := fun (_ : Standing) (inner : Entries) =>
    match inner.lookup? name with
    | none => some ((), inner.set name (.series []))
    | some (.series _) => some ((), inner)
    | some _ => none
  (change .mentioned edit path .opened entries).map Prod.snd

def extendSeries (entries : Entries) (path : List String) (name : String) (table : Entries) :
    Option Entries :=
  let edit := fun (_ : Standing) (inner : Entries) =>
    match inner.lookup? name with
    | some (.series tables) => some ((), inner.set name (.series (tables ++ [table])))
    | _ => none
  (change .mentioned edit path .opened entries).map Prod.snd

end Entries

end PerpDeploy.Layers.Toml
