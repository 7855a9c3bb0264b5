/-
Values that settings can hold, wherever they are written, and the fields that one layer
of settings is made of.
-/

namespace PerpDeploy.Layers

inductive Value
  | text (content : String)
  | flag (content : Bool)
  | whole (content : Int)
  | fraction (content : Float)
  | list (items : List Value)
  /-- A table of further values; a date counts as one without any. -/
  | table (entries : List (String × Value))

/-- Named values, each name once. -/
abbrev Fields := List (String × Value)

/-- The tables of a file under their names, in the order of the file. -/
abbrev Tables := List (String × Fields)

namespace Fields

def lookup? (name : String) : Fields → Option Value
  | [] => none
  | (key, value) :: rest => if key = name then some value else lookup? name rest

/-- Puts a value under a name, in place of the one that is there. -/
def put (fields : Fields) (name : String) (value : Value) : Fields :=
  fields.filter (fun held => held.1 ≠ name) ++ [(name, value)]

end Fields

end PerpDeploy.Layers
