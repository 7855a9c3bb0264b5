/-
JSON values. An object is the list of its fields as they were read or built; the
canonical form of a value has the fields of every object sorted by name, each name once.
-/

namespace PerpDeploy

inductive Json.Number
  | integer (value : Int)
  | float (value : Float)
  deriving DecidableEq, Repr

inductive Json
  | null
  | bool (value : Bool)
  | number (value : Json.Number)
  | string (value : String)
  | array (items : List Json)
  | object (fields : List (String × Json))
  deriving Repr, Inhabited

namespace Json

def Number.toFloat : Number → Float
  | .integer value =>
      if value < 0 then -(Float.ofScientific value.natAbs false 0)
      else Float.ofScientific value.natAbs false 0
  | .float value => value

def natural (value : Nat) : Json := .number (.integer value)

def integer (value : Int) : Json := .number (.integer value)

def float (value : Float) : Json := .number (.float value)

def optional {α : Type} (encode : α → Json) : Option α → Json
  | none => .null
  | some value => encode value

def strings (values : List String) : Json := .array (values.map .string)

def lookup? (name : String) : List (String × Json) → Option Json
  | [] => none
  | (key, value) :: rest => if key = name then some value else lookup? name rest

def field? (name : String) : Json → Option Json
  | .object fields => lookup? name fields
  | _ => none

def asString? : Json → Option String
  | .string value => some value
  | _ => none

/-- Puts a field into sorted fields, unless its name is there. -/
def insertAbsent (name : String) (value : Json) : List (String × Json) → List (String × Json)
  | [] => [(name, value)]
  | (key, held) :: rest =>
      if name < key then (name, value) :: (key, held) :: rest
      else if name = key then (key, held) :: rest
      else (key, held) :: insertAbsent name value rest

mutual

/-- Fields sorted by code points; of fields with one name the last counts. -/
def canonical : Json → Json
  | .array items => .array (canonicalItems items)
  | .object fields => .object (canonicalFields fields)
  | .null => .null
  | .bool value => .bool value
  | .number value => .number value
  | .string value => .string value

def canonicalItems : List Json → List Json
  | [] => []
  | item :: rest => canonical item :: canonicalItems rest

def canonicalFields : List (String × Json) → List (String × Json)
  | [] => []
  | (name, value) :: rest => insertAbsent name (canonical value) (canonicalFields rest)

end

end Json

end PerpDeploy
