/-
The layer of settings in the variables of the environment. A variable whose name starts
with the mark of the program sets the field named by the rest, in any case; dots in the
name lead into tables. A text that is no value of another kind stands for itself.
-/

import PerpDeploy.Layers.Escape
import PerpDeploy.Layers.Value
import PerpDeploy.Number.FloatText
import PerpDeploy.Text.Blank

namespace PerpDeploy.Layers

/-- Variables with their values, each name once. -/
abbrev Environment := List (String × String)

def Environment.find? (name : String) : Environment → Option String
  | [] => none
  | (key, value) :: rest => if key = name then some value else find? name rest

namespace Environment

/-! ### Values -/

def skipBlanks (chars : List Char) : List Char := chars.dropWhile Text.isBlank

def isSeparator (c : Char) : Bool := c ∈ [',', '\x7b', '\x7d', '[', ']']

def readSignedWhole? (text : String) : Option Int :=
  match text.toList with
  | '-' :: rest =>
      match Number.readNatural (Nat.pow 2 63 + 1) (String.ofList rest) with
      | .ok size => if rest.head? = some '+' then none else some (-(size : Int))
      | .error _ => none
  | _ => (Number.readNatural Number.wordLimit text).toOption.map Int.ofNat

/-- A number, if the text is one; only texts with a point in them are fractions. -/
def ofBareText (text : String) : Value :=
  let fraction? := if text.toList.contains '.' then Number.readFloat? text else none
  match fraction?, readSignedWhole? text with
  | some fraction, _ => .fraction fraction
  | none, some whole => .whole whole
  | none, none => .text text

def readBare : Reader Value := fun chars =>
  let (inner, rest) := chars.span fun c => !isSeparator c
  some (ofBareText (Text.trim (String.ofList inner)), rest)

/-- Items up to a closing mark, with commas between them; `fuel` bounds their number. -/
def readSeparated {α : Type} (readItem : Reader α) (close : Char) : Nat → Reader (List α)
  | 0, _ => none
  | fuel + 1, chars =>
      if chars.head? = some close then some ([], chars.tail)
      else
        (readItem chars).bind fun (item, rest) =>
          match rest with
          | ',' :: rest =>
              (readSeparated readItem close fuel rest).map fun (items, rest) =>
                (item :: items, rest)
          | c :: rest => if c = close then some ([item], rest) else none
          | [] => none

/-- A name between quotation marks, or up to the mark behind it. -/
def readName : Reader String
  | '"' :: rest => readQuoted rest
  | chars =>
      match chars.span fun c => !isSeparator c && c ≠ '=' with
      | ([], _) => none
      | (name, rest) => some (Text.trim (String.ofList name), rest)

def readEntry (readItem : Reader Value) : Reader (String × Value) := fun chars =>
  (readName (skipBlanks chars)).bind fun (name, rest) =>
    match skipBlanks rest with
    | '=' :: rest => (readItem rest).map fun (value, rest) => ((name, value), rest)
    | _ => none

def padded (readItem : Reader Value) : Reader Value := fun chars =>
  (readItem (skipBlanks chars)).map fun (value, rest) => (value, skipBlanks rest)

private def putAll (entries : List (String × Value)) : Fields :=
  entries.foldl (fun fields entry => fields.put entry.1 entry.2) []

/-- A value that starts where blanks end; `depth` bounds the nesting of lists and tables. -/
def readStart : Nat → Reader Value
  | _, 't' :: 'r' :: 'u' :: 'e' :: rest => some (.flag true, rest)
  | _, 'f' :: 'a' :: 'l' :: 's' :: 'e' :: rest => some (.flag false, rest)
  | depth + 1, '\x7b' :: rest =>
      let readEntries := readSeparated (readEntry (padded (readStart depth))) '\x7d'
      (readEntries (rest.length + 1) rest).map fun (entries, rest) =>
        (.table (putAll entries), rest)
  | depth + 1, '[' :: rest =>
      let readItems := readSeparated (padded (readStart depth)) ']'
      (readItems (rest.length + 1) rest).map fun (items, rest) => (.list items, rest)
  | 0, '\x7b' :: _ => none
  | 0, '[' :: _ => none
  | _, '"' :: rest => (readQuoted rest).map fun (content, rest) => (.text content, rest)
  | _, '\'' :: c :: '\'' :: rest => some (.text (String.singleton c), rest)
  | _, '\'' :: _ => none
  | _, chars => readBare chars

def readValue (text : String) : Value :=
  match readStart (text.length + 1) (skipBlanks text.toList) with
  | some (value, rest) => if (skipBlanks rest).isEmpty then value else .text text
  | none => .text text

/-! ### Names -/

def mark : String := "margined_"

def splitDots : List Char → List (List Char)
  | [] => [[]]
  | c :: rest =>
      if c = '.' then [] :: splitDots rest
      else match splitDots rest with
        | [] => [[c]]
        | piece :: pieces => (c :: piece) :: pieces

/-- The path of fields that a variable of this name sets, in lower case, if it sets any. -/
def settingPath? (name : String) : Option (List String) :=
  let chars := (Text.trim name).toList.map Char.toLower
  if mark.toList.isPrefixOf chars then
    let field := Text.trim (String.ofList (chars.drop mark.length))
    let pieces := splitDots field.toList
    if pieces.any List.isEmpty then none else some (pieces.map String.ofList)
  else none

def nest (value : Value) : List String → Value
  | [] => value
  | name :: path => .table [(name, nest value path)]

/-- Of variables that set the same field the last one counts. -/
def fields (environment : Environment) : Fields :=
  environment.foldl
    (fun fields entry =>
      match settingPath? entry.1 with
      | some (name :: path) => fields.put name (nest (readValue entry.2) path)
      | _ => fields)
    []

end Environment

end PerpDeploy.Layers
