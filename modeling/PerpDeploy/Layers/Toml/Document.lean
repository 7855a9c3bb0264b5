/-
Settings files in the TOML format, version 1.0: keys and values line by line, under the
headers of their tables.
-/

import PerpDeploy.Layers.Toml.Quoting
import PerpDeploy.Layers.Toml.Scalar
import PerpDeploy.Layers.Toml.Tree

namespace PerpDeploy.Layers.Toml

/-! ### Keys -/

def isBareKeyCharacter (c : Char) : Bool := c.isAlphanum || c = '-' || c = '_'

def readSimpleKey : Reader String := fun chars =>
  match readLineText chars with
  | some key => some key
  | none =>
      match chars.span isBareKeyCharacter with
      | ([], _) => none
      | (name, rest) => some (String.ofList name, rest)

abbrev KeyPath := List String × String

/-- Keys between dots, at most `pieces` of them, with blanks around each. -/
def readKeyWithin : Nat → Reader KeyPath
  | 0, _ => none
  | pieces + 1, chars =>
      (readSimpleKey (skipSpaces chars)).bind fun (name, rest) =>
        match skipSpaces rest with
        | '.' :: rest =>
            (readKeyWithin pieces rest).map fun ((path, last), rest) => ((name :: path, last), rest)
        | rest => some (([], name), rest)

/-- Tables and lists may be nested less deep than this, and a key has fewer pieces. -/
def nestingLimit : Nat := 80

def readKey : Reader KeyPath := readKeyWithin (nestingLimit - 1)

/-! ### Values -/

def readItems (readItem : Reader Value) : Nat → Reader (List Value)
  | 0, _ => none
  | fuel + 1, chars => do
      match ← skipLines? chars with
      | ']' :: rest => some ([], rest)
      | chars =>
          let (item, rest) ← readItem chars
          match ← skipLines? rest with
          | ',' :: rest =>
              let (items, rest) ← readItems readItem fuel rest
              some (item :: items, rest)
          | ']' :: rest => some ([item], rest)
          | _ => none

def readPair (readItem : Reader Value) : Reader (KeyPath × Value) := fun chars => do
  let (key, rest) ← readKey chars
  let rest ← skipCharacter? '=' rest
  let (value, rest) ← readItem (skipSpaces rest)
  some ((key, value), rest)

def readPairs (readItem : Reader Value) : Nat → Entries → Reader Entries
  | 0, _, _ => none
  | fuel + 1, entries, chars => do
      let (((path, name), value), rest) ← readPair readItem chars
      let entries ← entries.putKey path name value
      match skipSpaces rest with
      | ',' :: rest => readPairs readItem fuel entries rest
      | '\x7d' :: rest => some (entries, rest)
      | _ => none

def readTable (readItem : Reader Value) : Reader Value := fun chars =>
  match skipSpaces chars with
  | '\x7d' :: rest => some (.table [], rest)
  | chars =>
      (readPairs readItem (chars.length + 1) [] chars).map fun (entries, rest) =>
        (.table (entriesToFields entries), rest)

def readValue : Nat → Reader Value
  | depth, '[' :: rest =>
      match depth with
      | 0 => none
      | depth + 1 =>
          (readItems (readValue depth) (rest.length + 1) rest).map fun (items, rest) =>
            (.list items, rest)
  | depth, '\x7b' :: rest =>
      match depth with
      | 0 => none
      | depth + 1 => readTable (readValue depth) rest
  | _, chars =>
      match readText chars with
      | some (content, rest) => some (.text content, rest)
      | none => readScalar chars

/-! ### Lines -/

/-- Where keys go: into the table that stands outside all headers, or into that of the last
header. -/
inductive Place
  | outermost
  | table (key : KeyPath)
  | series (key : KeyPath)

/-- The tables read so far; the last one is kept apart until the next header. -/
structure Progress where
  closed : Entries
  place : Place
  current : Entries

namespace Progress

def start : Progress := { closed := [], place := .outermost, current := [] }

def close (progress : Progress) : Option Entries :=
  match progress.place with
  | .outermost => some progress.current
  | .table (path, name) => progress.closed.closeTable path name progress.current
  | .series (path, name) => progress.closed.extendSeries path name progress.current

def openTable (progress : Progress) (key : KeyPath) : Option Progress := do
  let (current, closed) ← (← progress.close).openTable key.1 key.2
  some { closed, place := .table key, current }

def openSeries (progress : Progress) (key : KeyPath) : Option Progress := do
  let closed ← (← progress.close).openSeries key.1 key.2
  some { closed, place := .series key, current := [] }

def put (progress : Progress) (key : KeyPath) (value : Value) : Option Progress :=
  (progress.current.putKey key.1 key.2 value).map fun current => { progress with current }

end Progress

def readSeriesHeader (progress : Progress) : Reader Progress := fun chars => do
  let (key, rest) ← readKey chars
  let rest ← skipCharacter? ']' (← skipCharacter? ']' rest)
  some (← progress.openSeries key, ← endLine? rest)

def readTableHeader (progress : Progress) : Reader Progress := fun chars => do
  let (key, rest) ← readKey chars
  let rest ← skipCharacter? ']' rest
  some (← progress.openTable key, ← endLine? rest)

def readKeyLine (progress : Progress) : Reader Progress := fun chars => do
  let ((key, value), rest) ← readPair (readValue (nestingLimit - 1)) chars
  some (← progress.put key value, ← endLine? rest)

def readLine (progress : Progress) : Reader Progress
  | '[' :: '[' :: rest => readSeriesHeader progress rest
  | '[' :: rest => readTableHeader progress rest
  | chars => readKeyLine progress chars

/-- Line by line to the end; `fuel` bounds the number of lines. -/
def readLines : Nat → Progress → List Char → Option Progress
  | 0, _, _ => none
  | fuel + 1, progress, chars =>
      match skipSpaces chars with
      | [] => some progress
      | '#' :: rest =>
          match skipComment rest with
          | [] => some progress
          | rest => (skipNewline? rest).bind (readLines fuel progress)
      | '\n' :: rest => readLines fuel progress rest
      | '\r' :: rest => (skipNewline? ('\r' :: rest)).bind (readLines fuel progress)
      | chars => (readLine progress chars).bind fun (progress, rest) => readLines fuel progress rest

def skipByteOrderMark (chars : List Char) : List Char :=
  if chars.head? = some (Char.ofNat 0xFEFF) then chars.tail else chars

def parse (text : String) : Option Fields := do
  let chars := skipByteOrderMark text.toList
  let progress ← readLines (chars.length + 1) .start chars
  some (entriesToFields (← progress.close))

end PerpDeploy.Layers.Toml
