/-
The two written forms of a JSON value: compact, without any blank, and pretty, with one
item or field a line and two spaces for each level.
-/

import PerpDeploy.Json.Basic
import PerpDeploy.Codec.Hex
import PerpDeploy.Number.Layout

namespace PerpDeploy.Json

def escapedCharacter (c : Char) : List Char :=
  if c = '"' then ['\\', '"']
  else if c = '\\' then ['\\', '\\']
  else if c = '\x08' then ['\\', 'b']
  else if c = '\x0c' then ['\\', 'f']
  else if c = '\n' then ['\\', 'n']
  else if c = '\r' then ['\\', 'r']
  else if c = '\t' then ['\\', 't']
  else if c.toNat < 0x20 then
    ['\\', 'u', '0', '0', Codec.hexDigit (c.toNat / 16), Codec.hexDigit (c.toNat % 16)]
  else [c]

def stringChars (text : String) : List Char :=
  '"' :: text.toList.flatMap escapedCharacter ++ ['"']

def Number.text : Number → String
  | .integer value => toString value
  | .float value => Number.interchangeFormat.write value

mutual

def compactChars : Json → List Char
  | .null => "null".toList
  | .bool true => "true".toList
  | .bool false => "false".toList
  | .number value => value.text.toList
  | .string value => stringChars value
  | .array items => '[' :: compactItems items ++ [']']
  | .object fields => '\x7b' :: compactFields fields ++ ['\x7d']

def compactItems : List Json → List Char
  | [] => []
  | [item] => compactChars item
  | item :: rest => compactChars item ++ ',' :: compactItems rest

def compactFields : List (String × Json) → List Char
  | [] => []
  | [(name, value)] => stringChars name ++ ':' :: compactChars value
  | (name, value) :: rest =>
      stringChars name ++ ':' :: compactChars value ++ ',' :: compactFields rest

end

def compact (json : Json) : String := String.ofList (compactChars json)

def lineStart (level : Nat) : List Char := '\n' :: List.replicate (2 * level) ' '

mutual

def prettyChars (level : Nat) : Json → List Char
  | .null => "null".toList
  | .bool true => "true".toList
  | .bool false => "false".toList
  | .number value => value.text.toList
  | .string value => stringChars value
  | .array [] => ['[', ']']
  | .array (item :: rest) =>
      '[' :: prettyItems (level + 1) (item :: rest) ++ lineStart level ++ [']']
  | .object [] => ['\x7b', '\x7d']
  | .object (field :: rest) =>
      '\x7b' :: prettyFields (level + 1) (field :: rest) ++ lineStart level ++ ['\x7d']

def prettyItems (level : Nat) : List Json → List Char
  | [] => []
  | [item] => lineStart level ++ prettyChars level item
  | item :: rest => lineStart level ++ prettyChars level item ++ ',' :: prettyItems level rest

def prettyFields (level : Nat) : List (String × Json) → List Char
  | [] => []
  | [(name, value)] => lineStart level ++ stringChars name ++ ':' :: ' ' :: prettyChars level value
  | (name, value) :: rest =>
      lineStart level ++ stringChars name ++ ':' :: ' ' :: prettyChars level value ++
        ',' :: prettyFields level rest

end

def pretty (json : Json) : String := String.ofList (prettyChars 0 json)

end PerpDeploy.Json
