/-
What stands between the parts of a settings file: blanks, comments and the ends of lines.
A line ends in a line feed, alone or behind a carriage return.
-/

import PerpDeploy.Layers.Escape

namespace PerpDeploy.Layers.Toml

def isSpace (c : Char) : Bool := c = ' ' || c = '\t'

def skipSpaces (chars : List Char) : List Char := chars.dropWhile isSpace

def skipComment (chars : List Char) : List Char := chars.dropWhile isPlain

def skipNewline? : List Char → Option (List Char)
  | '\n' :: rest => some rest
  | '\r' :: '\n' :: rest => some rest
  | _ => none

/-- Skips the rest of a line that holds nothing more than a comment. -/
def endLine? (chars : List Char) : Option (List Char) :=
  let rest := match skipSpaces chars with
    | '#' :: rest => skipComment rest
    | rest => rest
  if rest.isEmpty then some [] else skipNewline? rest

private def skipLinesWithin : Nat → List Char → Option (List Char)
  | 0, _ => none
  | fuel + 1, chars =>
      match skipSpaces chars with
      | '#' :: rest => (skipNewline? (skipComment rest)).bind (skipLinesWithin fuel)
      | '\n' :: rest => skipLinesWithin fuel rest
      | '\r' :: rest => (skipNewline? ('\r' :: rest)).bind (skipLinesWithin fuel)
      | rest => some rest

def skipLines? (chars : List Char) : Option (List Char) := skipLinesWithin (chars.length + 1) chars

end PerpDeploy.Layers.Toml
