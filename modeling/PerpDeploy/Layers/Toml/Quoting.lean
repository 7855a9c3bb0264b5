/-
Texts in a settings file: between quotation marks, where a backslash has a meaning, or
between apostrophes, where it has none; on one line, or on several lines between three
marks each. One or two marks more before the last three belong to the text.
-/

import PerpDeploy.Layers.Toml.Spacing

namespace PerpDeploy.Layers.Toml

/-- The marks that end a text of several lines: those that belong to the text, and what follows.
-/
def closing? (mark : Char) (chars : List Char) : Option (List Char × List Char) :=
  let count := (chars.takeWhile (· = mark)).length
  if count < 3 then none
  else
    let kept := min (count - 3) 2
    some (List.replicate kept mark, chars.drop (kept + 3))

/-- Skips the end of a line behind a backslash, and all blanks and ends of lines after it. -/
def skipContinuation? (chars : List Char) : Option (List Char) :=
  (skipNewline? (skipSpaces chars)).map fun rest => skipRest (rest.length + 1) rest
where
  skipRest : Nat → List Char → List Char
    | 0, rest => rest
    | fuel + 1, rest =>
        let rest := skipSpaces rest
        match skipNewline? rest with
        | some rest => skipRest fuel rest
        | none => rest

private def putBefore (c : Char) : List Char × List Char → List Char × List Char
  | (chars, rest) => (c :: chars, rest)

/-- Text of several lines up to its closing marks; `fuel` bounds the number of characters. -/
def readBlockWithin (mark : Char) (escapes : Bool) : Nat → Reader (List Char)
  | 0, _ => none
  | fuel + 1, chars =>
      match closing? mark chars with
      | some closed => some closed
      | none =>
          match chars with
          | [] => none
          | c :: rest =>
              match skipNewline? chars with
              | some rest => (readBlockWithin mark escapes fuel rest).map (putBefore '\n')
              | none =>
                  if escapes && c = '\\' then
                    match skipContinuation? rest with
                    | some rest => readBlockWithin mark escapes fuel rest
                    | none =>
                        (readEscape rest).bind fun (escaped, rest) =>
                          (readBlockWithin mark escapes fuel rest).map (putBefore escaped)
                  else if isPlain c then
                    (readBlockWithin mark escapes fuel rest).map (putBefore c)
                  else none

/-- Text of several lines behind its opening marks; an end of line right behind them is dropped.
-/
def readBlock (mark : Char) (escapes : Bool) : Reader String := fun chars =>
  let chars := (skipNewline? chars).getD chars
  (readBlockWithin mark escapes (chars.length + 1) chars).map fun (inner, rest) =>
    (String.ofList inner, rest)

def readLiteral : Reader String := fun chars =>
  match chars.span fun c => isPlain c && c ≠ '\'' with
  | (inner, '\'' :: rest) => some (String.ofList inner, rest)
  | _ => none

def readLineText : Reader String
  | '"' :: rest => readQuoted rest
  | '\'' :: rest => readLiteral rest
  | _ => none

def readText : Reader String
  | '"' :: '"' :: '"' :: rest => readBlock '"' true rest
  | '\'' :: '\'' :: '\'' :: rest => readBlock '\'' false rest
  | chars => readLineText chars

end PerpDeploy.Layers.Toml
