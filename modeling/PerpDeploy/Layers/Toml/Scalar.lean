/-
Numbers, flags and dates in a settings file. Digits may be grouped by single underscores.
A whole number fits into sixty-four bits with its sign, and a fraction may not be too
large for a double.
-/

import PerpDeploy.Layers.Toml.Spacing
import PerpDeploy.Layers.Value
import PerpDeploy.Number.FloatText

namespace PerpDeploy.Layers.Toml

def isDecimalDigit (c : Char) : Bool := (Number.digitValue? c).isSome

/-- Digits, with single underscores between them left out. -/
def spanGrouped (isDigit : Char → Bool) : List Char → List Char × List Char
  | [] => ([], [])
  | '_' :: c :: rest =>
      if isDigit c then
        let (digits, rest) := spanGrouped isDigit rest
        (c :: digits, rest)
      else ([], '_' :: c :: rest)
  | c :: rest =>
      if isDigit c then
        let (digits, rest) := spanGrouped isDigit rest
        (c :: digits, rest)
      else ([], c :: rest)

/-- At least one digit, and no underscore in front. -/
def readGrouped (isDigit : Char → Bool) : Reader (List Char)
  | [] => none
  | c :: rest => if isDigit c then some (spanGrouped isDigit (c :: rest)) else none

def takeSign : List Char → Bool × List Char
  | '-' :: rest => (true, rest)
  | '+' :: rest => (false, rest)
  | rest => (false, rest)

/-- Decimal digits; a zero in front stands alone. -/
def readWholeDigits : Reader (List Char)
  | '0' :: rest => some (['0'], rest)
  | chars => readGrouped isDecimalDigit chars

private def valueIn (base : Nat) (digits : List Char) : Nat :=
  digits.foldl (fun value c => value * base + (hexDigitValue? c).getD 0) 0

private def wholeValue? (value : Int) : Option Value :=
  if -(Int.pow 2 63) ≤ value ∧ value < Int.pow 2 63 then some (.whole value) else none

private def readInBase (base : Nat) : Reader Value := fun chars =>
  let isDigit := fun c => match hexDigitValue? c with
    | some value => decide (value < base)
    | none => false
  (readGrouped isDigit chars).bind fun (digits, rest) =>
    (wholeValue? (valueIn base digits)).map fun value => (value, rest)

def readDecimalWhole : Reader Value := fun chars =>
  let (negative, rest) := takeSign chars
  (readWholeDigits rest).bind fun (digits, rest) =>
    let size : Int := valueIn 10 digits
    (wholeValue? (if negative then -size else size)).map fun value => (value, rest)

def readWhole : Reader Value
  | '0' :: 'x' :: rest => readInBase 16 rest
  | '0' :: 'o' :: rest => readInBase 8 rest
  | '0' :: 'b' :: rest => readInBase 2 rest
  | chars => readDecimalWhole chars

def readExponentPart : Reader (List Char)
  | [] => some ([], [])
  | mark :: rest =>
      if mark = 'e' || mark = 'E' then
        let (negative, rest) := takeSign rest
        (readGrouped isDecimalDigit rest).map fun (digits, rest) =>
          (mark :: ((if negative then ['-'] else []) ++ digits), rest)
      else some ([], mark :: rest)

def readFractionPart : Reader (List Char)
  | '.' :: rest => (readGrouped isDecimalDigit rest).map fun (digits, rest) => ('.' :: digits, rest)
  | rest => some ([], rest)

private def fractionValue? (negative : Bool) (chars : List Char) : Option Value :=
  match Number.readUnsignedFloat? chars with
  | none => none
  | some size =>
      if negative then some (.fraction (-size))
      else if size == Number.infinity then none
      else some (.fraction size)

def readDecimalFraction (negative : Bool) : Reader Value := fun chars =>
  (readWholeDigits chars).bind fun (whole, rest) =>
    (readFractionPart rest).bind fun (fraction, rest) =>
      (readExponentPart rest).bind fun (exponent, rest) =>
        if fraction.isEmpty && exponent.isEmpty then none
        else
          (fractionValue? negative (whole ++ fraction ++ exponent)).map fun value => (value, rest)

def readNamedFraction (negative : Bool) : Reader Value
  | 'i' :: 'n' :: 'f' :: rest =>
      some (.fraction (if negative then -Number.infinity else Number.infinity), rest)
  | 'n' :: 'a' :: 'n' :: rest => some (.fraction Number.notANumber, rest)
  | _ => none

def readFraction : Reader Value := fun chars =>
  let (negative, rest) := takeSign chars
  (readDecimalFraction negative rest).or (readNamedFraction negative rest)

/-! ### Dates and times -/

/-- Exactly as many digits, for a number within bounds. -/
def readField (digits low high : Nat) : Reader Nat := fun chars =>
  let field := chars.take digits
  if field.length = digits ∧ field.all isDecimalDigit then
    let value := valueIn 10 field
    if low ≤ value ∧ value ≤ high then some (value, chars.drop digits) else none
  else none

def skipCharacter? (c : Char) : List Char → Option (List Char)
  | [] => none
  | first :: rest => if first = c then some rest else none

def isLeapYear (year : Nat) : Bool := year % 4 = 0 && (year % 100 != 0 || year % 400 = 0)

def monthLength (year month : Nat) : Nat :=
  if month = 2 then if isLeapYear year then 29 else 28
  else if month ∈ [4, 6, 9, 11] then 30
  else 31

def skipDate? (chars : List Char) : Option (List Char) := do
  let (year, rest) ← readField 4 0 9999 chars
  let (month, rest) ← readField 2 1 12 (← skipCharacter? '-' rest)
  let (_, rest) ← readField 2 1 (monthLength year month) (← skipCharacter? '-' rest)
  some rest

private def skipSecondFraction : List Char → List Char
  | '.' :: c :: rest => if isDecimalDigit c then rest.dropWhile isDecimalDigit else '.' :: c :: rest
  | rest => rest

def skipMinute? (chars : List Char) : Option (List Char) := do
  let (_, rest) ← readField 2 0 23 chars
  let (_, rest) ← readField 2 0 59 (← skipCharacter? ':' rest)
  some rest

def skipTime? (chars : List Char) : Option (List Char) := do
  let rest ← skipMinute? chars
  let (_, rest) ← readField 2 0 60 (← skipCharacter? ':' rest)
  some (skipSecondFraction rest)

private def skipOffset (chars : List Char) : List Char :=
  match chars with
  | [] => []
  | mark :: rest =>
      if mark = 'Z' || mark = 'z' then rest
      else if mark = '+' || mark = '-' then (skipMinute? rest).getD chars
      else chars

def skipTimeOfDay (chars : List Char) : List Char :=
  match chars with
  | [] => []
  | mark :: rest =>
      if mark = 'T' || mark = 't' || mark = ' ' then
        match skipTime? rest with
        | some rest => skipOffset rest
        | none => chars
      else chars

def readMoment : Reader Value := fun chars =>
  match skipDate? chars with
  | some rest => some (.table [], skipTimeOfDay rest)
  | none => (skipTime? chars).map fun rest => (.table [], rest)

/-- A value without parts, other than a text. -/
def readScalar : Reader Value
  | 't' :: 'r' :: 'u' :: 'e' :: rest => some (.flag true, rest)
  | 'f' :: 'a' :: 'l' :: 's' :: 'e' :: rest => some (.flag false, rest)
  | chars => ((readMoment chars).or (readFraction chars)).or (readWhole chars)

end PerpDeploy.Layers.Toml
