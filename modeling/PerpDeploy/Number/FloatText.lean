/-
Doubles from decimal text, correctly rounded: a sign, digits with a point among or
beside them, an exponent, or a name for an infinity or for what is not a number.
-/

import PerpDeploy.Number.Natural
import PerpDeploy.Number.Shortest

namespace PerpDeploy.Number

def notANumber : Float := Float.ofBits 0x7FF8000000000000

def infinity : Float := Float.ofBits 0x7FF0000000000000

/-- The double nearest to a decimal; decimals out of range are told by their order. -/
def Decimal.toFloat (decimal : Decimal) : Float :=
  let order : Int := digitCount decimal.digits + decimal.exponent
  if decimal.digits = 0 then 0.0
  else if 400 < order then infinity
  else if order < -400 then 0.0
  else Float.ofScientific decimal.digits (decide (decimal.exponent < 0)) decimal.exponent.natAbs

def spanDigits (chars : List Char) : List Char × List Char :=
  chars.span fun c => (digitValue? c).isSome

def digitsValue (chars : List Char) : Nat :=
  chars.foldl (fun value c => value * 10 + (digitValue? c).getD 0) 0

def readExponent? (chars : List Char) : Option Int :=
  let (negative, rest) := match chars with
    | '-' :: rest => (true, rest)
    | '+' :: rest => (false, rest)
    | rest => (false, rest)
  match spanDigits rest with
  | ([], _) => none
  | (digits, []) =>
      let value := digitsValue digits
      some (if negative then -value else value)
  | _ => none

/-- Digits, a point among, before or after them, and an exponent. -/
def readUnsignedDecimal? (chars : List Char) : Option Decimal :=
  let (whole, rest) := spanDigits chars
  let (fraction, rest) := match rest with
    | '.' :: rest => spanDigits rest
    | rest => ([], rest)
  if whole.isEmpty && fraction.isEmpty then none
  else
    let exponent? := match rest with
      | [] => some 0
      | mark :: rest => if mark = 'e' || mark = 'E' then readExponent? rest else none
    exponent?.map fun exponent =>
      ⟨digitsValue (whole ++ fraction), exponent - fraction.length⟩

def readUnsignedFloat? (chars : List Char) : Option Float :=
  match String.ofList (chars.map Char.toLower) with
  | "inf" => some infinity
  | "infinity" => some infinity
  | "nan" => some notANumber
  | _ => (readUnsignedDecimal? chars).map Decimal.toFloat

def readFloat? (text : String) : Option Float :=
  match text.toList with
  | '-' :: rest => (readUnsignedFloat? rest).map fun value => -value
  | '+' :: rest => readUnsignedFloat? rest
  | chars => readUnsignedFloat? chars

end PerpDeploy.Number
