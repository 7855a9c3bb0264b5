/-
How a double is written: its shortest digits, laid out either with the decimal point
in its place or with an exponent.
-/

import PerpDeploy.Number.Shortest

namespace PerpDeploy.Number

structure FloatFormat where
  /-- Orders of magnitude `k`, with `10 ^ (k - 1) ≤ x < 10 ^ k`, that are written in place. -/
  inPlace : Int → Bool
  wholeEnding : String
  notANumber : String
  infinite : String

def zeros (count : Nat) : String := String.ofList (List.replicate count '0')

def Decimal.order (decimal : Decimal) : Int :=
  digitCount decimal.digits + decimal.exponent

/-- The point stands in its place, with zeros to fill the gap. -/
def Decimal.inPlace (decimal : Decimal) (wholeEnding : String) : String :=
  let digits := toString decimal.digits
  if 0 ≤ decimal.exponent then digits ++ zeros decimal.exponent.toNat ++ wholeEnding
  else if 0 < decimal.order then
    let whole := decimal.order.toNat
    String.ofList (digits.toList.take whole) ++ "." ++ String.ofList (digits.toList.drop whole)
  else "0." ++ zeros (-decimal.order).toNat ++ digits

/-- One digit, the others after a point, and a signed exponent. -/
def Decimal.withExponent (decimal : Decimal) : String :=
  let power := decimal.order - 1
  let sign := if power < 0 then "-" else "+"
  let mantissa := match (toString decimal.digits).toList with
    | first :: second :: rest => String.ofList (first :: '.' :: second :: rest)
    | short => String.ofList short
  mantissa ++ "e" ++ sign ++ toString power.natAbs

def FloatFormat.write (format : FloatFormat) (value : Float) : String :=
  let sign := if isNegative value then "-" else ""
  match magnitude value with
  | .notANumber => format.notANumber
  | .infinite => sign ++ format.infinite
  | .finite units exponent =>
      if units = 0 then sign ++ "0" ++ format.wholeEnding
      else
        let decimal := shortest units exponent
        if format.inPlace decimal.order then sign ++ decimal.inPlace format.wholeEnding
        else sign ++ decimal.withExponent

/-- Every digit in its place and nothing after a whole number. -/
def plainFormat : FloatFormat :=
  { inPlace := fun _ => true
    wholeEnding := ""
    notANumber := "NaN"
    infinite := "inf" }

/-- Whole numbers end in `.0`, and an exponent is used below `1e-5` and from `1e16` on. -/
def interchangeFormat : FloatFormat :=
  { inPlace := fun order => decide (-4 ≤ order) && decide (order ≤ 16)
    wholeEnding := ".0"
    notANumber := "null"
    infinite := "null" }

end PerpDeploy.Number
