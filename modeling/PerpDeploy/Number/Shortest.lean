/-
The shortest decimal that reads back as a given double. A double is a whole number
of units of a power of two; a decimal reads back as it when it lies between the
midpoints to its neighbours. Grids of one digit, two digits and so on are tried in
turn, and on each the two grid points next to the value.
-/

namespace PerpDeploy.Number

/-- The number `digits * 10 ^ exponent`. -/
structure Decimal where
  digits : Nat
  exponent : Int
  deriving DecidableEq, Repr

inductive Magnitude
  | notANumber
  | infinite
  /-- The number `units * 2 ^ exponent`. -/
  | finite (units : Nat) (exponent : Int)
  deriving DecidableEq, Repr

def magnitude (value : Float) : Magnitude :=
  let bits := value.toBits.toNat
  let field : Nat := bits / Nat.pow 2 52 % Nat.pow 2 11
  let fraction : Nat := bits % Nat.pow 2 52
  if field = 2047 then if fraction = 0 then .infinite else .notANumber
  else if field = 0 then .finite fraction (-1074)
  else .finite (Nat.pow 2 52 + fraction) ((field : Int) - 1075)

def isNegative (value : Float) : Bool :=
  value.toBits.toNat / Nat.pow 2 63 = 1

def digitCount (value : Nat) : Nat := (Nat.toDigits 10 value).length

/-- Quarters of the unit: the value, and the midpoints to its two neighbours. -/
structure Interval where
  low : Nat
  value : Nat
  high : Nat
  exponent : Int
  closed : Bool

/-- Below a power of two the neighbour is half as far, unless the spacing is the least there is.
-/
def Interval.around (units : Nat) (exponent : Int) : Interval :=
  { low := if units = Nat.pow 2 52 ∧ exponent ≠ -1074 then 4 * units - 1 else 4 * units - 2
    value := 4 * units
    high := 4 * units + 2
    exponent := exponent - 2
    closed := units % 2 = 0 }

/-- Quarters and grid points on one common scale of whole numbers. -/
structure Scale where
  quarter : Nat
  point : Nat

def Scale.of (binary : Int) (decimal : Int) : Scale :=
  { quarter := Nat.pow 2 binary.toNat * Nat.pow 10 (-decimal).toNat
    point := Nat.pow 2 (-binary).toNat * Nat.pow 10 decimal.toNat }

def Interval.admits (interval : Interval) (scale : Scale) (point : Nat) : Bool :=
  let low := interval.low * scale.quarter
  let high := interval.high * scale.quarter
  let here := point * scale.point
  if interval.closed then low ≤ here && here ≤ high else low < here && here < high

/-- The grid point of `10 ^ decimal` that reads back as the value; of two, the nearer, then the
even. -/
def Interval.onGrid? (interval : Interval) (decimal : Int) : Option Nat :=
  let scale := Scale.of interval.exponent decimal
  let value := interval.value * scale.quarter
  let below := value / scale.point
  let above := below + 1
  match interval.admits scale below && below != 0, interval.admits scale above with
  | true, true =>
      let fall := value - below * scale.point
      let rise := above * scale.point - value
      if fall < rise then some below
      else if rise < fall then some above
      else if below % 2 = 0 then some below else some above
  | true, false => some below
  | false, true => some above
  | false, false => none

/-- The least `k` with `value < 10 ^ k`, for a positive value. -/
def Interval.order (interval : Interval) : Int :=
  let numerator := interval.value * Nat.pow 2 interval.exponent.toNat
  let denominator := Nat.pow 2 (-interval.exponent).toNat
  let guess := (digitCount numerator : Int) - (digitCount denominator : Int)
  let under := numerator * Nat.pow 10 (-guess).toNat < denominator * Nat.pow 10 guess.toNat
  if under then guess else guess + 1

def stripZeros : Nat → Nat → Int → Decimal
  | 0, digits, exponent => ⟨digits, exponent⟩
  | fuel + 1, digits, exponent =>
      if digits % 10 = 0 ∧ digits ≠ 0 then stripZeros fuel (digits / 10) (exponent + 1)
      else ⟨digits, exponent⟩

/-- Seventeen digits always suffice. -/
def shortest (units : Nat) (exponent : Int) : Decimal :=
  if units = 0 then ⟨0, 0⟩
  else
    let interval := Interval.around units exponent
    let order := interval.order
    let found := (List.range 17).findSome? fun (count : Nat) =>
      let decimal := order - ((count : Int) + 1)
      (interval.onGrid? decimal).map fun point => stripZeros 20 point decimal
    found.getD ⟨0, 0⟩

end PerpDeploy.Number
