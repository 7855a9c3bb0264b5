/-
Unsigned decimal integers below a limit: an optional plus sign, then digits.
The first character that settles the failure decides its kind.
-/

namespace PerpDeploy.Number

inductive NaturalFault
  | empty
  | invalidDigit
  | tooLarge
  deriving DecidableEq, Repr

def NaturalFault.message : NaturalFault → String
  | .empty => "cannot parse integer from empty string"
  | .invalidDigit => "invalid digit found in string"
  | .tooLarge => "number too large to fit in target type"

def digitValue? (c : Char) : Option Nat :=
  if '0' ≤ c ∧ c ≤ '9' then some (c.toNat - '0'.toNat) else none

/-- Digits are added to `value` one by one; every value on the way stays below `limit`. -/
def readDigits (limit : Nat) : Nat → List Char → Except NaturalFault Nat
  | value, [] => .ok value
  | value, c :: rest =>
      match digitValue? c with
      | none => .error .invalidDigit
      | some digit =>
          if value * 10 + digit < limit then readDigits limit (value * 10 + digit) rest
          else .error .tooLarge

def readNatural (limit : Nat) (text : String) : Except NaturalFault Nat :=
  match text.toList with
  | [] => .error .empty
  | ['+'] => .error .invalidDigit
  | '+' :: rest => readDigits limit 0 rest
  | chars => readDigits limit 0 chars

def wordLimit : Nat := Nat.pow 2 64

def doubleWordLimit : Nat := Nat.pow 2 128

end PerpDeploy.Number
