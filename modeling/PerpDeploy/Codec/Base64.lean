/-
Base 64 with the standard alphabet. Reading takes only what writing produces: full
padding, and no stray bits in the last digit.
-/

namespace PerpDeploy.Codec

def base64Digit (value : Nat) : Char :=
  if value < 26 then Char.ofNat ('A'.toNat + value)
  else if value < 52 then Char.ofNat ('a'.toNat + (value - 26))
  else if value < 62 then Char.ofNat ('0'.toNat + (value - 52))
  else if value = 62 then '+'
  else '/'

def base64Value? (c : Char) : Option Nat :=
  if 'A' ≤ c ∧ c ≤ 'Z' then some (c.toNat - 'A'.toNat)
  else if 'a' ≤ c ∧ c ≤ 'z' then some (c.toNat - 'a'.toNat + 26)
  else if '0' ≤ c ∧ c ≤ '9' then some (c.toNat - '0'.toNat + 52)
  else if c = '+' then some 62
  else if c = '/' then some 63
  else none

def encodeBase64List : List UInt8 → List Char
  | [] => []
  | [a] =>
      [base64Digit (a.toNat / 4), base64Digit (a.toNat % 4 * 16), '=', '=']
  | [a, b] =>
      [base64Digit (a.toNat / 4), base64Digit (a.toNat % 4 * 16 + b.toNat / 16),
        base64Digit (b.toNat % 16 * 4), '=']
  | a :: b :: c :: rest =>
      base64Digit (a.toNat / 4) :: base64Digit (a.toNat % 4 * 16 + b.toNat / 16) ::
        base64Digit (b.toNat % 16 * 4 + c.toNat / 64) :: base64Digit (c.toNat % 64) ::
        encodeBase64List rest

def encodeBase64 (bytes : List UInt8) : String := String.ofList (encodeBase64List bytes)

def lastOne? (p q : Char) : Option (List UInt8) := do
  let a ← base64Value? p
  let b ← base64Value? q
  if b % 16 = 0 then some [UInt8.ofNat (a * 4 + b / 16)] else none

def lastTwo? (p q r : Char) : Option (List UInt8) := do
  let a ← base64Value? p
  let b ← base64Value? q
  let c ← base64Value? r
  if c % 4 = 0 then some [UInt8.ofNat (a * 4 + b / 16), UInt8.ofNat (b % 16 * 16 + c / 4)] else none

def three? (p q r s : Char) : Option (List UInt8) := do
  let a ← base64Value? p
  let b ← base64Value? q
  let c ← base64Value? r
  let d ← base64Value? s
  some
    [ UInt8.ofNat (a * 4 + b / 16), UInt8.ofNat (b % 16 * 16 + c / 4),
      UInt8.ofNat (c % 4 * 64 + d) ]

def decodeBase64List? : List Char → Option (List UInt8)
  | [] => some []
  | [p, q, '=', '='] => lastOne? p q
  | [p, q, r, '='] => lastTwo? p q r
  | p :: q :: r :: s :: rest => do
      let front ← three? p q r s
      let back ← decodeBase64List? rest
      some (front ++ back)
  | _ => none

def decodeBase64? (text : String) : Option (List UInt8) := decodeBase64List? text.toList

end PerpDeploy.Codec
