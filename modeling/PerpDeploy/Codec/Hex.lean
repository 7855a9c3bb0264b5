/-
Bytes as pairs of hexadecimal digits. Writing uses lower-case digits; reading takes
both cases and names the first byte of the text that is no digit.
-/

import PerpDeploy.Text.Quoted

namespace PerpDeploy.Codec

def hexDigit (value : Nat) : Char :=
  if value < 10 then Char.ofNat ('0'.toNat + value) else Char.ofNat ('a'.toNat + (value - 10))

def encodeHexList : List UInt8 → List Char
  | [] => []
  | byte :: rest => hexDigit (byte.toNat / 16) :: hexDigit (byte.toNat % 16) :: encodeHexList rest

def encodeHex (bytes : List UInt8) : String := String.ofList (encodeHexList bytes)

inductive HexFault
  | oddLength
  | badDigit (byte : UInt8) (position : Nat)
  deriving DecidableEq, Repr

/-- A single byte is shown as the character of the same number. -/
def HexFault.message : HexFault → String
  | .oddLength => "Odd number of digits"
  | .badDigit byte position =>
      "Invalid character " ++ Text.quotedCharacter (Char.ofNat byte.toNat) ++
        " at position " ++ toString position

def hexValue? (byte : UInt8) : Option Nat :=
  let code := byte.toNat
  if '0'.toNat ≤ code ∧ code ≤ '9'.toNat then some (code - '0'.toNat)
  else if 'a'.toNat ≤ code ∧ code ≤ 'f'.toNat then some (code - 'a'.toNat + 10)
  else if 'A'.toNat ≤ code ∧ code ≤ 'F'.toNat then some (code - 'A'.toNat + 10)
  else none

/-- Reads pairs of digits; `position` counts the bytes read so far. -/
def decodeHexList (position : Nat) : List UInt8 → Except HexFault (List UInt8)
  | [] => .ok []
  | [_] => .error .oddLength
  | high :: low :: rest =>
      match hexValue? high, hexValue? low with
      | none, _ => .error (.badDigit high position)
      | some _, none => .error (.badDigit low (position + 1))
      | some upper, some lower =>
          match decodeHexList (position + 2) rest with
          | .ok bytes => .ok (UInt8.ofNat (upper * 16 + lower) :: bytes)
          | .error fault => .error fault

/-- The length is checked before any digit. -/
def decodeHex (text : String) : Except HexFault (List UInt8) :=
  let bytes := text.toUTF8.toList
  if bytes.length % 2 = 1 then .error .oddLength else decodeHexList 0 bytes

end PerpDeploy.Codec
