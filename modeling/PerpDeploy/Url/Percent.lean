/-
Percent encoding: characters of a set are written as their bytes, each as a percent sign
and two upper-case digits. Each part of an address has its own set.
-/

import PerpDeploy.Codec.Hex

namespace PerpDeploy.Url

/-- Whether a character is to be encoded. -/
abbrev EncodeSet := Char → Bool

def controlSet : EncodeSet := fun c => c.toNat < 0x20 || 0x7F ≤ c.toNat

def fragmentSet : EncodeSet := fun c =>
  controlSet c || " \"<>".contains c || c.toNat = 0x60

def querySet : EncodeSet := fun c => controlSet c || " \"#<>".contains c

def specialQuerySet : EncodeSet := fun c => querySet c || c.toNat = 39

def pathSet : EncodeSet := fun c => fragmentSet c || "#?\x7b\x7d".contains c

def userSet : EncodeSet := fun c => pathSet c || "/:;=@[\\]^|".contains c

private def upperDigit (value : Nat) : Char := (Codec.hexDigit value).toUpper

private def encodeByte (byte : UInt8) : List Char :=
  ['%', upperDigit (byte.toNat / 16), upperDigit (byte.toNat % 16)]

def encodeChar (set : EncodeSet) (c : Char) : List Char :=
  if set c then (String.singleton c).toUTF8.toList.flatMap encodeByte else [c]

def encode (set : EncodeSet) (chars : List Char) : List Char := chars.flatMap (encodeChar set)

/-- The bytes of a text in which each percent sign before two digits stands for one byte. -/
def decodeBytes : List UInt8 → List UInt8
  | [] => []
  | [a] => [a]
  | [a, b] => [a, b]
  | a :: b :: c :: rest =>
      match Codec.hexValue? b, Codec.hexValue? c with
      | some upper, some lower =>
          if a = 0x25 then UInt8.ofNat (upper * 16 + lower) :: decodeBytes rest
          else a :: decodeBytes (b :: c :: rest)
      | _, _ => a :: decodeBytes (b :: c :: rest)
termination_by bytes => bytes.length

end PerpDeploy.Url
