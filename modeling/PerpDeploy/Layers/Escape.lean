/-
Characters that stand for others inside quotes: a backslash, and a letter or the number
of a character in hexadecimal digits.
-/

import PerpDeploy.Codec.Hex

namespace PerpDeploy.Layers

/-- What is read from the front of a text, and the rest of it. -/
abbrev Reader (α : Type) := List Char → Option (α × List Char)

/-- Characters that may stand for themselves: all but controls, of which a tab is allowed. -/
def isPlain (c : Char) : Bool := c = '\t' || (0x20 ≤ c.toNat && c.toNat ≠ 0x7F)

def hexDigitValue? (c : Char) : Option Nat :=
  if c.toNat < 0x80 then Codec.hexValue? (UInt8.ofNat c.toNat) else none

def readHexDigits : Nat → Nat → Reader Nat
  | 0, value, rest => some (value, rest)
  | count + 1, value, c :: rest =>
      (hexDigitValue? c).bind fun digit => readHexDigits count (value * 16 + digit) rest
  | _ + 1, _, [] => none

def characterOf? (code : Nat) : Option Char :=
  if Nat.isValidChar code then some (Char.ofNat code) else none

def readNumberedCharacter (digits : Nat) : Reader Char := fun chars =>
  (readHexDigits digits 0 chars).bind fun (code, rest) =>
    (characterOf? code).map fun c => (c, rest)

def readEscape : Reader Char
  | 'b' :: rest => some (Char.ofNat 8, rest)
  | 't' :: rest => some ('\t', rest)
  | 'n' :: rest => some ('\n', rest)
  | 'f' :: rest => some (Char.ofNat 12, rest)
  | 'r' :: rest => some ('\r', rest)
  | '"' :: rest => some ('"', rest)
  | '\\' :: rest => some ('\\', rest)
  | 'u' :: rest => readNumberedCharacter 4 rest
  | 'U' :: rest => readNumberedCharacter 8 rest
  | _ => none

/-- Reads up to the closing quotation mark and behind it; `fuel` bounds the number of
characters. -/
def readQuotedWithin : Nat → Reader (List Char)
  | 0, _ => none
  | _ + 1, [] => none
  | fuel + 1, c :: rest =>
      if c = '"' then some ([], rest)
      else if c = '\\' then
        (readEscape rest).bind fun (escaped, rest) =>
          (readQuotedWithin fuel rest).map fun (chars, rest) => (escaped :: chars, rest)
      else if isPlain c then
        (readQuotedWithin fuel rest).map fun (chars, rest) => (c :: chars, rest)
      else none

def readQuoted : Reader String := fun chars =>
  (readQuotedWithin (chars.length + 1) chars).map fun (inner, rest) => (String.ofList inner, rest)

end PerpDeploy.Layers
