/-
Quoted text for diagnostics: a text between double quotes in which quotes, backslashes,
line controls and characters that cannot be seen are written as escapes.
-/

import PerpDeploy.Text.Marks

namespace PerpDeploy.Text

/-- Controls, format characters, blanks other than the space, and private characters. -/
def invisibleRanges : CodePointRanges :=
  [ (0x0, 0x1F), (0x7F, 0xA0), (0xAD, 0xAD), (0x600, 0x605), (0x61C, 0x61C), (0x6DD, 0x6DD),
    (0x70F, 0x70F), (0x890, 0x891), (0x8E2, 0x8E2), (0x1680, 0x1680), (0x180E, 0x180E),
    (0x2000, 0x200F), (0x2028, 0x202F), (0x205F, 0x2064), (0x2066, 0x206F), (0x3000, 0x3000),
    (0xD800, 0xF8FF), (0xFEFF, 0xFEFF), (0xFFF9, 0xFFFB), (0x110BD, 0x110BD), (0x110CD, 0x110CD),
    (0x13430, 0x13438), (0x1BCA0, 0x1BCA3), (0x1D173, 0x1D17A), (0xE0001, 0xE0001),
    (0xE0020, 0xE007F), (0xF0000, 0xFFFFD), (0x100000, 0x10FFFD) ]

/-- The larger blocks that hold no character. -/
def unassignedRanges : CodePointRanges :=
  [ (0x101FE, 0x1027F), (0x10D3A, 0x10E5F), (0x11375, 0x113FF), (0x114DA, 0x1157F),
    (0x11747, 0x117FF), (0x11AF9, 0x11BFF), (0x11DAA, 0x11EDF), (0x11EF9, 0x11FAF),
    (0x1239A, 0x123FF), (0x12544, 0x12F8F), (0x13439, 0x143FF), (0x14647, 0x167FF),
    (0x16B90, 0x16E3F), (0x16E9B, 0x16EFF), (0x18D09, 0x1AFEF), (0x1B2FC, 0x1BBFF),
    (0x1BCA4, 0x1CEFF), (0x1D246, 0x1D2DF), (0x1D379, 0x1D3FF), (0x1DAB0, 0x1DEFF),
    (0x1DF1F, 0x1DFFF), (0x1E02B, 0x1E0FF), (0x1E150, 0x1E28F), (0x1E300, 0x1E7DF),
    (0x1E960, 0x1EC70), (0x1ED3E, 0x1EDFF), (0x1EEF2, 0x1EFFF), (0x1F266, 0x1F2FF),
    (0x1FBFA, 0x1FFFF), (0x2EBE1, 0x2F7FF), (0x2FA1E, 0x2FFFF), (0x3134B, 0xE0000),
    (0xE0080, 0xE00FF), (0xE01F0, 0xEFFFF) ]

def isVisible (c : Char) : Bool :=
  if c.toNat < 0x7F then 0x20 ≤ c.toNat
  else !(invisibleRanges.contains c || combiningRanges.contains c || unassignedRanges.contains c)

/-- The digits of a code point in lower-case hexadecimal, without leading zeros. -/
def codePointDigits (c : Char) : List Char := Nat.toDigits 16 c.toNat

/-- The escapes that do not depend on the kind of quotation mark. -/
def escapedChar (c : Char) : List Char :=
  if c = '\\' then ['\\', '\\']
  else if c = '\n' then ['\\', 'n']
  else if c = '\r' then ['\\', 'r']
  else if c = '\t' then ['\\', 't']
  else if c.toNat = 0 then ['\\', '0']
  else if isVisible c then [c]
  else ['\\', 'u', '\x7b'] ++ codePointDigits c ++ ['\x7d']

def quotedChar (c : Char) : List Char :=
  if c = '"' then ['\\', '"'] else escapedChar c

def quoted (text : String) : String :=
  String.ofList ('"' :: text.toList.flatMap quotedChar ++ ['"'])

def apostrophe : Char := Char.ofNat 39

/-- One character between apostrophes; here the apostrophe is what needs an escape. -/
def quotedCharacter (c : Char) : String :=
  let inner := if c = apostrophe then ['\\', apostrophe] else escapedChar c
  String.ofList (apostrophe :: inner ++ [apostrophe])

end PerpDeploy.Text
