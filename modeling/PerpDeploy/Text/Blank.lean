/-
Blank characters are those of the Unicode property White_Space.
-/

import PerpDeploy.Text.Range

namespace PerpDeploy.Text

def blankRanges : CodePointRanges :=
  [ (0x9, 0xD), (0x20, 0x20), (0x85, 0x85), (0xA0, 0xA0), (0x1680, 0x1680), (0x2000, 0x200A),
    (0x2028, 0x2029), (0x202F, 0x202F), (0x205F, 0x205F), (0x3000, 0x3000) ]

def isBlank (c : Char) : Bool := blankRanges.contains c

def trimEndList (chars : List Char) : List Char :=
  (chars.reverse.dropWhile isBlank).reverse

def trim (text : String) : String :=
  String.ofList (trimEndList (text.toList.dropWhile isBlank))

def isBlankText (text : String) : Bool :=
  text.toList.all isBlank

end PerpDeploy.Text
