/-
A JSON text as far as it can be read. The tree ends at the first fault of the text,
so that whoever walks it in order meets a wrong shape and a fault of the text in the
order in which they stand. Some faults count only for a reader of the value and not
for one who skips it: an unpaired surrogate, a number out of range.
-/

import PerpDeploy.Json.Basic
import PerpDeploy.Number.Natural

namespace PerpDeploy

/-- A text is not JSON, or ends too early, or has another shape than the reader asks for. -/
inductive Json.Fault
  | malformed
  | truncated
  | mismatched
  deriving DecidableEq, Repr

namespace Json

/-- How a list of items or fields ends. The fault of a cut is one for reading and one for
skipping. -/
inductive Ending
  | closed
  /-- Neither a comma nor a closing bracket follows. -/
  | cut (read skipped : Fault)
  /-- A comma follows, and no item or field after it. -/
  | dangling (read skipped : Fault)
  deriving Repr

inductive Document
  | null
  | bool (value : Bool)
  /-- No value stands for a number out of range. -/
  | number (value : Option Number)
  /-- No text stands for a string with an unpaired surrogate. -/
  | string (text : Option String)
  | array (items : List Document) (ending : Ending)
  | object (fields : List (Option String × Document)) (ending : Ending)
  /-- An opening brace and then something that is no string. -/
  | unkeyed (found : Document)
  | missing
  | broken (read skipped : Fault)
  | brokenString (read skipped : Fault)
  deriving Repr, Inhabited

def isJsonBlank (c : Char) : Bool :=
  c = ' ' || c = '\n' || c = '\t' || c = '\r'

def skipBlanks (chars : List Char) : List Char := chars.dropWhile isJsonBlank

/-! ### Numbers -/

/-- A number as it is written. The fraction has digits if it is there. -/
structure Lexeme where
  negative : Bool
  whole : List Nat
  fraction : List Nat
  exponent : Option (Bool × List Nat)
  deriving Repr

/-- Digits are taken up while the value fits in sixty-four bits; the others are left. -/
def takeUp (value : Nat) : List Nat → Nat × List Nat
  | [] => (value, [])
  | digit :: rest =>
      if value * 10 + digit < Number.wordLimit then takeUp (value * 10 + digit) rest
      else (value, digit :: rest)

/-- The value of an exponent, unless it passes thirty-one bits. -/
def exponentValue? (value : Nat) : List Nat → Option Nat
  | [] => some value
  | digit :: rest =>
      if value * 10 + digit < Nat.pow 2 31 then exponentValue? (value * 10 + digit) rest else none

def powerOfTen (exponent : Nat) : Float := Float.ofScientific 1 false exponent

/-- Scales by a power of ten, at most `10 ^ 308` at a time; none if the result is out of range. -/
def scaleByPower : Nat → Float → Int → Option Float
  | 0, value, _ => some value
  | fuel + 1, value, exponent =>
      if exponent.natAbs ≤ 308 then
        if 0 ≤ exponent then
          let scaled := value * powerOfTen exponent.toNat
          if scaled.isInf then none else some scaled
        else some (value / powerOfTen exponent.natAbs)
      else if value == 0.0 then some value
      else if 0 ≤ exponent then none
      else scaleByPower fuel (value / powerOfTen 308) (exponent + 308)

def signedFloat (negative : Bool) (value : Float) : Float := if negative then -value else value

/-- A double from its leading digits: exact up to nineteen digits and `10 ^ 22`, else close. -/
def Lexeme.float? (lexeme : Lexeme) : Option Float :=
  let (front, surplus) := takeUp 0 lexeme.whole
  let (significand, beyond) := takeUp front lexeme.fraction
  let taken := lexeme.fraction.length - beyond.length
  let start : Int := (surplus.length : Int) - taken
  let scaled := fun (exponent : Int) =>
    (scaleByPower 8 (Float.ofScientific significand false 0) exponent).map
      (signedFloat lexeme.negative)
  match lexeme.exponent with
  | none => scaled start
  | some (down, digits) =>
      match exponentValue? 0 digits with
      | some value => scaled (if down then start - value else start + value)
      | none =>
          if significand ≠ 0 ∧ !down then none else some (signedFloat lexeme.negative 0.0)

/-- Whole numbers that fit in sixty-four bits, signed or unsigned, are exact; minus zero is a
double. -/
def Lexeme.number? (lexeme : Lexeme) : Option Number :=
  let (value, surplus) := takeUp 0 lexeme.whole
  if surplus.isEmpty && lexeme.fraction.isEmpty && lexeme.exponent.isNone then
    if !lexeme.negative then some (.integer value)
    else if value ≠ 0 ∧ value ≤ Nat.pow 2 63 then some (.integer (-(value : Int)))
    else lexeme.float?.map .float
  else lexeme.float?.map .float

def spanDigitValues : List Char → List Nat × List Char
  | [] => ([], [])
  | c :: rest =>
      match Number.digitValue? c with
      | some digit =>
          let (digits, after) := spanDigitValues rest
          (digit :: digits, after)
      | none => ([], c :: rest)

/-- What a piece of text gives: a tree, and what follows it unless the text cannot be read on. -/
abbrev Reading := Document × Option (List Char)

def faultyNumber (rest : List Char) : Reading :=
  (.broken (if rest.isEmpty then .truncated else .malformed) .malformed, none)

def finishNumber (lexeme : Lexeme) (rest : List Char) : Reading :=
  (.number lexeme.number?, some rest)

/-- After the exponent mark. -/
def readExponent (lexeme : Lexeme) (chars : List Char) : Reading :=
  let (down, rest) := match chars with
    | '+' :: rest => (false, rest)
    | '-' :: rest => (true, rest)
    | rest => (false, rest)
  match spanDigitValues rest with
  | ([], rest) => faultyNumber rest
  | (digits, rest) => finishNumber { lexeme with exponent := some (down, digits) } rest

def readAfterFraction (lexeme : Lexeme) : List Char → Reading
  | 'e' :: rest => readExponent lexeme rest
  | 'E' :: rest => readExponent lexeme rest
  | rest => finishNumber lexeme rest

def readAfterWhole (lexeme : Lexeme) : List Char → Reading
  | '.' :: rest =>
      match spanDigitValues rest with
      | ([], rest) => faultyNumber rest
      | (digits, rest) => readAfterFraction { lexeme with fraction := digits } rest
  | rest => readAfterFraction lexeme rest

/-- After the sign, if there is one. A zero in front stands alone. -/
def readNumber (negative : Bool) (chars : List Char) : Reading :=
  match spanDigitValues chars with
  | ([], rest) => faultyNumber rest
  | (0 :: _ :: _, _) => (.broken .malformed .malformed, none)
  | (digits, rest) =>
      readAfterWhole { negative, whole := digits, fraction := [], exponent := none } rest

/-! ### Strings -/

def hexDigitValue? (c : Char) : Option Nat :=
  if '0' ≤ c ∧ c ≤ '9' then some (c.toNat - '0'.toNat)
  else if 'a' ≤ c ∧ c ≤ 'f' then some (c.toNat - 'a'.toNat + 10)
  else if 'A' ≤ c ∧ c ≤ 'F' then some (c.toNat - 'A'.toNat + 10)
  else none

/-- A string up to where it can be read: units of text, or an escape for half a character. -/
inductive StringPiece
  | char (value : Char)
  | surrogate (value : Nat)

def fewerBytes : Nat → List Char → Bool
  | 0, _ => false
  | _ + 1, [] => true
  | count, c :: rest => fewerBytes (count - c.utf8Size) rest

def hexUnit (chars : List Char) : Except Fault (Nat × List Char) :=
  if fewerBytes 4 chars then .error .truncated
  else match chars with
    | p :: q :: r :: s :: rest =>
        match hexDigitValue? p, hexDigitValue? q, hexDigitValue? r, hexDigitValue? s with
        | some a, some b, some c, some d => .ok (((a * 16 + b) * 16 + c) * 16 + d, rest)
        | _, _, _, _ => .error .malformed
    | _ => .error .malformed

def isSurrogate (unit : Nat) : Bool := 0xD800 ≤ unit && unit ≤ 0xDFFF

def pieceOfUnit (unit : Nat) : StringPiece :=
  if isSurrogate unit then .surrogate unit else .char (Char.ofNat unit)

def simpleEscape? : Char → Option Char
  | '"' => some '"'
  | '\\' => some '\\'
  | '/' => some '/'
  | 'b' => some '\x08'
  | 'f' => some '\x0c'
  | 'n' => some '\n'
  | 'r' => some '\r'
  | 't' => some '\t'
  | _ => none

/-- One piece of a string behind its opening quote; none at the closing quote. -/
def nextPiece (chars : List Char) : Except Fault (Option StringPiece × List Char) :=
  match chars with
  | [] => .error .truncated
  | '"' :: rest => .ok (none, rest)
  | '\\' :: [] => .error .truncated
  | '\\' :: 'u' :: rest =>
      match hexUnit rest with
      | .ok (unit, rest) => .ok (some (pieceOfUnit unit), rest)
      | .error fault => .error fault
  | '\\' :: c :: rest =>
      match simpleEscape? c with
      | some char => .ok (some (.char char), rest)
      | none => .error .malformed
  | c :: rest => if c.toNat < 0x20 then .error .malformed else .ok (some (.char c), rest)

/-- The pieces of a string, and what follows it or the fault that ends it. -/
def readPieces : Nat → List Char → List StringPiece × Except Fault (List Char)
  | 0, _ => ([], .error .truncated)
  | fuel + 1, chars =>
      match nextPiece chars with
      | .error fault => ([], .error fault)
      | .ok (none, rest) => ([], .ok rest)
      | .ok (some piece, rest) =>
          let (pieces, outcome) := readPieces fuel rest
          (piece :: pieces, outcome)

private def combinedSurrogates (high low : Nat) : Char :=
  Char.ofNat (0x10000 + (high - 0xD800) * 0x400 + (low - 0xDC00))

/-- The text of the pieces: a high half and a low half next to it make one character. -/
def joinPieces : List StringPiece → Option (List Char)
  | [] => some []
  | .char c :: rest => (joinPieces rest).map (c :: ·)
  | .surrogate high :: .surrogate low :: rest =>
      if high < 0xDC00 ∧ 0xDC00 ≤ low then
        (joinPieces rest).map (combinedSurrogates high low :: ·)
      else none
  | .surrogate _ :: _ => none

/-- Of pieces that a fault cuts off, a high half at the very end may still be waiting for its
other half. -/
private def withoutWaiting (pieces : List StringPiece) : List StringPiece :=
  match pieces.reverse with
  | .surrogate unit :: rest => if unit < 0xDC00 then rest.reverse else pieces
  | _ => pieces

structure StringReading where
  text : Except Fault (Option String)
  skipped : Fault
  rest : Option (List Char)

def readString (chars : List Char) : StringReading :=
  match readPieces (chars.length + 1) chars with
  | (pieces, .ok rest) =>
      { text := .ok ((joinPieces pieces).map String.ofList)
        skipped := .malformed
        rest := some rest }
  | (pieces, .error fault) =>
      let read := if (joinPieces (withoutWaiting pieces)).isSome then fault else .malformed
      { text := .error read, skipped := fault, rest := none }

/-! ### Values -/

def readWord (word : List Char) (value : Document) : List Char → Reading :=
  fun chars => match word, chars with
    | [], rest => (value, some rest)
    | _ :: _, [] => (.broken .truncated .truncated, none)
    | expected :: word, c :: rest =>
        if c = expected then readWord word value rest else (.broken .malformed .malformed, none)

def readStringValue (chars : List Char) : Reading :=
  let reading := readString chars
  match reading.text with
  | .ok text => (.string text, reading.rest)
  | .error fault => (.brokenString fault reading.skipped, none)

mutual

def readValue : Nat → List Char → Reading
  | 0, _ => (.missing, none)
  | fuel + 1, chars =>
      match skipBlanks chars with
      | [] => (.missing, none)
      | 'n' :: rest => readWord "ull".toList .null rest
      | 't' :: rest => readWord "rue".toList (.bool true) rest
      | 'f' :: rest => readWord "alse".toList (.bool false) rest
      | '"' :: rest => readStringValue rest
      | '-' :: rest => readNumber true rest
      | '[' :: rest =>
          match skipBlanks rest with
          | [] => (.array [] (.cut .truncated .truncated), none)
          | ']' :: rest => (.array [] .closed, some rest)
          | rest =>
              let (items, ending, rest) := readItems fuel rest
              (.array items ending, rest)
      | '\x7b' :: rest =>
          match skipBlanks rest with
          | [] => (.object [] (.cut .truncated .truncated), none)
          | '\x7d' :: rest => (.object [] .closed, some rest)
          | '"' :: rest =>
              let (fields, ending, rest) := readFields fuel rest
              (.object fields ending, rest)
          | rest => (.unkeyed (readValue fuel rest).1, none)
      | c :: rest =>
          if (Number.digitValue? c).isSome then readNumber false (c :: rest)
          else (.broken .malformed .malformed, none)

def readItems : Nat → List Char → List Document × Ending × Option (List Char)
  | 0, _ => ([.missing], .closed, none)
  | fuel + 1, chars =>
      match readValue fuel chars with
      | (item, none) => ([item], .closed, none)
      | (item, some rest) =>
          match skipBlanks rest with
          | [] => ([item], .cut .truncated .truncated, none)
          | ']' :: rest => ([item], .closed, some rest)
          | ',' :: rest =>
              match skipBlanks rest with
              | [] => ([item], .dangling .truncated .truncated, none)
              | ']' :: _ => ([item], .dangling .malformed .malformed, none)
              | rest =>
                  let (items, ending, rest) := readItems fuel rest
                  (item :: items, ending, rest)
          | _ => ([item], .cut .malformed .malformed, none)

def readFields :
    Nat → List Char → List (Option String × Document) × Ending × Option (List Char)
  | 0, _ => ([], .cut .truncated .truncated, none)
  | fuel + 1, chars =>
      let name := readString chars
      match name.text, name.rest with
      | .ok key, some rest =>
          match skipBlanks rest with
          | [] => ([(key, .broken .truncated .truncated)], .closed, none)
          | ':' :: rest =>
              match readValue fuel rest with
              | (value, none) => ([(key, value)], .closed, none)
              | (value, some rest) =>
                  match skipBlanks rest with
                  | [] => ([(key, value)], .cut .truncated .truncated, none)
                  | '\x7d' :: rest => ([(key, value)], .closed, some rest)
                  | ',' :: rest =>
                      match skipBlanks rest with
                      | [] => ([(key, value)], .dangling .truncated .truncated, none)
                      | '"' :: rest =>
                          match readFields fuel rest with
                          | ([], .cut read skipped, rest) =>
                              ([(key, value)], .dangling read skipped, rest)
                          | (fields, ending, rest) => ((key, value) :: fields, ending, rest)
                      | _ => ([(key, value)], .dangling .malformed .malformed, none)
                  | _ => ([(key, value)], .cut .malformed .malformed, none)
          | _ => ([(key, .broken .malformed .malformed)], .closed, none)
      | .ok _, none => ([], .cut .malformed .malformed, none)
      | .error read, _ => ([], .cut read name.skipped, none)

end

/-- Each character costs at most two steps, one for the value and one for its place in a list. -/
def Document.read (text : String) : Reading :=
  readValue (2 * text.toList.length + 2) text.toList

mutual

def Document.ofJson : Json → Document
  | .null => .null
  | .bool value => .bool value
  | .number value => .number (some value)
  | .string value => .string (some value)
  | .array items => .array (Document.ofItems items) .closed
  | .object fields => .object (Document.ofFields fields) .closed

def Document.ofItems : List Json → List Document
  | [] => []
  | item :: rest => Document.ofJson item :: Document.ofItems rest

def Document.ofFields : List (String × Json) → List (Option String × Document)
  | [] => []
  | (name, value) :: rest => (some name, Document.ofJson value) :: Document.ofFields rest

end

end Json

end PerpDeploy
