/-
Hosts of network addresses: names, in the form that the domain system takes, and numbers
of both internet protocols.
-/

import PerpDeploy.Url.Percent
import PerpDeploy.Url.Punycode
import PerpDeploy.Text.Marks

namespace PerpDeploy.Url

inductive Fault
  | emptyHost
  | invalidDomain
  | invalidPort
  | invalidIpv4
  | invalidIpv6
  | invalidHostCharacter
  | relative
  deriving DecidableEq, Repr

def Fault.message : Fault → String
  | .emptyHost => "empty host"
  | .invalidDomain => "invalid international domain name"
  | .invalidPort => "invalid port number"
  | .invalidIpv4 => "invalid IPv4 address"
  | .invalidIpv6 => "invalid IPv6 address"
  | .invalidHostCharacter => "invalid domain character"
  | .relative => "relative URL without a base"

def splitOnChar (separator : Char) : List Char → List (List Char)
  | [] => [[]]
  | c :: rest =>
      if c = separator then [] :: splitOnChar separator rest
      else match splitOnChar separator rest with
        | [] => [[c]]
        | piece :: pieces => (c :: piece) :: pieces

def hexDigitOf? (c : Char) : Option Nat :=
  if c.toNat < 0x80 then Codec.hexValue? (UInt8.ofNat c.toNat) else none

/-! ### Numbers of four parts -/

def numberIn? (base : Nat) (chars : List Char) : Option Nat :=
  chars.foldl
    (fun value c => do
      let value ← value
      let digit ← hexDigitOf? c
      if digit < base then some (value * base + digit) else none)
    (some 0)

/-- A part: hexadecimal behind `0x`, octal behind `0`, else decimal. An empty number is zero. -/
def ipv4Part? : List Char → Option Nat
  | [] => none
  | '0' :: 'x' :: rest => numberIn? 16 rest
  | '0' :: 'X' :: rest => numberIn? 16 rest
  | '0' :: c :: rest => numberIn? 8 (c :: rest)
  | chars => numberIn? 10 chars

/-- Without the empty part that a final dot leaves. -/
private def dropFinalEmpty (parts : List (List Char)) : List (List Char) :=
  match parts.reverse with
  | [] :: (rest@(_ :: _)) => rest.reverse
  | _ => parts

/-- Whether a name is to be read as a number: its last part is one. -/
def endsInNumber (host : List Char) : Bool :=
  match (dropFinalEmpty (splitOnChar '.' host)).reverse with
  | [] => false
  | last :: _ =>
      (!last.isEmpty && last.all Char.isDigit) || (ipv4Part? last).isSome

/-- All parts but the last are bytes; the last fills what is left of thirty-two bits. -/
def ipv4Value? (host : List Char) : Option Nat := do
  let parts := dropFinalEmpty (splitOnChar '.' host)
  if 4 < parts.length then none
  else
    let numbers ← parts.mapM ipv4Part?
    match numbers.reverse with
    | [] => none
    | last :: front =>
        if front.any (255 < ·) || Nat.pow 256 (4 - front.length) ≤ last then none
        else
          let high := front.reverse.foldl (fun value part => value * 256 + part) 0
          some (high * Nat.pow 256 (4 - front.length) + last)

def ipv4Text (value : Nat) : String :=
  ".".intercalate ([3, 2, 1, 0].map fun place => toString (value / Nat.pow 256 place % 256))

/-! ### Numbers of eight groups -/

private def group? (chars : List Char) : Option Nat :=
  if chars.isEmpty || 4 < chars.length then none else numberIn? 16 chars

private def decimalByte? (chars : List Char) : Option Nat :=
  match chars with
  | [] => none
  | ['0'] => some 0
  | '0' :: _ => none
  | _ => (numberIn? 10 chars).filter (· ≤ 255)

/-- The two groups of a dotted ending. -/
private def dottedGroups? (chars : List Char) : Option (List Nat) := do
  let bytes ← (splitOnChar '.' chars).mapM decimalByte?
  match bytes with
  | [a, b, c, d] => some [a * 256 + b, c * 256 + d]
  | _ => none

private def groups? : List (List Char) → Option (List Nat)
  | [] => some []
  | [last] =>
      if last.contains '.' then dottedGroups? last else (group? last).map fun group => [group]
  | piece :: rest => do
      let group ← group? piece
      let groups ← groups? rest
      some (group :: groups)

private def splitAtGap : List Char → List Char × Option (List Char)
  | [] => ([], none)
  | ':' :: ':' :: rest => ([], some rest)
  | c :: rest =>
      let (front, back) := splitAtGap rest
      (c :: front, back)

private def groupList? (chars : List Char) : Option (List Nat) :=
  if chars.isEmpty then some [] else groups? (splitOnChar ':' chars)

def ipv6Groups? (chars : List Char) : Option (List Nat) :=
  match splitAtGap chars with
  | (front, none) => (groupList? front).filter fun groups => groups.length = 8
  | (front, some back) => do
      if front.contains '.' then none
      else
        let left ← groupList? front
        let right ← groupList? back
        let known := left.length + right.length
        if known < 8 then some (left ++ List.replicate (8 - known) 0 ++ right) else none

private def groupText (group : Nat) : String := String.ofList (Nat.toDigits 16 group)

private def zeroRun (groups : List Nat) : Nat := (groups.takeWhile (· = 0)).length

/-- Where the first longest run of zeros starts, and its length. -/
private def longestZeroRun (groups : List Nat) : Nat × Nat :=
  (List.range groups.length).foldl
    (fun best start =>
      let length := zeroRun (groups.drop start)
      if best.2 < length then (start, length) else best)
    (0, 0)

/-- Two zero groups or more are left out, once. -/
def ipv6Text (groups : List Nat) : String :=
  let (start, length) := longestZeroRun groups
  let texts := fun (groups : List Nat) => ":".intercalate (groups.map groupText)
  let inner :=
    if length < 2 then texts groups
    else texts (groups.take start) ++ "::" ++ texts (groups.drop (start + length))
  "[" ++ inner ++ "]"

private def ipv6Host (chars : List Char) : Except Fault String :=
  match chars.reverse with
  | ']' :: inner =>
      match ipv6Groups? inner.reverse with
      | some groups => .ok (ipv6Text groups)
      | none => .error .invalidIpv6
  | _ => .error .invalidIpv6

/-! ### Names -/

/-- Letters in their small form, wide forms as plain ones. -/
def foldCase (c : Char) : List Char :=
  let code := c.toNat
  if 0x41 ≤ code ∧ code ≤ 0x5A then [Char.ofNat (code + 0x20)]
  else if code < 0x80 then [c]
  else if code = 0xAD ∨ code = 0x200B ∨ code = 0x2060 ∨ code = 0xFEFF then []
  else if 0xC0 ≤ code ∧ code ≤ 0xDE ∧ code ≠ 0xD7 then [Char.ofNat (code + 0x20)]
  else if 0x100 ≤ code ∧ code ≤ 0x137 ∧ code % 2 = 0 ∧ code ≠ 0x130 then [Char.ofNat (code + 1)]
  else if 0x391 ≤ code ∧ code ≤ 0x3A9 ∧ code ≠ 0x3A2 then [Char.ofNat (code + 0x20)]
  else if 0x410 ≤ code ∧ code ≤ 0x42F then [Char.ofNat (code + 0x20)]
  else if 0x400 ≤ code ∧ code ≤ 0x40F then [Char.ofNat (code + 0x50)]
  else if code = 0x3002 ∨ code = 0xFF0E ∨ code = 0xFF61 then ['.']
  else if 0xFF21 ≤ code ∧ code ≤ 0xFF3A then [Char.ofNat (code - 0xFF21 + 0x61)]
  else if 0xFF01 ≤ code ∧ code ≤ 0xFF5E then [Char.ofNat (code - 0xFF01 + 0x21)]
  else [c]

def isForbidden (c : Char) : Bool :=
  c.toNat ≤ 0x20 || c.toNat = 0x7F || c.toNat = 0x60 || "%#/:<>?@[\\]^\x7b|\x7d".contains c

private def startsWithMark (label : List Char) : Bool :=
  match label with
  | [] => false
  | c :: _ => Text.combiningRanges.contains c

private def isInvisible (c : Char) : Bool :=
  c.toNat = 0xFFFD || (0x80 ≤ c.toNat && c.toNat < 0xA0) ||
    (Text.formatRanges.contains c && !(c.toNat = 0x200C || c.toNat = 0x200D))

def plainLabel? (label : List Char) : Option (List Char) :=
  if label.any isForbidden || label.any isInvisible || startsWithMark label then none
  else if label.all Punycode.isPlain then
    match label with
    | 'x' :: 'n' :: '-' :: '-' :: encoded =>
        match Punycode.decode? encoded with
        | some decoded =>
            if decoded.all Punycode.isPlain || decoded.any isInvisible then none else some label
        | none => none
    | _ => some label
  else some ("xn--".toList ++ Punycode.encode label)

def domainName? (chars : List Char) : Option (List Char) := do
  let bytes := decodeBytes (String.ofList chars).toUTF8.toList
  let text ← String.fromUTF8? bytes.toByteArray
  let labels ← (splitOnChar '.' (text.toList.flatMap foldCase)).mapM plainLabel?
  some (['.'].intercalate labels)

def webHost (chars : List Char) : Except Fault String :=
  match chars with
  | [] => .error .emptyHost
  | '[' :: rest => ipv6Host rest
  | _ =>
      match domainName? chars with
      | none => .error .invalidDomain
      | some [] => .error .emptyHost
      | some name =>
          if endsInNumber name then
            match ipv4Value? name with
            | some value => .ok (ipv4Text value)
            | none => .error .invalidIpv4
          else .ok (String.ofList name)

private def isForbiddenElsewhere (c : Char) : Bool :=
  c.toNat = 0 || "\t\n\r #/:<>?@[\\]^|".contains c

/-- The host of any other address: kept as it is, but for controls. -/
def otherHost (chars : List Char) : Except Fault String :=
  match chars with
  | '[' :: rest => ipv6Host rest
  | _ =>
      if chars.any isForbiddenElsewhere then .error .invalidHostCharacter
      else .ok (String.ofList (encode controlSet chars))

end PerpDeploy.Url
