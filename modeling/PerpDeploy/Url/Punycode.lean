/-
Punycode: a label of any characters written with letters, digits and hyphens. The plain
characters come first; the others follow as differences in a number system whose digits
adapt to what has been written.
-/

namespace PerpDeploy.Url.Punycode

def digitChar (value : Nat) : Char :=
  if value < 26 then Char.ofNat ('a'.toNat + value) else Char.ofNat ('0'.toNat + (value - 26))

def digitValue? (c : Char) : Option Nat :=
  if 'a' ≤ c ∧ c ≤ 'z' then some (c.toNat - 'a'.toNat)
  else if 'A' ≤ c ∧ c ≤ 'Z' then some (c.toNat - 'A'.toNat)
  else if '0' ≤ c ∧ c ≤ '9' then some (c.toNat - '0'.toNat + 26)
  else none

/-- The least digit that ends a number, at a place and under a bias. -/
def threshold (place bias : Nat) : Nat :=
  if place ≤ bias then 1 else if bias + 26 ≤ place then 26 else place - bias

private def shrink : Nat → Nat → Nat → Nat
  | 0, _, steps => steps
  | fuel + 1, delta, steps =>
      if 455 < delta then shrink fuel (delta / 35) (steps + 36)
      else steps + 36 * delta / (delta + 38)

/-- The bias after a difference has been written. -/
def adapt (delta count : Nat) (first : Bool) : Nat :=
  let scaled := if first then delta / 700 else delta / 2
  shrink 16 (scaled + scaled / count) 0

/-- A number as digits of growing weight; thirty places are more than a label can need. -/
def encodeNumber (bias : Nat) : Nat → Nat → Nat → List Char
  | 0, _, _ => []
  | fuel + 1, place, value =>
      let least := threshold place bias
      if value < least then [digitChar value]
      else
        digitChar (least + (value - least) % (36 - least)) ::
          encodeNumber bias fuel (place + 36) ((value - least) / (36 - least))

structure Encoder where
  output : List Char
  delta : Nat
  bias : Nat
  handled : Nat

private def encodeOccurrence (plain code : Nat) (state : Encoder) (c : Char) : Encoder :=
  if c.toNat < code then { state with delta := state.delta + 1 }
  else if c.toNat = code then
    { output := state.output ++ encodeNumber state.bias 30 36 state.delta
      delta := 0
      bias := adapt state.delta (state.handled + 1) (state.handled = plain)
      handled := state.handled + 1 }
  else state

private def encodeCodes (label : List Char) (plain : Nat) : List Nat → Nat → Encoder → Encoder
  | [], _, state => state
  | code :: rest, next, state =>
      let reached := { state with delta := state.delta + (code - next) * (state.handled + 1) }
      let state := label.foldl (encodeOccurrence plain code) reached
      encodeCodes label plain rest (code + 1) { state with delta := state.delta + 1 }

private def insertCode (code : Nat) : List Nat → List Nat
  | [] => [code]
  | held :: rest =>
      if code < held then code :: held :: rest
      else if code = held then held :: rest
      else held :: insertCode code rest

def isPlain (c : Char) : Bool := c.toNat < 0x80

def encode (label : List Char) : List Char :=
  let plain := label.filter isPlain
  let codes := (label.filter fun c => !isPlain c).foldl (fun codes c => insertCode c.toNat codes) []
  let start : Encoder := { output := [], delta := 0, bias := 72, handled := plain.length }
  let tail := (encodeCodes label plain.length codes 128 start).output
  plain ++ (if plain.isEmpty then [] else ['-']) ++ tail

def decodeNumber? (bias : Nat) : List Char → Nat → Nat → Nat → Option (Nat × List Char)
  | [], _, _, _ => none
  | c :: rest, place, weight, value =>
      match digitValue? c with
      | none => none
      | some digit =>
          let least := threshold place bias
          let value := value + digit * weight
          if digit < least then some (value, rest)
          else decodeNumber? bias rest (place + 36) (weight * (36 - least)) value

private def isScalar (code : Nat) : Bool :=
  code < 0xD800 || (0xDFFF < code && code ≤ 0x10FFFF)

private def decodeCodes? :
    Nat → List Char → Nat → Nat → Nat → List Char → Option (List Char)
  | _, [], _, _, _, output => some output
  | 0, _, _, _, _, _ => none
  | fuel + 1, chars, code, index, bias, output =>
      match decodeNumber? bias chars 36 1 0 with
      | none => none
      | some (delta, rest) =>
          let count := output.length + 1
          let position := index + delta
          let code := code + position / count
          let index := position % count
          if !isScalar code then none
          else
            let output := output.take index ++ Char.ofNat code :: output.drop index
            let bias := adapt delta count (count = 1 + plainCount output)
            decodeCodes? fuel rest code (index + 1) bias output
where
  plainCount (output : List Char) : Nat := (output.filter isPlain).length

def decode? (encoded : List Char) : Option (List Char) :=
  let reversed := encoded.reverse
  match reversed.dropWhile (· ≠ '-') with
  | [] => decodeCodes? encoded.length encoded 128 0 72 []
  | _ :: plain =>
      let tail := (reversed.takeWhile (· ≠ '-')).reverse
      decodeCodes? encoded.length tail 128 0 72 plain.reverse

end PerpDeploy.Url.Punycode
