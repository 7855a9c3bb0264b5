/-
How a network is reached and how its transactions are signed, and what an operator may
put in place of the defaults.
-/

import PerpDeploy.Json.Decoder
import PerpDeploy.Number.Layout
import PerpDeploy.Text.Blank
import PerpDeploy.Failure
import PerpDeploy.Url.Basic

namespace PerpDeploy

open Json (Fields Alternative)

inductive Confirmation
  | block
  /-- The node is asked again and again. Both times are in seconds. -/
  | poll (timeout interval : Nat)
  deriving DecidableEq, Repr

namespace Confirmation

def encode : Confirmation → Json
  | .block => .object [("mode", .string "block")]
  | .poll timeout interval =>
      .object
        [ ("mode", .string "poll"), ("timeout_secs", .natural timeout),
          ("interval_secs", .natural interval) ]

inductive Mode
  | block
  | poll
  deriving DecidableEq, Repr

/-- The mode stands as text, and no other mode is known. -/
def Mode.decoder : Json.Decoder Mode := fun context document => do
  let name ← Json.Decoder.string context document
  if name = "block" then .ok .block
  else if name = "poll" then .ok .poll
  else .error .mismatched

/-- The fields beside the mode, set aside until the mode is known. -/
structure Parts where
  mode : Option Mode
  others : List (String × Json)

def readParts (context : Json.Context) (parts : Parts) :
    List (Option String × Json.Document) → Except Json.Fault Parts
  | [] => .ok parts
  | (none, _) :: _ => .error .malformed
  | (some name, value) :: rest =>
      if name = "mode" then
        if parts.mode.isSome then .error .mismatched
        else do
          let mode ← Mode.decoder context value
          readParts context { parts with mode := some mode } rest
      else do
        let value ← Json.readJson context value
        readParts context { parts with others := parts.others ++ [(name, value)] } rest

private def pollDecoder : Json.Decoder Confirmation :=
  (Confirmation.poll <$> Fields.required "timeout_secs" Json.Decoder.word
    <*> Fields.required "interval_secs" Json.Decoder.word).decoder

/-- The confirmation of a mode from the other fields, or from the other items of a list. -/
def ofMode (others : Json) : Mode → Except Json.Fault Confirmation
  | .block =>
      match others with
      | .array (_ :: _) => .error .mismatched
      | _ => .ok .block
  | .poll => pollDecoder Json.Context.ofSetAside (Json.Document.ofJson others)

def decoder : Json.Decoder Confirmation := fun context document =>
  match document with
  | .object fields ending => do
      let inner ← context.enter
      let parts ← readParts inner { mode := none, others := [] } fields
      ending.forReader
      match parts.mode with
      | none => .error .mismatched
      | some mode => ofMode (.object parts.others) mode
  | .array (first :: rest) ending => do
      let inner ← context.enter
      let mode ← Mode.decoder inner first
      let others ← Json.readJsonItems inner rest
      ending.forReader
      ofMode (.array others) mode
  | .array [] ending => do
      let _ ← context.enter
      ending.forReader
      .error .mismatched
  | .unkeyed _ => do
      let _ ← context.enter
      .error .malformed
  | other => .error other.mismatch

end Confirmation

structure NetworkSettings where
  chainId : String
  /-- The address of a node that answers requests. -/
  nodeUrl : Option String
  binary : String
  keyringBackend : String
  keyName : String
  gasPrices : String
  gasAdjustment : Float
  confirmation : Confirmation
  deriving DecidableEq

/-- What an operator asks for; a field without a value leaves the default alone. -/
structure Overrides where
  chainId : Option String
  nodeUrl : Option String
  binary : Option String
  keyringBackend : Option String
  keyName : Option String
  gasPrices : Option String
  gasAdjustment : Option Float
  confirmationTimeout : Option Nat
  /-- Blocks are waited for, whatever the network does by default. -/
  noWait : Bool
  deriving DecidableEq

namespace Overrides

def none : Overrides :=
  { chainId := .none, nodeUrl := .none, binary := .none, keyringBackend := .none, keyName := .none
    gasPrices := .none, gasAdjustment := .none, confirmationTimeout := .none, noWait := false }

def encode (overrides : Overrides) : Json :=
  .object
    [ ("chain_id", .optional .string overrides.chainId),
      ("node_url", .optional .string overrides.nodeUrl),
      ("binary", .optional .string overrides.binary),
      ("keyring_backend", .optional .string overrides.keyringBackend),
      ("key_name", .optional .string overrides.keyName),
      ("gas_prices", .optional .string overrides.gasPrices),
      ("gas_adjustment", .optional .float overrides.gasAdjustment),
      ("confirmation_timeout_secs", .optional .natural overrides.confirmationTimeout),
      ("no_wait", .bool overrides.noWait) ]

def decoder : Json.Decoder Overrides :=
  (Overrides.mk <$> Fields.omissible "chain_id" Json.Decoder.string
    <*> Fields.omissible "node_url" Json.Decoder.string
    <*> Fields.omissible "binary" Json.Decoder.string
    <*> Fields.omissible "keyring_backend" Json.Decoder.string
    <*> Fields.omissible "key_name" Json.Decoder.string
    <*> Fields.omissible "gas_prices" Json.Decoder.string
    <*> Fields.omissible "gas_adjustment" Json.Decoder.float
    <*> Fields.omissible "confirmation_timeout_secs" Json.Decoder.word
    <*> Fields.defaulted "no_wait" Json.Decoder.bool false).decoder

end Overrides

namespace NetworkSettings

def encode (settings : NetworkSettings) : Json :=
  .object
    [ ("chain_id", .string settings.chainId),
      ("node_url", .optional .string settings.nodeUrl),
      ("binary", .string settings.binary),
      ("keyring_backend", .string settings.keyringBackend),
      ("key_name", .string settings.keyName),
      ("gas_prices", .string settings.gasPrices),
      ("gas_adjustment", .float settings.gasAdjustment),
      ("confirmation", settings.confirmation.encode) ]

def decoder : Json.Decoder NetworkSettings :=
  (NetworkSettings.mk <$> Fields.required "chain_id" Json.Decoder.string
    <*> Fields.optional "node_url" Json.Decoder.string
    <*> Fields.required "binary" Json.Decoder.string
    <*> Fields.required "keyring_backend" Json.Decoder.string
    <*> Fields.required "key_name" Json.Decoder.string
    <*> Fields.required "gas_prices" Json.Decoder.string
    <*> Fields.required "gas_adjustment" Json.Decoder.float
    <*> Fields.required "confirmation" Confirmation.decoder).decoder

/-- A timeout matters only where there is polling. -/
def overrideConfirmation (overrides : Overrides) (confirmation : Confirmation) : Confirmation :=
  if overrides.noWait then .block
  else match confirmation, overrides.confirmationTimeout with
    | .poll _ interval, some timeout => .poll timeout interval
    | other, _ => other

def withOverrides (settings : NetworkSettings) (overrides : Overrides) : NetworkSettings :=
  { chainId := overrides.chainId.getD settings.chainId
    nodeUrl := overrides.nodeUrl.or settings.nodeUrl
    binary := overrides.binary.getD settings.binary
    keyringBackend := overrides.keyringBackend.getD settings.keyringBackend
    keyName := overrides.keyName.getD settings.keyName
    gasPrices := overrides.gasPrices.getD settings.gasPrices
    gasAdjustment := overrides.gasAdjustment.getD settings.gasAdjustment
    confirmation := overrideConfirmation overrides settings.confirmation }

def gasAdjustmentText (settings : NetworkSettings) : String :=
  Number.plainFormat.write settings.gasAdjustment

def hasZeroTime : Confirmation → Bool
  | .block => false
  | .poll timeout interval => timeout == 0 || interval == 0

/-- The first problem with what does not concern the address of the node. -/
def problem? (settings : NetworkSettings) : Option String :=
  if Text.isBlankText settings.chainId then some "chain id is empty"
  else if Text.isBlankText settings.binary then some "node binary is empty"
  else if Text.isBlankText settings.keyName then some "signing key name is empty"
  else if !(settings.gasAdjustment > 0.0) then
    some ("gas adjustment must be positive, got " ++ settings.gasAdjustmentText)
  else if hasZeroTime settings.confirmation then
    some "confirmation timeout and interval must be positive"
  else none

/-- The address of the node, if all settings can be used. -/
def validate (settings : NetworkSettings) : Except Failure Url :=
  match settings.problem? with
  | some problem => .error (.configuration problem)
  | none =>
      match settings.nodeUrl with
      | none => .error (.configuration
          ("no node URL configured for chain '" ++ settings.chainId ++ "'"))
      | some nodeUrl =>
          match Url.parse nodeUrl with
          | .ok url => .ok url
          | .error fault => .error (.configuration
              ("invalid node URL '" ++ nodeUrl ++ "': " ++ fault.message))

end NetworkSettings

end PerpDeploy
