/-
Settings from all layers. From the strongest to the weakest these are the command line, the
environment, and of the file the table for all networks, the table of the network and the
table of defaults. Each setting comes from the strongest layer that has it.
-/

import PerpDeploy.Failure
import PerpDeploy.Layers.Environment
import PerpDeploy.Layers.File
import PerpDeploy.Settings.Basic

namespace PerpDeploy

structure Layers where
  commandLine : Layers.Fields
  environment : Layers.Fields
  /-- The table that holds for all networks. -/
  everywhere : Layers.Fields
  /-- The table of the network. -/
  network : Layers.Fields
  default : Layers.Fields

namespace Layers

def defaultTable : String := "default"

def everywhereTable : String := "global"

def strongestFirst (layers : Layers) : List Fields :=
  [layers.commandLine, layers.environment, layers.everywhere, layers.network, layers.default]

def value? (layers : Layers) (name : String) : Option Value :=
  layers.strongestFirst.findSome? fun fields => fields.lookup? name

def ofTables (tables : Tables) (network : String) (environment commandLine : Fields) : Layers :=
  { commandLine
    environment
    everywhere := tables.named everywhereTable
    network := tables.named network
    default := tables.named defaultTable }

/-! ### Values of a kind -/

def Value.asText? : Value → Option String
  | .text content => some content
  | _ => none

def Value.asFlag? : Value → Option Bool
  | .flag content => some content
  | _ => none

/-- A whole number does for a fraction. -/
def Value.asFraction? : Value → Option Float
  | .fraction content => some content
  | .whole content => some (Json.Number.toFloat (.integer content))
  | _ => none

/-- A whole number of seconds below `2 ^ 64`. -/
def Value.asSeconds? : Value → Option Nat
  | .whole content => if 0 ≤ content ∧ content < Int.pow 2 64 then some content.toNat else none
  | _ => none

/-- A setting of a kind: it may be missing, but it is of no other kind. -/
def setting? {α : Type} (layers : Layers) (read? : Value → Option α) (name : String) :
    Option (Option α) :=
  match layers.value? name with
  | none => some none
  | some value => (read? value).map some

/-- What an operator asks for, unless a value is of another kind than its setting. -/
def overrides? (layers : Layers) : Option Overrides := do
  some
    { chainId := ← layers.setting? Value.asText? "chain_id"
      nodeUrl := ← layers.setting? Value.asText? "node_url"
      binary := ← layers.setting? Value.asText? "binary"
      keyringBackend := ← layers.setting? Value.asText? "keyring_backend"
      keyName := ← layers.setting? Value.asText? "key_name"
      gasPrices := ← layers.setting? Value.asText? "gas_prices"
      gasAdjustment := ← layers.setting? Value.asFraction? "gas_adjustment"
      confirmationTimeout := ← layers.setting? Value.asSeconds? "confirmation_timeout_secs"
      noWait := (← layers.setting? Value.asFlag? "no_wait").getD false }

end Layers

/-! ### The layer of the command line -/

def fieldOf {α : Type} (name : String) (value : α → Layers.Value) :
    Option α → Layers.Fields
  | none => []
  | some content => [(name, value content)]

/-- The fields that are given; a flag that is not given is no field. -/
def Overrides.fields (overrides : Overrides) : Layers.Fields :=
  fieldOf "node_url" .text overrides.nodeUrl ++
  fieldOf "chain_id" .text overrides.chainId ++
  fieldOf "binary" .text overrides.binary ++
  fieldOf "key_name" .text overrides.keyName ++
  fieldOf "keyring_backend" .text overrides.keyringBackend ++
  fieldOf "gas_prices" .text overrides.gasPrices ++
  fieldOf "gas_adjustment" .fraction overrides.gasAdjustment ++
  fieldOf "confirmation_timeout_secs" (fun seconds : Nat => .whole seconds)
    overrides.confirmationTimeout ++
  (if overrides.noWait then [("no_wait", .flag true)] else [])

def loadOverrides (files : FileTree) (environment : Layers.Environment) (config : Path)
    (network : String) (given : Overrides) : Except Trail Overrides :=
  let merged := (Layers.readTables files config).bind fun tables =>
    (Layers.ofTables tables network environment.fields given.fields).overrides?
  match merged with
  | some overrides => .ok overrides
  | none => .error ((Trail.ofCause .settings).within ("Failed to load settings from " ++ config))

end PerpDeploy
