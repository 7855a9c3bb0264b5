/-
The networks that can be deployed to, and what a run on each of them starts from: its
profile, its settings and the account that signs.
-/

import PerpDeploy.Chain.Client
import PerpDeploy.Profile.Validate
import PerpDeploy.Settings.Basic
import PerpDeploy.Text.Quoted

namespace PerpDeploy

open Json (Alternative)

inductive Network
  | localChain
  | testnet
  deriving DecidableEq, Repr

namespace Network

def text : Network → String
  | .localChain => "local"
  | .testnet => "testnet"

def all : List Network := [.localChain, .testnet]

def parse (mode : String) : Except Failure Network :=
  match all.find? fun network => network.text == mode with
  | some network => .ok network
  | none => .error (.configuration
      ("unknown network '" ++ mode ++ "' (expected 'local' or 'testnet')"))

def encode (network : Network) : Json := .string network.text

def decoder : Json.Decoder Network :=
  Alternative.decoder (all.map fun network => .plain network.text network)

def profile (network : Network) : Except Failure Profile := Profile.forNetwork network.text

def defaultBinary : String := "terrad"

def localNodeUrl : String := "http://localhost:26657"

/-- The mnemonic of the account that a local chain funds from the start. -/
def localMnemonic : String :=
  "notice oak worry limit wrap speak medal online prefer cluster roof addict wrist behave treat " ++
  "actual wasp year salad speed social layer crew genius"

def defaultSettings : Network → NetworkSettings
  | .localChain =>
      { chainId := "localterra"
        nodeUrl := some localNodeUrl
        binary := defaultBinary
        keyringBackend := "test"
        keyName := "test1"
        gasPrices := "0.15uluna"
        gasAdjustment := 1.4
        confirmation := .block }
  | .testnet =>
      { chainId := "bombay-12"
        nodeUrl := none
        binary := defaultBinary
        keyringBackend := "test"
        keyName := "margined-deployer"
        gasPrices := "0.15uluna"
        gasAdjustment := 1.4
        confirmation := .poll 60 2 }

end Network

structure Secrets where
  mnemonic : Option String
  deriving DecidableEq, Repr

private def redacted : Option String → String
  | none => "None"
  | some _ => "Some(\"<redacted>\")"

/-- Diagnostics never show the mnemonic. -/
def Secrets.describe (secrets : Secrets) : String :=
  "Secrets \x7b mnemonic: " ++ redacted secrets.mnemonic ++ " \x7d"

def Identity.describe (identity : Identity) : String :=
  "Identity \x7b key_name: " ++ Text.quoted identity.keyName ++ ", mnemonic: " ++
    redacted identity.mnemonic ++ " \x7d"

structure Selection where
  network : Network
  profile : Profile
  settings : NetworkSettings
  nodeUrl : Url
  identity : Identity

namespace Selection

/-- The mnemonic without blanks around it, unless nothing is left of it. -/
def usableMnemonic (secrets : Secrets) : Option String :=
  (secrets.mnemonic.map Text.trim).filter fun mnemonic => !mnemonic.isEmpty

/-- A local chain has a mnemonic of its own; elsewhere the operator supplies one. -/
def identityFor (network : Network) (keyName : String) (secrets : Secrets) :
    Except Failure Identity :=
  match network, usableMnemonic secrets with
  | _, some mnemonic => .ok { keyName, mnemonic := some mnemonic }
  | .localChain, none => .ok { keyName, mnemonic := some Network.localMnemonic }
  | .testnet, none => .error (.configuration
      "a deployer mnemonic is required for testnet deployments")

def ofMode (mode : String) (overrides : Overrides) (secrets : Secrets) :
    Except Failure Selection := do
  let network ← Network.parse mode
  let profile ← network.profile
  profile.validate
  let settings := network.defaultSettings.withOverrides overrides
  let nodeUrl ← settings.validate
  let identity ← identityFor network settings.keyName secrets
  .ok { network, profile, settings, nodeUrl, identity }

end Selection

end PerpDeploy
