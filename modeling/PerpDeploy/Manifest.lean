/-
The manifest: a JSON file with one entry for each network, which tells what the last run
there has deployed. Writing the entry of one network leaves the others as they are.
-/

import PerpDeploy.Contract.Record
import PerpDeploy.Json.Printer

namespace PerpDeploy

open Json (Fields Alternative)

inductive RunStatus
  | inProgress
  | completed
  | failed
  deriving DecidableEq, Repr

namespace RunStatus

def text : RunStatus → String
  | .inProgress => "in_progress"
  | .completed => "completed"
  | .failed => "failed"

def all : List RunStatus := [.inProgress, .completed, .failed]

def encode (status : RunStatus) : Json := .string status.text

def decoder : Json.Decoder RunStatus :=
  Alternative.decoder (all.map fun status => .plain status.text status)

end RunStatus

structure NetworkEntry where
  chainId : String
  fingerprint : String
  status : RunStatus
  /-- Seconds since 1970. -/
  updatedAt : Int
  deployerVersion : String
  contracts : List ContractRecord
  deriving DecidableEq, Repr

namespace NetworkEntry

def currentVersion : String := "0.1.0"

def ofRegistry (chainId fingerprint : String) (status : RunStatus) (now : Int)
    (registry : Registry) : NetworkEntry :=
  { chainId, fingerprint, status, updatedAt := now, deployerVersion := currentVersion
    contracts := registry.records }

def encode (entry : NetworkEntry) : Json :=
  .object
    [ ("chain_id", .string entry.chainId),
      ("profile_fingerprint", .string entry.fingerprint),
      ("status", entry.status.encode),
      ("updated_at", .integer entry.updatedAt),
      ("deployer_version", .string entry.deployerVersion),
      ("contracts", .array (entry.contracts.map ContractRecord.encode)) ]

def decoder : Json.Decoder NetworkEntry :=
  (NetworkEntry.mk <$> Fields.required "chain_id" Json.Decoder.string
    <*> Fields.required "profile_fingerprint" Json.Decoder.string
    <*> Fields.required "status" RunStatus.decoder
    <*> Fields.required "updated_at" Json.Decoder.signedWord
    <*> Fields.required "deployer_version" Json.Decoder.string
    <*> Fields.required "contracts" (Json.Decoder.list ContractRecord.decoder)).decoder

end NetworkEntry

/-- Entries sorted by the names of their networks, each name once. -/
structure Manifest where
  networks : List (String × NetworkEntry)
  deriving DecidableEq, Repr

namespace Manifest

def empty : Manifest := { networks := [] }

def insertEntry (network : String) (entry : NetworkEntry) :
    List (String × NetworkEntry) → List (String × NetworkEntry)
  | [] => [(network, entry)]
  | (name, held) :: rest =>
      if network < name then (network, entry) :: (name, held) :: rest
      else if network = name then (network, entry) :: rest
      else (name, held) :: insertEntry network entry rest

def insert (manifest : Manifest) (network : String) (entry : NetworkEntry) : Manifest :=
  { networks := insertEntry network entry manifest.networks }

def network? (manifest : Manifest) (network : String) : Option NetworkEntry :=
  (manifest.networks.find? fun entry => entry.1 == network).map Prod.snd

def encode (manifest : Manifest) : Json :=
  .object (manifest.networks.map fun entry => (entry.1, entry.2.encode))

def text (manifest : Manifest) : String := manifest.encode.pretty

def ofFields : Manifest → List (String × Json) → Except Json.Fault Manifest
  | manifest, [] => .ok manifest
  | manifest, (network, value) :: rest => do
      let entry ← NetworkEntry.decoder Json.Context.ofSetAside (Json.Document.ofJson value)
      ofFields (manifest.insert network entry) rest

/-- An object of entries. All of it is read before the first entry is looked at. -/
def decoder : Json.Decoder Manifest := fun context document =>
  match document with
  | .object _ _ | .unkeyed _ => do
      match ← Json.readJson context document with
      | .object fields => ofFields empty fields
      | _ => .error .mismatched
  | other => .error other.mismatch

/-- Where no file can be found there is no entry. -/
def load (files : FileTree) (path : Path) : Except Trail Manifest :=
  if !files.isThere path then .ok empty
  else match files.readText path with
    | .error fault =>
        .error ((Trail.ofCause (.file fault)).within
          ("Failed to read deployment manifest from " ++ path))
    | .ok text =>
        match Json.decodeText decoder text with
        | .ok manifest => .ok manifest
        | .error fault =>
            .error ((Trail.ofCause (.json fault)).within "Failed to parse deployment manifest JSON")

def prepareDirectory (files : FileTree) (path : Path) : FileTree × Except Trail Unit :=
  match path.parent? with
  | none => (files, .ok ())
  | some parent =>
      if parent.isEmpty then (files, .ok ())
      else match files.makeDirectories parent with
        | (prepared, .ok ()) => (prepared, .ok ())
        | (prepared, .error fault) =>
            (prepared, .error ((Trail.ofCause (.file fault)).within
              ("Failed to create manifest directory " ++ parent)))

def save (manifest : Manifest) (files : FileTree) (path : Path) : FileTree × Except Trail Unit :=
  match prepareDirectory files path with
  | (prepared, .error trail) => (prepared, .error trail)
  | (prepared, .ok ()) =>
      match prepared.writeText path manifest.text with
      | (written, .ok ()) => (written, .ok ())
      | (written, .error fault) =>
          (written, .error ((Trail.ofCause (.file fault)).within
            ("Failed to write deployment manifest to " ++ path)))

def upsert (files : FileTree) (path : Path) (network : String) (entry : NetworkEntry) :
    FileTree × Except Trail Unit :=
  match load files path with
  | .error trail => (files, .error trail)
  | .ok manifest => (manifest.insert network entry).save files path

end Manifest

structure ManifestTarget where
  path : Path
  chainId : String
  deriving DecidableEq, Repr

end PerpDeploy
