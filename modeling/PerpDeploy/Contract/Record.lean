/-
The contracts deployed so far in a run. A contract is recorded once and keeps its record.
-/

import PerpDeploy.Failure

namespace PerpDeploy

open Json (Fields)

structure ContractRecord where
  name : ContractName
  address : String
  /-- The place of the deployment within its run, from one on. -/
  ordinal : Nat
  /-- Seconds since 1970. -/
  deployedAt : Int
  artifact : String
  codeId : Option Nat
  deriving DecidableEq, Repr

def ContractRecord.encode (record : ContractRecord) : Json :=
  .object
    ([ ("name", record.name.encode),
       ("address", .string record.address),
       ("ordinal", .natural record.ordinal),
       ("deployed_at", .integer record.deployedAt),
       ("artifact", .string record.artifact) ] ++
      match record.codeId with
      | none => []
      | some codeId => [("code_id", Json.natural codeId)])

def ContractRecord.decoder : Json.Decoder ContractRecord :=
  (ContractRecord.mk <$> Fields.required "name" ContractName.decoder
    <*> Fields.required "address" Json.Decoder.string
    <*> Fields.required "ordinal" Json.Decoder.word
    <*> Fields.required "deployed_at" Json.Decoder.signedWord
    <*> Fields.required "artifact" Json.Decoder.string
    <*> Fields.omissible "code_id" Json.Decoder.word).decoder

/-- Records in the order of deployment. -/
structure Registry where
  records : List ContractRecord
  deriving DecidableEq, Repr

namespace Registry

def empty : Registry := { records := [] }

def get? (registry : Registry) (name : ContractName) : Option ContractRecord :=
  registry.records.find? fun record => record.name == name

def contains (registry : Registry) (name : ContractName) : Bool := (registry.get? name).isSome

def size (registry : Registry) : Nat := registry.records.length

def resolve (registry : Registry) (name : ContractName) : Except Failure String :=
  match registry.get? name with
  | some record => .ok record.address
  | none => .error (.unknownContract name none)

def nextRecord (registry : Registry) (now : Int) (name : ContractName) (address artifact : String)
    (codeId : Option Nat) : ContractRecord :=
  { name, address, ordinal := registry.size + 1, deployedAt := now, artifact, codeId }

def record (registry : Registry) (now : Int) (name : ContractName) (address artifact : String)
    (codeId : Option Nat) : Except Failure Registry :=
  match registry.get? name with
  | some existing => .error (.duplicateRegistration name existing.address)
  | none =>
      .ok { records := registry.records ++ [registry.nextRecord now name address artifact codeId] }

end Registry

end PerpDeploy
