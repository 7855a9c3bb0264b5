/-
Where the compiled contracts lie: one file for each contract in one directory.
-/

import PerpDeploy.Failure

namespace PerpDeploy

structure ArtifactStore where
  root : Path
  deriving DecidableEq, Repr

namespace ArtifactStore

def defaultRoot : Path := "../artifacts"

def extension : String := ".wasm"

def pathFor (store : ArtifactStore) (contract : ContractName) : Path :=
  store.root.join (contract.artifact ++ extension)

def missing (store : ArtifactStore) (files : FileTree) (contracts : List ContractName) :
    List Path :=
  (contracts.map store.pathFor).filter fun path => !files.isFile path

/-- All missing artifacts are named in one failure. -/
def ensurePresent (store : ArtifactStore) (files : FileTree) (contracts : List ContractName) :
    Except Failure Unit :=
  match store.missing files contracts with
  | [] => .ok ()
  | paths => .error (.configuration ("missing contract artifacts: " ++ ", ".intercalate paths))

end ArtifactStore

end PerpDeploy
