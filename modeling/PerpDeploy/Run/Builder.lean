/-
Setting up a deployer: where artifacts lie, and the directory that the manifest goes to.
-/

import PerpDeploy.Run.Deployer

namespace PerpDeploy

inductive OutputDirectory
  /-- A fresh directory that is kept after the run. -/
  | temporary
  | path (path : Path)
  deriving DecidableEq, Repr

namespace FileTree

/-- A directory can be written to if anybody has the right to. -/
def isReadOnly (mode : Nat) : Bool := mode &&& 0o222 = 0

private def checkExistence (files : FileTree) (path : Path) : Except Trail Bool :=
  match files.exists? path with
  | .ok found => .ok found
  | .error fault => .error ((Trail.ofCause (.file fault)).within
      ("Failed to check if output data directory exists at path " ++ path ++
        ". Ensure you provided valid permissions to the directory."))

private def ensureDirectory (files : FileTree) (path : Path) : FileTree × Except Trail Unit :=
  match checkExistence files path with
  | .error trail => (files, .error trail)
  | .ok true => (files, .ok ())
  | .ok false =>
      match files.makeDirectories path with
      | (made, .ok ()) => (made, .ok ())
      | (made, .error fault) =>
          (made, .error ((Trail.ofCause (.file fault)).within
            "Failed to create output data directory"))

private def checkDirectory (files : FileTree) (path : Path) : Except Trail Unit :=
  match files.status path with
  | .error fault => .error ((Trail.ofCause (.file fault)).within
      "Failed to get metadata for output data directory")
  | .ok (.file _) => .error (Trail.ofText ("Output data path " ++ path ++ " is not a directory"))
  | .ok (.directory mode) =>
      if isReadOnly mode then
        .error (Trail.ofText ("Output data directory " ++ path ++ " is read-only"))
      else .ok ()

/-- Makes the output directory unless it is there; one that is there keeps its mode. -/
def prepareOutput (files : FileTree) (path : Path) : FileTree × Except Trail Unit :=
  match ensureDirectory files path with
  | (prepared, .error trail) => (prepared, .error trail)
  | (prepared, .ok ()) => (prepared, checkDirectory prepared path)

end FileTree

structure DeployerPlan where
  chainId : String
  artifacts : Option Path
  output : Option OutputDirectory
  writesManifest : Bool
  checksArtifacts : Bool
  deriving DecidableEq, Repr

namespace DeployerPlan

def manifestName : String := "deployments.json"

def temporaryDirectoryMark : String := "data-margined-"

def ofChain (chainId : String) : DeployerPlan :=
  { chainId, artifacts := none, output := none, writesManifest := true, checksArtifacts := true }

private def chooseOutput (plan : DeployerPlan) (temporary : Path) : Path :=
  match plan.output with
  | none => "."
  | some .temporary => temporary
  | some (.path path) => path

private def makeTemporary (plan : DeployerPlan) (temporary : Path) (files : FileTree) :
    FileTree × Except Trail Unit :=
  match plan.output with
  | some .temporary =>
      match files.makeDirectory temporary with
      | .ok made => (made, .ok ())
      | .error fault =>
          (files, .error ((Trail.ofCause (.file fault)).within
            "Failed to create temporary directory"))
  | _ => (files, .ok ())

/-- The manifest in its directory, which is made if need be. `temporary` is a path that is free.
-/
def manifestTarget (plan : DeployerPlan) (temporary : Path) (files : FileTree) :
    FileTree × Except Trail ManifestTarget :=
  let path := chooseOutput plan temporary
  match makeTemporary plan temporary files with
  | (files, .error trail) => (files, .error trail)
  | (files, .ok ()) =>
      match files.prepareOutput path with
      | (files, .error trail) => (files, .error trail)
      | (files, .ok ()) =>
          match files.absolutePath path with
          | .ok directory =>
              (files, .ok { path := directory.join manifestName, chainId := plan.chainId })
          | .error fault => (files, .error ((Trail.ofCause (.file fault)).within
              "Failed to canonicalize output data directory path"))

private def deployer (plan : DeployerPlan) (manifest : Option ManifestTarget) : Deployer :=
  { artifacts := { root := plan.artifacts.getD ArtifactStore.defaultRoot }
    manifest
    checkArtifacts := plan.checksArtifacts }

/-- The deployer of a plan. Files are touched only for the manifest. -/
def build (plan : DeployerPlan) (temporary : Path) (files : FileTree) :
    FileTree × Except Trail Deployer :=
  if !plan.writesManifest then (files, .ok (plan.deployer none))
  else match plan.manifestTarget temporary files with
    | (files, .error trail) => (files, .error trail)
    | (files, .ok target) => (files, .ok (plan.deployer (some target)))

end DeployerPlan

end PerpDeploy
