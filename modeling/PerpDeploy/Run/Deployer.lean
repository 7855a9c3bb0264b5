/-
A run: the steps of a pipeline one after the other, each answered by the chain before the
next begins. The first step that fails ends the run, and nothing deployed is undone. The
manifest is written after each deployment and at the end; a run goes on if it cannot be
written. A run works on its own copy of the profile and on its own registry.
-/

import PerpDeploy.Contract.Artifact
import PerpDeploy.Manifest
import PerpDeploy.Profile.Codec
import PerpDeploy.Profile.Validate
import PerpDeploy.Run.Report

namespace PerpDeploy

structure Deployer where
  artifacts : ArtifactStore
  manifest : Option ManifestTarget
  /-- Every artifact is to be there before the first step. -/
  checkArtifacts : Bool
  deriving DecidableEq, Repr

/-- A request to the chain, with the files as they were at that moment. -/
structure Call where
  request : ChainRequest
  files : FileTree

structure Run (σ : Type) where
  client : σ
  files : FileTree
  working : Profile
  registry : Registry
  steps : List StepReport
  vammState : Option Json
  calls : List Call
  notices : List Notice

/-- When a run looks at the clock; no run comes twice to the same moment. -/
inductive Moment
  /-- The contract with this ordinal is recorded. -/
  | recording (ordinal : Nat)
  /-- The manifest is written while so many contracts are recorded. -/
  | writing (status : RunStatus) (contracts : Nat)
  deriving DecidableEq, Repr

structure RunSetting (σ : Type) where
  deployer : Deployer
  client : ChainClient σ
  profile : Profile
  identity : Identity
  /-- What the clock shows, in seconds since 1970. It need not go forwards. -/
  clock : Moment → Int

structure Execution (σ : Type) where
  result : Except Failure Report
  run : Run σ

namespace Run

variable {σ : Type}

def start (profile : Profile) (client : σ) (files : FileTree) : Run σ :=
  { client, files, working := profile, registry := .empty, steps := [], vammState := none
    calls := [], notices := [] }

/-- Sends a request and keeps account of it. -/
def ask (run : Run σ) (client : ChainClient σ) (request : ChainRequest) :
    Except Trail request.Reply × Run σ :=
  let (reply, state) := client.answer request run.client
  (reply, { run with client := state, calls := run.calls ++ [⟨request, run.files⟩] })

def notify (run : Run σ) (notice : Notice) : Run σ :=
  { run with notices := run.notices ++ [notice] }

end Run

namespace RunSetting

variable {σ : Type}

/-- Writes the run into the manifest, as far as that can be done. -/
def persist (setting : RunSetting σ) (status : RunStatus) (run : Run σ) : Run σ :=
  match setting.deployer.manifest with
  | none => run
  | some target =>
      let entry := NetworkEntry.ofRegistry target.chainId setting.profile.fingerprint status
        (setting.clock (.writing status run.registry.size)) run.registry
      { run with files := (Manifest.upsert run.files target.path setting.profile.network entry).1 }

/-- A contract that is missing is told with the step that asked for it. -/
def atStep (step : Step) : Failure → Failure
  | .unknownContract name _ => .unknownContract name (some step.label)
  | failure => failure

def targetAddress (step : Step) (run : Run σ) : Except Failure String :=
  match run.registry.resolve step.contract with
  | .ok address => .ok address
  | .error _ => .error (.unknownContract step.contract (some step.label))

def runDeploy (setting : RunSetting σ) (step : Step) (message : Json) (run : Run σ) :
    Run σ × Except Failure StepOutcome :=
  let artifact := setting.deployer.artifacts.pathFor step.contract
  let request := ChainRequest.deploy setting.identity artifact message step.instanceLabel
  match run.ask setting.client request with
  | (.error source, run) => (run, .error (.deployment step.label step.contract source))
  | (.ok deployed, run) =>
      let name := (artifact.fileName?).getD ""
      let now := setting.clock (.recording (run.registry.size + 1))
      match run.registry.record now step.contract deployed.address name deployed.codeId with
      | .error failure => (run, .error failure)
      | .ok registry =>
          let record := run.registry.nextRecord now step.contract deployed.address name
            deployed.codeId
          (setting.persist .inProgress { run with registry }, .ok (.deployed record))

def runExecute (setting : RunSetting σ) (step : Step) (message : Json) (run : Run σ) :
    Run σ × Except Failure StepOutcome :=
  match targetAddress step run with
  | .error failure => (run, .error failure)
  | .ok address =>
      match run.ask setting.client (.execute setting.identity address message) with
      | (.error source, run) => (run, .error (.execution step.label step.contract address source))
      | (.ok receipt, run) => (run, .ok (.executed receipt))

/-- A query never fails its run. -/
def runQuery (setting : RunSetting σ) (step : Step) (message : Json) (run : Run σ) :
    Run σ × Except Failure StepOutcome :=
  match targetAddress step run with
  | .error failure => (run, .error failure)
  | .ok address =>
      match run.ask setting.client (.query address message) with
      | (.error source, run) =>
          let failure := Failure.query step.label step.contract address source
          (run, .ok (.queryFailed failure.trail.oneLine))
      | (.ok answer, run) => ({ run with vammState := some answer }, .ok (.queried answer))

def runStep (setting : RunSetting σ) (step : Step) (run : Run σ) :
    Run σ × Except Failure StepOutcome :=
  match step.payload.render run.working run.registry with
  | (working, .error failure) => ({ run with working }, .error (atStep step failure))
  | (working, .ok message) =>
      let run := { run with working }
      match step.kind with
      | .deploy => setting.runDeploy step message run
      | .execute => setting.runExecute step message run
      | .query => setting.runQuery step message run

/-- Steps up to the first that fails. -/
def runSteps (setting : RunSetting σ) : List Step → Run σ → Run σ × Except Failure Unit
  | [], run => (setting.persist .completed run, .ok ())
  | step :: rest, run =>
      match setting.runStep step (run.notify (.started step)) with
      | (run, .error failure) =>
          let run := run.notify (.reported step (.failed failure.trail.oneLine))
          (setting.persist .failed run, .error failure)
      | (run, .ok outcome) =>
          let run := run.notify (.reported step outcome)
          setting.runSteps rest
            { run with steps := run.steps ++ [⟨step.label, step.kind, outcome⟩] }

def preflight (setting : RunSetting σ) (pipeline : Pipeline) (files : FileTree) :
    Except Failure Unit := do
  setting.profile.validate
  pipeline.validate
  if setting.deployer.checkArtifacts then
    setting.deployer.artifacts.ensurePresent files pipeline.deployedContracts
  match setting.deployer.manifest with
  | none => .ok ()
  | some target =>
      match Manifest.load files target.path with
      | .ok _ => .ok ()
      | .error source => .error (.manifest target.path source)

def report (setting : RunSetting σ) (deployer : String) (run : Run σ) : Report :=
  { network := setting.profile.network
    fingerprint := setting.profile.fingerprint
    deployer
    contracts := run.registry.records
    steps := run.steps
    vammState := run.vammState }

def accountFailure (identity : Identity) (source : Trail) : Failure :=
  .configuration
    ("failed to resolve deployer account '" ++ identity.keyName ++ "': " ++ source.oneLine)

def runPipeline (setting : RunSetting σ) (pipeline : Pipeline) (client : σ) (files : FileTree) :
    Execution σ :=
  let run := Run.start setting.profile client files
  match setting.preflight pipeline files with
  | .error failure => { result := .error failure, run }
  | .ok () =>
      match run.ask setting.client (.accountAddress setting.identity) with
      | (.error source, run) => { result := .error (accountFailure setting.identity source), run }
      | (.ok deployer, run) =>
          match setting.runSteps pipeline.steps run with
          | (run, .error failure) => { result := .error failure, run }
          | (run, .ok ()) => { result := .ok (setting.report deployer run), run }

/-- The pipeline of the profile itself. -/
def execute (setting : RunSetting σ) (client : σ) (files : FileTree) : Execution σ :=
  setting.runPipeline (.forProfile setting.profile) client files

end RunSetting

end PerpDeploy
