/-
The program: a deployment to a network, or a dry run against a chain in memory, and what
the operator gets to see of it.
-/

import PerpDeploy.Chain.Mock
import PerpDeploy.Chain.Node
import PerpDeploy.CommandLine.Options
import PerpDeploy.Layers.Merge

namespace PerpDeploy.CommandLine

structure World where
  environment : Layers.Environment
  files : FileTree
  node : NodeHost
  /-- A path that is free. -/
  temporary : Path
  /-- What the clock shows whenever a run looks at it, in seconds since 1970. -/
  clock : Moment → Int

/-- What a deployment or a dry run comes to. -/
structure Ending where
  result : Except Trail Report
  files : FileTree
  calls : List Call
  notices : List Notice
  node : NodeState

namespace Ending

def stopped (trail : Trail) (files : FileTree) : Ending :=
  { result := .error trail, files, calls := [], notices := [], node := .initial }

def ofExecution {σ : Type} (execution : Execution σ) (node : σ → NodeState) : Ending :=
  { result := execution.result.mapError Failure.trail
    files := execution.run.files
    calls := execution.run.calls
    notices := execution.run.notices
    node := node execution.run.client }

end Ending

def settingsOverrides (options : Options) (world : World) : Except Trail Overrides :=
  loadOverrides world.files world.environment options.config options.network options.overrides

def dryRunPlan (options : Options) (settings : NetworkSettings) : DeployerPlan :=
  { DeployerPlan.ofChain settings.chainId with
    artifacts := some options.artifacts
    writesManifest := false
    checksArtifacts := false }

def deploymentPlan (options : Options) (settings : NetworkSettings) : DeployerPlan :=
  { DeployerPlan.ofChain settings.chainId with
    artifacts := some options.artifacts
    output := options.output }

private def networkAndProfile (mode : String) : Except Failure (Network × Profile) := do
  let network ← Network.parse mode
  .ok (network, ← network.profile)

/-- Goes through all steps on a chain in memory. Nothing is sent and no manifest is written. -/
def dryRun (options : Options) (overrides : Overrides) (world : World) : Ending :=
  match networkAndProfile options.network with
  | .error failure => .stopped failure.trail world.files
  | .ok (network, profile) =>
      let settings := network.defaultSettings.withOverrides overrides
      match (dryRunPlan options settings).build world.temporary world.files with
      | (files, .error trail) => .stopped trail files
      | (files, .ok deployer) =>
          let setting : RunSetting MockState :=
            { deployer
              client := MockChain.standard.client
              profile
              identity := { keyName := settings.keyName, mnemonic := none }
              clock := world.clock }
          .ofExecution (setting.execute MockChain.initialState files) fun _ => .initial

def deploy (options : Options) (overrides : Overrides) (world : World) : Ending :=
  match Selection.ofMode options.network overrides { mnemonic := options.mnemonic } with
  | .error failure => .stopped failure.trail world.files
  | .ok selection =>
      match (deploymentPlan options selection.settings).build world.temporary world.files with
      | (files, .error trail) => .stopped trail files
      | (files, .ok deployer) =>
          let node : NodeClient :=
            { host := world.node
              settings := selection.settings
              nodeUrl := selection.nodeUrl.text }
          let setting : RunSetting NodeState :=
            { deployer
              client := node.chainClient
              profile := selection.profile
              identity := selection.identity
              clock := world.clock }
          .ofExecution (setting.execute NodeState.initial files) id

def perform (options : Options) (world : World) : Ending :=
  match settingsOverrides options world with
  | .error trail => .stopped trail world.files
  | .ok overrides =>
      if options.dryRun then dryRun options overrides world else deploy options overrides world

/-! ### What the operator sees -/

def programName : String := "margined"

def versionText : String := programName ++ " " ++ NetworkEntry.currentVersion ++ "\n"

private def optionLine (name : String) : String := "  --" ++ name ++ "\n"

def usageText : String :=
  "Deploys and wires the contracts of a perpetuals market on a local or testnet network\n\n" ++
    "Usage: " ++ programName ++ " [OPTIONS]\n\nOptions:\n" ++
    String.join (longNames.map fun entry => optionLine entry.1)

def ArgumentFault.message : ArgumentFault → String
  | .unknownArgument => "unexpected argument found"
  | .invalidValue => "a value is required but none was supplied"
  | .valueValidation => "invalid value for an option"
  | .tooManyValues => "unexpected value for an option"
  | .argumentConflict => "an option cannot be used multiple times"
  | .displayHelp => usageText
  | .displayVersion => versionText

structure Output where
  exitCode : Nat
  stdout : String
  stderr : String
  deriving DecidableEq, Repr

namespace Output

def ofArgumentFault (fault : ArgumentFault) : Output :=
  match fault with
  | .displayHelp => { exitCode := 0, stdout := fault.message, stderr := "" }
  | .displayVersion => { exitCode := 0, stdout := fault.message, stderr := "" }
  | fault => { exitCode := 2, stdout := "", stderr := "error: " ++ fault.message ++ "\n" }

def ofEnding (ending : Ending) : Output :=
  match ending.result with
  | .ok report => { exitCode := 0, stdout := report.text ++ "\n", stderr := "" }
  | .error trail => { exitCode := 1, stdout := "", stderr := "Error: " ++ trail.report ++ "\n" }

end Output

def loggedEvents (verbosity : Verbosity) (ending : Ending) : List LogEvent :=
  (ending.notices.map Notice.logEvent).filter fun event => verbosity.admits event.level

structure Performance where
  output : Output
  outcome : Option (Options × Ending)

def respond (arguments : List String) (world : World) : Performance :=
  match Options.read arguments world.environment with
  | .error fault => { output := .ofArgumentFault fault, outcome := none }
  | .ok options =>
      let ending := perform options world
      { output := .ofEnding ending, outcome := some (options, ending) }

end PerpDeploy.CommandLine
