/-
The options of the command line. Arguments are read from left to right, and the first one
at fault decides what is wrong. An option that is not given may be set by a variable of the
environment, and otherwise has its default.
-/

import PerpDeploy.Contract.Artifact
import PerpDeploy.Layers.Environment
import PerpDeploy.Run.Builder
import PerpDeploy.Settings.Network

namespace PerpDeploy.CommandLine

inductive Verbosity
  | off
  | error
  | warn
  | info
  | debug
  | trace
  deriving DecidableEq, Repr

namespace Verbosity

def text : Verbosity → String
  | .off => "off"
  | .error => "error"
  | .warn => "warn"
  | .info => "info"
  | .debug => "debug"
  | .trace => "trace"

/-- From the least to the most. -/
def all : List Verbosity := [.off, .error, .warn, .info, .debug, .trace]

/-- A number counts the levels; a name may be in any case, and no name at all stands for errors.
-/
def ofText? (text : String) : Option Verbosity :=
  let number? := (Number.readNatural Number.wordLimit text).toOption
  let byNumber := number?.bind fun number => all[number]?
  let name := String.ofList (text.toList.map Char.toLower)
  byNumber.or (if name.isEmpty then some .error else all.find? fun level => level.text == name)

def admits (verbosity : Verbosity) : LogLevel → Bool
  | .error => verbosity != .off
  | .warning => verbosity != .off && verbosity != .error
  | .info => verbosity != .off && verbosity != .error && verbosity != .warn

end Verbosity

inductive ArgumentFault
  | unknownArgument
  /-- A value is missing, or is empty where a path is needed. -/
  | invalidValue
  | valueValidation
  | tooManyValues
  | argumentConflict
  /-- Not a fault of the operator, who asks for help. -/
  | displayHelp
  | displayVersion
  deriving DecidableEq, Repr

inductive Setting
  | verbosity
  | network
  | config
  | artifacts
  | output
  | mnemonic
  | nodeUrl
  | chainId
  | binary
  | keyName
  | keyringBackend
  | gasPrices
  | gasAdjustment
  | confirmationTimeout
  deriving DecidableEq, Repr

inductive Switch
  | dryRun
  | noWait
  | help
  | version
  deriving DecidableEq, Repr

inductive Choice
  | setting (setting : Setting)
  | switch (switch : Switch)
  deriving DecidableEq, Repr

def longNames : List (String × Choice) :=
  [ ("verbosity", .setting .verbosity),
    ("network", .setting .network),
    ("config", .setting .config),
    ("artifacts", .setting .artifacts),
    ("outdata", .setting .output),
    ("mnemonic", .setting .mnemonic),
    ("dry-run", .switch .dryRun),
    ("node-url", .setting .nodeUrl),
    ("chain-id", .setting .chainId),
    ("binary", .setting .binary),
    ("key-name", .setting .keyName),
    ("keyring-backend", .setting .keyringBackend),
    ("gas-prices", .setting .gasPrices),
    ("gas-adjustment", .setting .gasAdjustment),
    ("confirmation-timeout-secs", .setting .confirmationTimeout),
    ("no-wait", .switch .noWait),
    ("help", .switch .help),
    ("version", .switch .version) ]

def shortNames : List (Char × Choice) :=
  [ ('v', .setting .verbosity),
    ('n', .setting .network),
    ('c', .setting .config),
    ('h', .switch .help),
    ('V', .switch .version) ]

/-- The variables that stand in for options, in the order in which they are read. -/
def optionVariables : List (String × Setting) :=
  [ ("MARGINED_VERBOSITY", .verbosity),
    ("MARGINED_NETWORK", .network),
    ("MARGINED_CONFIG", .config),
    ("MARGINED_ARTIFACTS", .artifacts),
    ("MARGINED_OUTDATA", .output),
    ("MARGINED_MNEMONIC", .mnemonic) ]

structure Given where
  verbosity : Option Verbosity
  network : Option String
  config : Option Path
  artifacts : Option Path
  output : Option OutputDirectory
  mnemonic : Option String
  dryRun : Bool
  overrides : Overrides
  deriving DecidableEq

namespace Given

def nothing : Given :=
  { verbosity := none, network := none, config := none, artifacts := none, output := none
    mnemonic := none, dryRun := false, overrides := .none }

def holds (given : Given) : Setting → Bool
  | .verbosity => given.verbosity.isSome
  | .network => given.network.isSome
  | .config => given.config.isSome
  | .artifacts => given.artifacts.isSome
  | .output => given.output.isSome
  | .mnemonic => given.mnemonic.isSome
  | .nodeUrl => given.overrides.nodeUrl.isSome
  | .chainId => given.overrides.chainId.isSome
  | .binary => given.overrides.binary.isSome
  | .keyName => given.overrides.keyName.isSome
  | .keyringBackend => given.overrides.keyringBackend.isSome
  | .gasPrices => given.overrides.gasPrices.isSome
  | .gasAdjustment => given.overrides.gasAdjustment.isSome
  | .confirmationTimeout => given.overrides.confirmationTimeout.isSome

private def readPath (text : String) : Except ArgumentFault Path :=
  if text.isEmpty then .error .invalidValue else .ok text

private def orInvalid {α : Type} : Option α → Except ArgumentFault α
  | some value => .ok value
  | none => .error .valueValidation

def readOutput (text : String) : OutputDirectory :=
  if text = "temp-dir" then .temporary else .path text

def put (given : Given) (setting : Setting) (text : String) : Except ArgumentFault Given := do
  let overrides := given.overrides
  match setting with
  | .verbosity => .ok { given with verbosity := some (← orInvalid (Verbosity.ofText? text)) }
  | .network => .ok { given with network := some text }
  | .config => .ok { given with config := some (← readPath text) }
  | .artifacts => .ok { given with artifacts := some (← readPath text) }
  | .output => .ok { given with output := some (readOutput text) }
  | .mnemonic => .ok { given with mnemonic := some text }
  | .nodeUrl =>
      let url ← orInvalid (Url.parse text).toOption
      .ok { given with overrides := { overrides with nodeUrl := some url.text } }
  | .chainId => .ok { given with overrides := { overrides with chainId := some text } }
  | .binary => .ok { given with overrides := { overrides with binary := some text } }
  | .keyName => .ok { given with overrides := { overrides with keyName := some text } }
  | .keyringBackend =>
      .ok { given with overrides := { overrides with keyringBackend := some text } }
  | .gasPrices => .ok { given with overrides := { overrides with gasPrices := some text } }
  | .gasAdjustment =>
      let value ← orInvalid (Number.readFloat? text)
      .ok { given with overrides := { overrides with gasAdjustment := some value } }
  | .confirmationTimeout =>
      let value ← orInvalid (Number.readNatural Number.wordLimit text).toOption
      .ok { given with overrides := { overrides with confirmationTimeout := some value } }

def putOnce (given : Given) (setting : Setting) (text : String) : Except ArgumentFault Given :=
  if given.holds setting then .error .argumentConflict else given.put setting text

def turnOn (given : Given) : Switch → Except ArgumentFault Given
  | .dryRun => if given.dryRun then .error .argumentConflict else .ok { given with dryRun := true }
  | .noWait =>
      if given.overrides.noWait then .error .argumentConflict
      else .ok { given with overrides := { given.overrides with noWait := true } }
  | .help => .error .displayHelp
  | .version => .error .displayVersion

/-- Takes from the environment what has not been given. -/
def complete (given : Given) (environment : Layers.Environment) : Except ArgumentFault Given :=
  optionVariables.foldlM
    (fun given entry =>
      if given.holds entry.2 then .ok given
      else match environment.find? entry.1 with
        | some text => given.put entry.2 text
        | none => .ok given)
    given

end Given

/-! ### Reading arguments -/

/-- A setting whose value stands in an argument of its own; it is read when the next option
begins. -/
inductive Pending
  | nothing
  | awaited (setting : Setting)
  | read (setting : Setting) (text : String)
  deriving DecidableEq, Repr

structure Progress where
  given : Given
  pending : Pending

namespace Progress

def start : Progress := { given := .nothing, pending := .nothing }

def settle (progress : Progress) : Except ArgumentFault Given :=
  match progress.pending with
  | .nothing => .ok progress.given
  | .awaited _ => .error .invalidValue
  | .read setting text => progress.given.putOnce setting text

def choose (progress : Progress) (choice : Choice) (attached : Option String) :
    Except ArgumentFault Progress :=
  match choice, attached with
  | .switch _, some _ => .error .tooManyValues
  | .switch switch, none => do
      .ok { given := ← (← progress.settle).turnOn switch, pending := .nothing }
  | .setting setting, some text => do
      .ok { given := ← (← progress.settle).putOnce setting text, pending := .nothing }
  | .setting setting, none => do .ok { given := ← progress.settle, pending := .awaited setting }

/-- An argument that begins no option is the value of the one before it. -/
def takeValue (progress : Progress) (text : String) : Except ArgumentFault Progress :=
  match progress.pending with
  | .awaited setting => .ok { progress with pending := .read setting text }
  | _ => .error .unknownArgument

private def find? {κ : Type} [BEq κ] (name : κ) (names : List (κ × Choice)) :
    Except ArgumentFault Choice :=
  match names.find? fun entry => entry.1 == name with
  | some (_, choice) => .ok choice
  | none => .error .unknownArgument

def takeLong (progress : Progress) (chars : List Char) : Except ArgumentFault Progress := do
  let (name, rest) := chars.span (· ≠ '=')
  let choice ← find? (String.ofList name) longNames
  progress.choose choice (rest.tail?.map String.ofList)

def takeShort (progress : Progress) (name : Char) (rest : List Char) :
    Except ArgumentFault Progress := do
  let choice ← find? name shortNames
  match choice, rest with
  | .setting _, '=' :: value => progress.choose choice (some (String.ofList value))
  | .setting _, first :: value => progress.choose choice (some (String.ofList (first :: value)))
  | _, _ => progress.choose choice none

/-- After two dashes nothing more is understood. -/
def take (progress : Progress) : List String → Except ArgumentFault Given
  | [] => progress.settle
  | argument :: rest =>
      match argument.toList with
      | ['-', '-'] => if rest.isEmpty then progress.settle else .error .unknownArgument
      | '-' :: '-' :: name => do Progress.take (← progress.takeLong name) rest
      | '-' :: name :: value => do Progress.take (← progress.takeShort name value) rest
      | _ => do Progress.take (← progress.takeValue argument) rest

end Progress

structure Options where
  verbosity : Verbosity
  network : String
  config : Path
  artifacts : Path
  output : Option OutputDirectory
  mnemonic : Option String
  dryRun : Bool
  overrides : Overrides
  deriving DecidableEq

namespace Options

def defaultConfig : Path := "Margined.toml"

def ofGiven (given : Given) : Options :=
  { verbosity := given.verbosity.getD .info
    network := given.network.getD Network.localChain.text
    config := given.config.getD defaultConfig
    artifacts := given.artifacts.getD ArtifactStore.defaultRoot
    output := given.output
    mnemonic := given.mnemonic
    dryRun := given.dryRun
    overrides := given.overrides }

def read (arguments : List String) (environment : Layers.Environment) :
    Except ArgumentFault Options := do
  let given ← Progress.start.take arguments
  .ok (ofGiven (← given.complete environment))

end Options

end PerpDeploy.CommandLine
