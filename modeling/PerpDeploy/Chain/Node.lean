/-
A chain reached through the command of a node: transactions are signed and broadcast by
running it. Before the first transaction of a key the keyring is made ready: a key that is
there is used if it agrees with the mnemonic, and one that is not is recovered from it.
-/

import PerpDeploy.Chain.Client
import PerpDeploy.Chain.Rpc
import PerpDeploy.Settings.Basic
import PerpDeploy.Text.Utf8

namespace PerpDeploy

open Json (Fields)

inductive ExitStatus
  | exited (code : Nat)
  | killed (signal : Nat) (dumped : Bool)
  deriving DecidableEq, Repr

/-- The first of the two writes, that of a line and that of its end, for which the command is
found to read no more. -/
inductive InputFault
  | line (fault : FileFault)
  | lineEnd (fault : FileFault)
  deriving DecidableEq, Repr

/-- What becomes of a command. The faults are those of the system, in the order in which they
would come up; that of the input does so only where something is given to be read. -/
structure ProcessReply where
  stdout : ByteArray
  stderr : ByteArray
  status : ExitStatus
  startFault : Option FileFault := none
  inputFault : Option InputFault := none
  waitFault : Option FileFault := none

/-- A command as it has been run; what it is to read is empty if there is nothing. -/
structure Invocation where
  arguments : List String
  input : String
  deriving DecidableEq, Repr

structure NodeHost where
  installed : String → Bool
  reply : Nat → ProcessReply
  http : HttpHost

structure NodeState where
  /-- The keys that are known to be in the keyring. -/
  preparedKeys : List String
  invocations : List Invocation
  posted : Posted

structure NodeClient where
  host : NodeHost
  settings : NetworkSettings
  nodeUrl : String

structure BroadcastReply where
  hash : String
  code : Nat
  rawLog : String
  logs : List (List TransactionEvent)
  events : List TransactionEvent
  deriving DecidableEq, Repr

structure CommittedTransaction where
  hash : String
  events : List TransactionEvent

inductive KeyAction
  | useExisting
  | recover
  deriving DecidableEq, Repr

namespace ExitStatus

/-- The names of the signals, from the first on. -/
def signalNames : List String :=
  [ "SIGHUP", "SIGINT", "SIGQUIT", "SIGILL", "SIGTRAP", "SIGABRT", "SIGBUS", "SIGFPE", "SIGKILL",
    "SIGUSR1", "SIGSEGV", "SIGUSR2", "SIGPIPE", "SIGALRM", "SIGTERM", "SIGSTKFLT", "SIGCHLD",
    "SIGCONT", "SIGSTOP", "SIGTSTP", "SIGTTIN", "SIGTTOU", "SIGURG", "SIGXCPU", "SIGXFSZ",
    "SIGVTALRM", "SIGPROF", "SIGWINCH", "SIGIO", "SIGPWR", "SIGSYS" ]

def signalText (signal : Nat) : String :=
  match ("" :: signalNames)[signal]? with
  | none | some "" => toString signal
  | some name => toString signal ++ " (" ++ name ++ ")"

def text : ExitStatus → String
  | .exited code => "exit status: " ++ toString code
  | .killed signal dumped =>
      "signal: " ++ signalText signal ++ if dumped then " (core dumped)" else ""

end ExitStatus

namespace ProcessReply

/-- Nothing is written for a line without a character, so only its end can tell that the command
does not read. -/
def inputTrail (line : String) : InputFault → Trail
  | .lineEnd fault => Trail.ofCause (.file fault)
  | .line fault =>
      let trail := Trail.ofCause (.file fault)
      if line.isEmpty then trail else trail.within "Failed to write to node command stdin"

/-- What keeps a command from being run to its end. -/
def fault? (reply : ProcessReply) (binary : String) (input : Option String) : Option Trail :=
  let told (message : String) (fault : FileFault) : Trail :=
    (Trail.ofCause (.file fault)).within (message ++ " " ++ binary)
  (reply.startFault.map (told "Failed to start")).or
    ((input.bind fun line => reply.inputFault.map (inputTrail line)).or
      (reply.waitFault.map (told "Failed to wait for")))

def failureText (reply : ProcessReply) : String :=
  let errors := Text.trim (Text.lenientText reply.stderr)
  if errors.isEmpty then Text.trim (Text.lenientText reply.stdout) else errors

end ProcessReply

def NodeState.initial : NodeState := { preparedKeys := [], invocations := [], posted := [] }

/-- Signing with a key that does not agree with the mnemonic would deploy from another account. -/
def KeyAction.choose (keyName : String) (stored derived : Option String) : Except Trail KeyAction :=
  match stored, derived with
  | some stored, some derived =>
      if stored = derived then .ok .useExisting
      else .error (Trail.ofText
        ("Key '" ++ keyName ++ "' in the keyring is " ++ stored ++ " but the mnemonic derives " ++
          derived ++ "; use another key name or remove the existing key"))
  | some _, none => .ok .useExisting
  | none, some _ => .ok .recover
  | none, none => .error (Trail.ofText
      ("Key '" ++ keyName ++ "' is not in the keyring and no mnemonic was provided"))

def BroadcastReply.decoder : Json.Decoder BroadcastReply :=
  let events := Json.Decoder.list TransactionEvent.decoder
  (BroadcastReply.mk <$> Fields.required "txhash" Json.Decoder.string
    <*> Fields.defaulted "code" Json.Decoder.halfWord 0
    <*> Fields.defaulted "raw_log" Json.Decoder.string ""
    <*> Fields.defaulted "logs"
      (Json.Decoder.list (Fields.defaulted "events" events []).decoder) []
    <*> Fields.defaulted "events" events []).decoder

def derivedKeyDecoder : Json.Decoder String :=
  (Fields.required "address" Json.Decoder.string).decoder

def smartQueryDecoder : Json.Decoder Json := (Fields.required "data" Json.Decoder.json).decoder

namespace NodeClient

abbrev Action (α : Type) := ExceptT Trail (StateM NodeState) α

def within {α : Type} (message : String) (action : Action α) : Action α :=
  ExceptT.mk do
    match ← action.run with
    | .ok value => pure (.ok value)
    | .error trail => pure (.error (trail.within message))

def ofExcept {α : Type} (result : Except Trail α) : Action α := ExceptT.mk (pure result)

def decodeOutput {α : Type} (decoder : Json.Decoder α) (message output : String) : Action α :=
  match Json.decodeText decoder output with
  | .ok value => pure value
  | .error fault => throw ((Trail.ofCause (.json fault)).within message)

def holdsNul (text : String) : Bool := text.toList.contains (Char.ofNat 0)

/-- What a command has printed, or what is told of its failure. -/
def verdict (client : NodeClient) (arguments : List String) (input : Option String)
    (reply : ProcessReply) : Except Trail String :=
  let binary := client.settings.binary
  match reply.fault? binary input with
  | some trail => .error trail
  | none =>
      if reply.status = .exited 0 then .ok (Text.lenientText reply.stdout)
      else .error (Trail.ofText
        (binary ++ " " ++ arguments.headD "" ++ " exited with " ++ reply.status.text ++ ": " ++
          reply.failureText))

def run (client : NodeClient) (arguments : List String) (input : Option String) :
    Action String := do
  let binary := client.settings.binary
  if (binary :: arguments).any holdsNul then
    throw ((Trail.ofCause (.file .invalidArgument)).within ("Failed to start " ++ binary))
  else if !client.host.installed binary then
    throw ((Trail.ofCause (.file .notFound)).within ("Failed to start " ++ binary))
  else
    let state ← get
    let reply := client.host.reply state.invocations.length
    let invocation : Invocation :=
      { arguments, input := (input.map fun text => text ++ "\n").getD "" }
    modify fun state => { state with invocations := state.invocations ++ [invocation] }
    ofExcept (client.verdict arguments input reply)

def keyringArguments (client : NodeClient) : List String :=
  ["--keyring-backend", client.settings.keyringBackend]

def broadcastMode : Confirmation → String
  | .block => "block"
  | .poll _ _ => "sync"

def signingArguments (client : NodeClient) (keyName : String) : List String :=
  [ "--from", keyName,
    "--chain-id", client.settings.chainId,
    "--node", client.nodeUrl,
    "--gas", "auto",
    "--gas-adjustment", client.settings.gasAdjustmentText,
    "--gas-prices", client.settings.gasPrices,
    "--broadcast-mode", broadcastMode client.settings.confirmation,
    "--output", "json",
    "--yes" ] ++ client.keyringArguments

def showArguments (client : NodeClient) (keyName : String) : List String :=
  ["keys", "show", keyName, "--address"] ++ client.keyringArguments

def deriveArguments (client : NodeClient) (keyName : String) : List String :=
  ["keys", "add", keyName, "--recover", "--dry-run", "--output", "json"] ++ client.keyringArguments

def recoverArguments (client : NodeClient) (keyName : String) : List String :=
  ["keys", "add", keyName, "--recover"] ++ client.keyringArguments

/-- The address of a key in the keyring; any failure means that there is none. -/
def keyringAddress (client : NodeClient) (keyName : String) : Action (Option String) :=
  ExceptT.mk do
    match ← (client.run (client.showArguments keyName) none).run with
    | .ok output =>
        let address := Text.trim output
        pure (.ok (if address.isEmpty then none else some address))
    | .error _ => pure (.ok none)

/-- The address that a mnemonic leads to; the keyring is left alone. -/
def mnemonicAddress (client : NodeClient) (keyName mnemonic : String) : Action String := do
  let output ← within "Failed to derive the deployer address from the mnemonic"
    (client.run (client.deriveArguments keyName) (some mnemonic))
  decodeOutput derivedKeyDecoder "Failed to parse derived key" (Text.trim output)

def derivedAddress (client : NodeClient) (identity : Identity) : Action (Option String) :=
  match identity.mnemonic with
  | none => pure none
  | some mnemonic => some <$> client.mnemonicAddress identity.keyName mnemonic

def recoverKey (client : NodeClient) (identity : Identity) : Action Unit := do
  let _ ← within ("Failed to recover key '" ++ identity.keyName ++ "'")
    (client.run (client.recoverArguments identity.keyName) identity.mnemonic)
  pure ()

def ensureKey (client : NodeClient) (identity : Identity) : Action Unit := do
  if identity.keyName ∈ (← get).preparedKeys then pure ()
  else
    let stored ← client.keyringAddress identity.keyName
    let derived ← client.derivedAddress identity
    match ← ofExcept (KeyAction.choose identity.keyName stored derived) with
    | .useExisting => pure ()
    | .recover => client.recoverKey identity
    modify fun state => { state with preparedKeys := state.preparedKeys ++ [identity.keyName] }

def failedTransaction (hash : String) (code : Nat) (log : String) : Trail :=
  Trail.ofText ("transaction " ++ hash ++ " failed with code " ++ toString code ++ ": " ++ log)

/-- Waits until a block holds the transaction. Times are in seconds. -/
def awaitCommit (client : NodeClient) (hash : String) (timeout interval : Nat) :
    Action TransactionResult :=
  ExceptT.mk fun state =>
    let (result, posted) := Rpc.waitForTransaction client.host.http client.nodeUrl hash
      (timeout * 1000) (interval * 1000) state.posted
    (result, { state with posted })

def confirm (client : NodeClient) (reply : BroadcastReply) : Action CommittedTransaction :=
  match client.settings.confirmation with
  | .block => pure { hash := reply.hash, events := reply.events ++ reply.logs.flatten }
  | .poll timeout interval => do
      let result ← client.awaitCommit reply.hash timeout interval
      if result.code = 0 then pure { hash := reply.hash, events := result.events }
      else throw (failedTransaction reply.hash result.code result.log)

def broadcast (client : NodeClient) (identity : Identity) (arguments : List String) :
    Action CommittedTransaction := do
  client.ensureKey identity
  let output ← client.run (arguments ++ client.signingArguments identity.keyName) none
  let reply ← decodeOutput BroadcastReply.decoder "Failed to parse broadcast response" output
  if reply.code = 0 then client.confirm reply
  else throw (failedTransaction reply.hash reply.code reply.rawLog)

def accountAddress (client : NodeClient) (identity : Identity) : Action String := do
  client.ensureKey identity
  let output ← client.run (client.showArguments identity.keyName) none
  pure (Text.trim output)

def storedCode (transaction : CommittedTransaction) : Except Trail Nat :=
  match findAttribute? transaction.events "store_code" "code_id" with
  | none => .error (Trail.ofText ("No code id in store transaction " ++ transaction.hash))
  | some text =>
      match Number.readNatural Number.wordLimit text with
      | .ok codeId => .ok codeId
      | .error fault => .error ((Trail.ofCause (.natural fault)).within "Code id is not a number")

def instantiatedAddress (transaction : CommittedTransaction) : Except Trail String :=
  match findAttribute? transaction.events "instantiate" "_contract_address" with
  | some address => .ok address
  | none => .error (Trail.ofText
      ("No contract address in instantiate transaction " ++ transaction.hash))

def deploy (client : NodeClient) (identity : Identity) (artifact : Path) (message : Json)
    (label : String) : Action DeployedContract := do
  let store ← within ("Failed to store " ++ artifact)
    (client.broadcast identity ["tx", "wasm", "store", artifact])
  let codeId ← ofExcept (storedCode store)
  let instantiate ← within ("Failed to instantiate code id " ++ toString codeId)
    (client.broadcast identity
      [ "tx", "wasm", "instantiate", toString codeId, message.compact, "--label", label,
        "--no-admin" ])
  let address ← ofExcept (instantiatedAddress instantiate)
  pure { address, codeId := some codeId }

def execute (client : NodeClient) (identity : Identity) (contract : String) (message : Json) :
    Action ExecuteReceipt := do
  let transaction ← within ("Failed to execute " ++ messageName message ++ " on " ++ contract)
    (client.broadcast identity ["tx", "wasm", "execute", contract, message.compact])
  pure { transaction := transaction.hash }

def query (client : NodeClient) (contract : String) (message : Json) : Action Json := do
  let output ← within ("Failed to query " ++ messageName message ++ " on " ++ contract)
    (client.run
      [ "query", "wasm", "contract-state", "smart", contract, message.compact,
        "--node", client.nodeUrl, "--output", "json" ] none)
  decodeOutput smartQueryDecoder "Failed to parse query response" output

def action (client : NodeClient) : (request : ChainRequest) → Action request.Reply
  | .accountAddress identity => client.accountAddress identity
  | .deploy identity artifact message label => client.deploy identity artifact message label
  | .execute identity contract message => client.execute identity contract message
  | .query contract message => client.query contract message

def chainClient (client : NodeClient) : ChainClient NodeState :=
  { answer := fun request state => (client.action request).run.run state }

end NodeClient

end PerpDeploy
