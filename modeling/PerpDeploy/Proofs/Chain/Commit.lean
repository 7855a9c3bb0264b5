/-
What an operation has done on the chain when it says that it is done. A transaction counts
as committed if the node has taken it and, where transactions are waited for, a block holds
it, both with code zero. `Commits` is this reading of the replies; the operations are
characterized by it. Whatever the replies are, each command of an operation is run once at
most.
-/

import PerpDeploy.Proofs.Chain.Conversation
import PerpDeploy.Proofs.Chain.Keyring
import PerpDeploy.Proofs.Chain.Polling
import PerpDeploy.Settings.Network

namespace PerpDeploy

/-- The key that a request is signed with. -/
def ChainRequest.keyName? : ChainRequest → Option String
  | .accountAddress identity => some identity.keyName
  | .deploy identity .. => some identity.keyName
  | .execute identity .. => some identity.keyName
  | .query .. => none

namespace NodeClient

variable {α β : Type}

def storeArguments (artifact : Path) : List String := ["tx", "wasm", "store", artifact]

def instantiateArguments (codeId : Nat) (message : Json) (label : String) : List String :=
  [ "tx", "wasm", "instantiate", toString codeId, message.compact, "--label", label,
    "--no-admin" ]

def executeArguments (contract : String) (message : Json) : List String :=
  ["tx", "wasm", "execute", contract, message.compact]

def queryArguments (client : NodeClient) (contract : String) (message : Json) : List String :=
  [ "query", "wasm", "contract-state", "smart", contract, message.compact,
    "--node", client.nodeUrl, "--output", "json" ]

/-- The command that signs a transaction and hands it to the node. -/
def signing (client : NodeClient) (keyName : String) (arguments : List String) : Invocation :=
  .ofInput (arguments ++ client.signingArguments keyName) none

/-- The node takes the transaction. -/
structure Accepts (client : NodeClient) (keyName : String) (arguments : List String)
    (state : NodeState) (reply : BroadcastReply) : Prop where
  starts : client.Starts (arguments ++ client.signingArguments keyName)
  answers : (client.host.reply state.invocations.length).Answers reply
  code : reply.code = 0

/-- A transaction that the node has taken is in a block, which may have to be waited for. -/
inductive Confirms (client : NodeClient) (reply : BroadcastReply) (state : NodeState) :
    CommittedTransaction → NodeState → Prop
  | inBlock (mode : client.settings.confirmation = .block) :
      Confirms client reply state
        { hash := reply.hash, events := reply.events ++ reply.logs.flatten } state
  | polled {timeout interval : Nat} {result : TransactionResult} {posted : Posted}
      (mode : client.settings.confirmation = .poll timeout interval)
      (found : Rpc.waitForTransaction client.host.http client.nodeUrl reply.hash
        (timeout * 1000) (interval * 1000) state.posted = (.ok result, posted))
      (code : result.code = 0) :
      Confirms client reply state { hash := reply.hash, events := result.events }
        { state with posted }

/-- The transaction is signed, taken by the node and in a block, with code zero throughout. -/
def Commits (client : NodeClient) (keyName : String) (arguments : List String)
    (state : NodeState) (transaction : CommittedTransaction) (after : NodeState) : Prop :=
  ∃ reply, client.Accepts keyName arguments state reply ∧
    client.Confirms reply (state.invoked (client.signing keyName arguments)) transaction after

/-- What a deployment is made of. -/
inductive Deploys (client : NodeClient) (keyName : String) (artifact : Path) (message : Json)
    (label : String) (state : NodeState) : DeployedContract → NodeState → Prop
  | deployed {stored created : CommittedTransaction} {between after : NodeState}
      {text address : String} {codeId : Nat}
      (stores : client.Commits keyName (storeArguments artifact) state stored between)
      (told : findAttribute? stored.events "store_code" "code_id" = some text)
      (number : Number.readNatural Number.wordLimit text = .ok codeId)
      (instantiates : client.Commits keyName (instantiateArguments codeId message label) between
        created after)
      (placed : findAttribute? created.events "instantiate" "_contract_address" =
        some address) :
      Deploys client keyName artifact message label state { address, codeId := some codeId }
        after

/-- The commands that a request runs once its key is ready, in their order. A contract is made
only of code that has been stored and has an id. -/
inductive Sends (client : NodeClient) (state : NodeState) : ChainRequest → List Invocation → Prop
  | silent {request : ChainRequest} : Sends client state request []
  | address {identity : Identity} :
      Sends client state (.accountAddress identity)
        [.ofInput (client.showArguments identity.keyName) none]
  | execution {identity : Identity} {contract : String} {message : Json} :
      Sends client state (.execute identity contract message)
        [client.signing identity.keyName (executeArguments contract message)]
  | storage {identity : Identity} {artifact : Path} {message : Json} {label : String} :
      Sends client state (.deploy identity artifact message label)
        [client.signing identity.keyName (storeArguments artifact)]
  | creation {identity : Identity} {artifact : Path} {message : Json} {label : String}
      {stored : CommittedTransaction} {between : NodeState} {codeId : Nat}
      (stores : client.Commits identity.keyName (storeArguments artifact) state stored between)
      (told : storedCode stored = .ok codeId) :
      Sends client state (.deploy identity artifact message label)
        [ client.signing identity.keyName (storeArguments artifact),
          client.signing identity.keyName (instantiateArguments codeId message label) ]
  | question {contract : String} {message : Json} :
      Sends client state (.query contract message)
        [.ofInput (client.queryArguments contract message) none]

/-- The commands that requests run which are answered one after the other. -/
inductive Conducts (client : NodeClient) :
    NodeState → List ChainRequest → List Invocation → Prop
  | done {state : NodeState} : Conducts client state [] []
  | next {state : NodeState} {request : ChainRequest} {rest : List ChainRequest}
      {made more : List Invocation} (sends : client.Sends state request made)
      (onward : Conducts client (client.chainClient.answer request state).2 rest more) :
      Conducts client state (request :: rest) (made ++ more)

/-! ### One transaction -/

theorem awaitCommit_run (client : NodeClient) (hash : String) (timeout interval : Nat)
    (state : NodeState) :
    (client.awaitCommit hash timeout interval).run.run state =
      let waited := Rpc.waitForTransaction client.host.http client.nodeUrl hash
        (timeout * 1000) (interval * 1000) state.posted
      (waited.1, { state with posted := waited.2 }) := rfl

theorem confirm_ok_iff (client : NodeClient) (reply : BroadcastReply) (state after : NodeState)
    (transaction : CommittedTransaction) :
    (client.confirm reply).run.run state = (.ok transaction, after) ↔
      client.Confirms reply state transaction after := by
  unfold confirm
  constructor
  · intro confirmed
    cases mode : client.settings.confirmation with
    | block =>
        rw [mode] at confirmed
        cases confirmed
        exact .inBlock mode
    | poll timeout interval =>
        rw [mode] at confirmed
        obtain ⟨result, between, waited, checked⟩ := (bind_ok_iff _ _ _ _ _).mp confirmed
        rw [awaitCommit_run] at waited
        cases found : Rpc.waitForTransaction client.host.http client.nodeUrl reply.hash
            (timeout * 1000) (interval * 1000) state.posted with
        | mk answer posted =>
            rw [found] at waited
            cases waited
            by_cases code : result.code = 0
            · rw [if_pos code] at checked
              cases checked
              exact .polled mode found code
            · rw [if_neg code] at checked
              cases checked
  · intro confirms
    cases confirms with
    | inBlock mode =>
        rw [mode]
        rfl
    | @polled timeout interval result posted mode found code =>
        rw [mode]
        have waited : (client.awaitCommit reply.hash timeout interval).run.run state =
            (.ok result, { state with posted }) := by
          rw [awaitCommit_run, found]
        dsimp only
        rw [bind_of_ok waited, if_pos code]
        rfl

/-- A broadcast whose key is ready. -/
def submit (client : NodeClient) (keyName : String) (arguments : List String) :
    Action CommittedTransaction := do
  let output ← client.run (arguments ++ client.signingArguments keyName) none
  let reply ← decodeOutput BroadcastReply.decoder "Failed to parse broadcast response" output
  if reply.code = 0 then client.confirm reply
  else throw (failedTransaction reply.hash reply.code reply.rawLog)

theorem broadcast_of_prepared {identity : Identity} {state : NodeState}
    (prepared : identity.keyName ∈ state.preparedKeys) (client : NodeClient)
    (arguments : List String) :
    (client.broadcast identity arguments).run.run state =
      (client.submit identity.keyName arguments).run.run state :=
  bind_of_ok (ensureKey_of_prepared prepared) fun _ => client.submit identity.keyName arguments

theorem submit_ok_iff (client : NodeClient) (keyName : String) (arguments : List String)
    (state after : NodeState) (transaction : CommittedTransaction) :
    (client.submit keyName arguments).run.run state = (.ok transaction, after) ↔
      client.Commits keyName arguments state transaction after := by
  unfold submit
  constructor
  · intro submitted
    obtain ⟨output, signed, ran, rest⟩ := (bind_ok_iff _ _ _ _ _).mp submitted
    obtain ⟨reply, _, read, confirmed⟩ := (bind_ok_iff _ _ _ _ _).mp rest
    obtain ⟨starts, printed, rfl⟩ := (run_ok_iff _ _ _ _ _ _).mp ran
    obtain ⟨decoded, rfl⟩ := (decodeOutput_ok_iff _ _ _ _ _ _).mp read
    have answers : (client.host.reply state.invocations.length).Answers reply :=
      ProcessReply.answers_iff.mpr ⟨output, printed, decoded⟩
    by_cases code : reply.code = 0
    · rw [if_pos code] at confirmed
      exact ⟨reply, { starts, answers, code }, (confirm_ok_iff _ _ _ _ _).mp confirmed⟩
    · rw [if_neg code] at confirmed
      cases confirmed
  · rintro ⟨reply, accepts, confirms⟩
    obtain ⟨output, printed, decoded⟩ := ProcessReply.answers_iff.mp accepts.answers
    have ran := (run_ok_iff client _ none state _ _).mpr ⟨accepts.starts, printed, rfl⟩
    rw [bind_of_ok ran, bind_of_ok ((decodeOutput_ok_iff _ _ _ _ _ _).mpr ⟨decoded, rfl⟩),
      if_pos accepts.code]
    exact (confirm_ok_iff _ _ _ _ _).mpr confirms

/-! ### The commands that are run -/

/-- The commands were run in between, and the same keys are ready. -/
structure Extends (state : NodeState) (made : List Invocation) (after : NodeState) : Prop where
  keys : after.preparedKeys = state.preparedKeys
  invocations : after.invocations = state.invocations ++ made

theorem Extends.refl (state : NodeState) : Extends state [] state :=
  { keys := rfl, invocations := (List.append_nil _).symm }

theorem Extends.trans {first second third : NodeState} {made more : List Invocation}
    (early : Extends first made second) (late : Extends second more third) :
    Extends first (made ++ more) third :=
  { keys := late.keys.trans early.keys
    invocations := by rw [late.invocations, early.invocations, List.append_assoc] }

theorem extends_invoked (state : NodeState) (invocation : Invocation) :
    Extends state [invocation] (state.invoked invocation) := { keys := rfl, invocations := rfl }

/-- An action that runs no command. -/
def Still (action : Action α) : Prop :=
  ∀ state, Extends state [] (action.run.run state).2

theorem extends_bind_still {action : Action α} {next : α → Action β} {state : NodeState}
    {made : List Invocation} (first : Extends state made (action.run.run state).2)
    (rest : ∀ value, Still (next value)) :
    Extends state made ((action >>= next).run.run state).2 := by
  cases done : action.run.run state with
  | mk result between =>
      rw [done] at first
      cases result with
      | error trail =>
          rw [bind_of_error done]
          exact first
      | ok value =>
          rw [bind_of_ok done]
          have whole := first.trans (rest value between)
          rwa [List.append_nil] at whole

theorem Still.bind {action : Action α} {next : α → Action β} (first : Still action)
    (rest : ∀ value, Still (next value)) : Still (action >>= next) :=
  fun state => extends_bind_still (first state) rest

theorem still_pure (value : α) : Still (pure value) := fun state => .refl state

theorem still_ofExcept (result : Except Trail α) : Still (ofExcept result) :=
  fun state => .refl state

theorem still_decodeOutput (decoder : Json.Decoder α) (message output : String) :
    Still (decodeOutput decoder message output) := by
  intro state
  rw [decodeOutput_run]
  exact .refl state

theorem still_confirm (client : NodeClient) (reply : BroadcastReply) :
    Still (client.confirm reply) := by
  unfold confirm
  cases client.settings.confirmation with
  | block => exact still_pure _
  | poll timeout interval =>
      have waits : Still (client.awaitCommit reply.hash timeout interval) := by
        intro state
        rw [awaitCommit_run]
        exact { keys := rfl, invocations := (List.append_nil _).symm }
      apply waits.bind
      intro result
      split
      · exact still_pure _
      · exact still_ofExcept (.error _)

theorem run_extends (client : NodeClient) (arguments : List String) (input : Option String)
    (state : NodeState) :
    Extends state [] ((client.run arguments input).run.run state).2 ∨
      Extends state [.ofInput arguments input] ((client.run arguments input).run.run state).2 := by
  by_cases starts : client.Starts arguments
  · right
    rw [run_of_starts starts]
    exact extends_invoked state _
  · left
    obtain ⟨trail, stuck⟩ := run_of_not_starts starts
    rw [stuck]
    exact .refl state

theorem submit_extends (client : NodeClient) (keyName : String) (arguments : List String)
    (state : NodeState) :
    Extends state [] ((client.submit keyName arguments).run.run state).2 ∨
      Extends state [client.signing keyName arguments]
        ((client.submit keyName arguments).run.run state).2 := by
  have rest : ∀ output, Still (do
      let reply ← decodeOutput BroadcastReply.decoder "Failed to parse broadcast response" output
      if reply.code = 0 then client.confirm reply
      else throw (failedTransaction reply.hash reply.code reply.rawLog)) := by
    intro output
    apply (still_decodeOutput _ _ _).bind
    intro reply
    split
    · exact still_confirm client reply
    · exact still_ofExcept (.error _)
  unfold submit
  rcases run_extends client (arguments ++ client.signingArguments keyName) none state with
    silent | signed
  · exact Or.inl (extends_bind_still silent rest)
  · exact Or.inr (extends_bind_still signed rest)

theorem extends_within {action : Action α} {state : NodeState} {made : List Invocation}
    (inner : Extends state made (action.run.run state).2) (message : String) :
    Extends state made ((within message action).run.run state).2 := by
  rw [within_state]
  exact inner

theorem broadcast_extends {identity : Identity} {state : NodeState}
    (prepared : identity.keyName ∈ state.preparedKeys) (client : NodeClient)
    (arguments : List String) :
    Extends state [] ((client.broadcast identity arguments).run.run state).2 ∨
      Extends state [client.signing identity.keyName arguments]
        ((client.broadcast identity arguments).run.run state).2 := by
  rw [broadcast_of_prepared prepared]
  exact submit_extends client identity.keyName arguments state

theorem Commits.extends {client : NodeClient} {keyName : String} {arguments : List String}
    {state after : NodeState} {transaction : CommittedTransaction}
    (commits : client.Commits keyName arguments state transaction after) :
    Extends state [client.signing keyName arguments] after := by
  obtain ⟨reply, accepts, confirms⟩ := commits
  cases confirms with
  | inBlock mode => exact extends_invoked state _
  | polled mode found code => exact { keys := rfl, invocations := rfl }

theorem storedCode_ok_iff (transaction : CommittedTransaction) (codeId : Nat) :
    storedCode transaction = .ok codeId ↔
      ∃ text, findAttribute? transaction.events "store_code" "code_id" = some text ∧
        Number.readNatural Number.wordLimit text = .ok codeId := by
  unfold storedCode
  cases found : findAttribute? transaction.events "store_code" "code_id" with
  | none =>
      constructor
      · intro told
        cases told
      · rintro ⟨text, told, _⟩
        cases told
  | some text =>
      constructor
      · intro told
        refine ⟨text, rfl, ?_⟩
        cases number : Number.readNatural Number.wordLimit text with
        | error fault =>
            simp only [number] at told
            cases told
        | ok value =>
            simp only [number] at told
            cases told
            rfl
      · rintro ⟨other, same, number⟩
        cases same
        simp only [number]

theorem instantiatedAddress_ok_iff (transaction : CommittedTransaction) (address : String) :
    instantiatedAddress transaction = .ok address ↔
      findAttribute? transaction.events "instantiate" "_contract_address" = some address := by
  unfold instantiatedAddress
  cases findAttribute? transaction.events "instantiate" "_contract_address" <;> simp

/-! ### Operations whose key is ready -/

theorem execute_ok_iff {identity : Identity} {state : NodeState}
    (prepared : identity.keyName ∈ state.preparedKeys) (client : NodeClient)
    (contract : String) (message : Json) (receipt : ExecuteReceipt) (after : NodeState) :
    (client.execute identity contract message).run.run state = (.ok receipt, after) ↔
      ∃ transaction, client.Commits identity.keyName (executeArguments contract message) state
          transaction after ∧ receipt = { transaction := transaction.hash } := by
  unfold execute
  rw [bind_ok_iff]
  constructor
  · rintro ⟨transaction, between, broadcast, given⟩
    rw [within_ok_iff, broadcast_of_prepared prepared, submit_ok_iff] at broadcast
    cases given
    exact ⟨transaction, broadcast, rfl⟩
  · rintro ⟨transaction, commits, rfl⟩
    refine ⟨transaction, after, ?_, rfl⟩
    rw [within_ok_iff, broadcast_of_prepared prepared, submit_ok_iff]
    exact commits

/-- The second transaction of a deployment, which makes a contract of stored code. -/
def create (client : NodeClient) (identity : Identity) (codeId : Nat) (message : Json)
    (label : String) : Action DeployedContract := do
  let created ← within ("Failed to instantiate code id " ++ toString codeId)
    (client.broadcast identity (instantiateArguments codeId message label))
  let address ← ofExcept (instantiatedAddress created)
  pure { address, codeId := some codeId }

theorem deploy_eq (client : NodeClient) (identity : Identity) (artifact : Path) (message : Json)
    (label : String) :
    client.deploy identity artifact message label = (do
      let stored ← within ("Failed to store " ++ artifact)
        (client.broadcast identity (storeArguments artifact))
      let codeId ← ofExcept (storedCode stored)
      client.create identity codeId message label) := rfl

theorem create_ok_iff {identity : Identity} {state : NodeState}
    (prepared : identity.keyName ∈ state.preparedKeys) (client : NodeClient) (codeId : Nat)
    (message : Json) (label : String) (contract : DeployedContract) (after : NodeState) :
    (client.create identity codeId message label).run.run state = (.ok contract, after) ↔
      ∃ created address,
        client.Commits identity.keyName (instantiateArguments codeId message label) state created
          after ∧
        findAttribute? created.events "instantiate" "_contract_address" = some address ∧
        contract = { address, codeId := some codeId } := by
  unfold create
  constructor
  · intro made
    obtain ⟨created, between, instantiated, made⟩ := (bind_ok_iff _ _ _ _ _).mp made
    obtain ⟨address, _, addressed, given⟩ := (bind_ok_iff _ _ _ _ _).mp made
    rw [within_ok_iff, broadcast_of_prepared prepared, submit_ok_iff] at instantiated
    obtain ⟨placed, rfl⟩ := (ofExcept_ok_iff _ _ _ _).mp addressed
    cases given
    exact ⟨created, address, instantiated, (instantiatedAddress_ok_iff _ _).mp placed, rfl⟩
  · rintro ⟨created, address, instantiates, placed, rfl⟩
    have instantiated :=
      (broadcast_of_prepared prepared client (instantiateArguments codeId message label)).trans
        ((submit_ok_iff _ _ _ _ _ _).mpr instantiates)
    have given := (instantiatedAddress_ok_iff created address).mpr placed
    rw [bind_of_ok (within_of_ok instantiated _),
      bind_of_ok ((ofExcept_ok_iff _ _ _ _).mpr ⟨given, rfl⟩)]
    rfl

/-- A key that was ready before a transaction is ready after it. -/
theorem Commits.prepared {client : NodeClient} {keyName : String} {arguments : List String}
    {state after : NodeState} {transaction : CommittedTransaction}
    (commits : client.Commits keyName arguments state transaction after)
    (prepared : keyName ∈ state.preparedKeys) : keyName ∈ after.preparedKeys := by
  rw [commits.extends.keys]
  exact prepared

theorem deploy_ok_iff {identity : Identity} {state : NodeState}
    (prepared : identity.keyName ∈ state.preparedKeys) (client : NodeClient)
    (artifact : Path) (message : Json) (label : String) (contract : DeployedContract)
    (after : NodeState) :
    (client.deploy identity artifact message label).run.run state = (.ok contract, after) ↔
      client.Deploys identity.keyName artifact message label state contract after := by
  rw [deploy_eq]
  constructor
  · intro deployed
    obtain ⟨stored, _, stores, deployed⟩ := (bind_ok_iff _ _ _ _ _).mp deployed
    obtain ⟨codeId, between, numbered, created⟩ := (bind_ok_iff _ _ _ _ _).mp deployed
    obtain ⟨told, rfl⟩ := (ofExcept_ok_iff _ _ _ _).mp numbered
    rw [within_ok_iff, broadcast_of_prepared prepared, submit_ok_iff] at stores
    obtain ⟨text, found, number⟩ := (storedCode_ok_iff _ _).mp told
    obtain ⟨created, address, instantiates, placed, rfl⟩ :=
      (create_ok_iff (stores.prepared prepared) _ _ _ _ _ _).mp created
    exact .deployed stores found number instantiates placed
  · intro deploys
    cases deploys with
    | deployed stores found number instantiates placed =>
        have told := (storedCode_ok_iff _ _).mpr ⟨_, found, number⟩
        have storing := (broadcast_of_prepared prepared client (storeArguments artifact)).trans
          ((submit_ok_iff _ _ _ _ _ _).mpr stores)
        rw [bind_of_ok (within_of_ok storing _),
          bind_of_ok ((ofExcept_ok_iff _ _ _ _).mpr ⟨told, rfl⟩),
          create_ok_iff (stores.prepared prepared)]
        exact ⟨_, _, instantiates, placed, rfl⟩

theorem Deploys.extends {client : NodeClient} {keyName : String} {artifact : Path}
    {message : Json} {label : String} {state after : NodeState} {contract : DeployedContract}
    (deploys : client.Deploys keyName artifact message label state contract after) :
    ∃ codeId, Extends state
      [ client.signing keyName (storeArguments artifact),
        client.signing keyName (instantiateArguments codeId message label) ] after := by
  cases deploys with
  | deployed stores told number instantiates placed =>
      exact ⟨_, stores.extends.trans instantiates.extends⟩

/-- A request has run commands that it may run. -/
def Conducted (client : NodeClient) (state : NodeState) (request : ChainRequest)
    (after : NodeState) : Prop :=
  ∃ made, client.Sends state request made ∧ Extends state made after

theorem accountAddress_conducted {identity : Identity} {state : NodeState}
    (prepared : identity.keyName ∈ state.preparedKeys) (client : NodeClient) :
    client.Conducted state (.accountAddress identity)
      ((client.accountAddress identity).run.run state).2 := by
  unfold accountAddress
  rw [bind_of_ok (ensureKey_of_prepared prepared)]
  have rest : ∀ output, Still (pure (Text.trim output) : Action String) :=
    fun output => still_pure _
  rcases run_extends client (client.showArguments identity.keyName) none state with
    silent | shown
  · exact ⟨[], .silent, extends_bind_still silent rest⟩
  · exact ⟨_, .address, extends_bind_still shown rest⟩

theorem execute_conducted {identity : Identity} {state : NodeState}
    (prepared : identity.keyName ∈ state.preparedKeys) (client : NodeClient)
    (contract : String) (message : Json) :
    client.Conducted state (.execute identity contract message)
      ((client.execute identity contract message).run.run state).2 := by
  have rest : ∀ transaction : CommittedTransaction,
      Still (pure { transaction := transaction.hash } : Action ExecuteReceipt) :=
    fun transaction => still_pure _
  unfold execute
  rcases broadcast_extends prepared client (executeArguments contract message) with
    silent | signed
  · exact ⟨[], .silent, extends_bind_still (extends_within silent _) rest⟩
  · exact ⟨_, .execution, extends_bind_still (extends_within signed _) rest⟩

theorem query_conducted (client : NodeClient) (contract : String) (message : Json)
    (state : NodeState) :
    client.Conducted state (.query contract message)
      ((client.query contract message).run.run state).2 := by
  have rest : ∀ output,
      Still (decodeOutput smartQueryDecoder "Failed to parse query response" output) :=
    fun output => still_decodeOutput _ _ _
  unfold query
  rcases run_extends client (client.queryArguments contract message) none state with
    silent | asked
  · exact ⟨[], .silent, extends_bind_still (extends_within silent _) rest⟩
  · exact ⟨_, .question, extends_bind_still (extends_within asked _) rest⟩

theorem create_extends {identity : Identity} {state : NodeState}
    (prepared : identity.keyName ∈ state.preparedKeys) (client : NodeClient) (codeId : Nat)
    (message : Json) (label : String) :
    Extends state [] ((client.create identity codeId message label).run.run state).2 ∨
      Extends state
        [client.signing identity.keyName (instantiateArguments codeId message label)]
        ((client.create identity codeId message label).run.run state).2 := by
  have rest : ∀ created, Still (do
      let address ← ofExcept (instantiatedAddress created)
      pure ({ address, codeId := some codeId } : DeployedContract)) :=
    fun created => (still_ofExcept _).bind fun address => still_pure _
  unfold create
  rcases broadcast_extends prepared client (instantiateArguments codeId message label) with
    silent | signed
  · exact Or.inl (extends_bind_still (extends_within silent _) rest)
  · exact Or.inr (extends_bind_still (extends_within signed _) rest)

/-- The second transaction of a deployment is signed only after the first is committed. -/
theorem deploy_conducted {identity : Identity} {state : NodeState}
    (prepared : identity.keyName ∈ state.preparedKeys) (client : NodeClient)
    (artifact : Path) (message : Json) (label : String) :
    client.Conducted state (.deploy identity artifact message label)
      ((client.deploy identity artifact message label).run.run state).2 := by
  have ended : ∀ after,
      Extends state [] after ∨
        Extends state [client.signing identity.keyName (storeArguments artifact)] after →
      client.Conducted state (.deploy identity artifact message label) after := by
    rintro after (silent | signed)
    · exact ⟨[], .silent, silent⟩
    · exact ⟨_, .storage, signed⟩
  have storing := submit_extends client identity.keyName (storeArguments artifact) state
  have broadcast := broadcast_of_prepared prepared client (storeArguments artifact)
  rw [deploy_eq]
  cases submitted : (client.submit identity.keyName (storeArguments artifact)).run.run state with
  | mk result between =>
      rw [submitted] at storing broadcast
      cases result with
      | error trail =>
          rw [bind_of_error (within_of_error broadcast _)]
          exact ended between storing
      | ok stored =>
          rw [bind_of_ok (within_of_ok broadcast _)]
          cases told : storedCode stored with
          | error trail => exact ended between storing
          | ok codeId =>
              have stores := (submit_ok_iff _ _ _ _ _ _).mp submitted
              rw [bind_of_ok ((ofExcept_ok_iff _ _ _ _).mpr ⟨rfl, rfl⟩)]
              rcases create_extends (stores.prepared prepared) client codeId message label with
                silent | signed
              · exact ended _ (Or.inr (stores.extends.trans silent))
              · exact ⟨_, .creation stores told, stores.extends.trans signed⟩

theorem answer_conducted (client : NodeClient) {request : ChainRequest} {state : NodeState}
    (ready : ∀ keyName ∈ request.keyName?, keyName ∈ state.preparedKeys) :
    client.Conducted state request (client.chainClient.answer request state).2 := by
  cases request with
  | accountAddress identity => exact accountAddress_conducted (ready _ rfl) client
  | deploy identity artifact message label =>
      exact deploy_conducted (ready _ rfl) client artifact message label
  | execute identity contract message =>
      exact execute_conducted (ready _ rfl) client contract message
  | query contract message => exact query_conducted client contract message state

/-! ### Requests one after the other -/

theorem settle_conducts (client : NodeClient) (requests : List ChainRequest)
    (begun : NodeState)
    (ready : ∀ request ∈ requests, ∀ keyName ∈ request.keyName?, keyName ∈ begun.preparedKeys) :
    ∃ made, client.Conducts begun requests made ∧
      Extends begun made (client.chainClient.settle requests begun) := by
  induction requests generalizing begun with
  | nil => exact ⟨[], .done, .refl begun⟩
  | cons request rest ih =>
      obtain ⟨made, sends, answered⟩ :=
        answer_conducted client (ready request List.mem_cons_self)
      have later : ∀ other ∈ rest, ∀ keyName ∈ other.keyName?,
          keyName ∈ (client.chainClient.answer request begun).2.preparedKeys := by
        intro other member keyName needed
        rw [answered.keys]
        exact ready other (List.mem_cons_of_mem _ member) keyName needed
      obtain ⟨more, onward, extended⟩ := ih _ later
      exact ⟨made ++ more, .next sends onward, answered.trans extended⟩

/-- What becomes of requests answered one after the other, each of them in the state that the
ones before it have left. -/
structure CommitsOnce (client : NodeClient) (begun : NodeState) (requests : List ChainRequest) :
    Prop where
  commands : ∃ made, client.Conducts begun requests made ∧
    (client.chainClient.settle requests begun).invocations = begun.invocations ++ made
  executed : ∀ front later identity contract message,
    requests = front ++ .execute identity contract message :: later →
    ∀ (receipt : ExecuteReceipt) (after : NodeState),
      client.chainClient.answer (.execute identity contract message)
          (client.chainClient.settle front begun) = (.ok receipt, after) ↔
        ∃ transaction, client.Commits identity.keyName (executeArguments contract message)
            (client.chainClient.settle front begun) transaction after ∧
          receipt = { transaction := transaction.hash }
  deployed : ∀ front later identity artifact message label,
    requests = front ++ .deploy identity artifact message label :: later →
    ∀ (contract : DeployedContract) (after : NodeState),
      client.chainClient.answer (.deploy identity artifact message label)
          (client.chainClient.settle front begun) = (.ok contract, after) ↔
        client.Deploys identity.keyName artifact message label
          (client.chainClient.settle front begun) contract after

theorem settle_commits_once (client : NodeClient) (begun : NodeState)
    (requests : List ChainRequest)
    (ready : ∀ request ∈ requests, ∀ keyName ∈ request.keyName?, keyName ∈ begun.preparedKeys) :
    client.CommitsOnce begun requests := by
  have prepared : ∀ front request later, requests = front ++ request :: later →
      ∀ keyName ∈ request.keyName?,
        keyName ∈ (client.chainClient.settle front begun).preparedKeys := by
    intro front request later split keyName needed
    have earlier : ∀ other ∈ front, ∀ keyName ∈ other.keyName?, keyName ∈ begun.preparedKeys := by
      intro other member
      exact ready other (split ▸ List.mem_append_left _ member)
    obtain ⟨made, _, extended⟩ := settle_conducts client front begun earlier
    rw [extended.keys]
    exact ready request (split ▸ List.mem_append_right _ List.mem_cons_self) keyName needed
  obtain ⟨made, conducts, extended⟩ := settle_conducts client requests begun ready
  exact
    { commands := ⟨made, conducts, extended.invocations⟩
      executed := fun front later identity contract message split =>
        execute_ok_iff (prepared front _ later split _ rfl) client contract message
      deployed := fun front later identity artifact message label split =>
        deploy_ok_iff (prepared front _ later split _ rfl) client artifact message label }

/-! ### Nodes that take transactions -/

/-- The texts that an operator chooses and that each transaction is signed with. -/
def signingTexts (client : NodeClient) (keyName : String) : List String :=
  [ client.settings.binary, keyName, client.settings.chainId, client.nodeUrl,
    client.settings.gasPrices, client.settings.keyringBackend ]

theorem starts_of_clean {client : NodeClient} {keyName : String}
    (installed : client.host.installed client.settings.binary = true)
    (texts : (client.signingTexts keyName).any holdsNul = false)
    {arguments : List String} (clean : arguments.any holdsNul = false) :
    client.Starts (arguments ++ client.signingArguments keyName) := by
  have number : holdsNul client.settings.gasAdjustmentText = false := holdsNul_plainFormat _
  have mode : holdsNul (broadcastMode client.settings.confirmation) = false := by
    cases client.settings.confirmation with
    | block => rfl
    | poll timeout interval => exact (by decide : holdsNul "sync" = false)
  have fixed : ["--from", "--chain-id", "--node", "--gas", "auto", "--gas-adjustment",
      "--gas-prices", "--broadcast-mode", "--output", "json", "--yes",
      "--keyring-backend"].any holdsNul = false := rfl
  simp only [signingTexts, List.any_cons, List.any_nil, Bool.or_eq_false_iff] at texts fixed
  refine { fit := ?_, installed }
  simp only [signingArguments, keyringArguments, List.any_cons, List.any_append, List.any_nil,
    clean, number, mode, texts, fixed, Bool.or_false]

section Accepted

variable {client : NodeClient} {keyName : String} {arguments : List String} {state : NodeState}
  {reply : BroadcastReply}

/-- What the node has taken is committed at once if it waits for blocks itself. -/
theorem Accepts.commits_inBlock (accepts : client.Accepts keyName arguments state reply)
    (mode : client.settings.confirmation = .block) :
    client.Commits keyName arguments state
      { hash := reply.hash, events := reply.events ++ reply.logs.flatten }
      (state.invoked (client.signing keyName arguments)) :=
  ⟨reply, accepts, .inBlock mode⟩

/-- It is committed as well if some answer soon enough tells that it is in a block. -/
theorem Accepts.commits_polled (accepts : client.Accepts keyName arguments state reply)
    {timeout interval misses : Nat} (mode : client.settings.confirmation = .poll timeout interval)
    (reachable : Rpc.Reachable client.nodeUrl) (pairs : Codec.HexPairs reply.hash)
    (few : misses ≤ Rpc.retryAttempts (timeout * 1000) (interval * 1000))
    {result : TransactionResult}
    (includes : Rpc.Includes client.host.http state.posted.length misses result)
    (code : result.code = 0) :
    ∃ after, client.Commits keyName arguments state
      { hash := reply.hash, events := result.events } after := by
  obtain ⟨posted, found, -⟩ := Rpc.waitForTransaction_of_includes reachable pairs few includes
  exact ⟨_, reply, accepts, .polled mode found code⟩

end Accepted

/-- A command that has printed a value. -/
def printing (value : Json) : ProcessReply :=
  { stdout := value.compact.toUTF8, stderr := .empty, status := .exited 0 }

/-- What has been printed is read as it was. -/
theorem broadcast?_printing {value : Json} (exact : value.Exact) :
    (printing value).broadcast? =
      (BroadcastReply.decoder .ofText (Json.Document.ofJson value)).toOption := by
  have succeeds : (printing value).Succeeds false :=
    { started := rfl, taken := fun _ => rfl, awaited := rfl, exited := rfl }
  have output : (printing value).output? false = some value.compact :=
    ProcessReply.output?_eq_some_iff.mpr ⟨succeeds, Text.lenientText_toUTF8 _⟩
  rw [ProcessReply.broadcast?, output, Option.bind_some, Json.decodeText_compact _ exact]

def eventJson (kind key value : String) : Json :=
  .object
    [ ("type", .string kind),
      ("attributes", .array [.object [("key", .string key), ("value", .string value)]]) ]

/-- An older node tells of stored code, the seventh, with its texts in base 64. -/
def storedEvent : Json := eventJson "store_code" "Y29kZV9pZA==" "Nw=="

def placedEvent : Json := eventJson "instantiate" "_contract_address" "terra1vamm"

theorem eventJson_exact (kind key value : String) : (eventJson kind key value).Exact := by
  simp [eventJson, Json.Exact, Json.ExactFields, Json.ExactItems]

/-- The answer that a transaction is in a block. -/
def inclusion (events : List Json) : HttpAnswer :=
  .body (Json.object [("result", .object [("tx_result", .object
    [("events", .array events)])])]).compact.toUTF8

theorem included?_inclusion {events : List Json} (exact : Json.ExactItems events)
    (shallow : Json.depthItems events ≤ 123) :
    Rpc.included? (inclusion events) =
      (Json.decodeValue Rpc.lookupDecoder (Json.canonical
        (.object [("tx_result", .object [("events", .array events)])]))).toOption := by
  refine (Rpc.included?_compact ?_ ?_).trans rfl
  · simpa [Json.Exact, Json.ExactFields] using exact
  · simp only [Json.depth, Json.depthFields]
    omega

def obligingReply : ProcessReply :=
  printing (.object [("txhash", .string "00AB"), ("events", .array [storedEvent, placedEvent])])

def obligedTransaction : CommittedTransaction :=
  { hash := "00AB"
    events :=
      [ ⟨"store_code", [⟨"Y29kZV9pZA==", some "Nw=="⟩]⟩,
        ⟨"instantiate", [⟨"_contract_address", some "terra1vamm"⟩]⟩ ] }

theorem obligedTransaction_code : storedCode obligedTransaction = .ok 7 :=
  Json.ok_of_toOption (by decide +kernel)

theorem obligedTransaction_address : instantiatedAddress obligedTransaction = .ok "terra1vamm" :=
  Json.ok_of_toOption (by decide +kernel)

/-- From a command on the node takes every transaction and has it in a block at once. -/
structure Obliges (client : NodeClient) (keyName : String) (begun : Nat) : Prop where
  installed : client.host.installed client.settings.binary = true
  texts : (client.signingTexts keyName).any holdsNul = false
  taken : ∀ position, begun ≤ position → client.host.reply position = obligingReply
  reachable : Rpc.Reachable client.nodeUrl
  included : ∀ position, client.host.http position = inclusion [storedEvent, placedEvent]

theorem Obliges.commits {client : NodeClient} {keyName : String} {begun : Nat}
    (obliges : client.Obliges keyName begun) {arguments : List String}
    (clean : arguments.any holdsNul = false) {state : NodeState}
    (late : begun ≤ state.invocations.length) :
    ∃ after, client.Commits keyName arguments state obligedTransaction after := by
  let reply : BroadcastReply :=
    { hash := "00AB", code := 0, rawLog := "", logs := [], events := obligedTransaction.events }
  have events : Json.ExactItems [storedEvent, placedEvent] :=
    ⟨eventJson_exact _ _ _, eventJson_exact _ _ _, trivial⟩
  have exact : (Json.object
      [("txhash", .string "00AB"), ("events", .array [storedEvent, placedEvent])]).Exact :=
    ⟨trivial, events, trivial⟩
  have told : obligingReply.broadcast? = some reply := (broadcast?_printing exact).trans rfl
  have accepts : client.Accepts keyName arguments state reply :=
    { starts := starts_of_clean obliges.installed obliges.texts clean
      answers := by
        rw [obliges.taken _ late]
        exact ProcessReply.broadcast?_eq_some_iff.mp told
      code := rfl }
  cases mode : client.settings.confirmation with
  | block => exact ⟨_, accepts.commits_inBlock mode⟩
  | poll timeout interval =>
      let result : TransactionResult :=
        { code := 0, log := "", events := obligedTransaction.events }
      have held : Rpc.included? (inclusion [storedEvent, placedEvent]) = some result :=
        (included?_inclusion events (by decide)).trans rfl
      have includes : Rpc.Includes client.host.http state.posted.length 0 result :=
        { missed := fun _ within => by omega
          included := by rw [obliges.included, held] }
      have pairs : Codec.HexPairs "00AB" := ⟨by decide, List.all_eq_true.mp (by decide)⟩
      exact accepts.commits_polled mode obliges.reachable pairs (Nat.zero_le _) includes rfl

def obligingNode (confirmation : Confirmation) : NodeClient :=
  { host :=
      { installed := fun _ => true
        reply := fun _ => obligingReply
        http := fun _ => inclusion [storedEvent, placedEvent] }
    settings := { Network.testnet.defaultSettings with confirmation }
    nodeUrl := "https://[::1]:26657" }

theorem obligingNode_obliges (confirmation : Confirmation) :
    (obligingNode confirmation).Obliges "test1" 0 where
  installed := rfl
  texts := by
    change ["terrad", "test1", "bombay-12", "https://[::1]:26657", "0.15uluna", "test"].any
      holdsNul = false
    decide
  taken _ _ := rfl
  reachable := by
    have scheme : (Url.parse "https://[::1]:26657").toOption.map Url.scheme = some "https" := by
      decide +kernel
    exact Rpc.reachable_of_scheme scheme (.inr rfl)
  included _ := rfl

theorem settle_commits_once_obliging :
    let identity : Identity := { keyName := "test1", mnemonic := none }
    let begun : NodeState := { NodeState.initial with preparedKeys := ["test1"] }
    let deploy := ChainRequest.deploy identity "vamm.wasm" .null "vamm"
    let execute := ChainRequest.execute identity "terra1vamm" .null
    let requests := [deploy, execute, .query "terra1vamm" .null]
    (∀ request ∈ requests, ∀ keyName ∈ request.keyName?, keyName ∈ begun.preparedKeys) ∧
      ∀ confirmation ∈ [.block, .poll 60 2],
        let client := obligingNode confirmation
        client.CommitsOnce begun requests ∧
        (client.chainClient.answer deploy begun).1 =
          .ok { address := "terra1vamm", codeId := some 7 } ∧
        (client.chainClient.answer execute (client.chainClient.settle [deploy] begun)).1 =
          .ok { transaction := "00AB" } := by
  intro identity begun deploy execute requests
  have ready : ∀ request ∈ requests, ∀ keyName ∈ request.keyName?,
      keyName ∈ begun.preparedKeys := by
    simp [requests, deploy, execute, begun, identity, ChainRequest.keyName?]
  refine ⟨ready, fun confirmation _ => ?_⟩
  intro client
  have once : client.CommitsOnce begun requests := settle_commits_once client begun requests ready
  have obliges : client.Obliges "test1" 0 := obligingNode_obliges confirmation
  refine ⟨once, ?_, ?_⟩
  · have storing : (storeArguments "vamm.wasm").any holdsNul = false := by decide
    have creating : (instantiateArguments 7 .null "vamm").any holdsNul = false := by decide
    obtain ⟨between, stores⟩ := obliges.commits storing (Nat.zero_le begun.invocations.length)
    obtain ⟨after, creates⟩ := obliges.commits creating (Nat.zero_le between.invocations.length)
    obtain ⟨_, told, number⟩ := (storedCode_ok_iff _ _).mp obligedTransaction_code
    have placed := (instantiatedAddress_ok_iff _ _).mp obligedTransaction_address
    have deployed := (once.deployed [] _ identity "vamm.wasm" .null "vamm" rfl _ after).mpr
      (.deployed stores told number creates placed)
    exact congrArg Prod.fst deployed
  · have executing : (executeArguments "terra1vamm" .null).any holdsNul = false := by decide
    obtain ⟨after, commits⟩ := obliges.commits executing
      (Nat.zero_le (client.chainClient.settle [deploy] begun).invocations.length)
    have executed := (once.executed [deploy] _ identity "terra1vamm" .null rfl _ after).mpr
      ⟨_, commits, rfl⟩
    exact congrArg Prod.fst executed

end NodeClient

end PerpDeploy
