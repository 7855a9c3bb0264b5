/-
A node that grants whatever can be asked of it. Every message can be handed to a command, since
the writer escapes what a command cannot be given; so a deployment through such a node comes to
its end as soon as its checks have passed and its account is known, and has then signed what its
steps are made of.
-/

import PerpDeploy.Proofs.Chain.Commit
import PerpDeploy.Proofs.Chain.Pairing
import PerpDeploy.Proofs.Json.Decoding
import PerpDeploy.Proofs.Run.Accounts

namespace PerpDeploy

namespace Json

/-! ### Messages as arguments of a command -/

theorem nul_not_mem_escapedCharacter (c : Char) : Char.ofNat 0 ∉ escapedCharacter c := by
  have digits : ∀ value < 16, Char.ofNat 0 ≠ Codec.hexDigit value := by decide
  unfold escapedCharacter
  repeat (split; · decide)
  -- What is left are the other control characters, written by their number, and plain ones.
  split
  · rename_i control
    have high := digits (c.toNat / 16) (by omega)
    have low := digits (c.toNat % 16) (Nat.mod_lt _ (by decide))
    simp only [List.mem_cons, List.not_mem_nil, not_or, high, low]
    decide
  · rename_i printable
    rw [List.mem_singleton]
    rintro rfl
    exact printable (by decide)

theorem nul_not_mem_stringChars (text : String) : Char.ofNat 0 ∉ stringChars text := by
  have quote : Char.ofNat 0 ≠ '"' := by decide
  have inner : Char.ofNat 0 ∉ text.toList.flatMap escapedCharacter := by
    intro member
    obtain ⟨c, _, escaped⟩ := List.mem_flatMap.mp member
    exact nul_not_mem_escapedCharacter c escaped
  simp only [stringChars, List.mem_append, List.mem_cons, List.not_mem_nil, quote, inner, or_self,
    not_false_eq_true]

theorem nul_not_mem_number (number : Number) : Char.ofNat 0 ∉ number.text.toList := by
  have clean : NodeClient.holdsNul number.text = false := by
    cases number with
    | integer value =>
        cases value with
        | ofNat size => exact NodeClient.holdsNul_toString size
        | negSucc size =>
            change NodeClient.holdsNul ("-" ++ toString (size + 1)) = false
            rw [NodeClient.holdsNul_append, NodeClient.holdsNul_toString]
            rfl
    | float value => exact NodeClient.holdsNul_write rfl rfl rfl value
  simpa [NodeClient.holdsNul] using clean

mutual

theorem nul_not_mem_compactChars : (json : Json) → Char.ofNat 0 ∉ compactChars json
  | .null => by decide
  | .bool true => by decide
  | .bool false => by decide
  | .number value => nul_not_mem_number value
  | .string text => nul_not_mem_stringChars text
  | .array items => by
      have inner := nul_not_mem_compactItems items
      simp only [compactChars, List.mem_append, List.mem_cons, inner]
      decide
  | .object fields => by
      have inner := nul_not_mem_compactFields fields
      simp only [compactChars, List.mem_append, List.mem_cons, inner]
      decide

theorem nul_not_mem_compactItems : (items : List Json) → Char.ofNat 0 ∉ compactItems items
  | [] => by decide
  | [item] => nul_not_mem_compactChars item
  | item :: next :: more => by
      have first := nul_not_mem_compactChars item
      have later := nul_not_mem_compactItems (next :: more)
      simp only [compactItems, List.mem_append, List.mem_cons, first, later]
      decide

theorem nul_not_mem_compactFields :
    (fields : List (String × Json)) → Char.ofNat 0 ∉ compactFields fields
  | [] => by decide
  | [(name, value)] => by
      have text := nul_not_mem_stringChars name
      have first := nul_not_mem_compactChars value
      simp only [compactFields, List.mem_append, List.mem_cons, text, first]
      decide
  | (name, value) :: next :: more => by
      have text := nul_not_mem_stringChars name
      have first := nul_not_mem_compactChars value
      have later := nul_not_mem_compactFields (next :: more)
      simp only [compactFields, List.mem_append, List.mem_cons, text, first, later]
      decide

end

end Json

namespace NodeClient

theorem holdsNul_compact (message : Json) : holdsNul message.compact = false := by
  unfold holdsNul Json.compact
  rw [String.toList_ofList, List.contains_eq_mem, decide_eq_false_iff_not]
  exact message.nul_not_mem_compactChars

theorem holdsNul_pathFor {store : ArtifactStore} (clean : holdsNul store.root = false)
    (contract : ContractName) : holdsNul (store.pathFor contract) = false := by
  have name : holdsNul (contract.artifact ++ ArtifactStore.extension) = false := by
    cases contract <;> decide
  have slash : holdsNul "/" = false := rfl
  unfold ArtifactStore.pathFor Path.join
  split
  · exact name
  · split
    · exact name
    · split
      · rw [holdsNul_append, clean, name]
        rfl
      · rw [holdsNul_append, holdsNul_append, clean, slash, name]
        rfl

theorem holdsNul_instanceLabel (step : Step) : holdsNul step.instanceLabel = false := by
  unfold Step.instanceLabel
  cases step.contract <;> decide

/-! ### Requests that are granted -/

/-- From here on each transaction that can be signed is committed, and tells of a code and of a
contract. -/
def Grants (client : NodeClient) (keyName : String) (begun : Nat) : Prop :=
  ∀ state arguments, begun ≤ state.invocations.length → arguments.any holdsNul = false →
    ∃ transaction after codeId address,
      client.Commits keyName arguments state transaction after ∧
      storedCode transaction = .ok codeId ∧
      instantiatedAddress transaction = .ok address ∧ holdsNul address = false

theorem Obliges.grants {client : NodeClient} {keyName : String} {begun : Nat}
    (obliges : client.Obliges keyName begun) : client.Grants keyName begun := by
  intro state arguments late clean
  obtain ⟨after, commits⟩ := obliges.commits clean late
  exact ⟨_, after, 7, "terra1vamm", commits, obligedTransaction_code, obligedTransaction_address,
    rfl⟩

section Requests

variable {client : NodeClient} {identity : Identity} {begun : Nat} {state : NodeState}

theorem Grants.executes (grants : client.Grants identity.keyName begun)
    (prepared : identity.keyName ∈ state.preparedKeys) (late : begun ≤ state.invocations.length)
    {contract : String} (clean : holdsNul contract = false) (message : Json) :
    ∃ receipt after,
      (client.execute identity contract message).run.run state = (.ok receipt, after) := by
  have fit : (executeArguments contract message).any holdsNul = false := by
    simp only [executeArguments, List.any_cons, List.any_nil, clean, holdsNul_compact]
    rfl
  obtain ⟨transaction, after, _, _, commits, _⟩ := grants state _ late fit
  exact ⟨_, after, (execute_ok_iff prepared client contract message _ after).mpr
    ⟨transaction, commits, rfl⟩⟩

theorem Grants.deploys (grants : client.Grants identity.keyName begun)
    (prepared : identity.keyName ∈ state.preparedKeys) (late : begun ≤ state.invocations.length)
    {artifact : Path} {label : String} (whole : holdsNul artifact = false)
    (clean : holdsNul label = false) (message : Json) :
    ∃ contract after,
      (client.deploy identity artifact message label).run.run state = (.ok contract, after) ∧
      holdsNul contract.address = false := by
  have storing : (storeArguments artifact).any holdsNul = false := by
    simp only [storeArguments, List.any_cons, List.any_nil, whole]
    rfl
  obtain ⟨stored, between, codeId, _, stores, told, _⟩ := grants state _ late storing
  have creating : (instantiateArguments codeId message label).any holdsNul = false := by
    simp only [instantiateArguments, List.any_cons, List.any_nil, clean, holdsNul_compact,
      holdsNul_toString]
    rfl
  have later : begun ≤ between.invocations.length := by
    rw [stores.extends.invocations, List.length_append]
    omega
  obtain ⟨created, after, _, address, creates, _, placed, usable⟩ :=
    grants between _ later creating
  obtain ⟨text, found, number⟩ := (storedCode_ok_iff stored codeId).mp told
  refine ⟨{ address, codeId := some codeId }, after, ?_, usable⟩
  rw [deploy_ok_iff prepared]
  have given := (instantiatedAddress_ok_iff created address).mp placed
  exact .deployed stores found number creates given

end Requests

end NodeClient

/-! ### Runs through a granting node -/

namespace RunSetting

open NodeClient

/-- The requests go to a node that grants them from here on, and the artifacts lie where a command
can look for them. -/
structure GrantedBy (setting : RunSetting NodeState) (node : NodeClient) (begun : Nat) : Prop where
  client : setting.client = node.chainClient
  grants : node.Grants setting.identity.keyName begun
  root : holdsNul setting.deployer.artifacts.root = false

/-- The key is ready, and no contract has an address that a command cannot be given. -/
structure Granted (setting : RunSetting NodeState) (begun : Nat) (run : Run NodeState) : Prop where
  prepared : setting.identity.keyName ∈ run.client.preparedKeys
  late : begun ≤ run.client.invocations.length
  clean : ∀ record ∈ run.registry.records, holdsNul record.address = false

section Granting

variable {setting : RunSetting NodeState} {node : NodeClient} {begun : Nat}
  {run : Run NodeState}

theorem granted_opened {before : NodeState}
    (prepared : setting.identity.keyName ∈
      (setting.client.answer (.accountAddress setting.identity) before).2.preparedKeys)
    (late : begun ≤
      (setting.client.answer (.accountAddress setting.identity) before).2.invocations.length)
    (files : FileTree) : setting.Granted begun (setting.opened before files) :=
  { prepared, late, clean := List.forall_mem_nil _ }

theorem Granted.address (granted : setting.Granted begun run) (name : ContractName) :
    holdsNul (run.registry.addressOf name) = false := by
  unfold Registry.addressOf
  cases found : run.registry.get? name with
  | none => rfl
  | some record => exact granted.clean record (List.mem_of_find?_eq_some found)

theorem Granted.attempt (granted : setting.Granted begun run)
    (served : setting.GrantedBy node begun) (step : Step) :
    (setting.attempt step run).failure? = none ∧
      ∀ record, (setting.outcome step run).record? = some record →
        holdsNul record.address = false := by
  unfold outcome RunSetting.attempt
  cases step.kind with
  | deploy =>
      have artifact := holdsNul_pathFor served.root step.contract
      obtain ⟨contract, after, deployed, clean⟩ := served.grants.deploys granted.prepared
        granted.late artifact (holdsNul_instanceLabel step)
        (step.payload.message setting.profile run.registry.addressOf)
      have answered := congrArg Prod.fst deployed
      change (node.chainClient.answer (.deploy _ _ _ _) run.client).1 = .ok contract at answered
      rw [← served.client] at answered
      simp only [answered]
      refine ⟨rfl, fun record made => ?_⟩
      cases made
      exact clean
  | execute =>
      obtain ⟨receipt, after, executed⟩ := served.grants.executes granted.prepared granted.late
        (granted.address step.contract)
        (step.payload.message setting.profile run.registry.addressOf)
      have answered := congrArg Prod.fst executed
      change (node.chainClient.answer (.execute _ _ _) run.client).1 = .ok receipt at answered
      rw [← served.client] at answered
      simp only [answered]
      refine ⟨rfl, fun record made => ?_⟩
      cases made
  | query =>
      dsimp only
      refine ⟨rfl, fun record made => ?_⟩
      revert made
      cases (setting.client.answer _ run.client).1 with
      | ok answer => intro made; cases made
      | error source => intro made; cases made

/-- A step makes nothing undone, and leaves what the next one needs. -/
theorem Granted.advance (granted : setting.Granted begun run)
    (served : setting.GrantedBy node begun) (step : Step) :
    setting.Granted begun (setting.advance step run) ∧
      run.client.invocations <+: (setting.advance step run).client.invocations := by
  have ready : ∀ keyName ∈ (setting.requestOf run.registry.addressOf step).keyName?,
      keyName ∈ run.client.preparedKeys := by
    unfold requestOf
    cases step.kind <;> simp [ChainRequest.keyName?, granted.prepared]
  obtain ⟨made, _, extended⟩ := answer_conducted node ready
  rw [← served.client] at extended
  rw [advance_eq]
  refine ⟨{ prepared := ?_, late := ?_, clean := ?_ }, made, extended.invocations.symm⟩
  · rw [extended.keys]
    exact granted.prepared
  · rw [extended.invocations, List.length_append]
    exact Nat.le_add_right_of_le granted.late
  · intro record member
    rcases List.mem_append.mp member with earlier | new
    · exact granted.clean record earlier
    · exact (granted.attempt served step).2 record (Option.mem_toList.mp new)

/-- A contract is made by transactions. -/
theorem Granted.signs (granted : setting.Granted begun run)
    (served : setting.GrantedBy node begun) {step : Step} (deploys : step.kind = .deploy) :
    ∃ arguments, node.signing setting.identity.keyName ("tx" :: arguments) ∈
      (setting.advance step run).client.invocations := by
  have artifact := holdsNul_pathFor served.root step.contract
  obtain ⟨contract, after, deployed, _⟩ := served.grants.deploys granted.prepared granted.late
    artifact (holdsNul_instanceLabel step)
    (step.payload.message setting.profile run.registry.addressOf)
  have sent : (setting.advance step run).client = after := by
    rw [advance_eq, served.client]
    unfold requestOf
    rw [deploys]
    exact congrArg Prod.snd deployed
  obtain ⟨codeId, extended⟩ := ((deploy_ok_iff granted.prepared ..).mp deployed).extends
  rw [sent, extended.invocations]
  exact ⟨["wasm", "store", _], List.mem_append_right _ List.mem_cons_self⟩

theorem Reaches.granted {start : Run NodeState} {attempts : List Attempt}
    (reached : Reaches setting start attempts run) (granted : setting.Granted begun start)
    (served : setting.GrantedBy node begun) : setting.Granted begun run := by
  induction reached with
  | start => exact granted
  | advance reached admitted succeeded ih => exact (ih.advance served _).1

theorem Reaches.signs {start : Run NodeState} {attempts : List Attempt}
    (reached : Reaches setting start attempts run) (granted : setting.Granted begun start)
    (served : setting.GrantedBy node begun) :
    start.client.invocations <+: run.client.invocations ∧
      ∀ step ∈ attempts.map Attempt.step, step.kind = .deploy → ∃ arguments,
        node.signing setting.identity.keyName ("tx" :: arguments) ∈ run.client.invocations := by
  induction reached with
  | start => exact ⟨List.prefix_rfl, fun step member => by cases member⟩
  | @advance attempts run next reached admitted succeeded ih =>
      have kept := reached.granted granted served
      have grown := (kept.advance served next).2
      refine ⟨ih.1.trans grown, fun step member deploys => ?_⟩
      rw [List.map_append, List.mem_append] at member
      rcases member with earlier | last
      · obtain ⟨arguments, signed⟩ := ih.2 step earlier deploys
        exact ⟨arguments, grown.subset signed⟩
      · rw [List.map_singleton, attempt_step, List.mem_singleton] at last
        rw [last] at deploys
        exact kept.signs served deploys

/-- Through a node that grants every request a run comes to the end of its pipeline, and has then
signed for each contract of it. -/
theorem runPipeline_of_granted {pipeline : Pipeline} {before : NodeState} {files : FileTree}
    {deployer : String} (opens : setting.Opens pipeline before files deployer)
    (served : setting.GrantedBy node begun)
    (granted : setting.Granted begun (setting.opened before files)) :
    let execution := setting.runPipeline pipeline before files
    (∃ report, execution.result = .ok report) ∧
      (setting.opened before files).client.invocations <+: execution.run.client.invocations ∧
      ∀ step ∈ pipeline.steps, step.kind = .deploy → ∃ arguments,
        node.signing setting.identity.keyName ("tx" :: arguments) ∈
          execution.run.client.invocations := by
  intro execution
  obtain ⟨attempts, final, reached, ending⟩ := runPipeline_of_opens opens
  rcases ending with ⟨same, ran⟩ | ⟨step, later, failure, split, admitted, refused, ran⟩
  · change execution = _ at ran
    obtain ⟨grown, signed⟩ := reached.signs granted served
    rw [ran, persist_eq, ← same]
    exact ⟨⟨_, rfl⟩, grown, signed⟩
  · -- The step that halts the run would have been granted like those before it.
    have kept := reached.granted granted served
    rw [(kept.attempt served step).1] at refused
    cases refused

end Granting

end RunSetting

/-! ### A node without the key -/

namespace NodeClient

/-- The keyring does not have the key yet, and tells of it once it has been recovered. -/
def recoveringHost : NodeHost :=
  { installed := fun _ => true
    reply := fun position =>
      if position = 0 then
        { stdout := .empty, stderr := "key not found\n".toUTF8, status := .exited 1 }
      else if position = 1 then printing (.object [("address", .string "terra1deployer")])
      else if position = 2 then { stdout := .empty, stderr := .empty, status := .exited 0 }
      else if position = 3 then
        { stdout := "terra1deployer\n".toUTF8, stderr := .empty, status := .exited 0 }
      else obligingReply
    http := fun _ => inclusion [storedEvent, placedEvent] }

def securely : Overrides := { Overrides.none with nodeUrl := some "https://[::1]:26657" }

/-- A node of the test network, where transactions are asked for. -/
def recoveringNode : NodeClient :=
  { host := recoveringHost
    settings := Network.testnet.defaultSettings.withOverrides securely
    nodeUrl := "https://[::1]:26657/" }

def recoveredIdentity : Identity :=
  { keyName := "margined-deployer", mnemonic := some Network.localMnemonic }

theorem recoveringNode_obliges : recoveringNode.Obliges recoveredIdentity.keyName 4 where
  installed := rfl
  texts := by decide
  taken position late := by
    have others : position ≠ 0 ∧ position ≠ 1 ∧ position ≠ 2 ∧ position ≠ 3 := by omega
    simp only [recoveringNode, recoveringHost, others, if_false]
  reachable := Rpc.reachable_of_scheme (by decide +kernel) (.inr rfl)
  included _ := rfl

theorem recoveringNode_account :
    (recoveringNode.chainClient.answer (.accountAddress recoveredIdentity) .initial).1 =
      .ok "terra1deployer" :=
  Json.ok_of_toOption (by decide +kernel)

/-- The commands before the first transaction. -/
def recoveringCommands : List Invocation :=
  [ recoveringNode.inquiry recoveredIdentity.keyName,
    recoveringNode.derivation recoveredIdentity.keyName Network.localMnemonic,
    recoveringNode.recovery recoveredIdentity.keyName Network.localMnemonic,
    recoveringNode.inquiry recoveredIdentity.keyName ]

theorem recovery_mem_commands :
    recoveringNode.recovery recoveredIdentity.keyName Network.localMnemonic ∈
      recoveringCommands :=
  List.mem_cons_of_mem _ (List.mem_cons_of_mem _ List.mem_cons_self)

theorem recoveringNode_recovers :
    let after := (recoveringNode.chainClient.answer (.accountAddress recoveredIdentity) .initial).2
    after.preparedKeys = [recoveredIdentity.keyName] ∧
      after.invocations = recoveringCommands := by
  decide +kernel

end NodeClient

open NodeClient

/-- A run through this node deploys all contracts, and it has recovered the key before it signs. -/
theorem RunSetting.runPipeline_of_recovering {setting : RunSetting NodeState}
    (client : setting.client = recoveringNode.chainClient)
    (identity : setting.identity = recoveredIdentity)
    (root : holdsNul setting.deployer.artifacts.root = false) {pipeline : Pipeline}
    {files : FileTree} (passed : setting.preflight pipeline files = .ok ()) :
    let execution := setting.runPipeline pipeline .initial files
    (∃ report, execution.result = .ok report) ∧
      recoveringCommands <+: execution.run.client.invocations ∧
      ∀ step ∈ pipeline.steps, step.kind = .deploy → ∃ arguments,
        recoveringNode.signing recoveredIdentity.keyName ("tx" :: arguments) ∈
          execution.run.client.invocations := by
  obtain ⟨keys, commands⟩ := recoveringNode_recovers
  have account := recoveringNode_account
  rw [← client, ← identity] at keys commands account
  have opens : setting.Opens pipeline .initial files "terra1deployer" := { passed, account }
  have served : setting.GrantedBy recoveringNode 4 :=
    { client
      grants := by
        rw [identity]
        exact recoveringNode_obliges.grants
      root }
  have granted : setting.Granted 4 (setting.opened .initial files) := by
    refine granted_opened ?_ ?_ files
    · rw [keys]
      exact List.mem_singleton.mpr rfl
    · rw [commands]
      exact Nat.le_refl 4
  have ran := runPipeline_of_granted opens served granted
  have opened : (setting.opened .initial files).client.invocations = _ := commands
  rw [opened, identity] at ran
  exact ran

end PerpDeploy
