/-
Where the addresses of a run come from. What is recorded has been handed out by the client in the
same run, and no message holds an address besides those that are recorded. A node client that hands
out an empty address is therefore believed.
-/

import PerpDeploy.Proofs.Chain.Address
import PerpDeploy.Proofs.Run.Confirmation
import PerpDeploy.Proofs.Run.Granting

namespace PerpDeploy

namespace ChainClient

variable {σ : Type} {client : ChainClient σ} {begun : σ} {address : String}

/-- Of requests sent one after the other, one is answered with a contract at this address. -/
def HandsOut (client : ChainClient σ) (begun : σ) (requests : List ChainRequest)
    (address : String) : Prop :=
  ∃ front later identity artifact message label contract,
    requests = front ++ .deploy identity artifact message label :: later ∧
      (client.answer (.deploy identity artifact message label) (client.settle front begun)).1 =
        .ok contract ∧
      contract.address = address

theorem HandsOut.append {requests : List ChainRequest}
    (handed : client.HandsOut begun requests address) (more : List ChainRequest) :
    client.HandsOut begun (requests ++ more) address := by
  obtain ⟨front, later, identity, artifact, message, label, contract, rfl, answered, placed⟩ :=
    handed
  exact ⟨front, later ++ more, identity, artifact, message, label, contract, by simp, answered,
    placed⟩

theorem HandsOut.cons {request : ChainRequest} {requests : List ChainRequest}
    (handed : client.HandsOut (client.answer request begun).2 requests address) :
    client.HandsOut begun (request :: requests) address := by
  obtain ⟨front, later, identity, artifact, message, label, contract, rfl, answered, placed⟩ :=
    handed
  exact ⟨request :: front, later, identity, artifact, message, label, contract, rfl, answered,
    placed⟩

end ChainClient

namespace RunSetting

variable {σ : Type} {setting : RunSetting σ}

/-- A step records what its request is answered with. -/
theorem answered_of_outcome {step : Step} {run : Run σ} {record : ContractRecord}
    (made : (setting.outcome step run).record? = some record) :
    ∃ artifact message label contract,
      setting.requestOf run.registry.addressOf step =
        .deploy setting.identity artifact message label ∧
      (setting.client.answer (.deploy setting.identity artifact message label) run.client).1 =
        .ok contract ∧
      contract.address = record.address := by
  unfold outcome attempt at made
  unfold requestOf
  cases kind : step.kind with
  | deploy =>
      simp only [kind] at made ⊢
      cases reply : (setting.client.answer
        (.deploy setting.identity (setting.deployer.artifacts.pathFor step.contract)
          (step.payload.message setting.profile run.registry.addressOf) step.instanceLabel)
        run.client).1 with
      | error source =>
          rw [reply] at made
          cases made
      | ok contract =>
          rw [reply] at made
          cases made
          exact ⟨_, _, _, contract, rfl, reply, rfl⟩
  | execute =>
      simp only [kind] at made
      generalize (setting.client.answer _ run.client).1 = reply at made
      cases reply <;> cases made
  | query =>
      simp only [kind] at made
      generalize (setting.client.answer _ run.client).1 = reply at made
      cases reply <;> cases made

/-- Everything recorded on the way has been handed out on the way. -/
theorem Reaches.records_handedOut {start run : Run σ} {attempts : List Attempt}
    (unstepped : Unstepped start) (reached : Reaches setting start attempts run) :
    ∀ record ∈ run.registry.records,
      setting.client.HandsOut start.client (Attempt.requests setting attempts) record.address := by
  induction reached with
  | start =>
      intro record member
      rw [unstepped.registry] at member
      cases member
  | @advance attempts run step reached admitted succeeded ih =>
      have accounts := reached.accounts unstepped
      intro record member
      rw [requests_append_attempt]
      rw [advance_eq, List.mem_append] at member
      cases member with
      | inl earlier => exact (ih record earlier).append _
      | inr last =>
          obtain ⟨artifact, message, label, contract, asked, answered, placed⟩ :=
            answered_of_outcome (Option.mem_toList.mp last)
          rw [accounts.client] at answered
          rw [asked]
          exact ⟨_, [], _, _, _, _, contract, rfl, answered, placed⟩

/-- A request of a run, with no address in it that is not recorded. -/
inductive Addressed (setting : RunSetting σ) (pipeline : Pipeline) (registry : Registry) :
    ChainRequest → Prop
  | account : Addressed setting pipeline registry (.accountAddress setting.identity)
  | step {step : Step} (among : step ∈ pipeline.steps)
      (recorded : ∀ name ∈ step.dependencies, ∃ record ∈ registry.records,
        record.name = name ∧ record.address = registry.addressOf name) :
      Addressed setting pipeline registry (setting.requestOf registry.addressOf step)

theorem addressed_of_mem {pipeline : Pipeline} {registry : Registry} {step : Step}
    (among : step ∈ pipeline.steps) (depends : ∀ name ∈ step.dependencies, name ∈ registry.names) :
    setting.Addressed pipeline registry (setting.requestOf registry.addressOf step) :=
  .step among fun name needed => Registry.exists_record_of_mem (depends name needed)

/-- The records and the requests of a run are accounted for. -/
structure Traced (setting : RunSetting σ) (pipeline : Pipeline) (client : σ) (run : Run σ) :
    Prop where
  records : ∀ record ∈ run.registry.records,
    setting.client.HandsOut client (run.calls.map Call.request) record.address
  requests : ∀ request ∈ run.calls.map Call.request,
    setting.Addressed pipeline run.registry request

theorem traced_of_reaches {pipeline : Pipeline} {client : σ} {files : FileTree} {final run : Run σ}
    {attempts : List Attempt} {extra : List ChainRequest}
    (reached : Reaches setting (setting.opened client files) attempts final)
    (among : ∀ attempt ∈ attempts, attempt.step ∈ pipeline.steps)
    (registry : run.registry = final.registry)
    (calls : run.calls.map Call.request = final.calls.map Call.request ++ extra)
    (more : ∀ request ∈ extra, setting.Addressed pipeline final.registry request) :
    setting.Traced pipeline client run := by
  have unstepped := opened_unstepped setting client files
  have accounts := reached.accounts unstepped
  have asked : run.calls.map Call.request =
      .accountAddress setting.identity :: (Attempt.requests setting attempts ++ extra) := by
    rw [calls, accounts.calls]
    rfl
  constructor
  · intro record member
    rw [registry] at member
    rw [asked]
    exact ((reached.records_handedOut unstepped record member).append extra).cons
  · intro request member
    rw [registry]
    rw [asked, List.mem_cons, List.mem_append] at member
    obtain rfl | earlier | late := member
    · exact .account
    · obtain ⟨attempt, made, rfl⟩ := List.mem_map.mp earlier
      obtain ⟨depends, same⟩ := accounts.addressed attempt made
      rw [same]
      exact addressed_of_mem (among attempt made) depends
    · exact more request late

/-- However a run ends, its addresses are those that its client has handed out in it. -/
theorem runPipeline_traced (setting : RunSetting σ) (pipeline : Pipeline) (client : σ)
    (files : FileTree) :
    setting.Traced pipeline client (setting.runPipeline pipeline client files).run := by
  cases passed : setting.preflight pipeline files with
  | error failure =>
      rw [runPipeline_of_refused passed]
      exact { records := List.forall_mem_nil _, requests := List.forall_mem_nil _ }
  | ok valid =>
      cases account : (setting.client.answer (.accountAddress setting.identity) client).1 with
      | error source =>
          rw [runPipeline_of_unknown passed account]
          exact traced_of_reaches .start (List.forall_mem_nil _) rfl (List.append_nil _).symm
            (List.forall_mem_nil _)
      | ok deployer =>
          obtain ⟨attempts, final, reached, ending⟩ := runPipeline_of_opens ⟨passed, account⟩
          cases ending with
          | inl completed =>
              obtain ⟨same, ran⟩ := completed
              rw [ran, persist_eq]
              refine traced_of_reaches reached ?_ rfl (List.append_nil _).symm
                (List.forall_mem_nil _)
              intro attempt made
              rw [← same]
              exact List.mem_map_of_mem made
          | inr halted =>
              obtain ⟨step, later, failure, split, admitted, failed, ran⟩ := halted
              rw [ran, persist_eq]
              refine traced_of_reaches reached ?_ rfl List.map_append ?_
              · intro attempt made
                rw [split]
                exact List.mem_append_left _ (List.mem_map_of_mem made)
              · intro request last
                rw [List.mem_singleton.mp last]
                refine addressed_of_mem ?_ admitted.depends
                rw [split]
                exact List.mem_append_right _ List.mem_cons_self

end RunSetting

namespace NodeClient

open Text (isBlank)

/-- Of requests sent one after the other, one makes a contract in a transaction that does not name
it. -/
def MakesNameless (client : NodeClient) (begun : NodeState) (requests : List ChainRequest) :
    Prop :=
  ∃ front later identity artifact message label codeId between created,
    requests = front ++ .deploy identity artifact message label :: later ∧
      client.Commits identity.keyName (instantiateArguments codeId message label) between created
        (client.chainClient.answer (.deploy identity artifact message label)
          (client.chainClient.settle front begun)).2 ∧
      Nameless "instantiate" "_contract_address" created.events

theorem makesNameless_of_handsOut {client : NodeClient} {begun : NodeState}
    {requests : List ChainRequest} (handed : client.chainClient.HandsOut begun requests "") :
    client.MakesNameless begun requests := by
  obtain ⟨front, later, identity, artifact, message, label, contract, split, answered, empty⟩ :=
    handed
  obtain ⟨codeId, between, created, _, commits, nameless⟩ :=
    deploy_address_empty_iff (Prod.ext answered rfl)
  exact ⟨front, later, identity, artifact, message, label, codeId, between, created, split, commits,
    nameless.mp empty⟩

/-- When the address that a node client hands out is empty. A run that records an empty address has
been handed it for a contract whose transaction does not name it, and no message holds an address
that is not recorded. -/
theorem empty_address_origin (client : NodeClient) :
    (∀ identity state after,
      client.chainClient.answer (.accountAddress identity) state = (.ok "", after) ↔
        ∃ ready output, (client.ensureKey identity).run.run state = (.ok (), ready) ∧
          client.Starts (client.showArguments identity.keyName) ∧
          (client.host.reply ready.invocations.length).output? false = some output ∧
          (∀ c ∈ output.toList, isBlank c = true) ∧
          after = ready.invoked (client.inquiry identity.keyName)) ∧
    (∀ identity artifact message label state contract after,
      client.chainClient.answer (.deploy identity artifact message label) state =
        (.ok contract, after) →
      ∃ codeId between created, contract.codeId = some codeId ∧
        client.Commits identity.keyName (instantiateArguments codeId message label) between created
          after ∧
        (contract.address = "" ↔ Nameless "instantiate" "_contract_address" created.events)) ∧
    ∀ setting : RunSetting NodeState, setting.client = client.chainClient →
      ∀ pipeline state files,
        let run := (setting.runPipeline pipeline state files).run
        let requests := run.calls.map Call.request
        (∀ record ∈ run.registry.records, record.address = "" →
          client.MakesNameless state requests) ∧
        ∀ request ∈ requests, setting.Addressed pipeline run.registry request := by
  refine ⟨accountAddress_empty_iff client, fun _ _ _ _ _ _ _ => deploy_address_empty_iff, ?_⟩
  intro setting served pipeline state files run requests
  have traced := setting.runPipeline_traced pipeline state files
  refine ⟨fun record member empty => ?_, traced.requests⟩
  have handed := traced.records record member
  rw [served, empty] at handed
  exact makesNameless_of_handsOut handed

/-- A node that makes the contract but leaves the value of the attribute with its address out. -/
def namelessNode : NodeClient :=
  { host :=
      { installed := fun _ => true
        reply := fun position =>
          if position = 0 then
            { stdout := "terra1me\n".toUTF8, stderr := .empty, status := .exited 0 }
          else printing (.object
            [ ("txhash", .string "00AB"),
              ("events", .array
                [ eventJson "store_code" "code_id" "7",
                  .object
                    [ ("type", .string "instantiate"),
                      ("attributes", .array
                        [.object [("key", .string "_contract_address")]]) ] ]) ])
        http := fun _ => .unreachable }
    settings := Network.localChain.defaultSettings
    nodeUrl := Network.localNodeUrl }

theorem namelessNode_commits {arguments : List String} (clean : arguments.any holdsNul = false)
    {state : NodeState} (begun : state.invocations.length ≠ 0) :
    ∃ transaction,
      namelessNode.Commits "test1" arguments state transaction
        (state.invoked (namelessNode.signing "test1" arguments)) ∧
      findAttribute? transaction.events "store_code" "code_id" = some "7" ∧
      findAttribute? transaction.events "instantiate" "_contract_address" = some "" := by
  have starts : namelessNode.Starts (arguments ++ namelessNode.signingArguments "test1") :=
    starts_of_clean rfl (by decide) clean
  have read : (namelessNode.host.reply state.invocations.length).broadcast?.map (fun reply =>
      (reply.code, findAttribute? (reply.events ++ reply.logs.flatten) "store_code" "code_id",
        findAttribute? (reply.events ++ reply.logs.flatten) "instantiate" "_contract_address")) =
      some (0, some "7", some "") := by
    have exact : (Json.object
        [ ("txhash", .string "00AB"),
          ("events", .array
            [ eventJson "store_code" "code_id" "7",
              .object
                [ ("type", .string "instantiate"),
                  ("attributes", .array
                    [.object [("key", .string "_contract_address")]]) ] ]) ]).Exact :=
      ⟨trivial, ⟨eventJson_exact _ _ _, ⟨trivial, ⟨⟨trivial, trivial⟩, trivial⟩, trivial⟩,
        trivial⟩, trivial⟩
    simp only [namelessNode, if_neg begun, broadcast?_printing exact]
    rfl
  obtain ⟨reply, taken, fields⟩ := Option.map_eq_some_iff.mp read
  simp only [Prod.mk.injEq] at fields
  have answers := ProcessReply.broadcast?_eq_some_iff.mp taken
  have accepts : namelessNode.Accepts "test1" arguments state reply :=
    { starts, answers, code := fields.1 }
  exact ⟨_, accepts.commits_inBlock rfl, fields.2⟩

/-- The keyring of this node prints no address for the key that has been recovered. -/
def speechlessNode : NodeClient :=
  { namelessNode with
    host :=
      { namelessNode.host with
        reply := fun position =>
          if position = 0 then { stdout := .empty, stderr := .empty, status := .exited 1 }
          else if position = 1 then printing (.object [("address", .string "terra1me")])
          else { stdout := " \n".toUTF8, stderr := .empty, status := .exited 0 } } }

/-- A contract and an account without an address. -/
theorem empty_addresses_handed_out :
    (∃ after,
      namelessNode.chainClient.answer
          (.deploy { keyName := "test1", mnemonic := none } "artifacts/margined_vamm.wasm"
            (.object []) "margined-vamm") .initial =
        (.ok { address := "", codeId := some 7 }, after)) ∧
      (speechlessNode.chainClient.answer
        (.accountAddress { keyName := "test1", mnemonic := some "word word" }) .initial).1 =
        .ok "" := by
  refine ⟨?_, Json.ok_of_toOption (by decide +kernel)⟩
  let identity : Identity := { keyName := "test1", mnemonic := none }
  let ready := ((namelessNode.ensureKey identity).run.run .initial).2
  have ensured : (namelessNode.ensureKey identity).run.run .initial = (.ok (), ready) :=
    Prod.ext (Json.ok_of_toOption (by decide +kernel)) rfl
  have begun : ready.invocations.length ≠ 0 := by decide +kernel
  have storing : (storeArguments "artifacts/margined_vamm.wasm").any holdsNul = false := rfl
  obtain ⟨stored, stores, told, _⟩ := namelessNode_commits storing begun
  have creating : (instantiateArguments 7 (.object []) "margined-vamm").any holdsNul = false := by
    decide +kernel
  have later : (ready.invoked (namelessNode.signing "test1"
      (storeArguments "artifacts/margined_vamm.wasm"))).invocations.length ≠ 0 := by
    simp [NodeState.invoked]
  obtain ⟨created, creates, _, placed⟩ := namelessNode_commits creating later
  exact ⟨_, (deploy_ok_iff_ensured _ identity _ _ _ _ _ _).mpr
    ⟨ready, ensured, .deployed stores told rfl creates placed⟩⟩

end NodeClient

end PerpDeploy
