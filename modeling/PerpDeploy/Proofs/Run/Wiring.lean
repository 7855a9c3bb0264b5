/-
How the contracts of a deployment are wired together. Whatever addresses the chain gives,
the run of a profile asks for a front part of one list of requests, in which every address
is the one that the chain has given to that contract in the same run.
-/

import PerpDeploy.Proofs.Run.Agreement

namespace PerpDeploy

/-- The address in the answer to the deployment of a contract, empty if there is none. -/
def Exchange.addressGiven (exchanges : List Exchange) (contract : ContractName) : String :=
  ((exchanges.filterMap Exchange.deployed?).lookup ("margined-" ++ contract.text)).getD ""

namespace RunSetting

variable {σ : Type}

private def deployRequest (setting : RunSetting σ) (contract : ContractName) (init : Json) :
    ChainRequest :=
  .deploy setting.identity (setting.deployer.artifacts.pathFor contract) init.canonical
    ("margined-" ++ contract.text)

/-- The requests that deploy and wire the contracts of a profile, each contract being at the
given address. -/
def wiring (setting : RunSetting σ) (address : ContractName → String) : List ChainRequest :=
  let profile := setting.profile
  let dedicated := profile.topology.feePool = .dedicated
  [setting.deployRequest .insuranceFund profile.insuranceFundInit.encode] ++
  (if dedicated then [setting.deployRequest .feePool profile.feePoolInit.encode] else []) ++
  [ setting.deployRequest .priceFeed profile.priceFeedInit.encode,
    setting.deployRequest .vamm
      { profile.vammInit with priceFeed := address .priceFeed : VammInit }.encode,
    setting.deployRequest .engine
      { profile.engineInit with
        insuranceFund := address .insuranceFund
        feePool := if dedicated then address .feePool else address .insuranceFund
        eligibleCollateral := profile.eligibleCollateral
        vamms := [address .vamm] : EngineInit }.encode,
    .execute setting.identity (address .vamm)
      (.object [("update_config", .object [("margin_engine", .string (address .engine))])]) ] ++
  (if profile.topology.registersVamm then
    [.execute setting.identity (address .insuranceFund)
      (.object [("add_vamm", .object [("vamm", .string (address .vamm))])])] else []) ++
  (if profile.topology.registersBeneficiary then
    [.execute setting.identity (address .insuranceFund)
      (.object [("update_config", .object [("beneficiary", .string (address .engine))])])]
    else []) ++
  [ .execute setting.identity (address .vamm)
      (.object [("set_open", .object [("open", .bool true)])]),
    .query (address .vamm) (.object [("state", .object [])]) ]

theorem requests_forProfile (setting : RunSetting σ) (address : ContractName → String) :
    (Pipeline.forProfile setting.profile).steps.map (setting.requestOf address) =
      setting.wiring address := by
  unfold Pipeline.forProfile Pipeline.feeCollector wiring
  dsimp only
  cases setting.profile.topology.feePool <;>
    cases setting.profile.topology.registersVamm <;>
    cases setting.profile.topology.registersBeneficiary <;> rfl

end RunSetting

namespace Attempt

variable {σ : Type}

private theorem label_inj (left right : ContractName) :
    "margined-" ++ left.text = "margined-" ++ right.text ↔ left = right := by
  cases left <;> cases right <;> decide

theorem deployed?_exchanges (setting : RunSetting σ) (deployed : Nat) (attempts : List Attempt) :
    (attempts.map (exchange setting)).filterMap Exchange.deployed? =
      ((outcomes setting deployed attempts).filterMap StepOutcome.record?).map fun record =>
        ("margined-" ++ record.name.text, record.address) := by
  induction attempts generalizing deployed with
  | nil => rfl
  | cons attempt rest ih =>
      simp only [List.map_cons, outcomes, List.filterMap_cons]
      rw [ih (deployed + (attempt.outcome setting deployed).record?.toList.length)]
      cases attempt with
      | deploy step message reply => cases reply <;> rfl
      | execute step address message reply => cases reply <;> rfl
      | query step address message reply => cases reply <;> rfl

private theorem lookup_label (records : List ContractRecord) (name : ContractName) :
    (records.map fun record => ("margined-" ++ record.name.text, record.address)).lookup
        ("margined-" ++ name.text) =
      (records.find? fun record => record.name == name).map ContractRecord.address := by
  induction records with
  | nil => rfl
  | cons record rest ih =>
      simp only [List.map_cons, List.lookup_cons, List.find?_cons]
      by_cases same : record.name = name
      · simp only [same, beq_self_eq_true, Option.map_some]
      · have apart : ("margined-" ++ name.text == "margined-" ++ record.name.text) = false := by
          rw [beq_eq_false_iff_ne]
          intro equal
          exact same ((label_inj name record.name).mp equal).symm
        simp only [apart, beq_eq_false_iff_ne.mpr same, ih]

/-- The addresses that a run goes by are those that the chain has given. -/
theorem addresses_eq_given (setting : RunSetting σ) (account : Except Trail String)
    (attempts : List Attempt) :
    addresses setting attempts =
      Exchange.addressGiven
        (⟨.accountAddress setting.identity, account⟩ :: attempts.map (exchange setting)) := by
  funext name
  unfold addresses Exchange.addressGiven Registry.addressOf Registry.get?
  rw [List.filterMap_cons, deployed?_exchanges setting 0, ← records]
  simp only [Exchange.deployed?, lookup_label]

theorem refused_iff (setting : RunSetting σ) (attempt : Attempt) :
    (attempt.exchange setting).Refused ↔ attempt.failure? ≠ none := by
  cases attempt with
  | deploy step message reply => cases reply <;> simp [exchange, Exchange.Refused, failure?]
  | execute step address message reply =>
      cases reply <;> simp [exchange, Exchange.Refused, failure?]
  | query step address message reply =>
      cases reply <;> simp [exchange, Exchange.Refused, failure?]

end Attempt

namespace RunSetting

variable {σ : Type}

theorem Told.requests_eq {setting : RunSetting σ} {client : σ} {deployer : String}
    {attempts : List Attempt} {execution : Execution σ}
    (told : Told setting client deployer attempts execution) :
    execution.run.calls.map Call.request =
      .accountAddress setting.identity ::
        (attempts.map Attempt.step).map
          (setting.requestOf (Exchange.addressGiven (setting.conversation client execution))) := by
  rw [told.requests, told.conversation, ← Attempt.addresses_eq_given]

/-- Where only the last attempt may fail, nothing follows a refusal. -/
theorem Told.refused_is_last {setting : RunSetting σ} {client : σ} {deployer : String}
    {attempts : List Attempt} {execution : Execution σ}
    (told : Told setting client deployer attempts execution)
    (unfailed : ∀ attempt ∈ attempts.dropLast, attempt.failure? = none)
    {front later : List Exchange} {refused : Exchange}
    (shape : setting.conversation client execution = front ++ refused :: later)
    (refusal : refused.Refused) : later = [] := by
  rcases List.eq_nil_or_concat later with none | ⟨init, last, rfl⟩
  · exact none
  · have early : refused ∈ (setting.conversation client execution).dropLast := by
      rw [shape, List.concat_eq_append, ← List.cons_append, ← List.append_assoc,
        List.dropLast_concat]
      exact List.mem_append_right _ List.mem_cons_self
    rw [told.conversation] at early
    have among : refused ∈ (⟨.accountAddress setting.identity, .ok deployer⟩ : Exchange) ::
        (attempts.dropLast.map (Attempt.exchange setting)) := by
      rw [List.map_dropLast]
      cases attempts with
      | nil => cases early
      | cons attempt rest => exact early
    rcases List.mem_cons.mp among with rfl | made
    · cases refusal
    · obtain ⟨attempt, member, rfl⟩ := List.mem_map.mp made
      exact absurd (unfailed attempt member)
        ((Attempt.refused_iff setting attempt).mp refusal)

theorem execute_wires_contracts (setting : RunSetting σ) (client : σ) (files : FileTree)
    (deployer : String)
    (opens : setting.Opens (.forProfile setting.profile) client files deployer) :
    let execution := setting.execute client files
    let exchanges := setting.conversation client execution
    let wiring := setting.wiring (Exchange.addressGiven exchanges)
    ∃ made, execution.run.calls.map Call.request = .accountAddress setting.identity :: made ∧
      made <+: wiring ∧
      ((∀ exchange ∈ exchanges, ¬ exchange.Refused) → made = wiring) ∧
      ∀ front refused later, exchanges = front ++ refused :: later → refused.Refused →
        later = [] := by
  intro execution exchanges wiring
  obtain ⟨attempts, final, reached, ending⟩ := runPipeline_of_opens opens
  have accounts := reached.accounts (opened_unstepped setting client files)
  have unfailed := reached.none_failed
  have planned : (Pipeline.forProfile setting.profile).steps.map
      (setting.requestOf (Exchange.addressGiven exchanges)) = wiring :=
    requests_forProfile setting _
  rcases ending with ⟨same, ran⟩ | ⟨step, later, failure, split, admitted, refused, ran⟩
  · have told : Told setting client deployer attempts execution := by
      rw [show execution = _ from ran]
      exact accounts.told_completed opens _
    have all : (attempts.map Attempt.step).map
        (setting.requestOf (Exchange.addressGiven exchanges)) = wiring := by
      rw [same, planned]
    refine ⟨wiring, ?_, List.prefix_rfl, fun _ => rfl, fun front refused later shape refusal =>
      told.refused_is_last (fun attempt member => ?_) shape refusal⟩
    · rw [told.requests_eq, all]
    · exact unfailed attempt (List.dropLast_subset _ member)
  · have told : Told setting client deployer (attempts ++ [setting.attempt step final])
        execution := by
      rw [show execution = _ from ran]
      exact accounts.told_halted opens refused _
    refine ⟨_, told.requests_eq, ?_, fun accepted => ?_, fun front last later shape refusal =>
      told.refused_is_last (fun attempt member => ?_) shape refusal⟩
    · rw [← planned, split, List.map_append, List.map_cons, List.map_nil, attempt_step]
      refine List.IsPrefix.map _ ⟨later, ?_⟩
      rw [List.append_assoc, List.singleton_append]
    · have sent : (setting.attempt step final).exchange setting ∈ exchanges := by
        rw [show exchanges = _ from told.conversation]
        exact List.mem_cons_of_mem _ (List.mem_map_of_mem (by simp))
      refine absurd ?_ (accepted _ sent)
      rw [Attempt.refused_iff, refused]
      exact Option.some_ne_none failure
    · rw [List.dropLast_concat] at member
      exact unfailed attempt member

/-- The chain gives an address to each of the five contracts and executes what follows. -/
def acceptingChain : Script :=
  ["terra1deployer", "terra1fund", "terra1pool", "terra1feed", "terra1vamm", "terra1engine", "",
    "", "", "", ""].map fun address =>
      .ok { address, codeId := some 7, transaction := "", data := .null }

theorem execute_wires_contracts_testnet :
    let setting := rehearsal Script.client .testnet
    let files : FileTree := { entries := [], workingDirectory := [] }
    let execution := setting.execute acceptingChain files
    let exchanges := setting.conversation acceptingChain execution
    let wiring := setting.wiring (Exchange.addressGiven exchanges)
    setting.Opens (.forProfile .testnet) acceptingChain files "terra1deployer" ∧
      ∃ made, execution.run.calls.map Call.request = .accountAddress setting.identity :: made ∧
        made <+: wiring ∧
        ((∀ exchange ∈ exchanges, ¬ exchange.Refused) → made = wiring) ∧
        ∀ front refused later, exchanges = front ++ refused :: later → refused.Refused →
          later = [] := by
  have opens : (rehearsal Script.client .testnet).Opens (.forProfile .testnet) acceptingChain
      { entries := [], workingDirectory := [] } "terra1deployer" :=
    { passed := rfl, account := rfl }
  exact ⟨opens, execute_wires_contracts (rehearsal Script.client .testnet) _ _ _ opens⟩

end RunSetting

end PerpDeploy
