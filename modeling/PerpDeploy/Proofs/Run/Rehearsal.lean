/-
A run foretells another. Two runs of one pipeline that have come to its end, each with a client
of its own, have made the same steps; their requests differ in who signs them, where the
artifacts lie and which address each contract was given, and in nothing else.
-/

import PerpDeploy.Proofs.Pipeline.Injection
import PerpDeploy.Proofs.Run.Agreement
import PerpDeploy.Proofs.Run.StaticCheck

namespace PerpDeploy

/-- The address of a contract, empty unless the report has it. -/
def Report.addressOf (report : Report) (name : ContractName) : String :=
  (report.addressOf? name).getD ""

/-- The request that a step makes, with this message and to the contract at this address. -/
inductive Step.Sends (step : Step) (target : String) (message : Json) : ChainRequest → Prop
  | deploy (kind : step.kind = .deploy) (identity : Identity) (artifact : Path) :
      Sends step target message (.deploy identity artifact message step.instanceLabel)
  | execute (kind : step.kind = .execute) (identity : Identity) :
      Sends step target message (.execute identity target message)
  | query (kind : step.kind = .query) : Sends step target message (.query target message)

/-- A message and the one that was shown before for the same step. -/
structure Step.Foreseen (step : Step) (rehearsed report : Report) (shown message : Json) :
    Prop where
  /-- Each contract had an address of its own in the rehearsal and has one now, and both stand
  where the address was filled in. -/
  filled : ∀ injection ∈ step.payload.injections, ∃ before after,
    rehearsed.addressOf? injection.contract = some before ∧
    report.addressOf? injection.contract = some after ∧
    shown.at? injection.place = some (.string before) ∧
    message.at? injection.place = some (.string after)
  /-- To put the one address in place of the other is all that has to be done. -/
  replaced : message = step.payload.readdressed report.addressOf shown
  elsewhere : ∀ place : Json.Place,
    (∀ injection ∈ step.payload.injections, injection.place.Apart place) →
    message.at? place = shown.at? place

/-- What a rehearsal of these steps tells of a run of them: the steps and the contracts as they
are in the report, and every request but for the addresses. -/
structure Report.Foretells (rehearsed report : Report) (steps : List Step)
    (shown sent : List ChainRequest) : Prop where
  network : rehearsed.network = report.network
  fingerprint : rehearsed.fingerprint = report.fingerprint
  kinds : rehearsed.steps.map (fun step => (step.label, step.kind)) =
    report.steps.map fun step => (step.label, step.kind)
  made : report.steps.map (fun step => (step.label, step.kind)) =
    steps.map fun step => (step.label, step.kind)
  names : rehearsed.contracts.map ContractRecord.name = report.contracts.map ContractRecord.name
  ordinals : rehearsed.contracts.map ContractRecord.ordinal =
    report.contracts.map ContractRecord.ordinal
  artifacts : rehearsed.contracts.map ContractRecord.artifact =
    report.contracts.map ContractRecord.artifact
  /-- The first request asks for the account, and each step makes one more. -/
  counts : shown.length = steps.length + 1 ∧ sent.length = steps.length + 1
  messages : ∀ position step, steps[position]? = some step → ∃ foreseen made earlier message,
    shown[position + 1]? = some foreseen ∧ sent[position + 1]? = some made ∧
    step.Sends (rehearsed.addressOf step.contract) earlier foreseen ∧
    step.Sends (report.addressOf step.contract) message made ∧
    step.Foreseen rehearsed report earlier message

namespace RunSetting

variable {σ τ : Type}

/-! ### A run that has come to its end -/

/-- What a completed run has done, read off its report. -/
structure Completed (setting : RunSetting σ) (pipeline : Pipeline) (report : Report)
    (requests : List ChainRequest) : Prop where
  network : report.network = setting.profile.network
  fingerprint : report.fingerprint = setting.profile.fingerprint
  kinds : report.steps.map (fun step => (step.label, step.kind)) =
    pipeline.steps.map fun step => (step.label, step.kind)
  names : report.contracts.map ContractRecord.name = pipeline.deployedContracts
  ordinals : report.contracts.map ContractRecord.ordinal =
    List.range' 1 pipeline.deployedContracts.length
  artifacts : report.contracts.map ContractRecord.artifact =
    pipeline.deployedContracts.map setting.artifactName
  requests : requests = .accountAddress setting.identity ::
    pipeline.steps.map (setting.requestOf report.addressOf)
  addressed : ∀ step ∈ pipeline.steps, ∀ name ∈ step.dependencies,
    report.addressOf? name = some (report.addressOf name)

theorem completed_of_ok {setting : RunSetting σ} {pipeline : Pipeline} {client : σ}
    {files : FileTree} {report : Report}
    (returned : (setting.runPipeline pipeline client files).result = .ok report) :
    setting.Completed pipeline report
      ((setting.runPipeline pipeline client files).run.calls.map Call.request) := by
  obtain ⟨deployer, attempts, final, opens, accounts, same, made, ran⟩ := accounts_of_ok returned
  have agrees := accounts.report_agrees same deployer
  rw [← made] at agrees
  have contracts : report.contracts = final.registry.records := by
    rw [made, persist_eq]
    rfl
  have addresses : report.addressOf = Attempt.addresses setting attempts := by
    funext name
    rw [Attempt.addresses, ← accounts.records, ← contracts]
    rfl
  exact
    { network := agrees.network
      fingerprint := agrees.fingerprint
      kinds := agrees.kinds
      names := agrees.names
      ordinals := by
        rw [agrees.ordinals, ← agrees.names, List.length_map]
      artifacts := by
        rw [← agrees.names, List.map_map]
        refine List.map_congr_left fun record member => ?_
        rw [contracts, accounts.records] at member
        obtain ⟨attempt, _, deployed, recorded⟩ := Attempt.made_of_mem_records member
        exact Attempt.artifact_outcome recorded
      requests := by
        have told := accounts.told_completed opens (.ok report)
        rw [ran, told.requests, same, addresses]
      addressed := by
        intro step member name needed
        rw [← same] at member
        obtain ⟨attempt, among, rfl⟩ := List.mem_map.mp member
        have recorded := (accounts.addressed attempt among).1 name needed
        have there := Registry.addressOf?_of_mem recorded contracts
        rw [there, Report.addressOf, there, Option.getD_some] }

/-- A client that grants every request lets a run that passes its checks come to its end. -/
theorem returns_of_obliging {setting : RunSetting σ} (obliging : setting.client.Obliging)
    {pipeline : Pipeline} {files : FileTree} (passed : setting.preflight pipeline files = .ok ())
    (client : σ) : ∃ report, (setting.runPipeline pipeline client files).result = .ok report := by
  obtain ⟨deployer, account⟩ := obliging (.accountAddress setting.identity) client
  have opens : setting.Opens pipeline client files deployer := { passed, account }
  obtain ⟨attempts, final, reached, ending⟩ := runPipeline_of_opens opens
  rcases ending with ⟨same, ran⟩ | ⟨step, later, failure, split, admitted, refused, ran⟩
  · exact ⟨_, by rw [ran]⟩
  · rw [failure?_of_obliging obliging] at refused
    cases refused

/-! ### Without a manifest -/

theorem persist_unrecorded {setting : RunSetting σ} (unrecorded : setting.deployer.manifest = none)
    (status : RunStatus) (run : Run σ) : setting.persist status run = run := by
  unfold persist
  rw [unrecorded]

theorem Reaches.files_unrecorded {setting : RunSetting σ}
    (unrecorded : setting.deployer.manifest = none) {start run : Run σ} {attempts : List Attempt}
    (reached : Reaches setting start attempts run) : run.files = start.files := by
  induction reached with
  | start => rfl
  | @advance attempts run step reached admitted succeeded ih =>
      rw [← ih]
      unfold RunSetting.advance absorb
      cases setting.outcome step run with
      | deployed record => simp only [persist_unrecorded unrecorded]; rfl
      | _ => rfl

theorem runPipeline_files_unrecorded {setting : RunSetting σ}
    (unrecorded : setting.deployer.manifest = none) (pipeline : Pipeline) (client : σ)
    (files : FileTree) : (setting.runPipeline pipeline client files).run.files = files := by
  cases passed : setting.preflight pipeline files with
  | error failure =>
      rw [runPipeline_of_refused passed]
      rfl
  | ok valid =>
      cases account : (setting.client.answer (.accountAddress setting.identity) client).1 with
      | error source =>
          rw [runPipeline_of_unknown passed account]
          rfl
      | ok deployer =>
          obtain ⟨attempts, final, reached, ending⟩ := runPipeline_of_opens ⟨passed, account⟩
          have kept := reached.files_unrecorded unrecorded
          rcases ending with ⟨same, ran⟩ | ⟨step, later, failure, split, admitted, refused, ran⟩
          · rw [ran, persist_unrecorded unrecorded]
            exact kept
          · rw [ran, persist_unrecorded unrecorded]
            exact kept

/-! ### Two completed runs -/

theorem sends_requestOf (setting : RunSetting σ) (address : ContractName → String) (step : Step) :
    step.Sends (address step.contract) (step.payload.message setting.profile address)
      (setting.requestOf address step) := by
  unfold requestOf
  cases kind : step.kind with
  | deploy => exact .deploy kind _ _
  | execute => exact .execute kind _
  | query => exact .query kind

theorem artifactName_eq (setting : RunSetting σ) (contract : ContractName) :
    setting.artifactName contract = contract.artifact ++ ArtifactStore.extension := by
  have whole : '/' ∉ (contract.artifact ++ ArtifactStore.extension).toList := by
    cases contract <;> decide
  have ends : (contract.artifact ++ ArtifactStore.extension).toList.getLast? = some 'm' := by
    cases contract <;> decide
  have named := Path.fileName?_join setting.deployer.artifacts.root whole ends (by decide)
  rw [artifactName, ArtifactStore.pathFor, named, Option.getD_some]

section Foretelling

variable {setting : RunSetting σ} {other : RunSetting τ} {pipeline : Pipeline}
  {rehearsed report : Report} {shown sent : List ChainRequest}

theorem Completed.foreseen (here : setting.Completed pipeline rehearsed shown)
    (there : other.Completed pipeline report sent) (profile : setting.profile = other.profile)
    {step : Step} (member : step ∈ pipeline.steps) :
    step.Foreseen rehearsed report (step.payload.message setting.profile rehearsed.addressOf)
      (step.payload.message other.profile report.addressOf) := by
  have replaced : step.payload.message other.profile report.addressOf =
      step.payload.readdressed report.addressOf
        (step.payload.message setting.profile rehearsed.addressOf) := by
    rw [Payload.readdressed_message, profile]
  refine { filled := fun injection filled => ?_, replaced, elsewhere := fun place apart => ?_ }
  · have needed := step.references_subset_dependencies _ (Payload.contract_mem_references filled)
    exact ⟨_, _, here.addressed step member _ needed, there.addressed step member _ needed,
      Payload.at?_message filled _ _, Payload.at?_message filled _ _⟩
  · rw [replaced, Payload.at?_readdressed apart]

theorem Completed.getElem?_requests (completed : setting.Completed pipeline report sent)
    {position : Nat} {step : Step} (there : pipeline.steps[position]? = some step) :
    sent[position + 1]? = some (setting.requestOf report.addressOf step) := by
  rw [completed.requests, List.getElem?_cons_succ, List.getElem?_map, there, Option.map_some]

theorem Completed.foretells (here : setting.Completed pipeline rehearsed shown)
    (there : other.Completed pipeline report sent) (profile : setting.profile = other.profile) :
    rehearsed.Foretells report pipeline.steps shown sent := by
  refine
    { network := by rw [here.network, there.network, profile]
      fingerprint := by rw [here.fingerprint, there.fingerprint, profile]
      kinds := here.kinds.trans there.kinds.symm
      made := there.kinds
      names := here.names.trans there.names.symm
      ordinals := here.ordinals.trans there.ordinals.symm
      artifacts := ?_
      counts := ?_
      messages := fun position step found => ?_ }
  · rw [here.artifacts, there.artifacts]
    exact List.map_congr_left fun name _ => by rw [artifactName_eq, artifactName_eq]
  · rw [here.requests, there.requests]
    simp only [List.length_cons, List.length_map, and_self]
  · exact ⟨_, _, _, _, here.getElem?_requests found, there.getElem?_requests found,
      sends_requestOf setting _ step, sends_requestOf other _ step,
      here.foreseen there profile (List.mem_of_getElem? found)⟩

end Foretelling

end RunSetting

end PerpDeploy
