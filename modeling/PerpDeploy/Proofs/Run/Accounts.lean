/-
The accounts of a run agree. What the client was asked and has answered, what the observer
was told, the reports of the steps, the registry and the result are all read off the same
attempts, for every pipeline that passes its check and every client.
-/

import PerpDeploy.Chain.Scripted
import PerpDeploy.Proofs.Run.Stepping

namespace PerpDeploy

/-- The outcomes that the observer was told, each with the label of its step. -/
def Execution.entries {σ : Type} (execution : Execution σ) : List (String × StepOutcome) :=
  execution.run.notices.filterMap Notice.entry?

theorem Registry.addressOf?_of_mem {registry : Registry} {name : ContractName}
    (recorded : name ∈ registry.names) {report : Report}
    (same : report.contracts = registry.records) :
    report.addressOf? name = some (registry.addressOf name) := by
  obtain ⟨record, found⟩ := exists_get?_of_mem recorded
  rw [addressOf?_eq same, addressOf, found]
  rfl

namespace Attempt

variable {σ : Type}

/-- The attempts, each with what the observer was told of it. -/
def told (setting : RunSetting σ) (attempts : List Attempt) : List (Attempt × StepOutcome) :=
  attempts.zip (outcomes setting 0 attempts)

def reports (setting : RunSetting σ) (attempts : List Attempt) : List StepReport :=
  (told setting attempts).map fun (attempt, outcome) =>
    ⟨attempt.step.label, attempt.step.kind, outcome⟩

def notices (setting : RunSetting σ) (attempts : List Attempt) : List Notice :=
  (told setting attempts).flatMap fun (attempt, outcome) =>
    [.started attempt.step, .reported attempt.step outcome]

def entries (setting : RunSetting σ) (attempts : List Attempt) : List (String × StepOutcome) :=
  (told setting attempts).map fun (attempt, outcome) => (attempt.step.label, outcome)

theorem told_append_single (setting : RunSetting σ) (attempts : List Attempt) (last : Attempt) :
    told setting (attempts ++ [last]) =
      told setting attempts ++
        [(last, last.outcome setting (records setting attempts).length)] := by
  unfold told
  rw [outcomes_append_single, List.zip_append (outcomes_length setting 0 attempts).symm]
  rfl

theorem map_fst_told (setting : RunSetting σ) (attempts : List Attempt) :
    (told setting attempts).map Prod.fst = attempts :=
  List.map_fst_zip (Nat.le_of_eq (outcomes_length setting 0 attempts).symm)

theorem reports_entries (setting : RunSetting σ) (attempts : List Attempt) :
    (reports setting attempts).map (fun report => (report.label, report.outcome)) =
      entries setting attempts := by
  simp only [reports, entries, List.map_map, Function.comp_def]

theorem reports_kinds (setting : RunSetting σ) (attempts : List Attempt) :
    (reports setting attempts).map (fun report => (report.label, report.kind)) =
      (attempts.map step).map fun step => (step.label, step.kind) := by
  have firsts := congrArg (List.map fun attempt => (attempt.step.label, attempt.step.kind))
    (map_fst_told setting attempts)
  simp only [reports, List.map_map, Function.comp_def] at firsts ⊢
  exact firsts

theorem getElem?_reports {attempts : List Attempt} {position : Nat} {attempt : Attempt}
    (there : attempts[position]? = some attempt) (setting : RunSetting σ) :
    ∃ before, (reports setting attempts)[position]? =
      some ⟨attempt.step.label, attempt.step.kind, attempt.outcome setting before⟩ := by
  obtain ⟨before, outcome⟩ := getElem?_outcomes there setting 0
  have paired : (told setting attempts)[position]? =
      some (attempt, attempt.outcome setting before) :=
    List.getElem?_zip_eq_some.mpr ⟨there, outcome⟩
  refine ⟨before, ?_⟩
  rw [reports, List.getElem?_map, paired]
  rfl

theorem notices_entries (setting : RunSetting σ) (attempts : List Attempt) :
    (notices setting attempts).filterMap Notice.entry? = entries setting attempts := by
  unfold notices entries
  induction told setting attempts with
  | nil => rfl
  | cons pair rest ih =>
      simp only [List.flatMap_cons, List.filterMap_append, ih]
      rfl

theorem snapshot_append_single (setting : RunSetting σ) (attempts : List Attempt)
    (last : Attempt) :
    ((outcomes setting 0 (attempts ++ [last])).filterMap StepOutcome.snapshot?).getLast? =
      (last.outcome setting (records setting attempts).length).snapshot?.or
        ((outcomes setting 0 attempts).filterMap StepOutcome.snapshot?).getLast? := by
  rw [outcomes_append_single, List.filterMap_append, List.getLast?_append]
  cases taken : (last.outcome setting (records setting attempts).length).snapshot? <;>
    simp [taken]

def requests (setting : RunSetting σ) (attempts : List Attempt) : List ChainRequest :=
  attempts.map fun attempt => (attempt.exchange setting).request

end Attempt

namespace RunSetting

variable {σ : Type}

/-- A step uses the addresses of the contracts that it depends on, and no others. -/
theorem requestOf_congr (setting : RunSetting σ) {left right : ContractName → String}
    {step : Step} (agree : ∀ name ∈ step.dependencies, left name = right name) :
    setting.requestOf left step = setting.requestOf right step := by
  have message := Payload.message_congr (fun name referred =>
    agree name (step.references_subset_dependencies name referred)) setting.profile
  unfold requestOf
  cases kind : step.kind with
  | deploy => simp only [message]
  | execute =>
      have target := agree step.contract
        (Step.contract_mem_dependencies (by rw [kind]; exact StepKind.noConfusion))
      simp only [message, target]
  | query =>
      have target := agree step.contract
        (Step.contract_mem_dependencies (by rw [kind]; exact StepKind.noConfusion))
      simp only [message, target]

/-- All accounts of a run, read off its attempts. -/
structure Accounts (setting : RunSetting σ) (start : Run σ) (attempts : List Attempt)
    (run : Run σ) : Prop where
  records : run.registry.records = Attempt.records setting attempts
  names : run.registry.names = (attempts.map Attempt.step).flatMap Step.deploys
  steps : run.steps = Attempt.reports setting attempts
  notices : run.notices = Attempt.notices setting attempts
  snapshot : run.vammState =
    ((Attempt.outcomes setting 0 attempts).filterMap StepOutcome.snapshot?).getLast?
  calls : run.calls.map Call.request =
    start.calls.map Call.request ++ Attempt.requests setting attempts
  client : run.client =
    setting.client.settle (Attempt.requests setting attempts) start.client
  answers : setting.client.converse (Attempt.requests setting attempts) start.client =
    attempts.map (Attempt.exchange setting)
  /-- Every step finds what it depends on, and uses the addresses that the run was given. -/
  addressed : ∀ attempt ∈ attempts,
    (∀ name ∈ attempt.step.dependencies, name ∈ run.registry.names) ∧
    (attempt.exchange setting).request =
      setting.requestOf run.registry.addressOf attempt.step

/-- A run that has made no step yet. -/
structure Unstepped (run : Run σ) : Prop where
  registry : run.registry = .empty
  steps : run.steps = []
  notices : run.notices = []
  snapshot : run.vammState = none

theorem requests_append_attempt (setting : RunSetting σ) (attempts : List Attempt) (step : Step)
    (run : Run σ) :
    Attempt.requests setting (attempts ++ [setting.attempt step run]) =
      Attempt.requests setting attempts ++ [setting.requestOf run.registry.addressOf step] := by
  simp only [Attempt.requests, List.map_append, List.map_cons, List.map_nil, attempt_exchange]

/-- One more attempt answers as the client does after the attempts before it. -/
theorem Accounts.answers_append {setting : RunSetting σ} {start run : Run σ}
    {attempts : List Attempt} (accounts : Accounts setting start attempts run) (step : Step) :
    setting.client.converse
        (Attempt.requests setting (attempts ++ [setting.attempt step run])) start.client =
      (attempts ++ [setting.attempt step run]).map (Attempt.exchange setting) := by
  rw [requests_append_attempt, ChainClient.converse_append, accounts.answers, List.map_append,
    ← accounts.client]
  simp only [ChainClient.converse, List.map_cons, List.map_nil, attempt_exchange]

theorem Reaches.accounts {setting : RunSetting σ} {start run : Run σ} {attempts : List Attempt}
    (unstepped : Unstepped start) (reached : Reaches setting start attempts run) :
    Accounts setting start attempts run := by
  induction reached with
  | start =>
      exact
        { records := by rw [unstepped.registry]; rfl
          names := by rw [unstepped.registry]; rfl
          steps := unstepped.steps
          notices := unstepped.notices
          snapshot := unstepped.snapshot
          calls := (List.append_nil _).symm
          client := rfl
          answers := rfl
          addressed := fun attempt member => by cases member }
  | @advance attempts run step reached admitted succeeded ih =>
      have grown := names_advance succeeded
      have told : (setting.attempt step run).outcome setting
          (Attempt.records setting attempts).length = setting.outcome step run := by
        rw [← ih.records]
        rfl
      have later : ∀ name ∈ run.registry.names,
          (setting.advance step run).registry.addressOf name = run.registry.addressOf name := by
        intro name recorded
        rw [advance_eq]
        exact Registry.addressOf_append recorded _
      have kept : ∀ name ∈ run.registry.names, name ∈ (setting.advance step run).registry.names :=
        fun name recorded => by
          rw [grown]
          exact List.mem_append_left _ recorded
      exact
        { records := by
            rw [advance_eq, Attempt.records_append_single, told, ← ih.records]
          names := by
            rw [grown, ih.names, List.map_append, List.flatMap_append, List.map_cons,
              attempt_step]
            simp
          steps := by
            rw [advance_eq, Attempt.reports, Attempt.told_append_single, told, List.map_append]
            simp only [List.map_cons, List.map_nil, attempt_step, ih.steps]
            rfl
          notices := by
            rw [advance_eq, Attempt.notices, Attempt.told_append_single, told,
              List.flatMap_append]
            simp only [ih.notices, List.flatMap_cons, List.flatMap_nil, List.append_nil,
              attempt_step]
            rfl
          snapshot := by
            rw [advance_eq, Attempt.snapshot_append_single, told, ← ih.snapshot]
          calls := by
            rw [advance_eq, requests_append_attempt, List.map_append, ih.calls, List.append_assoc]
            rfl
          client := by
            rw [advance_eq, requests_append_attempt, ChainClient.settle_append, ← ih.client]
            rfl
          answers := ih.answers_append step
          addressed := by
            intro attempt member
            rcases List.mem_append.mp member with earlier | last
            · obtain ⟨depends, made⟩ := ih.addressed attempt earlier
              refine ⟨fun name needed => kept name (depends name needed), ?_⟩
              rw [made]
              exact requestOf_congr setting fun name needed =>
                (later name (depends name needed)).symm
            · rw [List.mem_singleton.mp last, attempt_step, attempt_exchange]
              refine ⟨fun name needed => kept name (admitted.depends name needed), ?_⟩
              exact requestOf_congr setting fun name needed =>
                (later name (admitted.depends name needed)).symm }

/-- The run once it knows the account that signs. -/
def opened (setting : RunSetting σ) (client : σ) (files : FileTree) : Run σ :=
  ((Run.start setting.profile client files).ask setting.client
    (.accountAddress setting.identity)).2

/-- The checks have passed and the account is known, so that the first step can begin. -/
structure Opens (setting : RunSetting σ) (pipeline : Pipeline) (client : σ) (files : FileTree)
    (deployer : String) : Prop where
  passed : setting.preflight pipeline files = .ok ()
  account : (setting.client.answer (.accountAddress setting.identity) client).1 = .ok deployer

theorem opened_unstepped (setting : RunSetting σ) (client : σ) (files : FileTree) :
    Unstepped (setting.opened client files) :=
  { registry := rfl, steps := rfl, notices := rfl, snapshot := rfl }

theorem validate_of_preflight {setting : RunSetting σ} {pipeline : Pipeline} {files : FileTree}
    (passed : setting.preflight pipeline files = .ok ()) : pipeline.validate = .ok () := by
  unfold preflight at passed
  cases profile : setting.profile.validate with
  | error failure => rw [profile] at passed; cases passed
  | ok valid =>
      rw [profile] at passed
      cases steps : pipeline.validate with
      | error failure => rw [steps] at passed; cases passed
      | ok admitted => rfl

theorem ask_account {setting : RunSetting σ} {client : σ} {answer : Except Trail String}
    (account : (setting.client.answer (.accountAddress setting.identity) client).1 = answer)
    (files : FileTree) :
    (Run.start setting.profile client files).ask setting.client
      (.accountAddress setting.identity) = (answer, setting.opened client files) := by
  rw [← account]
  rfl

theorem runPipeline_of_refused {setting : RunSetting σ} {pipeline : Pipeline} {files : FileTree}
    {failure : Failure} (refused : setting.preflight pipeline files = .error failure)
    (client : σ) :
    setting.runPipeline pipeline client files =
      { result := .error failure, run := Run.start setting.profile client files } := by
  simp only [runPipeline, refused]

theorem runPipeline_of_unknown {setting : RunSetting σ} {pipeline : Pipeline} {files : FileTree}
    (passed : setting.preflight pipeline files = .ok ()) {client : σ} {source : Trail}
    (unknown : (setting.client.answer (.accountAddress setting.identity) client).1 =
      .error source) :
    setting.runPipeline pipeline client files =
      { result := .error (accountFailure setting.identity source)
        run := setting.opened client files } := by
  simp only [runPipeline, passed, ask_account unknown files]

/-- Only a run that has opened returns a report. -/
theorem opens_of_ok {setting : RunSetting σ} {pipeline : Pipeline} {client : σ}
    {files : FileTree} {report : Report}
    (returned : (setting.runPipeline pipeline client files).result = .ok report) :
    ∃ deployer, setting.Opens pipeline client files deployer := by
  cases passed : setting.preflight pipeline files with
  | error failure =>
      rw [runPipeline_of_refused passed] at returned
      cases returned
  | ok valid =>
      cases account : (setting.client.answer (.accountAddress setting.identity) client).1 with
      | error source =>
          rw [runPipeline_of_unknown passed account] at returned
          cases returned
      | ok deployer => exact ⟨deployer, ⟨passed, account⟩⟩

theorem runPipeline_of_runSteps {setting : RunSetting σ} {pipeline : Pipeline} {client : σ}
    {files : FileTree} {deployer : String} (opens : setting.Opens pipeline client files deployer)
    {run : Run σ} {outcome : Except Failure Unit}
    (ended : setting.runSteps pipeline.steps (setting.opened client files) = (run, outcome)) :
    setting.runPipeline pipeline client files =
      { result := outcome.map fun _ => setting.report deployer run, run } := by
  simp only [runPipeline, opens.passed, ask_account opens.account files, ended]
  cases outcome <;> rfl

/-- A run that has opened comes to the end of its pipeline or halts at a step that fails. -/
theorem runPipeline_of_opens {setting : RunSetting σ} {pipeline : Pipeline} {client : σ}
    {files : FileTree} {deployer : String}
    (opens : setting.Opens pipeline client files deployer) :
    ∃ attempts final, Reaches setting (setting.opened client files) attempts final ∧
      (attempts.map Attempt.step = pipeline.steps ∧
        setting.runPipeline pipeline client files =
          { result := .ok (setting.report deployer (setting.persist .completed final))
            run := setting.persist .completed final } ∨
      ∃ step later failure, pipeline.steps = attempts.map Attempt.step ++ step :: later ∧
        step.Admitted final.registry.names ∧
        (setting.attempt step final).failure? = some failure ∧
        setting.runPipeline pipeline client files =
          { result := .error failure
            run := setting.persist .failed (setting.halt step final) }) := by
  have admitted := validate_of_preflight opens.passed
  have begun : Reaches setting (setting.opened client files) [] (setting.opened client files) :=
    .start
  rcases runSteps_of_admitted begun admitted rfl [] with
    ⟨attempts, final, reached, same, ended⟩ |
    ⟨attempts, final, step, later, failure, reached, same, allowed, refused, ended⟩
  · rw [List.append_nil] at ended
    exact ⟨attempts, final, reached, Or.inl ⟨same, runPipeline_of_runSteps opens ended⟩⟩
  · rw [List.append_nil] at ended
    exact ⟨attempts, final, reached, Or.inr ⟨step, later, failure, same, allowed, refused,
      runPipeline_of_runSteps opens ended⟩⟩

/-- A run that returns a report has made an attempt for each step. -/
theorem accounts_of_ok {setting : RunSetting σ} {pipeline : Pipeline} {client : σ}
    {files : FileTree} {report : Report}
    (returned : (setting.runPipeline pipeline client files).result = .ok report) :
    ∃ deployer attempts final, setting.Opens pipeline client files deployer ∧
      Accounts setting (setting.opened client files) attempts final ∧
      attempts.map Attempt.step = pipeline.steps ∧
      report = setting.report deployer (setting.persist .completed final) ∧
      setting.runPipeline pipeline client files =
        { result := .ok report, run := setting.persist .completed final } := by
  obtain ⟨deployer, opens⟩ := opens_of_ok returned
  obtain ⟨attempts, final, reached, ending⟩ := runPipeline_of_opens opens
  have accounts := reached.accounts (opened_unstepped setting client files)
  rcases ending with ⟨same, ran⟩ | ⟨step, later, failure, split, admitted, refused, ran⟩
  · rw [ran] at returned
    cases returned
    exact ⟨deployer, attempts, final, opens, accounts, same, rfl, ran⟩
  · rw [ran] at returned
    cases returned

/-- All that the client was asked in a run, with its answers. -/
def conversation (setting : RunSetting σ) (client : σ) (execution : Execution σ) :
    List Exchange :=
  setting.client.converse (execution.run.calls.map Call.request) client

/-- The accounts of a whole run, the failing attempt among its attempts. -/
structure Told (setting : RunSetting σ) (client : σ) (deployer : String)
    (attempts : List Attempt) (execution : Execution σ) : Prop where
  conversation : setting.conversation client execution =
    ⟨.accountAddress setting.identity, .ok deployer⟩ :: attempts.map (Attempt.exchange setting)
  addressed : ∀ attempt ∈ attempts, (attempt.exchange setting).request =
    setting.requestOf (Attempt.addresses setting attempts) attempt.step
  entries : execution.entries = Attempt.entries setting attempts

theorem conversation_of_calls {setting : RunSetting σ} {pipeline : Pipeline} {client : σ}
    {files : FileTree} {deployer : String} (opens : setting.Opens pipeline client files deployer)
    {execution : Execution σ} {attempts : List Attempt}
    (calls : execution.run.calls.map Call.request =
      (setting.opened client files).calls.map Call.request ++ Attempt.requests setting attempts)
    (answers : setting.client.converse (Attempt.requests setting attempts)
        (setting.opened client files).client = attempts.map (Attempt.exchange setting)) :
    setting.conversation client execution =
      ⟨.accountAddress setting.identity, .ok deployer⟩ ::
        attempts.map (Attempt.exchange setting) := by
  unfold conversation
  rw [calls, ← answers, ← opens.account]
  rfl

theorem Accounts.told_completed {setting : RunSetting σ} {pipeline : Pipeline} {client : σ}
    {files : FileTree} {deployer : String} (opens : setting.Opens pipeline client files deployer)
    {attempts : List Attempt} {final : Run σ}
    (accounts : Accounts setting (setting.opened client files) attempts final)
    (result : Except Failure Report) :
    Told setting client deployer attempts
      { result, run := setting.persist .completed final } := by
  refine
    { conversation := conversation_of_calls opens ?_ accounts.answers
      addressed := ?_
      entries := ?_ }
  · rw [persist_eq]
    exact accounts.calls
  · intro attempt member
    rw [Attempt.addresses, ← accounts.records]
    exact (accounts.addressed attempt member).2
  · rw [Execution.entries, persist_eq]
    exact (congrArg (List.filterMap Notice.entry?) accounts.notices).trans
      (Attempt.notices_entries setting attempts)

/-- The step at which a run halts is told like those before it. -/
theorem Accounts.notices_halt {setting : RunSetting σ} {start final : Run σ}
    {attempts : List Attempt} (accounts : Accounts setting start attempts final) (step : Step) :
    (setting.halt step final).notices =
      Attempt.notices setting (attempts ++ [setting.attempt step final]) := by
  rw [Attempt.notices, Attempt.told_append_single, List.flatMap_append]
  simp only [halt, sent, Run.notify, accounts.notices, outcome, List.append_assoc,
    List.flatMap_cons, List.flatMap_nil, attempt_step, ← accounts.records]
  rfl

theorem Accounts.told_halted {setting : RunSetting σ} {pipeline : Pipeline} {client : σ}
    {files : FileTree} {deployer : String} (opens : setting.Opens pipeline client files deployer)
    {attempts : List Attempt} {final : Run σ}
    (accounts : Accounts setting (setting.opened client files) attempts final) {step : Step}
    {failure : Failure} (failed : (setting.attempt step final).failure? = some failure)
    (result : Except Failure Report) :
    Told setting client deployer (attempts ++ [setting.attempt step final])
      { result, run := setting.persist .failed (setting.halt step final) } := by
  have unrecorded : Attempt.records setting (attempts ++ [setting.attempt step final]) =
      final.registry.records := by
    rw [Attempt.records_append_single, outcome_of_failure failed, accounts.records]
    exact List.append_nil _
  refine
    { conversation := conversation_of_calls opens ?_ (accounts.answers_append step)
      addressed := ?_
      entries := ?_ }
  · rw [persist_eq, requests_append_attempt]
    simp only [halt, sent, Run.notify, List.map_append, accounts.calls, List.append_assoc]
    rfl
  · intro attempt member
    rw [Attempt.addresses, unrecorded]
    rcases List.mem_append.mp member with earlier | last
    · exact (accounts.addressed attempt earlier).2
    · rw [List.mem_singleton.mp last, attempt_step, attempt_exchange]
  · rw [Execution.entries, persist_eq]
    exact (congrArg (List.filterMap Notice.entry?) (accounts.notices_halt step)).trans
      (Attempt.notices_entries setting _)

/-- The requests of a run are the one for the account and then one for each attempt. -/
theorem Told.requests {setting : RunSetting σ} {client : σ} {deployer : String}
    {attempts : List Attempt} {execution : Execution σ}
    (told : Told setting client deployer attempts execution) :
    execution.run.calls.map Call.request =
      .accountAddress setting.identity ::
        (attempts.map Attempt.step).map
          (setting.requestOf (Attempt.addresses setting attempts)) := by
  have asked : (setting.conversation client execution).map Exchange.request =
      execution.run.calls.map Call.request :=
    setting.client.converse_requests (execution.run.calls.map Call.request) client
  rw [← asked, told.conversation, List.map_cons, List.map_map, List.map_map]
  exact congrArg _ (List.map_congr_left told.addressed)

/-- A run without a manifest and without a look at the artifacts. -/
def rehearsal (client : ChainClient σ) (profile : Profile) : RunSetting σ :=
  { deployer :=
      { artifacts := { root := ArtifactStore.defaultRoot }, manifest := none
        checkArtifacts := false }
    client
    profile
    identity := { keyName := "test1", mnemonic := none }
    clock := fun _ => 0 }

/-- Every request is granted, each contract at an address of its own. -/
def grantingChain : ChainClient Nat :=
  { answer := fun request granted =>
      (.ok (Script.replyTo
        { address := "terra1" ++ toString granted, codeId := none, transaction := ""
          data := .null } request), granted + 1) }

end RunSetting

end PerpDeploy
