/-
The check of a pipeline foretells what the steps do. With a client that grants every
request, the steps stop at a contract that is missing or is there already exactly when the
check refuses the pipeline, and at the step that the check names. A pipeline that passes its
check never stops in that way, whatever the client does.
-/

import PerpDeploy.Proofs.Run.Preflight

namespace PerpDeploy

/-- A contract was not there where a step needed it, or was there where a step makes it. -/
def Failure.Misplaced : Failure → Prop
  | .unknownContract _ _ => True
  | .duplicateRegistration _ _ => True
  | _ => False

/-- The failure of a query, which never ends a run. -/
def Failure.OfQuery : Failure → Prop
  | .query _ _ _ _ => True
  | _ => False

/-- Every request is granted, with whatever answer. -/
def ChainClient.Obliging {σ : Type} (client : ChainClient σ) : Prop :=
  ∀ request state, ∃ reply, (client.answer request state).1 = .ok reply

def Run.begun {σ : Type} (run : Run σ) : List Step :=
  run.notices.filterMap fun notice =>
    match notice with
    | .started step => some step
    | .reported _ _ => none

namespace RunSetting

variable {σ : Type}

/-! ### A step that is not admitted -/

theorem failure?_of_obliging {setting : RunSetting σ} (obliging : setting.client.Obliging)
    (step : Step) (run : Run σ) : (setting.attempt step run).failure? = none := by
  have granted := obliging (setting.requestOf run.registry.addressOf step) run.client
  unfold requestOf at granted
  unfold attempt
  cases kind : step.kind with
  | deploy =>
      rw [kind] at granted
      obtain ⟨contract, answered⟩ := granted
      simp only [answered, Attempt.failure?]
  | execute =>
      rw [kind] at granted
      obtain ⟨receipt, answered⟩ := granted
      simp only [answered, Attempt.failure?]
  | query => rfl

/-- A step that lacks something it depends on fails before it asks the client. -/
theorem runStep_of_missing (setting : RunSetting σ) {step : Step} {run : Run σ}
    {name : ContractName} (needed : name ∈ step.dependencies)
    (absent : name ∉ run.registry.names) :
    ∃ missing ∈ step.dependencies, missing ∉ run.registry.names ∧
      (setting.runStep step run).2 = .error (.unknownContract missing (some step.label)) := by
  by_cases recorded : ∀ other ∈ step.payload.references, other ∈ run.registry.names
  · obtain ⟨addressed, rfl⟩ : step.kind ≠ .deploy ∧ name = step.contract :=
      (Step.mem_dependencies needed).resolve_left fun referred => absent (recorded name referred)
    refine ⟨step.contract, needed, absent, ?_⟩
    have rendered := Payload.render_of_recorded recorded run.working
    unfold runStep
    cases message : step.payload.render run.working run.registry with
    | mk working reply =>
        rw [message] at rendered
        cases rendered
        cases kind : step.kind with
        | deploy => exact absurd kind addressed
        | execute => simp only [runExecute, targetAddress, Registry.resolve_of_not_mem absent]
        | query => simp only [runQuery, targetAddress, Registry.resolve_of_not_mem absent]
  · obtain ⟨other, unrecorded⟩ := Classical.not_forall.mp recorded
    obtain ⟨referred, unrecorded⟩ := Classical.not_imp.mp unrecorded
    obtain ⟨missing, among, lacking, failed⟩ :=
      Payload.render_of_missing referred unrecorded run.working
    refine ⟨missing, step.references_subset_dependencies missing among, lacking, ?_⟩
    unfold runStep
    cases message : step.payload.render run.working run.registry with
    | mk working reply =>
        rw [message] at failed
        cases failed
        rfl

/-- A step that makes a contract for the second time fails once the chain has made it. -/
theorem runStep_of_second_time {setting : RunSetting σ} (obliging : setting.client.Obliging)
    {step : Step} {run : Run σ} (complete : ∀ name ∈ step.dependencies, name ∈ run.registry.names)
    (deploying : step.kind = .deploy) (present : step.contract ∈ run.registry.names) :
    (setting.runStep step run).2 =
      .error (.duplicateRegistration step.contract (run.registry.addressOf step.contract)) := by
  have rendered := Payload.render_of_recorded
    (fun name referred => complete name (step.references_subset_dependencies name referred))
    run.working
  unfold runStep
  cases message : step.payload.render run.working run.registry with
  | mk working reply =>
      rw [message] at rendered
      cases rendered
      obtain ⟨contract, answered⟩ := obliging
        (.deploy setting.identity (setting.deployer.artifacts.pathFor step.contract)
          (step.payload.message run.working run.registry.addressOf) step.instanceLabel) run.client
      simp only [deploying, runDeploy, Run.ask, answered, Registry.record_of_mem present]

private theorem runDeploy_silent (setting : RunSetting σ) (step : Step) (message : Json)
    (run : Run σ) :
    (setting.runDeploy step message run).1.notices = run.notices ∧
      (setting.runDeploy step message run).1.steps = run.steps := by
  simp only [runDeploy, Run.ask]
  cases (setting.client.answer
    (.deploy setting.identity (setting.deployer.artifacts.pathFor step.contract) message
      step.instanceLabel) run.client).1 with
  | error source => exact ⟨rfl, rfl⟩
  | ok contract =>
      simp only
      split
      · exact ⟨rfl, rfl⟩
      · rw [persist_eq]
        exact ⟨rfl, rfl⟩

private theorem runExecute_silent (setting : RunSetting σ) (step : Step) (message : Json)
    (run : Run σ) :
    (setting.runExecute step message run).1.notices = run.notices ∧
      (setting.runExecute step message run).1.steps = run.steps := by
  unfold runExecute
  cases targetAddress step run with
  | error failure => exact ⟨rfl, rfl⟩
  | ok address =>
      simp only [Run.ask]
      cases (setting.client.answer (.execute setting.identity address message) run.client).1 with
      | error source => exact ⟨rfl, rfl⟩
      | ok receipt => exact ⟨rfl, rfl⟩

private theorem runQuery_silent (setting : RunSetting σ) (step : Step) (message : Json)
    (run : Run σ) :
    (setting.runQuery step message run).1.notices = run.notices ∧
      (setting.runQuery step message run).1.steps = run.steps := by
  unfold runQuery
  cases targetAddress step run with
  | error failure => exact ⟨rfl, rfl⟩
  | ok address =>
      simp only [Run.ask]
      cases (setting.client.answer (.query address message) run.client).1 with
      | error source => exact ⟨rfl, rfl⟩
      | ok answer => exact ⟨rfl, rfl⟩

/-- A step by itself tells the observer nothing and reports nothing. -/
theorem runStep_silent (setting : RunSetting σ) (step : Step) (run : Run σ) :
    (setting.runStep step run).1.notices = run.notices ∧
      (setting.runStep step run).1.steps = run.steps := by
  unfold runStep
  cases step.payload.render run.working run.registry with
  | mk working reply =>
      cases reply with
      | error failure => exact ⟨rfl, rfl⟩
      | ok message =>
          cases step.kind with
          | deploy => exact runDeploy_silent setting step message { run with working }
          | execute => exact runExecute_silent setting step message { run with working }
          | query => exact runQuery_silent setting step message { run with working }

/-! ### Where the steps stop -/

/-- An obliging client lets all steps that are admitted pass. -/
theorem runSteps_of_obliging {setting : RunSetting σ} (obliging : setting.client.Obliging)
    {start : Run σ} (unstepped : Unstepped start) (working : start.working = setting.profile)
    {passed : List Step} (accepted : Pipeline.admitSteps [] passed = .ok ()) (rest : List Step) :
    ∃ attempts final, Accounts setting start attempts final ∧
      attempts.map Attempt.step = passed ∧
      setting.runSteps (passed ++ rest) start = setting.runSteps rest final := by
  have none : start.registry.names = [] := by rw [unstepped.registry]; rfl
  have admitted : Pipeline.admitSteps start.registry.names passed = .ok () := by rwa [none]
  have begun : Reaches setting start [] start := .start
  rcases runSteps_of_admitted begun admitted (congrArg Profile.cleared working) rest with
    ⟨attempts, final, reached, same, ended⟩ |
    ⟨attempts, final, step, later, failure, reached, same, allowed, refused, ended⟩
  · exact ⟨attempts, final, reached.accounts unstepped, same, ended⟩
  · rw [failure?_of_obliging obliging step final] at refused
    cases refused

/-- The steps stop after `passed`, at `step`, for the reason for which the check refuses it. -/
structure StopsAt (passed : List Step) (step : Step) (refusal : Failure)
    (ended : Run σ × Except Failure Unit) : Prop where
  begun : ended.1.begun = passed ++ [step]
  done : ended.1.steps.map (fun report => (report.label, report.kind)) =
    passed.map fun step => (step.label, step.kind)
  reason :
    (∃ name, refusal = .unknownContract name (some step.label)) ∧
      (∃ missing ∈ step.dependencies, missing ∉ passed.flatMap Step.deploys ∧
        ended.2 = .error (.unknownContract missing (some step.label))) ∨
    refusal = Pipeline.secondTime step ∧
      ∃ existing, ended.2 = .error (.duplicateRegistration step.contract existing)

theorem StopsAt.misplaced {passed : List Step} {step : Step} {refusal : Failure}
    {ended : Run σ × Except Failure Unit} (stops : StopsAt passed step refusal ended) :
    ∃ failure, ended.2 = .error failure ∧ failure.Misplaced := by
  rcases stops.reason with ⟨_, missing, _, _, stopped⟩ | ⟨_, existing, stopped⟩
  · exact ⟨_, stopped, trivial⟩
  · exact ⟨_, stopped, trivial⟩

theorem begun_of_accounts {setting : RunSetting σ} {start run : Run σ} {attempts : List Attempt}
    (accounts : Accounts setting start attempts run) :
    run.begun = attempts.map Attempt.step := by
  have firsts := congrArg (List.map Attempt.step) (Attempt.map_fst_told setting attempts)
  rw [Run.begun, accounts.notices, Attempt.notices, ← firsts]
  induction Attempt.told setting attempts with
  | nil => rfl
  | cons pair rest ih =>
      simp only [List.flatMap_cons, List.filterMap_append, List.map_cons, ih]
      rfl

theorem stopsAt_of_runStep {setting : RunSetting σ} {start final : Run σ}
    {attempts : List Attempt} (accounts : Accounts setting start attempts final)
    {step : Step} {failure refusal : Failure}
    (stepped : (setting.runStep step (final.notify (.started step))).2 = .error failure)
    (reason :
      (∃ name, refusal = .unknownContract name (some step.label)) ∧
        (∃ missing ∈ step.dependencies,
          missing ∉ (attempts.map Attempt.step).flatMap Step.deploys ∧
            failure = .unknownContract missing (some step.label)) ∨
      refusal = Pipeline.secondTime step ∧
        ∃ existing, failure = .duplicateRegistration step.contract existing)
    (later : List Step) :
    StopsAt (attempts.map Attempt.step) step refusal
      (setting.runSteps (step :: later) final) := by
  obtain ⟨notices, steps⟩ := runStep_silent setting step (final.notify (.started step))
  have before := begun_of_accounts accounts
  have kinds := Attempt.reports_kinds setting attempts
  rw [← accounts.steps] at kinds
  cases ran : setting.runStep step (final.notify (.started step)) with
  | mk halted reply =>
      rw [ran] at stepped notices steps
      cases stepped
      simp only [runSteps, ran]
      rw [persist_eq]
      refine { begun := ?_, done := ?_, reason := ?_ }
      · simp only [Run.begun, Run.notify, List.filterMap_append] at before notices ⊢
        rw [notices, List.filterMap_append, before]
        simp
      · simp only [Run.notify] at steps ⊢
        rw [steps, kinds]
      · rcases reason with ⟨named, missing, needed, absent, rfl⟩ | ⟨twice, existing, rfl⟩
        · exact Or.inl ⟨named, missing, needed, absent, rfl⟩
        · exact Or.inr ⟨twice, existing, rfl⟩

theorem stopsAt_of_refused {setting : RunSetting σ} (obliging : setting.client.Obliging)
    {start final : Run σ} {attempts : List Attempt}
    (accounts : Accounts setting start attempts final) {step : Step} {refusal : Failure}
    (refused : Pipeline.admitStep ((attempts.map Attempt.step).flatMap Step.deploys) step =
      .error refusal) (later : List Step) :
    StopsAt (attempts.map Attempt.step) step refusal
      (setting.runSteps (step :: later) final) := by
  have names : (final.notify (.started step)).registry.names =
      (attempts.map Attempt.step).flatMap Step.deploys := accounts.names
  rcases Pipeline.admitStep_refused refused with
    ⟨name, needed, absent, told⟩ | ⟨complete, deploying, present, told⟩
  · rw [← names] at absent
    obtain ⟨missing, among, lacking, stepped⟩ := setting.runStep_of_missing needed absent
    rw [names] at lacking
    exact stopsAt_of_runStep accounts stepped
      (Or.inl ⟨⟨name, told⟩, missing, among, lacking, rfl⟩) later
  · rw [← names] at complete present
    have stepped := runStep_of_second_time obliging complete deploying present
    exact stopsAt_of_runStep accounts stepped (Or.inr ⟨told, _, rfl⟩) later

/-! ### Failures of whole runs -/

theorem failure_of_preflight {setting : RunSetting σ} {pipeline : Pipeline} {files : FileTree}
    (valid : pipeline.validate = .ok ()) {failure : Failure}
    (refused : setting.preflight pipeline files = .error failure) :
    (∃ reason, failure = .configuration reason) ∨
      ∃ path source, failure = .manifest path source := by
  obtain ⟨_, check, _, _, _, detected⟩ :=
    (preflight_eq_error_iff setting pipeline files failure).mp refused
  have found := (verdict_eq_error_iff setting pipeline files check failure).mpr detected
  cases detected with
  | profile invalid => exact Or.inl ⟨_, rfl⟩
  | artifacts wanted missing lacking => exact Or.inl ⟨_, rfl⟩
  | manifest kept unread => exact Or.inr ⟨_, _, rfl⟩
  | early split admitted needed present absent =>
      rw [verdict, valid] at found
      cases found
  | again split admitted met deploys present => exact Or.inl ⟨_, rfl⟩

theorem failure_of_attempt {attempt : Attempt} {failure : Failure}
    (failed : attempt.failure? = some failure) : ¬ failure.Misplaced ∧ ¬ failure.OfQuery := by
  unfold Attempt.failure? at failed
  split at failed <;> cases failed <;> exact ⟨id, id⟩

/-- A pipeline that passes its check finds each contract in its place. -/
theorem result_of_validated {setting : RunSetting σ} {pipeline : Pipeline}
    (valid : pipeline.validate = .ok ()) {client : σ} {files : FileTree} {failure : Failure}
    (ended : (setting.runPipeline pipeline client files).result = .error failure) :
    ¬ failure.Misplaced ∧ ¬ failure.OfQuery := by
  cases checked : setting.preflight pipeline files with
  | error refusal =>
      simp only [runPipeline, checked] at ended
      cases ended
      rcases failure_of_preflight valid checked with ⟨reason, rfl⟩ | ⟨path, source, rfl⟩
      · exact ⟨id, id⟩
      · exact ⟨id, id⟩
  | ok passed =>
      cases account : (setting.client.answer (.accountAddress setting.identity) client).1 with
      | error source =>
          have asked := ask_account account files
          simp only [runPipeline, checked, asked] at ended
          cases ended
          exact ⟨id, id⟩
      | ok deployer =>
          have opens : setting.Opens pipeline client files deployer :=
            { passed := checked, account := account }
          obtain ⟨attempts, final, _, ending⟩ := runPipeline_of_opens opens
          rcases ending with ⟨_, ran⟩ | ⟨step, later, refusal, _, _, refused, ran⟩
          · rw [ran] at ended
            cases ended
          · rw [ran] at ended
            cases ended
            exact failure_of_attempt refused

theorem validate_foretells_runSteps (setting : RunSetting σ) (pipeline : Pipeline) :
    (setting.client.Obliging → ∀ start, Unstepped start → start.working = setting.profile →
      ((∀ failure, (setting.runSteps pipeline.steps start).2 = .error failure →
        ¬ failure.Misplaced) ↔ pipeline.validate = .ok ()) ∧
      ∀ refusal, pipeline.validate = .error refusal →
        ∃ passed step later, pipeline.steps = passed ++ step :: later ∧
          Pipeline.validate { steps := passed } = .ok () ∧
          Pipeline.validate { steps := passed ++ [step] } = .error refusal ∧
          StopsAt passed step refusal (setting.runSteps pipeline.steps start)) ∧
    (pipeline.validate = .ok () → ∀ client files failure,
      (setting.runPipeline pipeline client files).result = .error failure →
        ¬ failure.Misplaced ∧ ¬ failure.OfQuery) := by
  refine ⟨fun obliging start unstepped working => ?_,
    fun valid client files failure ended => result_of_validated valid ended⟩
  have stops : ∀ refusal, pipeline.validate = .error refusal →
      ∃ passed step later, pipeline.steps = passed ++ step :: later ∧
        Pipeline.validate { steps := passed } = .ok () ∧
        Pipeline.validate { steps := passed ++ [step] } = .error refusal ∧
        StopsAt passed step refusal (setting.runSteps pipeline.steps start) := by
    intro refusal invalid
    obtain ⟨passed, step, later, split, accepted, refused⟩ :=
      Pipeline.admitSteps_refused invalid
    obtain ⟨attempts, final, accounts, rfl, ended⟩ :=
      runSteps_of_obliging obliging unstepped working accepted (step :: later)
    refine ⟨_, step, later, split, accepted,
      Pipeline.admitSteps_append_refused accepted refused [], ?_⟩
    rw [split, ended]
    exact stopsAt_of_refused obliging accounts refused later
  refine ⟨⟨fun placed => ?_, fun valid failure ended => ?_⟩, stops⟩
  · cases checked : pipeline.validate with
    | ok passed => rfl
    | error refusal =>
        obtain ⟨passed, step, later, _, _, _, stopped⟩ := stops refusal checked
        obtain ⟨failure, ended, misplaced⟩ := stopped.misplaced
        exact absurd misplaced (placed failure ended)
  · obtain ⟨attempts, final, accounts, same, passed⟩ :=
      runSteps_of_obliging obliging unstepped working valid []
    rw [List.append_nil] at passed
    rw [passed] at ended
    cases ended

/-- The fee pool is deployed for the second time by the last step. -/
def twiceFeePool : Pipeline :=
  { steps :=
      [ Step.deploying .feePool .feePoolInit,
        Step.executing "Open" .feePool .vammSetOpen,
        Step.deploying .feePool .feePoolInit ] }

theorem validate_foretells_runSteps_refused :
    let setting := rehearsal grantingChain .localChain
    let start := Run.start .localChain 0 { entries := [], workingDirectory := [] }
    let last := Step.deploying .feePool .feePoolInit
    (∃ passed step later, twiceFeePool.steps = passed ++ step :: later ∧
        Pipeline.validate { steps := passed } = .ok () ∧
        Pipeline.validate { steps := passed ++ [step] } =
          .error (Pipeline.secondTime last) ∧
        StopsAt passed step (Pipeline.secondTime last)
          (setting.runSteps twiceFeePool.steps start)) ∧
      ∀ client files failure,
        (setting.runPipeline (.forProfile .testnet) client files).result = .error failure →
          ¬ failure.Misplaced ∧ ¬ failure.OfQuery := by
  intro setting start last
  have obliging : setting.client.Obliging := fun request state => ⟨_, rfl⟩
  have unstepped : Unstepped start :=
    { registry := rfl, steps := rfl, notices := rfl, snapshot := rfl }
  exact ⟨((validate_foretells_runSteps setting twiceFeePool).1 obliging start unstepped rfl).2
      (Pipeline.secondTime last) rfl,
    (validate_foretells_runSteps setting (.forProfile .testnet)).2 rfl⟩

end RunSetting

end PerpDeploy
