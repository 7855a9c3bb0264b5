/-
Queries serve diagnosis only. Whatever a query is answered, with data or with a failure, the
run goes on as it would have done: it makes the same requests, records the same contracts,
writes the same manifest and ends the same, but for what it tells of the queries.
-/

import PerpDeploy.Proofs.Run.Agreement

namespace PerpDeploy

/-! ### What is told but for the queries -/

def StepReport.withoutAnswer (report : StepReport) : StepReport :=
  match report.kind with
  | .query => { report with outcome := .queried .null }
  | _ => report

def Notice.withoutAnswer : Notice → Notice
  | .started step => .started step
  | .reported step outcome =>
      match step.kind with
      | .query => .reported step (.queried .null)
      | _ => .reported step outcome

/-- The report without the state of the market and without what the queries have come to. -/
def Report.withoutAnswers (report : Report) : Report :=
  { report with steps := report.steps.map StepReport.withoutAnswer, vammState := none }

/-- Two executions agree but for what the queries of the one and of the other have come to. -/
structure Execution.SameButAnswers {σ : Type} (execution other : Execution σ) : Prop where
  /-- The requests with all that is in them, and the files at each of them. -/
  calls : execution.run.calls = other.run.calls
  registry : execution.run.registry = other.run.registry
  /-- The manifest is one of the files. -/
  files : execution.run.files = other.run.files
  notices : execution.run.notices.map Notice.withoutAnswer =
    other.run.notices.map Notice.withoutAnswer
  /-- The same failure, or two reports. -/
  result : execution.result.map Report.withoutAnswers = other.result.map Report.withoutAnswers

/-! ### Scripts -/

namespace Script

/-- The answer to the request at a position, the first being at zero. -/
def answerAt (script : Script) (position : Nat) : Except Trail PreparedAnswer :=
  (script[position]?).getD (.error exhausted)

theorem answerAt_tail (script : Script) (position : Nat) :
    answerAt script.tail position = script.answerAt (position + 1) := by
  cases script <;> rfl

theorem reply_client (script : Script) (request : ChainRequest) :
    (client.answer request script).1 =
      (script.answerAt 0).map fun answer => replyTo answer request := by
  cases script with
  | nil => rfl
  | cons answer rest => cases answer <;> rfl

theorem state_client (script : Script) (request : ChainRequest) :
    (client.answer request script).2 = script.tail := by
  cases script with
  | nil => rfl
  | cons answer rest => cases answer <;> rfl

/-- What steps are answered, apart from queries, when the scripts begin with the first step. -/
def AgreeFor (steps : List Step) (script other : Script) : Prop :=
  ∀ position step, steps[position]? = some step → step.kind ≠ .query →
    script.answerAt position = other.answerAt position

/-- The scripts differ at most in the answers to the queries of a pipeline. The first answer is
the account that signs, and each step takes one answer more. -/
structure AgreeButQueries (pipeline : Pipeline) (script other : Script) : Prop where
  account : script.answerAt 0 = other.answerAt 0
  steps : ∀ position step, pipeline.steps[position]? = some step → step.kind ≠ .query →
    script.answerAt (position + 1) = other.answerAt (position + 1)

theorem AgreeFor.tail {step : Step} {rest : List Step} {script other : Script}
    (agree : AgreeFor (step :: rest) script other) : AgreeFor rest script.tail other.tail := by
  intro position next there asked
  rw [answerAt_tail, answerAt_tail]
  exact agree (position + 1) next there asked

end Script

/-! ### Two runs side by side -/

variable {σ : Type}

/-- Two runs stand at the same point, but for what queries have been answered. -/
structure Run.Alongside (run other : Run σ) : Prop where
  files : run.files = other.files
  working : run.working = other.working
  registry : run.registry = other.registry
  steps : run.steps.map StepReport.withoutAnswer = other.steps.map StepReport.withoutAnswer
  calls : run.calls = other.calls
  notices : run.notices.map Notice.withoutAnswer = other.notices.map Notice.withoutAnswer

/-- What becomes of a step in two runs: the same, unless the step is a query. -/
inductive StepOutcome.AgreeFor (step : Step) : StepOutcome → StepOutcome → Prop
  | same (outcome : StepOutcome) : AgreeFor step outcome outcome
  | answers {outcome other : StepOutcome} (asked : step.kind = .query)
      (unrecorded : outcome.record? = none) (also : other.record? = none) :
      AgreeFor step outcome other

theorem StepOutcome.AgreeFor.notice {step : Step} {outcome other : StepOutcome}
    (agree : AgreeFor step outcome other) :
    (Notice.reported step outcome).withoutAnswer = (Notice.reported step other).withoutAnswer := by
  cases agree with
  | same => rfl
  | answers asked => simp only [Notice.withoutAnswer, asked]

theorem StepOutcome.AgreeFor.report {step : Step} {outcome other : StepOutcome}
    (agree : AgreeFor step outcome other) :
    (StepReport.mk step.label step.kind outcome).withoutAnswer =
      (StepReport.mk step.label step.kind other).withoutAnswer := by
  cases agree with
  | same => rfl
  | answers asked => simp only [StepReport.withoutAnswer, asked]

namespace Run

variable {run other : Run σ}

theorem Alongside.notify (along : run.Alongside other) {notice also : Notice}
    (same : notice.withoutAnswer = also.withoutAnswer) :
    (run.notify notice).Alongside (other.notify also) :=
  { along with
    notices := by
      simp only [Run.notify, List.map_append, List.map_cons, List.map_nil]
      rw [along.notices, same] }

theorem Alongside.persist (along : run.Alongside other) (setting : RunSetting σ)
    (status : RunStatus) :
    (setting.persist status run).Alongside (setting.persist status other) := by
  have files : (setting.persist status run).files = (setting.persist status other).files := by
    unfold RunSetting.persist
    cases setting.deployer.manifest with
    | none => exact along.files
    | some target =>
        dsimp only
        rw [along.files, along.registry]
  rw [setting.persist_eq status run, setting.persist_eq status other]
  exact { along with files }

/-- The same request is sent in both runs. -/
theorem Alongside.sent (along : run.Alongside other) (setting : RunSetting σ) (step : Step) :
    (setting.sent step run).Alongside (setting.sent step other) :=
  { along with
    working := by
      simp only [RunSetting.sent]
      rw [along.working, along.registry]
    calls := by
      simp only [RunSetting.sent]
      rw [along.calls, along.registry, along.files] }

theorem absorb_of_unrecorded {outcome : StepOutcome} (unrecorded : outcome.record? = none)
    (setting : RunSetting σ) (run : Run σ) :
    setting.absorb outcome run = { run with vammState := outcome.snapshot?.or run.vammState } := by
  cases outcome with
  | deployed record => cases unrecorded
  | _ => rfl

theorem Alongside.absorb (along : run.Alongside other) (setting : RunSetting σ) {step : Step}
    {outcome also : StepOutcome} (agree : StepOutcome.AgreeFor step outcome also) :
    (setting.absorb outcome run).Alongside (setting.absorb also other) := by
  cases agree with
  | answers asked unrecorded none =>
      rw [absorb_of_unrecorded unrecorded, absorb_of_unrecorded none]
      exact { along with }
  | same =>
      cases outcome with
      | deployed record =>
          have recorded : Run.Alongside
              { run with registry := { records := run.registry.records ++ [record] } }
              { other with registry := { records := other.registry.records ++ [record] } } :=
            { along with registry := by rw [along.registry] }
          exact recorded.persist setting .inProgress
      | queried answer => exact { along with }
      | _ => exact along

/-- The step begins and its request is answered in both runs. -/
theorem Alongside.begun (along : run.Alongside other) (setting : RunSetting σ) (step : Step) :
    (setting.sent step (run.notify (.started step))).Alongside
      (setting.sent step (other.notify (.started step))) :=
  (along.notify (Eq.refl (Notice.started step).withoutAnswer)).sent setting step

theorem Alongside.advance (along : run.Alongside other) {setting : RunSetting σ} {step : Step}
    (agree : StepOutcome.AgreeFor step (setting.outcome step run) (setting.outcome step other)) :
    (setting.advance step run).Alongside (setting.advance step other) := by
  have told := ((along.begun setting step).absorb setting agree).notify agree.notice
  exact
    { told with
      steps := by
        rw [setting.advance_eq step run, setting.advance_eq step other]
        simp only [List.map_append, List.map_cons, List.map_nil]
        rw [along.steps, agree.report] }

theorem Alongside.halt (along : run.Alongside other) {setting : RunSetting σ} {step : Step}
    (agree : StepOutcome.AgreeFor step (setting.outcome step run) (setting.outcome step other)) :
    (setting.halt step run).Alongside (setting.halt step other) :=
  (along.begun setting step).notify agree.notice

end Run

namespace RunSetting

variable {setting : RunSetting σ} {run other : Run σ}

/-! ### One step -/

/-- The clients answer the same to whatever is asked now. -/
def AnswersAlike (setting : RunSetting σ) (run other : Run σ) : Prop :=
  ∀ request, (setting.client.answer request run.client).1 =
    (setting.client.answer request other.client).1

theorem attempt_of_alike (along : run.Alongside other) (alike : setting.AnswersAlike run other)
    (step : Step) : setting.attempt step run = setting.attempt step other := by
  unfold attempt
  rw [along.registry]
  dsimp only
  cases step.kind with
  | deploy => exact congrArg _ (alike _)
  | execute => exact congrArg _ (alike _)
  | query => exact congrArg _ (alike _)

theorem record?_of_query {step : Step} (asked : step.kind = .query) (setting : RunSetting σ)
    (run : Run σ) : (setting.outcome step run).record? = none := by
  simp only [outcome, attempt, asked]
  cases (setting.client.answer
    (.query (run.registry.addressOf step.contract)
      (step.payload.message setting.profile run.registry.addressOf)) run.client).1 <;> rfl

theorem failure?_of_query {step : Step} (asked : step.kind = .query) (setting : RunSetting σ)
    (run : Run σ) : (setting.attempt step run).failure? = none := by
  simp only [attempt, asked]
  rfl

/-- A step fails in both runs or in none, and comes to the same unless it is a query. -/
theorem outcome_agrees (along : run.Alongside other) {step : Step}
    (alike : step.kind ≠ .query → setting.AnswersAlike run other) :
    (setting.attempt step run).failure? = (setting.attempt step other).failure? ∧
      StepOutcome.AgreeFor step (setting.outcome step run) (setting.outcome step other) := by
  by_cases asked : step.kind = .query
  · rw [failure?_of_query asked, failure?_of_query asked]
    exact ⟨rfl, .answers asked (record?_of_query asked setting run)
      (record?_of_query asked setting other)⟩
  · have same := attempt_of_alike along (alike asked) step
    have outcome : setting.outcome step run = setting.outcome step other := by
      unfold RunSetting.outcome
      rw [same, along.registry]
    rw [same, outcome]
    exact ⟨rfl, .same _⟩

end RunSetting

section Scripted

variable {setting : RunSetting Script} {run other : Run Script}

theorem Script.AgreeFor.alike (scripted : setting.client = client) {step : Step}
    {rest : List Step} (agree : AgreeFor (step :: rest) run.client other.client)
    (told : step.kind ≠ .query) : setting.AnswersAlike run other := by
  intro request
  rw [scripted, reply_client, reply_client, agree 0 step rfl told]

theorem Script.client_advance (scripted : setting.client = client) (step : Step)
    (run : Run Script) : (setting.advance step run).client = run.client.tail := by
  rw [setting.advance_eq, scripted]
  exact state_client run.client _

/-- What one step keeps the whole run keeps. -/
theorem RunSetting.runSteps_alongside (scripted : setting.client = Script.client)
    (along : run.Alongside other) {steps : List Step}
    (agree : Script.AgreeFor steps run.client other.client)
    (admitted : Pipeline.admitSteps run.registry.names steps = .ok ())
    (kept : run.working.cleared = setting.profile.cleared) :
    (setting.runSteps steps run).1.Alongside (setting.runSteps steps other).1 ∧
      (setting.runSteps steps run).2 = (setting.runSteps steps other).2 := by
  induction steps generalizing run other with
  | nil => exact ⟨along.persist setting .completed, rfl⟩
  | cons step rest ih =>
      obtain ⟨here, onward⟩ := (Pipeline.admitSteps_cons_iff _ _ _).mp admitted
      have there : step.Admitted other.registry.names := along.registry ▸ here
      have also : other.working.cleared = setting.profile.cleared := along.working ▸ kept
      obtain ⟨alike, outcomes⟩ := outcome_agrees along fun told => agree.alike scripted told
      cases failed : (setting.attempt step run).failure? with
      | some failure =>
          rw [runSteps_of_failed here kept failed,
            runSteps_of_failed there also (alike.symm.trans failed)]
          exact ⟨(along.halt outcomes).persist setting .failed, rfl⟩
      | none =>
          have succeeded := alike.symm.trans failed
          rw [runSteps_of_succeeded here kept failed, runSteps_of_succeeded there also succeeded]
          have remaining : Script.AgreeFor rest (setting.advance step run).client
              (setting.advance step other).client := by
            rw [Script.client_advance scripted, Script.client_advance scripted]
            exact agree.tail
          have cleared : (setting.advance step run).working.cleared = setting.profile.cleared := by
            rw [advance_eq]
            exact (Payload.render_cleared _ _ _).trans kept
          rw [← names_advance failed] at onward
          exact ih (along.advance outcomes) remaining onward cleared

/-! ### Whole runs -/

theorem RunSetting.opened_client (scripted : setting.client = Script.client) (script : Script)
    (files : FileTree) : (setting.opened script files).client = script.tail := by
  simp only [opened, Run.ask, Run.start, scripted]
  exact Script.state_client script _

theorem RunSetting.runPipeline_alongside (scripted : setting.client = Script.client)
    {pipeline : Pipeline} {script changed : Script}
    (agree : script.AgreeButQueries pipeline changed) (files : FileTree) :
    (setting.runPipeline pipeline script files).SameButAnswers
      (setting.runPipeline pipeline changed files) := by
  have account : ∀ answers : Script,
      (setting.client.answer (.accountAddress setting.identity) answers).1 =
        (answers.answerAt 0).map PreparedAnswer.address := fun answers => by
    rw [scripted]
    exact Script.reply_client answers _
  cases passed : setting.preflight pipeline files with
  | error failure =>
      rw [runPipeline_of_refused passed, runPipeline_of_refused passed]
      exact { calls := rfl, registry := rfl, files := rfl, notices := rfl, result := rfl }
  | ok valid =>
      have here := account script
      have there := account changed
      rw [← agree.account] at there
      cases first : script.answerAt 0 with
      | error source =>
          rw [first] at here there
          rw [runPipeline_of_unknown passed here, runPipeline_of_unknown passed there]
          exact { calls := rfl, registry := rfl, files := rfl, notices := rfl, result := rfl }
      | ok answer =>
          rw [first] at here there
          have begun : (setting.opened script files).Alongside (setting.opened changed files) :=
            { files := rfl, working := rfl, registry := rfl, steps := rfl, calls := rfl
              notices := rfl }
          have answered : Script.AgreeFor pipeline.steps (setting.opened script files).client
              (setting.opened changed files).client := by
            intro position step asked told
            rw [opened_client scripted, opened_client scripted, Script.answerAt_tail,
              Script.answerAt_tail]
            exact agree.steps position step asked told
          obtain ⟨along, outcomes⟩ := runSteps_alongside scripted begun answered
            (validate_of_preflight passed) rfl
          rw [runPipeline_of_runSteps ⟨passed, here⟩ rfl,
            runPipeline_of_runSteps ⟨passed, there⟩ rfl, ← outcomes]
          refine
            { calls := along.calls
              registry := along.registry
              files := along.files
              notices := along.notices
              result := ?_ }
          cases (setting.runSteps pipeline.steps (setting.opened script files)).2 with
          | error failure => rfl
          | ok done =>
              simp only [Except.map, RunSetting.report, Report.withoutAnswers]
              rw [along.registry, along.steps]

end Scripted

/-! ### What a report tells of its queries -/

/-- The data of each query that is answered, and the failure of each that is not. -/
structure Report.TellsQueries (report : Report) (pipeline : Pipeline) (script : Script) :
    Prop where
  answered : ∀ position step answer, pipeline.steps[position]? = some step →
    step.kind = .query → script.answerAt (position + 1) = .ok answer →
    report.steps[position]? = some ⟨step.label, .query, .queried answer.data⟩
  failed : ∀ position step source, pipeline.steps[position]? = some step →
    step.kind = .query → script.answerAt (position + 1) = .error source →
    ∃ address, report.addressOf? step.contract = some address ∧
      report.steps[position]? = some ⟨step.label, .query, .queryFailed
        ("step '" ++ step.label ++ "' failed to query " ++ step.contract.text ++
          " (" ++ address ++ "): " ++ source.oneLine)⟩

theorem Script.getElem?_converse {requests : List ChainRequest} {position : Nat}
    {request : ChainRequest} (there : requests[position]? = some request) (script : Script) :
    (client.converse requests script)[position]? =
      some ⟨request, (script.answerAt position).map fun answer => replyTo answer request⟩ := by
  induction requests generalizing position script with
  | nil => cases there
  | cons first rest ih =>
      cases position with
      | zero =>
          cases there
          simp only [ChainClient.converse, List.getElem?_cons_zero, reply_client]
      | succ position =>
          simp only [ChainClient.converse, List.getElem?_cons_succ, state_client]
          rw [ih there, answerAt_tail]

theorem Attempt.lament_of_query (step : Step) (address : String) (source : Trail) :
    lament (.query step.label step.contract address source) source =
      "step '" ++ step.label ++ "' failed to query " ++ step.contract.text ++
        " (" ++ address ++ "): " ++ source.oneLine := by
  have causes : source.causes.map Cause.message ≠ [] := by
    rw [Trail.causes, List.map_cons]
    exact List.cons_ne_nil _ _
  have message : (Failure.query step.label step.contract address source).message =
      "step '" ++ step.label ++ "' failed to query " ++ step.contract.text ++
        " (" ++ address ++ ")" := rfl
  have colon : "): " = ")" ++ ": " := rfl
  rw [lament, String.intercalate_cons_of_ne_nil causes, Trail.oneLine, colon, message,
    ← String.append_assoc]

/-- A step that queries has made a query, at the address that the run has recorded. -/
theorem Attempt.eq_query {setting : RunSetting σ} {attempt : Attempt}
    {address : ContractName → String} (asked : attempt.step.kind = .query)
    (addressed : (attempt.exchange setting).request = setting.requestOf address attempt.step) :
    ∃ message reply,
      attempt = .query attempt.step (address attempt.step.contract) message reply := by
  simp only [RunSetting.requestOf, asked] at addressed
  cases attempt with
  | deploy step message reply => cases addressed
  | execute step address message reply => cases addressed
  | query step address message reply =>
      injection addressed with target sent
      exact ⟨message, reply, by rw [target]; rfl⟩

namespace RunSetting

variable {setting : RunSetting Script} {run : Run Script} {start : Run Script}
  {attempts : List Attempt}

/-- A step that queries is reported as a query to the recorded address, with the answer that
the script has for it. -/
theorem Accounts.queried (accounts : Accounts setting start attempts run)
    (scripted : setting.client = Script.client) {position : Nat} {step : Step}
    (there : (attempts.map Attempt.step)[position]? = some step) (asked : step.kind = .query) :
    step.contract ∈ run.registry.names ∧ ∃ message before,
      run.steps[position]? = some ⟨step.label, .query,
        (Attempt.query step (run.registry.addressOf step.contract) message
          ((start.client.answerAt position).map PreparedAnswer.data)).outcome setting before⟩ := by
  rw [List.getElem?_map] at there
  obtain ⟨attempt, made, rfl⟩ := Option.map_eq_some_iff.mp there
  obtain ⟨depends, addressed⟩ := accounts.addressed attempt (List.mem_of_getElem? made)
  have recorded := depends attempt.step.contract
    (Step.contract_mem_dependencies (by rw [asked]; exact StepKind.noConfusion))
  obtain ⟨message, reply, shape⟩ := Attempt.eq_query asked addressed
  have replied : reply = (start.client.answerAt position).map PreparedAnswer.data := by
    have request : (Attempt.requests setting attempts)[position]? =
        some (.query (run.registry.addressOf attempt.step.contract) message) := by
      rw [Attempt.requests, List.getElem?_map, made, Option.map_some, shape]
      rfl
    have answer := Script.getElem?_converse request start.client
    rw [← scripted, accounts.answers, List.getElem?_map, made, Option.map_some, shape] at answer
    injection answer with exchange
    injection exchange with sent replied
  obtain ⟨before, report⟩ := Attempt.getElem?_reports made setting
  refine ⟨recorded, message, before, ?_⟩
  rw [accounts.steps, report, asked, ← replied, ← shape]

theorem runPipeline_tellsQueries (scripted : setting.client = Script.client)
    {pipeline : Pipeline} {script : Script} {files : FileTree} {report : Report}
    (returned : (setting.runPipeline pipeline script files).result = .ok report) :
    report.TellsQueries pipeline script := by
  obtain ⟨deployer, attempts, final, opens, accounts, same, rfl, ran⟩ := accounts_of_ok returned
  have client : (setting.opened script files).client = script.tail := opened_client scripted _ _
  have queried := fun {position step} (there : pipeline.steps[position]? = some step) =>
    accounts.queried scripted (same ▸ there)
  simp only [client, Script.answerAt_tail] at queried
  rw [persist_eq]
  constructor
  · intro position step answer there asked told
    obtain ⟨recorded, message, before, reported⟩ := queried there asked
    rw [told] at reported
    exact reported
  · intro position step source there asked told
    obtain ⟨recorded, message, before, reported⟩ := queried there asked
    rw [told] at reported
    refine ⟨_, Registry.addressOf?_of_mem recorded rfl, reported.trans ?_⟩
    rw [← Attempt.lament_of_query]
    rfl

theorem runPipeline_queries_diagnose (setting : RunSetting Script)
    (scripted : setting.client = Script.client) (pipeline : Pipeline) (script changed : Script)
    (agree : script.AgreeButQueries pipeline changed) (files : FileTree) :
    let execution := setting.runPipeline pipeline script files
    let other := setting.runPipeline pipeline changed files
    execution.SameButAnswers other ∧
      (∀ report, execution.result = .ok report → report.TellsQueries pipeline script) ∧
      ∀ report, other.result = .ok report → report.TellsQueries pipeline changed := by
  refine ⟨runPipeline_alongside scripted agree files, ?_, ?_⟩
  · intro report returned
    exact runPipeline_tellsQueries scripted returned
  · intro report returned
    exact runPipeline_tellsQueries scripted returned

/-- The market is looked at before it opens and afterwards. -/
def lookingTwice : Pipeline :=
  { steps :=
      [ Step.deploying .priceFeed .priceFeedInit,
        Step.deploying .vamm .vammInit,
        Step.querying "Query vAMM state" .vamm .vammState,
        Step.executing "Set vAMM Open" .vamm .vammSetOpen,
        Step.querying "Query vAMM state again" .vamm .vammState ] }

/-- All but the queries of `lookingTwice` are granted. -/
def lookingTwiceAnswered (first second : Except Trail Json) : Script :=
  let granted (address : String) : PreparedAnswer :=
    { address, codeId := some 7, transaction := "A1", data := .null }
  let asked (answer : Except Trail Json) : Except Trail PreparedAnswer :=
    answer.map fun data => { granted "" with data }
  [ .ok (granted "terra1deployer"), .ok (granted "terra1feed"), .ok (granted "terra1vamm"),
    asked first, .ok (granted ""), asked second ]

theorem lookingTwice_agree (first second third fourth : Except Trail Json) :
    (lookingTwiceAnswered first second).AgreeButQueries lookingTwice
      (lookingTwiceAnswered third fourth) := by
  refine { account := rfl, steps := ?_ }
  intro position step there told
  match position with
  | 0 | 1 | 3 => rfl
  | 2 | 4 =>
      cases there
      exact absurd rfl told
  | _ + 5 => cases there

theorem runPipeline_queries_diagnose_looking_twice :
    let setting := rehearsal Script.client .localChain
    let lucky := lookingTwiceAnswered (.ok .null) (.ok (.object []))
    let unlucky := lookingTwiceAnswered (.error (Trail.ofText "timeout")) (.ok (.string "open"))
    let files : FileTree := { entries := [], workingDirectory := [] }
    (setting.runPipeline lookingTwice lucky files).result.isOk ∧
      (setting.runPipeline lookingTwice lucky files).SameButAnswers
        (setting.runPipeline lookingTwice unlucky files) ∧
      ∀ report, (setting.runPipeline lookingTwice unlucky files).result = .ok report →
        report.TellsQueries lookingTwice unlucky := by
  intro setting lucky unlucky files
  obtain ⟨same, -, told⟩ := runPipeline_queries_diagnose setting rfl lookingTwice lucky unlucky
    (lookingTwice_agree _ _ _ _) files
  exact ⟨by decide +kernel, same, told⟩

end RunSetting

end PerpDeploy
