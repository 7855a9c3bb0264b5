/-
A run halts at the first deployment or transaction that the chain refuses, and then or at
the end of its pipeline all its accounts agree with the answers of the client.
-/

import PerpDeploy.Proofs.Run.Accounts

namespace PerpDeploy

/-- The report of a run that has come to the end of its pipeline. -/
structure Report.Agrees (report : Report) (profile : Profile) (pipeline : Pipeline)
    (deployer : String) (entries : List (String × StepOutcome)) : Prop where
  network : report.network = profile.network
  fingerprint : report.fingerprint = profile.fingerprint
  deployer : report.deployer = deployer
  kinds : report.steps.map (fun step => (step.label, step.kind)) =
    pipeline.steps.map fun step => (step.label, step.kind)
  outcomes : report.steps.map (fun step => (step.label, step.outcome)) = entries
  contracts : report.contracts = (entries.map Prod.snd).filterMap StepOutcome.record?
  names : report.contracts.map ContractRecord.name = pipeline.deployedContracts
  ordinals : report.contracts.map ContractRecord.ordinal =
    List.range' 1 report.contracts.length
  state : report.vammState = ((entries.map Prod.snd).filterMap StepOutcome.snapshot?).getLast?

namespace Attempt

variable {σ : Type}

theorem entries_outcomes (setting : RunSetting σ) (attempts : List Attempt) :
    (entries setting attempts).map Prod.snd = outcomes setting 0 attempts := by
  have seconds : (told setting attempts).map Prod.snd = outcomes setting 0 attempts :=
    List.map_snd_zip (Nat.le_of_eq (outcomes_length setting 0 attempts))
  simp only [entries, List.map_map, Function.comp_def] at seconds ⊢
  exact seconds

theorem entries_append_failed {setting : RunSetting σ} {front : List Attempt} {last : Attempt}
    {failure : Failure} (failed : last.failure? = some failure) :
    entries setting (front ++ [last]) =
      entries setting front ++ [(last.step.label, .failed failure.trail.oneLine)] := by
  rw [entries, told_append_single, List.map_append, RunSetting.outcome_of_failure failed]
  rfl

/-- A failure keeps the trail that the client has given. -/
theorem failure?_source {attempt : Attempt} {failure : Failure}
    (failed : attempt.failure? = some failure) : ∃ source, failure.source? = some source ∧
      failure.trail.oneLine =
        ": ".intercalate (failure.message :: source.causes.map Cause.message) := by
  unfold failure? at failed
  split at failed <;> cases failed <;> exact ⟨_, rfl, rfl⟩

/-- Where only the last attempt fails, it is the first that fails. -/
theorem first_failed_eq_last {attempts front later : List Attempt} {final last : Attempt}
    {failure : Failure} (unfailed : ∀ attempt ∈ attempts, attempt.failure? = none)
    (shape : attempts ++ [final] = front ++ last :: later)
    (failed : last.failure? = some failure) :
    front = attempts ∧ last = final ∧ later = [] := by
  have outside : last ∉ attempts := by
    intro member
    rw [unfailed last member] at failed
    cases failed
  rcases List.eq_nil_or_concat later with rfl | ⟨init, tail, rfl⟩
  · obtain ⟨same, single⟩ := List.append_inj' shape rfl
    exact ⟨same.symm, (List.cons.inj single).1.symm, rfl⟩
  · rw [List.concat_eq_append, ← List.cons_append, ← List.append_assoc] at shape
    have inner := (List.append_inj' shape rfl).1
    exact absurd (by rw [inner]; simp) outside

end Attempt

namespace RunSetting

variable {σ : Type}

theorem Accounts.report_agrees {setting : RunSetting σ} {pipeline : Pipeline} {start run : Run σ}
    {attempts : List Attempt} (accounts : Accounts setting start attempts run)
    (same : attempts.map Attempt.step = pipeline.steps) (deployer : String) :
    (setting.report deployer (setting.persist .completed run)).Agrees setting.profile pipeline
      deployer (Attempt.entries setting attempts) := by
  rw [persist_eq]
  exact
    { network := rfl
      fingerprint := rfl
      deployer := rfl
      kinds := by
        rw [← same, ← Attempt.reports_kinds setting, ← accounts.steps]
        rfl
      outcomes := by
        rw [← Attempt.reports_entries, ← accounts.steps]
        rfl
      contracts := by
        rw [Attempt.entries_outcomes]
        exact accounts.records
      names := by
        rw [Pipeline.deployedContracts_eq, ← same]
        exact accounts.names
      ordinals := by
        have counted := Attempt.ordinals_outcomes setting 0 attempts
        rw [← Attempt.records, ← accounts.records] at counted
        exact counted
      state := by
        rw [Attempt.entries_outcomes]
        exact accounts.snapshot }

/-- Each step makes one request, in the order of the pipeline. At the first refusal nothing
more is asked, and the failure, the client's trail in it, is what the observer is told last
and what the run returns. Without a refusal the report agrees with what the observer was
told. -/
structure Agreement (setting : RunSetting σ) (pipeline : Pipeline) (client : σ)
    (deployer : String) (attempts : List Attempt) (execution : Execution σ) : Prop
    extends Told setting client deployer attempts execution where
  order : attempts.map Attempt.step <+: pipeline.steps
  halted : ∀ front last later failure, attempts = front ++ last :: later →
    (∀ attempt ∈ front, attempt.failure? = none) → last.failure? = some failure →
    later = [] ∧ execution.result = .error failure ∧
    ∃ source, failure.source? = some source ∧
      execution.entries = Attempt.entries setting front ++
        [(last.step.label,
          .failed (": ".intercalate (failure.message :: source.causes.map Cause.message)))]
  completed : (∀ attempt ∈ attempts, attempt.failure? = none) →
    attempts.map Attempt.step = pipeline.steps ∧
    ∃ report, execution.result = .ok report ∧
      report.Agrees setting.profile pipeline deployer execution.entries

theorem Accounts.agreement_completed {setting : RunSetting σ} {pipeline : Pipeline} {client : σ}
    {files : FileTree} {deployer : String} (opens : setting.Opens pipeline client files deployer)
    {attempts : List Attempt} {final : Run σ}
    (accounts : Accounts setting (setting.opened client files) attempts final)
    (unfailed : ∀ attempt ∈ attempts, attempt.failure? = none)
    (same : attempts.map Attempt.step = pipeline.steps) :
    setting.Agreement pipeline client deployer attempts
      { result := .ok (setting.report deployer (setting.persist .completed final))
        run := setting.persist .completed final } := by
  have told := accounts.told_completed opens
    (.ok (setting.report deployer (setting.persist .completed final)))
  refine { told with order := same ▸ List.prefix_rfl, halted := ?_, completed := ?_ }
  · intro front last after failure shape earlier failed
    have none := unfailed last (by rw [shape]; simp)
    rw [none] at failed
    cases failed
  · intro succeeded
    refine ⟨same, _, rfl, ?_⟩
    rw [told.entries]
    exact accounts.report_agrees same deployer

theorem Accounts.agreement_halted {setting : RunSetting σ} {pipeline : Pipeline} {client : σ}
    {files : FileTree} {deployer : String} (opens : setting.Opens pipeline client files deployer)
    {attempts : List Attempt} {final : Run σ}
    (accounts : Accounts setting (setting.opened client files) attempts final)
    (unfailed : ∀ attempt ∈ attempts, attempt.failure? = none) {step : Step} {later : List Step}
    (split : pipeline.steps = attempts.map Attempt.step ++ step :: later) {failure : Failure}
    (refused : (setting.attempt step final).failure? = some failure) :
    setting.Agreement pipeline client deployer (attempts ++ [setting.attempt step final])
      { result := .error failure
        run := setting.persist .failed (setting.halt step final) } := by
  have told := accounts.told_halted opens refused (.error failure)
  refine { told with order := ?_, halted := ?_, completed := ?_ }
  · rw [split, List.map_append, List.map_cons, attempt_step]
    exact ⟨later, by simp⟩
  · intro front last after found shape earlier failed
    obtain ⟨rfl, rfl, rfl⟩ := Attempt.first_failed_eq_last unfailed shape failed
    rw [refused] at failed
    cases failed
    obtain ⟨source, kept, text⟩ := Attempt.failure?_source refused
    refine ⟨rfl, rfl, source, kept, ?_⟩
    rw [told.entries, Attempt.entries_append_failed refused, text]
  · intro succeeded
    have none := succeeded (setting.attempt step final) (by simp)
    rw [refused] at none
    cases none

theorem runPipeline_accounts_agree (setting : RunSetting σ) (pipeline : Pipeline) (client : σ)
    (files : FileTree) (deployer : String)
    (opens : setting.Opens pipeline client files deployer) :
    ∃ attempts, setting.Agreement pipeline client deployer attempts
      (setting.runPipeline pipeline client files) := by
  obtain ⟨attempts, final, reached, ending⟩ := runPipeline_of_opens opens
  have accounts := reached.accounts (opened_unstepped setting client files)
  rcases ending with ⟨same, ran⟩ | ⟨step, later, failure, split, admitted, refused, ran⟩
  · rw [ran]
    exact ⟨attempts, accounts.agreement_completed opens reached.none_failed same⟩
  · rw [ran]
    exact ⟨attempts ++ [setting.attempt step final],
      accounts.agreement_halted opens reached.none_failed split refused⟩

/-- The chain gives an address to everything and refuses the third request. -/
def refusingThird : Script :=
  [ .ok { address := "terra1deployer", codeId := none, transaction := "", data := .null },
    .ok { address := "terra1fund", codeId := some 7, transaction := "", data := .null },
    .error (Trail.ofText "out of gas") ]

theorem runPipeline_accounts_agree_refused :
    (rehearsal Script.client .localChain).Opens (.forProfile .localChain) refusingThird
        { entries := [], workingDirectory := [] } "terra1deployer" ∧
      ∃ attempts, (rehearsal Script.client .localChain).Agreement (.forProfile .localChain)
        refusingThird "terra1deployer" attempts
        ((rehearsal Script.client .localChain).runPipeline (.forProfile .localChain) refusingThird
          { entries := [], workingDirectory := [] }) := by
  have opens : (rehearsal Script.client .localChain).Opens (.forProfile .localChain) refusingThird
      { entries := [], workingDirectory := [] } "terra1deployer" :=
    { passed := rfl, account := rfl }
  exact ⟨opens, runPipeline_accounts_agree _ _ _ _ _ opens⟩

end RunSetting

end PerpDeploy
