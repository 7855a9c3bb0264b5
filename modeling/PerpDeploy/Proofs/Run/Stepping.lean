/-
How a run goes on from step to step. A run that has come to a state is told by the attempts
that brought it there; what holds of every such state is shown by induction on them. A run
over admitted steps either makes an attempt for each of them or halts at the first that
fails.
-/

import PerpDeploy.Proofs.Run.Attempt

namespace PerpDeploy.RunSetting

variable {σ : Type}

def attempt (setting : RunSetting σ) (step : Step) (run : Run σ) : Attempt :=
  let address := run.registry.addressOf
  let message := step.payload.message setting.profile address
  match step.kind with
  | .deploy =>
      .deploy step message
        (setting.client.answer
          (.deploy setting.identity (setting.deployer.artifacts.pathFor step.contract) message
            step.instanceLabel) run.client).1
  | .execute =>
      .execute step (address step.contract) message
        (setting.client.answer
          (.execute setting.identity (address step.contract) message) run.client).1
  | .query =>
      .query step (address step.contract) message
        (setting.client.answer (.query (address step.contract) message) run.client).1

def outcome (setting : RunSetting σ) (step : Step) (run : Run σ) : StepOutcome :=
  (setting.attempt step run).outcome setting run.registry.records.length

/-- The run once the request of a step is answered. -/
def sent (setting : RunSetting σ) (step : Step) (run : Run σ) : Run σ :=
  let request := setting.requestOf run.registry.addressOf step
  { run with
    working := (step.payload.render run.working run.registry).1
    client := (setting.client.answer request run.client).2
    calls := run.calls ++ [⟨request, run.files⟩] }

/-- What an outcome changes in the accounts of a run. -/
def absorb (setting : RunSetting σ) (outcome : StepOutcome) (run : Run σ) : Run σ :=
  match outcome with
  | .deployed record =>
      setting.persist .inProgress
        { run with registry := { records := run.registry.records ++ [record] } }
  | .queried answer => { run with vammState := some answer }
  | _ => run

def advance (setting : RunSetting σ) (step : Step) (run : Run σ) : Run σ :=
  let outcome := setting.outcome step run
  let settled := setting.absorb outcome (setting.sent step (run.notify (.started step)))
  { settled.notify (.reported step outcome) with
    steps := settled.steps ++ [⟨step.label, step.kind, outcome⟩] }

/-- The run after a step that has failed, before the manifest is told. -/
def halt (setting : RunSetting σ) (step : Step) (run : Run σ) : Run σ :=
  (setting.sent step (run.notify (.started step))).notify
    (.reported step (setting.outcome step run))

/-! ### One step -/

theorem attempt_step (setting : RunSetting σ) (step : Step) (run : Run σ) :
    (setting.attempt step run).step = step := by
  unfold attempt
  cases step.kind <;> rfl

theorem attempt_cases (setting : RunSetting σ) (step : Step) (run : Run σ) :
    (step.kind = .deploy ∧ ∃ message reply,
      setting.attempt step run = .deploy step message reply) ∨
    (step.kind = .execute ∧ ∃ address message reply,
      setting.attempt step run = .execute step address message reply) ∨
    step.kind = .query ∧ ∃ address message reply,
      setting.attempt step run = .query step address message reply := by
  unfold attempt
  cases step.kind with
  | deploy => exact Or.inl ⟨rfl, _, _, rfl⟩
  | execute => exact Or.inr (Or.inl ⟨rfl, _, _, _, rfl⟩)
  | query => exact Or.inr (Or.inr ⟨rfl, _, _, _, rfl⟩)

theorem attempt_exchange (setting : RunSetting σ) (step : Step) (run : Run σ) :
    (setting.attempt step run).exchange setting =
      ⟨setting.requestOf run.registry.addressOf step,
        (setting.client.answer (setting.requestOf run.registry.addressOf step) run.client).1⟩ := by
  unfold attempt requestOf
  cases step.kind <;> rfl

theorem outcome_of_failure {setting : RunSetting σ} {attempt : Attempt} {failure : Failure}
    (failed : attempt.failure? = some failure) (deployed : Nat) :
    attempt.outcome setting deployed = .failed failure.trail.oneLine := by
  cases attempt with
  | deploy step message reply =>
      cases reply with
      | ok contract => cases failed
      | error source => cases failed; rfl
  | execute step address message reply =>
      cases reply with
      | ok receipt => cases failed
      | error source => cases failed; rfl
  | query step address message reply => cases failed

/-- An admitted step makes its one request, and the answer decides what becomes of it. -/
theorem runStep_of_admitted {setting : RunSetting σ} {step : Step} {run : Run σ}
    (admitted : step.Admitted run.registry.names)
    (kept : run.working.cleared = setting.profile.cleared) :
    setting.runStep step run =
      match (setting.attempt step run).failure? with
      | some failure => (setting.sent step run, .error failure)
      | none =>
          (setting.absorb (setting.outcome step run) (setting.sent step run),
            .ok (setting.outcome step run)) := by
  have recorded : ∀ name ∈ step.payload.references, name ∈ run.registry.names :=
    fun name referred =>
      admitted.depends name (step.references_subset_dependencies name referred)
  have rendered : step.payload.render run.working run.registry =
      ((step.payload.render run.working run.registry).1,
        .ok (step.payload.message setting.profile run.registry.addressOf)) := by
    rw [← Payload.message_of_cleared_eq kept, ← Payload.render_of_recorded recorded]
  unfold runStep
  rw [rendered]
  unfold outcome attempt sent requestOf
  cases kind : step.kind with
  | deploy =>
      have absent := admitted.fresh kind
      simp only [runDeploy, Run.ask]
      cases (setting.client.answer
        (.deploy setting.identity (setting.deployer.artifacts.pathFor step.contract)
          (step.payload.message setting.profile run.registry.addressOf) step.instanceLabel)
        run.client).1 with
      | error source => rfl
      | ok contract =>
          simp only [Registry.record_of_not_mem absent]
          rfl
  | execute =>
      have present := admitted.depends step.contract
        (Step.contract_mem_dependencies (by rw [kind]; exact StepKind.noConfusion))
      simp only [runExecute, targetAddress, Registry.resolve_of_mem present, Run.ask]
      cases (setting.client.answer
        (.execute setting.identity (run.registry.addressOf step.contract)
          (step.payload.message setting.profile run.registry.addressOf)) run.client).1 with
      | error source => rfl
      | ok receipt => rfl
  | query =>
      have present := admitted.depends step.contract
        (Step.contract_mem_dependencies (by rw [kind]; exact StepKind.noConfusion))
      simp only [runQuery, targetAddress, Registry.resolve_of_mem present, Run.ask]
      cases (setting.client.answer
        (.query (run.registry.addressOf step.contract)
          (step.payload.message setting.profile run.registry.addressOf)) run.client).1 with
      | error source => rfl
      | ok answer => rfl

/-- Writing the manifest touches nothing but the files. -/
theorem persist_eq (setting : RunSetting σ) (status : RunStatus) (run : Run σ) :
    setting.persist status run = { run with files := (setting.persist status run).files } := by
  unfold persist
  cases setting.deployer.manifest <;> rfl

theorem absorb_eq (setting : RunSetting σ) (outcome : StepOutcome) (run : Run σ) :
    setting.absorb outcome run =
      { run with
        files := (setting.absorb outcome run).files
        registry := { records := run.registry.records ++ outcome.record?.toList }
        vammState := outcome.snapshot?.or run.vammState } := by
  cases outcome with
  | deployed record =>
      simp only [absorb]
      rw [persist_eq]
      rfl
  | _ => simp [absorb, StepOutcome.record?, StepOutcome.snapshot?]

theorem advance_eq (setting : RunSetting σ) (step : Step) (run : Run σ) :
    setting.advance step run =
      { client :=
          (setting.client.answer (setting.requestOf run.registry.addressOf step) run.client).2
        files := (setting.advance step run).files
        working := (step.payload.render run.working run.registry).1
        registry :=
          { records :=
              run.registry.records ++ (setting.outcome step run).record?.toList }
        steps := run.steps ++ [⟨step.label, step.kind, setting.outcome step run⟩]
        vammState := (setting.outcome step run).snapshot?.or run.vammState
        calls :=
          run.calls ++ [⟨setting.requestOf run.registry.addressOf step, run.files⟩]
        notices :=
          run.notices ++ [.started step, .reported step (setting.outcome step run)] } := by
  simp only [advance]
  rw [absorb_eq]
  simp only [Run.notify, sent, List.append_assoc, List.cons_append, List.nil_append]

/-! ### Whole runs -/

/-- From `start` the attempts, none of which fails, bring a run to where it stands. -/
inductive Reaches (setting : RunSetting σ) (start : Run σ) : List Attempt → Run σ → Prop
  | start : Reaches setting start [] start
  | advance {attempts : List Attempt} {run : Run σ} {step : Step}
      (reached : Reaches setting start attempts run)
      (admitted : step.Admitted run.registry.names)
      (succeeded : (setting.attempt step run).failure? = none) :
      Reaches setting start (attempts ++ [setting.attempt step run]) (setting.advance step run)

theorem Reaches.working_cleared {setting : RunSetting σ} {start run : Run σ}
    {attempts : List Attempt} (reached : Reaches setting start attempts run) :
    run.working.cleared = start.working.cleared := by
  induction reached with
  | start => rfl
  | advance reached admitted succeeded ih =>
      rw [advance_eq]
      exact (Payload.render_cleared _ _ _).trans ih

theorem Reaches.none_failed {setting : RunSetting σ} {start run : Run σ}
    {attempts : List Attempt} (reached : Reaches setting start attempts run) :
    ∀ attempt ∈ attempts, attempt.failure? = none := by
  induction reached with
  | start => intro attempt member; cases member
  | advance reached admitted succeeded ih =>
      intro attempt member
      rcases List.mem_append.mp member with earlier | last
      · exact ih attempt earlier
      · rw [List.mem_singleton.mp last]
        exact succeeded

/-- A step that has not failed adds what it deploys to the names that are recorded. -/
theorem names_advance {setting : RunSetting σ} {step : Step} {run : Run σ}
    (succeeded : (setting.attempt step run).failure? = none) :
    (setting.advance step run).registry.names = run.registry.names ++ step.deploys := by
  have added : (setting.outcome step run).record?.toList.map ContractRecord.name =
      step.deploys := by
    unfold outcome Step.deploys
    rcases attempt_cases setting step run with
      ⟨kind, message, reply, made⟩ | ⟨kind, address, message, reply, made⟩ |
      ⟨kind, address, message, reply, made⟩
    · rw [made] at succeeded ⊢
      cases reply with
      | error source => cases succeeded
      | ok contract => simp [Attempt.outcome, StepOutcome.record?, kind]
    · rw [made]
      cases reply <;> simp [Attempt.outcome, StepOutcome.record?, kind]
    · rw [made]
      cases reply <;> simp [Attempt.outcome, StepOutcome.record?, kind]
  rw [advance_eq]
  simp only [Registry.names, List.map_append, added]

theorem runStep_of_started {setting : RunSetting σ} {step : Step} {run : Run σ}
    (admitted : step.Admitted run.registry.names)
    (kept : run.working.cleared = setting.profile.cleared) :
    setting.runStep step (run.notify (.started step)) =
      match (setting.attempt step run).failure? with
      | some failure => (setting.sent step (run.notify (.started step)), .error failure)
      | none =>
          (setting.absorb (setting.outcome step run)
              (setting.sent step (run.notify (.started step))),
            .ok (setting.outcome step run)) :=
  runStep_of_admitted admitted kept

theorem runSteps_of_succeeded {setting : RunSetting σ} {step : Step} {run : Run σ}
    (admitted : step.Admitted run.registry.names)
    (kept : run.working.cleared = setting.profile.cleared)
    (succeeded : (setting.attempt step run).failure? = none) (rest : List Step) :
    setting.runSteps (step :: rest) run = setting.runSteps rest (setting.advance step run) := by
  have stepped := runStep_of_started admitted kept
  rw [succeeded] at stepped
  simp only [runSteps, stepped]
  rfl

theorem runSteps_of_failed {setting : RunSetting σ} {step : Step} {run : Run σ}
    {failure : Failure} (admitted : step.Admitted run.registry.names)
    (kept : run.working.cleared = setting.profile.cleared)
    (failed : (setting.attempt step run).failure? = some failure) (rest : List Step) :
    setting.runSteps (step :: rest) run =
      (setting.persist .failed (setting.halt step run), .error failure) := by
  have stepped := runStep_of_started admitted kept
  rw [failed] at stepped
  simp only [runSteps, stepped, halt, outcome, outcome_of_failure failed]

/-- A run over admitted steps comes to the end of them, or halts at one that fails. -/
theorem runSteps_of_admitted {setting : RunSetting σ} {start run : Run σ}
    {attempts : List Attempt} {steps : List Step}
    (reached : Reaches setting start attempts run)
    (admitted : Pipeline.admitSteps run.registry.names steps = .ok ())
    (kept : start.working.cleared = setting.profile.cleared) (rest : List Step) :
    (∃ more final, Reaches setting start (attempts ++ more) final ∧
      more.map Attempt.step = steps ∧
      setting.runSteps (steps ++ rest) run = setting.runSteps rest final) ∨
    ∃ more final step later failure, Reaches setting start (attempts ++ more) final ∧
      steps = more.map Attempt.step ++ step :: later ∧
      step.Admitted final.registry.names ∧
      (setting.attempt step final).failure? = some failure ∧
      setting.runSteps (steps ++ rest) run =
        (setting.persist .failed (setting.halt step final), .error failure) := by
  induction steps generalizing attempts run with
  | nil => exact Or.inl ⟨[], run, by rwa [List.append_nil], rfl, rfl⟩
  | cons step following ih =>
      obtain ⟨here, onward⟩ := (Pipeline.admitSteps_cons_iff _ _ _).mp admitted
      have cleared := reached.working_cleared.trans kept
      cases failed : (setting.attempt step run).failure? with
      | some failure =>
          refine Or.inr ⟨[], run, step, following, failure, by rwa [List.append_nil], rfl, here,
            failed, ?_⟩
          exact runSteps_of_failed here cleared failed (following ++ rest)
      | none =>
          have next := Reaches.advance reached here failed
          rw [← names_advance failed] at onward
          have stepped := runSteps_of_succeeded here cleared failed (following ++ rest)
          rcases ih next onward with
            ⟨more, final, arrived, same, ended⟩ |
            ⟨more, final, last, later, failure, arrived, same, allowed, refused, ended⟩
          · refine Or.inl ⟨setting.attempt step run :: more, final, ?_, ?_, ?_⟩
            · simpa only [List.append_assoc, List.cons_append, List.nil_append] using arrived
            · rw [List.map_cons, attempt_step, same]
            · exact stepped.trans ended
          · refine Or.inr ⟨setting.attempt step run :: more, final, last, later, failure, ?_, ?_,
              allowed, refused, stepped.trans ended⟩
            · simpa only [List.append_assoc, List.cons_append, List.nil_append] using arrived
            · rw [List.map_cons, attempt_step, same, List.cons_append]

end PerpDeploy.RunSetting
