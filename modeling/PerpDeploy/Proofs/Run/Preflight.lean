/-
What is checked before a run, and that nothing has been done when a check fails. The checks
are made in a fixed order and the first that detects a fault is told; until all of them have
passed the chain is not asked for anything, the observer is told nothing and no file is
touched. Afterwards the steps begin, and no check stands in their way.
-/

import PerpDeploy.Proofs.Profile.Requirement
import PerpDeploy.Proofs.Run.Accounts

namespace PerpDeploy

inductive Check
  | profile
  | steps
  | artifacts
  | manifest
  deriving DecidableEq, Repr

/-- All checks in the order in which they are made. -/
def Check.all : List Check := [.profile, .steps, .artifacts, .manifest]

theorem Check.mem_all (check : Check) : check ∈ Check.all := by
  cases check <;> decide

/-- The file that a contract is to be deployed from. -/
def ChainRequest.artifact? : ChainRequest → Option Path
  | .deploy _ artifact _ _ => some artifact
  | _ => none

/-- Checks made one after the other come to the first that fails. -/
theorem forM_eq_error_iff {α ε : Type} (check : α → Except ε PUnit) (all : List α) (fault : ε) :
    forM all check = .error fault ↔
      ∃ front bad later, all = front ++ bad :: later ∧
        (∀ good ∈ front, check good = .ok ⟨⟩) ∧ check bad = .error fault := by
  constructor
  · intro stopped
    induction all with
    | nil => cases stopped
    | cons first rest ih =>
        rw [List.forM_cons] at stopped
        cases made : check first with
        | error found =>
            rw [made] at stopped
            cases stopped
            exact ⟨[], first, rest, rfl, List.forall_mem_nil _, made⟩
        | ok passed =>
            rw [made] at stopped
            obtain ⟨front, bad, later, rfl, earlier, fails⟩ := ih stopped
            refine ⟨first :: front, bad, later, rfl, ?_, fails⟩
            intro good member
            rcases List.mem_cons.mp member with rfl | behind
            · exact made
            · exact earlier good behind
  · rintro ⟨front, bad, later, rfl, earlier, fails⟩
    induction front with
    | nil =>
        rw [List.nil_append, List.forM_cons, fails]
        rfl
    | cons good rest ih =>
        rw [List.cons_append, List.forM_cons, earlier good List.mem_cons_self]
        exact ih fun other member => earlier other (List.mem_cons_of_mem good member)

theorem forM_eq_ok_iff {α ε : Type} (check : α → Except ε PUnit) (all : List α) :
    forM all check = .ok ⟨⟩ ↔ ∀ good ∈ all, check good = .ok ⟨⟩ := by
  induction all with
  | nil => exact ⟨fun _ => List.forall_mem_nil _, fun _ => rfl⟩
  | cons first rest ih =>
      rw [List.forM_cons, List.forall_mem_cons]
      cases made : check first with
      | error fault =>
          constructor
          · intro passed
            cases passed
          · rintro ⟨passed, -⟩
            cases passed
      | ok passed =>
          rw [← ih]
          exact ⟨fun onward => ⟨rfl, onward⟩, And.right⟩

namespace RunSetting

variable {σ : Type}

/-- A fault that a check is there to detect, and how it is told. -/
inductive Detects (setting : RunSetting σ) (pipeline : Pipeline) (files : FileTree) :
    Check → Failure → Prop
  | profile (invalid : setting.profile.problems ≠ []) :
      Detects setting pipeline files .profile
        (.configuration
          ("profile '" ++ setting.profile.network ++ "' is invalid: " ++
            "; ".intercalate setting.profile.problems))
  /-- A step depends on a contract that no step before it deploys. -/
  | early {passed later : List Step} {step : Step} {met others : List ContractName}
      {name : ContractName}
      (split : pipeline.steps = passed ++ step :: later)
      (admitted : Pipeline.validate { steps := passed } = .ok ())
      (needed : step.dependencies = met ++ name :: others)
      (present : ∀ other ∈ met, other ∈ Pipeline.deployedContracts { steps := passed })
      (absent : name ∉ Pipeline.deployedContracts { steps := passed }) :
      Detects setting pipeline files .steps (.unknownContract name (some step.label))
  | again {passed later : List Step} {step : Step}
      (split : pipeline.steps = passed ++ step :: later)
      (admitted : Pipeline.validate { steps := passed } = .ok ())
      (met : ∀ name ∈ step.dependencies, name ∈ Pipeline.deployedContracts { steps := passed })
      (deploys : step.kind = .deploy)
      (present : step.contract ∈ Pipeline.deployedContracts { steps := passed }) :
      Detects setting pipeline files .steps
        (.configuration
          ("step '" ++ step.label ++ "' deploys " ++ step.contract.text ++ " a second time"))
  | artifacts {missing : List Path} (wanted : setting.deployer.checkArtifacts = true)
      (found : missing = (pipeline.deployedContracts.map
        setting.deployer.artifacts.pathFor).filter fun path => !files.isFile path)
      (lacking : missing ≠ []) :
      Detects setting pipeline files .artifacts
        (.configuration ("missing contract artifacts: " ++ ", ".intercalate missing))
  | manifest {target : ManifestTarget} {source : Trail}
      (kept : setting.deployer.manifest = some target)
      (unread : Manifest.load files target.path = .error source) :
      Detects setting pipeline files .manifest (.manifest target.path source)

/-- What a check comes to. -/
def verdict (setting : RunSetting σ) (pipeline : Pipeline) (files : FileTree) :
    Check → Except Failure Unit
  | .profile => setting.profile.validate
  | .steps => pipeline.validate
  | .artifacts =>
      if setting.deployer.checkArtifacts then
        setting.deployer.artifacts.ensurePresent files pipeline.deployedContracts
      else .ok ()
  | .manifest =>
      match setting.deployer.manifest with
      | none => .ok ()
      | some target =>
          match Manifest.load files target.path with
          | .ok _ => .ok ()
          | .error source => .error (.manifest target.path source)

theorem preflight_eq (setting : RunSetting σ) (pipeline : Pipeline) (files : FileTree) :
    setting.preflight pipeline files = forM Check.all (setting.verdict pipeline files) := by
  unfold preflight Check.all
  simp only [List.forM_cons, List.forM_nil, verdict, bind_pure_unit]
  cases setting.deployer.checkArtifacts with
  | false => rfl
  | true => rfl

theorem ensurePresent_error_iff (store : ArtifactStore) (files : FileTree)
    (contracts : List ContractName) (failure : Failure) :
    store.ensurePresent files contracts = .error failure ↔
      store.missing files contracts ≠ [] ∧
        failure = .configuration
          ("missing contract artifacts: " ++
            ", ".intercalate (store.missing files contracts)) := by
  unfold ArtifactStore.ensurePresent
  cases store.missing files contracts with
  | nil => simp
  | cons path rest =>
      rw [Except.error.injEq]
      exact ⟨fun told => ⟨List.cons_ne_nil path rest, told.symm⟩, fun told => told.2.symm⟩

theorem validate_steps_error_iff (pipeline : Pipeline) (failure : Failure) :
    pipeline.validate = .error failure ↔
      ∃ passed step later, pipeline.steps = passed ++ step :: later ∧
        Pipeline.validate { steps := passed } = .ok () ∧
        Pipeline.admitStep (Pipeline.deployedContracts { steps := passed }) step =
          .error failure := by
  constructor
  · intro refused
    obtain ⟨passed, step, later, split, admitted, stopped⟩ := Pipeline.admitSteps_refused refused
    refine ⟨passed, step, later, split, admitted, ?_⟩
    rw [Pipeline.deployedContracts_eq]
    exact stopped
  · rintro ⟨passed, step, later, split, admitted, stopped⟩
    rw [Pipeline.deployedContracts_eq] at stopped
    unfold Pipeline.validate
    rw [split]
    exact Pipeline.admitSteps_append_refused admitted stopped later

theorem verdict_artifacts_error_iff (setting : RunSetting σ) (pipeline : Pipeline)
    (files : FileTree) (failure : Failure) :
    setting.verdict pipeline files .artifacts = .error failure ↔
      setting.deployer.checkArtifacts = true ∧
        setting.deployer.artifacts.ensurePresent files pipeline.deployedContracts =
          .error failure := by
  simp only [verdict]
  by_cases wanted : setting.deployer.checkArtifacts = true
  · rw [if_pos wanted]
    exact ⟨fun refused => ⟨wanted, refused⟩, And.right⟩
  · rw [if_neg wanted]
    constructor
    · intro passed
      cases passed
    · rintro ⟨checked, -⟩
      exact absurd checked wanted

theorem verdict_manifest_error_iff (setting : RunSetting σ) (pipeline : Pipeline)
    (files : FileTree) (failure : Failure) :
    setting.verdict pipeline files .manifest = .error failure ↔
      ∃ target source, setting.deployer.manifest = some target ∧
        Manifest.load files target.path = .error source ∧
        failure = .manifest target.path source := by
  simp only [verdict]
  cases setting.deployer.manifest with
  | none => simp
  | some target =>
      constructor
      · intro refused
        simp only at refused
        cases loaded : Manifest.load files target.path with
        | ok manifest =>
            rw [loaded] at refused
            cases refused
        | error source =>
            rw [loaded] at refused
            cases refused
            exact ⟨target, source, rfl, loaded, rfl⟩
      · rintro ⟨_, source, same, unread, rfl⟩
        cases same
        simp only [unread]

/-- What a check comes to is what it detects. -/
theorem verdict_eq_error_iff (setting : RunSetting σ) (pipeline : Pipeline) (files : FileTree)
    (check : Check) (failure : Failure) :
    setting.verdict pipeline files check = .error failure ↔
      setting.Detects pipeline files check failure := by
  constructor
  · intro refused
    cases check with
    | profile =>
        obtain ⟨invalid, rfl⟩ := (setting.profile.validate_error_iff failure).mp refused
        exact .profile invalid
    | steps =>
        obtain ⟨passed, step, later, split, admitted, stopped⟩ :=
          (validate_steps_error_iff pipeline failure).mp refused
        rcases (Pipeline.admitStep_eq_error_iff _ step failure).mp stopped with
          ⟨met, name, others, needed, present, absent, rfl⟩ | ⟨met, deploys, present, rfl⟩
        · exact .early split admitted needed present absent
        · exact .again split admitted met deploys present
    | artifacts =>
        obtain ⟨wanted, absent⟩ := (verdict_artifacts_error_iff setting _ _ failure).mp refused
        obtain ⟨lacking, rfl⟩ := (ensurePresent_error_iff _ _ _ failure).mp absent
        exact .artifacts wanted rfl lacking
    | manifest =>
        obtain ⟨target, source, kept, unread, rfl⟩ :=
          (verdict_manifest_error_iff setting pipeline files failure).mp refused
        exact .manifest kept unread
  · intro detected
    cases detected with
    | profile invalid => exact (Profile.validate_error_iff _ _).mpr ⟨invalid, rfl⟩
    | early split admitted needed present absent =>
        refine (validate_steps_error_iff _ _).mpr ⟨_, _, _, split, admitted, ?_⟩
        exact (Pipeline.admitStep_eq_error_iff _ _ _).mpr
          (Or.inl ⟨_, _, _, needed, present, absent, rfl⟩)
    | again split admitted met deploys present =>
        refine (validate_steps_error_iff _ _).mpr ⟨_, _, _, split, admitted, ?_⟩
        exact (Pipeline.admitStep_eq_error_iff _ _ _).mpr
          (Or.inr ⟨met, deploys, present, rfl⟩)
    | artifacts wanted found lacking =>
        subst found
        refine (verdict_artifacts_error_iff _ _ _ _).mpr ⟨wanted, ?_⟩
        exact (ensurePresent_error_iff _ _ _ _).mpr ⟨lacking, rfl⟩
    | manifest kept unread =>
        exact (verdict_manifest_error_iff _ _ _ _).mpr ⟨_, _, kept, unread, rfl⟩

theorem verdict_eq_ok_iff (setting : RunSetting σ) (pipeline : Pipeline) (files : FileTree)
    (check : Check) :
    setting.verdict pipeline files check = .ok () ↔
      ∀ failure, ¬ setting.Detects pipeline files check failure := by
  simp only [← verdict_eq_error_iff]
  cases setting.verdict pipeline files check with
  | ok done => simp
  | error failure => simp

theorem preflight_eq_ok_iff (setting : RunSetting σ) (pipeline : Pipeline) (files : FileTree) :
    setting.preflight pipeline files = .ok () ↔
      ∀ check failure, ¬ setting.Detects pipeline files check failure := by
  rw [preflight_eq, forM_eq_ok_iff]
  constructor
  · intro passed check
    exact (verdict_eq_ok_iff ..).mp (passed check check.mem_all)
  · intro clean check _
    exact (verdict_eq_ok_iff ..).mpr (clean check)

/-- A run stops at the first check that detects a fault, and for that fault. -/
theorem preflight_eq_error_iff (setting : RunSetting σ) (pipeline : Pipeline) (files : FileTree)
    (failure : Failure) :
    setting.preflight pipeline files = .error failure ↔
      ∃ front check later, Check.all = front ++ check :: later ∧
        (∀ earlier ∈ front, ∀ other, ¬ setting.Detects pipeline files earlier other) ∧
        setting.Detects pipeline files check failure := by
  rw [preflight_eq, forM_eq_error_iff]
  simp only [verdict_eq_error_iff, verdict_eq_ok_iff]

/-! ### The steps after the checks -/

/-- A run that has stopped before its first effect. -/
structure Untouched (client : σ) (files : FileTree) (run : Run σ) : Prop where
  calls : run.calls = []
  client : run.client = client
  notices : run.notices = []
  files : run.files = files

/-- A run that has asked for the account of its signer, and has done nothing else. -/
structure Introduced (setting : RunSetting σ) (client : σ) (files : FileTree) (run : Run σ) :
    Prop where
  calls : run.calls = [⟨.accountAddress setting.identity, files⟩]
  client : run.client = (setting.client.answer (.accountAddress setting.identity) client).2
  notices : run.notices = []
  files : run.files = files

/-- A run that has gone on to its steps: each step that it reached has made its one request and
was told as begun and as ended, and the run came to the end of them or to a failing one. -/
structure Began (setting : RunSetting σ) (pipeline : Pipeline) (client : σ) (files : FileTree)
    (deployer : String) (attempts : List Attempt) (execution : Execution σ) : Prop where
  steps : attempts.map Attempt.step <+: pipeline.steps
  conversation : setting.conversation client execution =
    ⟨.accountAddress setting.identity, .ok deployer⟩ :: attempts.map (Attempt.exchange setting)
  notices : execution.run.notices = Attempt.notices setting attempts
  /-- What is deployed comes from the very files that were looked for. -/
  artifacts : (execution.run.calls.map Call.request).filterMap ChainRequest.artifact? <+:
    pipeline.deployedContracts.map setting.deployer.artifacts.pathFor
  found : setting.deployer.checkArtifacts = true → ∀ call ∈ execution.run.calls, ∀ artifact,
    call.request.artifact? = some artifact → files.isFile artifact = true
  ended : (attempts.map Attempt.step = pipeline.steps ∧
      ∃ report, execution.result = .ok report) ∨
    ∃ passed last failure, attempts = passed ++ [last] ∧ last.failure? = some failure ∧
      execution.result = .error failure

theorem artifacts_requestOf (setting : RunSetting σ) (address : ContractName → String)
    (steps : List Step) :
    (steps.map (setting.requestOf address)).filterMap ChainRequest.artifact? =
      (steps.flatMap Step.deploys).map setting.deployer.artifacts.pathFor := by
  induction steps with
  | nil => rfl
  | cons step rest ih =>
      rw [List.flatMap_cons, List.map_append, ← ih, List.map_cons, List.filterMap_cons]
      unfold requestOf Step.deploys
      cases kind : step.kind with
      | deploy => rfl
      | execute => rfl
      | query => rfl

theorem isFile_of_clean {setting : RunSetting σ} {pipeline : Pipeline} {files : FileTree}
    (clean : ∀ failure, ¬ setting.Detects pipeline files .artifacts failure)
    (wanted : setting.deployer.checkArtifacts = true) :
    ∀ path ∈ pipeline.deployedContracts.map setting.deployer.artifacts.pathFor,
      files.isFile path = true := by
  intro path among
  cases present : files.isFile path with
  | true => rfl
  | false =>
      have lacking : path ∈ (pipeline.deployedContracts.map
          setting.deployer.artifacts.pathFor).filter fun path => !files.isFile path :=
        List.mem_filter.mpr ⟨among, by rw [present]; rfl⟩
      exact absurd (.artifacts wanted rfl (List.ne_nil_of_mem lacking)) (clean _)

theorem Told.artifacts {setting : RunSetting σ} {pipeline : Pipeline} {client : σ}
    {deployer : String} {attempts : List Attempt} {execution : Execution σ}
    (told : Told setting client deployer attempts execution)
    (steps : attempts.map Attempt.step <+: pipeline.steps) :
    (execution.run.calls.map Call.request).filterMap ChainRequest.artifact? <+:
      pipeline.deployedContracts.map setting.deployer.artifacts.pathFor := by
  obtain ⟨later, split⟩ := steps
  have made : (execution.run.calls.map Call.request).filterMap ChainRequest.artifact? =
      ((attempts.map Attempt.step).flatMap Step.deploys).map
        setting.deployer.artifacts.pathFor := by
    rw [told.requests, ← artifacts_requestOf setting (Attempt.addresses setting attempts)]
    rfl
  rw [made, Pipeline.deployedContracts_eq, ← split, List.flatMap_append, List.map_append]
  exact List.prefix_append _ _

theorem Told.began {setting : RunSetting σ} {pipeline : Pipeline} {client : σ}
    {files : FileTree} {deployer : String} {attempts : List Attempt} {execution : Execution σ}
    (told : Told setting client deployer attempts execution)
    (clean : ∀ failure, ¬ setting.Detects pipeline files .artifacts failure)
    (steps : attempts.map Attempt.step <+: pipeline.steps)
    (notices : execution.run.notices = Attempt.notices setting attempts)
    (ended : (attempts.map Attempt.step = pipeline.steps ∧
        ∃ report, execution.result = .ok report) ∨
      ∃ passed last failure, attempts = passed ++ [last] ∧ last.failure? = some failure ∧
        execution.result = .error failure) :
    Began setting pipeline client files deployer attempts execution := by
  have artifacts := told.artifacts steps
  refine
    { steps, conversation := told.conversation, notices, artifacts, found := ?_, ended }
  intro wanted call member artifact asked
  apply isFile_of_clean clean wanted
  apply artifacts.subset
  exact List.mem_filterMap.mpr ⟨call.request, List.mem_map_of_mem member, asked⟩

theorem runPipeline_began {setting : RunSetting σ} {pipeline : Pipeline} {client : σ}
    {files : FileTree} {deployer : String}
    (opens : setting.Opens pipeline client files deployer) :
    ∃ attempts, Began setting pipeline client files deployer attempts
      (setting.runPipeline pipeline client files) := by
  have clean := (preflight_eq_ok_iff setting pipeline files).mp opens.passed .artifacts
  obtain ⟨attempts, final, reached, ending⟩ := runPipeline_of_opens opens
  have accounts := reached.accounts (opened_unstepped setting client files)
  rcases ending with ⟨same, ran⟩ | ⟨step, later, failure, split, -, failed, ran⟩
  · rw [ran]
    refine ⟨attempts, (accounts.told_completed opens _).began clean ?_ ?_ (Or.inl ⟨same, _, rfl⟩)⟩
    · simp only [same, List.prefix_rfl]
    · rw [persist_eq]
      exact accounts.notices
  · rw [ran]
    refine ⟨attempts ++ [setting.attempt step final],
      (accounts.told_halted opens failed _).began clean ?_ ?_
        (Or.inr ⟨attempts, _, failure, rfl, failed, rfl⟩)⟩
    · rw [split, List.map_append, List.map_cons, List.map_nil, attempt_step]
      exact ⟨later, by simp⟩
    · rw [persist_eq]
      exact accounts.notices_halt step

/-- What becomes of a run before its first step. -/
structure ChecksFirst (setting : RunSetting σ) (pipeline : Pipeline) (client : σ)
    (files : FileTree) (execution : Execution σ) : Prop where
  refused : ∀ {front later : List Check} {check : Check} {failure : Failure},
    Check.all = front ++ check :: later →
    (∀ earlier ∈ front, ∀ other, ¬ setting.Detects pipeline files earlier other) →
    setting.Detects pipeline files check failure →
    execution.result = .error failure ∧ Untouched client files execution.run
  unknown : (∀ check failure, ¬ setting.Detects pipeline files check failure) →
    ∀ {source : Trail},
    (setting.client.answer (.accountAddress setting.identity) client).1 = .error source →
    execution.result =
        .error (.configuration
          ("failed to resolve deployer account '" ++ setting.identity.keyName ++ "': " ++
            source.oneLine)) ∧
      Introduced setting client files execution.run
  opened : (∀ check failure, ¬ setting.Detects pipeline files check failure) →
    ∀ {deployer : String},
    (setting.client.answer (.accountAddress setting.identity) client).1 = .ok deployer →
    ∃ attempts, Began setting pipeline client files deployer attempts execution

theorem runPipeline_checks_first (setting : RunSetting σ) (pipeline : Pipeline) (client : σ)
    (files : FileTree) :
    ChecksFirst setting pipeline client files (setting.runPipeline pipeline client files) := by
  refine { refused := ?_, unknown := ?_, opened := ?_ }
  · intro front later check failure order clean detected
    have stopped := (preflight_eq_error_iff setting pipeline files failure).mpr
      ⟨front, check, later, order, clean, detected⟩
    rw [runPipeline_of_refused stopped]
    exact ⟨rfl, { calls := rfl, client := rfl, notices := rfl, files := rfl }⟩
  · intro clean source unanswered
    have passed := (preflight_eq_ok_iff setting pipeline files).mpr clean
    rw [runPipeline_of_unknown passed unanswered]
    exact ⟨rfl, { calls := rfl, client := rfl, notices := rfl, files := rfl }⟩
  · intro clean deployer answered
    have passed := (preflight_eq_ok_iff setting pipeline files).mpr clean
    exact runPipeline_began { passed, account := answered }

/-- Two artifacts are there, a directory bears the name of a third, and the manifest is not one. -/
def unreadyTree : FileTree :=
  { entries :=
      [ (["artifacts"], .directory FileTree.directoryMode),
        (["artifacts", "margined_insurance_fund.wasm"], .file .empty),
        (["artifacts", "margined_vamm.wasm"], .file .empty),
        (["artifacts", "margined_engine.wasm"], .directory FileTree.directoryMode),
        (["deployments.json"], .file "not json".toUTF8) ]
    workingDirectory := [] }

def unready : RunSetting Nat :=
  { rehearsal grantingChain .localChain with
    deployer :=
      { artifacts := { root := "artifacts" }
        manifest := some { path := "deployments.json", chainId := "localterra" }
        checkArtifacts := true } }

theorem runPipeline_checks_first_unready :
    let pipeline := Pipeline.forProfile .localChain
    let failure := Failure.configuration
      ("missing contract artifacts: artifacts/mock_pricefeed.wasm, " ++
        "artifacts/margined_engine.wasm")
    (Manifest.load unreadyTree "deployments.json").toOption = none ∧
      unready.Detects pipeline unreadyTree .artifacts failure ∧
      (unready.runPipeline pipeline 0 unreadyTree).result = .error failure ∧
      Untouched 0 unreadyTree (unready.runPipeline pipeline 0 unreadyTree).run := by
  intro pipeline failure
  have detected : unready.Detects pipeline unreadyTree .artifacts failure := by
    apply (verdict_eq_error_iff ..).mp
    rfl
  have clean : ∀ earlier ∈ [Check.profile, Check.steps], ∀ other,
      ¬ unready.Detects pipeline unreadyTree earlier other := by
    intro earlier member
    apply (verdict_eq_ok_iff ..).mp
    rcases List.mem_cons.mp member with rfl | last
    · rfl
    · rw [List.mem_singleton.mp last]
      rfl
  have order : Check.all = [.profile, .steps] ++ .artifacts :: [.manifest] := rfl
  exact ⟨rfl, detected,
    (runPipeline_checks_first unready pipeline 0 unreadyTree).refused order clean detected⟩

end RunSetting

end PerpDeploy
