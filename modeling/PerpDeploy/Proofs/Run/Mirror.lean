/-
Two runs side by side. If their settings agree in what a run can see and their clients give
the same answers, the runs make the same requests, tell the same and end the same, up to the
account that signs and the times in their records. A `view` of a record keeps all of it but
perhaps the time, and what the runs have recorded is compared in that view on either side. The
comparison goes along step by step, so it holds for every pipeline and every answer.
-/

import PerpDeploy.Proofs.Run.Accounts

namespace PerpDeploy

/-! ### A view of the records that a run has made -/

def ContractRecord.dated (time : Int) (record : ContractRecord) : ContractRecord :=
  { record with deployedAt := time }

def Registry.mapRecords (view : ContractRecord → ContractRecord) (registry : Registry) :
    Registry := { records := registry.records.map view }

def StepOutcome.mapRecord (view : ContractRecord → ContractRecord) : StepOutcome → StepOutcome
  | .deployed record => .deployed (view record)
  | outcome => outcome

def StepReport.mapRecord (view : ContractRecord → ContractRecord) (report : StepReport) :
    StepReport := { report with outcome := report.outcome.mapRecord view }

def Notice.mapRecord (view : ContractRecord → ContractRecord) : Notice → Notice
  | .started step => .started step
  | .reported step outcome => .reported step (outcome.mapRecord view)

def Report.mapRecords (view : ContractRecord → ContractRecord) (report : Report) : Report :=
  { report with
    contracts := report.contracts.map view
    steps := report.steps.map (StepReport.mapRecord view) }

/-- The same request, signed by another account. -/
def ChainRequest.signedBy (identity : Identity) : ChainRequest → ChainRequest
  | .accountAddress _ => .accountAddress identity
  | .deploy _ artifact message label => .deploy identity artifact message label
  | .execute _ contract message => .execute identity contract message
  | .query contract message => .query contract message

theorem StepOutcome.mapRecord_id (outcome : StepOutcome) : outcome.mapRecord id = outcome := by
  cases outcome <;> rfl

theorem StepReport.mapRecord_id (report : StepReport) : report.mapRecord id = report := by
  unfold mapRecord
  rw [StepOutcome.mapRecord_id]

theorem Notice.mapRecord_id (notice : Notice) : notice.mapRecord id = notice := by
  cases notice with
  | started step => rfl
  | reported step outcome => rw [mapRecord, StepOutcome.mapRecord_id]

theorem Registry.mapRecords_id (registry : Registry) : registry.mapRecords id = registry := by
  unfold mapRecords
  rw [List.map_id]

theorem Report.mapRecords_id (report : Report) : report.mapRecords id = report := by
  unfold mapRecords
  rw [List.map_id, funext StepReport.mapRecord_id]
  simp

/-- Nothing but the time of the record is another one. -/
def OnlyDates (view : ContractRecord → ContractRecord) : Prop :=
  ∀ record, ∃ time, view record = record.dated time

namespace OnlyDates

variable {view : ContractRecord → ContractRecord}

theorem name (dates : OnlyDates view) (record : ContractRecord) :
    (view record).name = record.name := by
  obtain ⟨time, same⟩ := dates record
  rw [same]
  rfl

theorem address (dates : OnlyDates view) (record : ContractRecord) :
    (view record).address = record.address := by
  obtain ⟨time, same⟩ := dates record
  rw [same]
  rfl

theorem get? (dates : OnlyDates view) (registry : Registry) (name : ContractName) :
    (registry.mapRecords view).get? name = (registry.get? name).map view := by
  unfold Registry.mapRecords Registry.get?
  rw [List.find?_map]
  congr 2
  funext record
  exact congrArg (· == name) (dates.name record)

theorem resolve (dates : OnlyDates view) (registry : Registry) (name : ContractName) :
    (registry.mapRecords view).resolve name = registry.resolve name := by
  unfold Registry.resolve
  rw [dates.get?]
  cases registry.get? name with
  | none => rfl
  | some record => exact congrArg Except.ok (dates.address record)

end OnlyDates

/-- A message is made of the addresses in the registry and of nothing else in it. -/
theorem Payload.render_congr {registry other : Registry}
    (same : ∀ name, registry.resolve name = other.resolve name) (payload : Payload)
    (working : Profile) : payload.render working registry = payload.render working other := by
  cases payload <;> simp only [render, withAddress, same]

theorem Registry.size_mapRecords (registry : Registry)
    (view : ContractRecord → ContractRecord) : (registry.mapRecords view).size = registry.size :=
  List.length_map view

/-- In the view a registry tells what becomes of the next record. -/
theorem Registry.record_mapRecords {view : ContractRecord → ContractRecord}
    (dates : OnlyDates view) (registry : Registry) (time : Int) (name : ContractName)
    (address artifact : String) (codeId : Option Nat) :
    (registry.record time name address artifact codeId).map (mapRecords view) =
      match (registry.mapRecords view).get? name with
      | some existing => .error (.duplicateRegistration name existing.address)
      | none =>
          .ok
            { records := (registry.mapRecords view).records ++
                [view ((registry.mapRecords view).nextRecord time name address artifact codeId)] } := by
  have next : (registry.mapRecords view).nextRecord time name address artifact codeId =
      registry.nextRecord time name address artifact codeId := by
    unfold nextRecord
    rw [size_mapRecords]
  unfold record
  rw [next, dates.get?]
  cases registry.get? name with
  | none => simp [Except.map, mapRecords]
  | some existing =>
      simp only [Option.map_some, Except.map]
      rw [dates.address]

/-- Registries that look the same take the next record the same, in spite of the time. -/
theorem Registry.record_congr {view : ContractRecord → ContractRecord} (dates : OnlyDates view)
    {left right : Registry} (same : left.mapRecords view = right.mapRecords view)
    {here there : Int}
    (clock : ∀ record : ContractRecord, view (record.dated here) = view (record.dated there))
    (name : ContractName) (address artifact : String) (codeId : Option Nat) :
    (left.record here name address artifact codeId).map (mapRecords view) =
      (right.record there name address artifact codeId).map (mapRecords view) := by
  have next := clock ((right.mapRecords view).nextRecord there name address artifact codeId)
  rw [record_mapRecords dates, record_mapRecords dates, same]
  change view ((right.mapRecords view).nextRecord here name address artifact codeId) = view
    ((right.mapRecords view).nextRecord there name address artifact codeId) at next
  rw [next]

theorem Registry.nextRecord_congr {view : ContractRecord → ContractRecord} {left right : Registry}
    (same : left.size = right.size) {here there : Int}
    (clock : ∀ record : ContractRecord, view (record.dated here) = view (record.dated there))
    (name : ContractName) (address artifact : String) (codeId : Option Nat) :
    view (left.nextRecord here name address artifact codeId) =
      view (right.nextRecord there name address artifact codeId) := by
  have next := clock (right.nextRecord there name address artifact codeId)
  unfold nextRecord at next ⊢
  rw [same]
  exact next

namespace RunSetting

variable {σ τ : Type}

/-- Two settings between which a run sees no difference but the account that signs and the
time. -/
structure Coupled (left : RunSetting σ) (right : RunSetting τ) (related : σ → τ → Prop)
    (view : ContractRecord → ContractRecord) : Prop where
  profile : left.profile = right.profile
  artifacts : left.deployer.artifacts = right.deployer.artifacts
  dates : OnlyDates view
  clock : ∀ (record : ContractRecord) (moment : Moment),
    view (record.dated (left.clock moment)) = view (record.dated (right.clock moment))
  deploy : ∀ {here there}, related here there → ∀ artifact message label,
    let reply := left.client.answer (.deploy left.identity artifact message label) here
    let other := right.client.answer (.deploy right.identity artifact message label) there
    reply.1 = other.1 ∧ related reply.2 other.2
  execute : ∀ {here there}, related here there → ∀ contract message,
    let reply := left.client.answer (.execute left.identity contract message) here
    let other := right.client.answer (.execute right.identity contract message) there
    reply.1 = other.1 ∧ related reply.2 other.2
  query : ∀ {here there}, related here there → ∀ contract message,
    let reply := left.client.answer (.query contract message) here
    let other := right.client.answer (.query contract message) there
    reply.1 = other.1 ∧ related reply.2 other.2

/-- Both settings write the same into the same manifest. -/
structure SameManifest (left : RunSetting σ) (right : RunSetting τ)
    (view : ContractRecord → ContractRecord) : Prop where
  target : left.deployer.manifest = right.deployer.manifest
  clock : left.clock = right.clock
  unchanged : view = id

/-- The runs of two settings stand at the same point. -/
structure Mirrors (left : RunSetting σ) (right : RunSetting τ) (related : σ → τ → Prop)
    (view : ContractRecord → ContractRecord) (run : Run σ) (other : Run τ) : Prop where
  client : related run.client other.client
  working : run.working = other.working
  registry : run.registry.mapRecords view = other.registry.mapRecords view
  steps : run.steps.map (StepReport.mapRecord view) =
    other.steps.map (StepReport.mapRecord view)
  vammState : run.vammState = other.vammState
  requests : run.calls.map Call.request =
    other.calls.map fun call => call.request.signedBy left.identity
  notices : run.notices.map (Notice.mapRecord view) =
    other.notices.map (Notice.mapRecord view)
  files : SameManifest left right view → run.files = other.files

variable {left : RunSetting σ} {right : RunSetting τ} {related : σ → τ → Prop}
  {view : ContractRecord → ContractRecord} {run : Run σ} {other : Run τ}

theorem Mirrors.notify (mirrors : Mirrors left right related view run other)
    {notice told : Notice} (same : notice.mapRecord view = told.mapRecord view) :
    Mirrors left right related view (run.notify notice) (other.notify told) :=
  { mirrors with
    notices := by
      simp only [Run.notify, List.map_append, List.map_cons, List.map_nil]
      rw [mirrors.notices, same] }

theorem Mirrors.record (mirrors : Mirrors left right related view run other)
    {registry recorded : Registry}
    (same : registry.mapRecords view = recorded.mapRecords view) :
    Mirrors left right related view { run with registry }
      { other with registry := recorded } :=
  { mirrors with registry := same }

theorem Mirrors.report (mirrors : Mirrors left right related view run other)
    {report told : StepReport} (same : report.mapRecord view = told.mapRecord view) :
    Mirrors left right related view { run with steps := run.steps ++ [report] }
      { other with steps := other.steps ++ [told] } :=
  { mirrors with
    steps := by
      simp only [List.map_append, List.map_cons, List.map_nil]
      rw [mirrors.steps, same] }

theorem Mirrors.size (mirrors : Mirrors left right related view run other) :
    run.registry.size = other.registry.size := by
  rw [← Registry.size_mapRecords run.registry view, mirrors.registry, Registry.size_mapRecords]

theorem Mirrors.resolve (coupled : Coupled left right related view)
    (mirrors : Mirrors left right related view run other) (name : ContractName) :
    run.registry.resolve name = other.registry.resolve name := by
  rw [← coupled.dates.resolve, mirrors.registry, coupled.dates.resolve]

theorem Mirrors.persist (coupled : Coupled left right related view)
    (mirrors : Mirrors left right related view run other) (status : RunStatus) :
    Mirrors left right related view (left.persist status run) (right.persist status other) := by
  have files : SameManifest left right view →
      (left.persist status run).files = (right.persist status other).files := by
    intro same
    have registry : run.registry = other.registry := by
      have seen := mirrors.registry
      rwa [same.unchanged, Registry.mapRecords_id, Registry.mapRecords_id] at seen
    unfold RunSetting.persist
    rw [same.target]
    cases right.deployer.manifest with
    | none => exact mirrors.files same
    | some target =>
        dsimp only
        rw [mirrors.files same, registry, same.clock, coupled.profile]
  rw [persist_eq left, persist_eq right]
  exact { mirrors with files }

/-- A request has been answered to both runs. -/
theorem Mirrors.asked (mirrors : Mirrors left right related view run other)
    (request : ChainRequest) {here : σ} {there : τ} (answered : related here there) :
    Mirrors left right related view
      { run with
        client := here
        calls := run.calls ++ [⟨request.signedBy left.identity, run.files⟩] }
      { other with client := there, calls := other.calls ++ [⟨request, other.files⟩] } :=
  { mirrors with
    client := answered
    requests := by
      simp only [List.map_append, List.map_cons, List.map_nil]
      rw [mirrors.requests] }

theorem Mirrors.targetAddress (coupled : Coupled left right related view)
    (mirrors : Mirrors left right related view run other) (step : Step) :
    targetAddress step run = targetAddress step other := by
  unfold RunSetting.targetAddress
  rw [mirrors.resolve coupled]

/-- The two runs after a step, and what has become of it. -/
def Reflects (left : RunSetting σ) (right : RunSetting τ) (related : σ → τ → Prop)
    (view : ContractRecord → ContractRecord) (ending : Run σ × Except Failure StepOutcome)
    (other : Run τ × Except Failure StepOutcome) : Prop :=
  Mirrors left right related view ending.1 other.1 ∧
    ending.2.map (StepOutcome.mapRecord view) = other.2.map (StepOutcome.mapRecord view)

theorem runDeploy_mirrors (coupled : Coupled left right related view)
    (mirrors : Mirrors left right related view run other) (step : Step) (message : Json) :
    Reflects left right related view (left.runDeploy step message run)
      (right.runDeploy step message other) := by
  obtain ⟨same, answered⟩ := coupled.deploy mirrors.client
    (right.deployer.artifacts.pathFor step.contract) message step.instanceLabel
  have asked := mirrors.asked (.deploy right.identity
    (right.deployer.artifacts.pathFor step.contract) message step.instanceLabel) answered
  simp only [runDeploy, Run.ask]
  rw [coupled.artifacts, same]
  cases (right.client.answer (.deploy right.identity
      (right.deployer.artifacts.pathFor step.contract) message step.instanceLabel)
      other.client).1 with
  | error source => exact ⟨asked, rfl⟩
  | ok contract =>
      have clock : ∀ record : ContractRecord,
          view (record.dated (left.clock (.recording (run.registry.size + 1)))) =
            view (record.dated (right.clock (.recording (other.registry.size + 1)))) := by
        intro record
        rw [mirrors.size]
        exact coupled.clock record _
      have grown := Registry.record_congr coupled.dates mirrors.registry clock step.contract
        contract.address
        ((Path.fileName? (right.deployer.artifacts.pathFor step.contract)).getD "")
        contract.codeId
      have next := Registry.nextRecord_congr mirrors.size clock step.contract contract.address
        ((Path.fileName? (right.deployer.artifacts.pathFor step.contract)).getD "")
        contract.codeId
      dsimp only
      cases ours : run.registry.record (left.clock (.recording (run.registry.size + 1)))
          step.contract contract.address
          ((Path.fileName? (right.deployer.artifacts.pathFor step.contract)).getD "")
          contract.codeId with
      | error failure =>
          cases theirs : other.registry.record
              (right.clock (.recording (other.registry.size + 1))) step.contract contract.address
              ((Path.fileName? (right.deployer.artifacts.pathFor step.contract)).getD "")
              contract.codeId with
          | error refusal =>
              rw [ours, theirs] at grown
              exact ⟨asked, congrArg Except.error (Except.error.inj grown)⟩
          | ok registry => rw [ours, theirs] at grown; cases grown
      | ok registry =>
          cases theirs : other.registry.record
              (right.clock (.recording (other.registry.size + 1))) step.contract contract.address
              ((Path.fileName? (right.deployer.artifacts.pathFor step.contract)).getD "")
              contract.codeId with
          | error refusal => rw [ours, theirs] at grown; cases grown
          | ok recorded =>
              rw [ours, theirs] at grown
              exact ⟨(asked.record (Except.ok.inj grown)).persist coupled .inProgress,
                congrArg (fun record => Except.ok (StepOutcome.deployed record)) next⟩

theorem runExecute_mirrors (coupled : Coupled left right related view)
    (mirrors : Mirrors left right related view run other) (step : Step) (message : Json) :
    Reflects left right related view (left.runExecute step message run)
      (right.runExecute step message other) := by
  unfold runExecute
  rw [mirrors.targetAddress coupled]
  cases RunSetting.targetAddress step other with
  | error failure => exact ⟨mirrors, rfl⟩
  | ok address =>
      obtain ⟨same, answered⟩ := coupled.execute mirrors.client address message
      have asked := mirrors.asked (.execute right.identity address message) answered
      simp only [Run.ask]
      rw [same]
      cases (right.client.answer (.execute right.identity address message) other.client).1 with
      | error source => exact ⟨asked, rfl⟩
      | ok receipt => exact ⟨asked, rfl⟩

theorem runQuery_mirrors (coupled : Coupled left right related view)
    (mirrors : Mirrors left right related view run other) (step : Step) (message : Json) :
    Reflects left right related view (left.runQuery step message run)
      (right.runQuery step message other) := by
  unfold runQuery
  rw [mirrors.targetAddress coupled]
  cases RunSetting.targetAddress step other with
  | error failure => exact ⟨mirrors, rfl⟩
  | ok address =>
      obtain ⟨same, answered⟩ := coupled.query mirrors.client address message
      have asked := mirrors.asked (.query address message) answered
      simp only [Run.ask]
      rw [same]
      cases (right.client.answer (.query address message) other.client).1 with
      | error source => exact ⟨asked, rfl⟩
      | ok answer => exact ⟨{ asked with vammState := rfl }, rfl⟩

theorem runStep_mirrors (coupled : Coupled left right related view)
    (mirrors : Mirrors left right related view run other) (step : Step) :
    Reflects left right related view (left.runStep step run) (right.runStep step other) := by
  have rendered : step.payload.render run.working run.registry =
      step.payload.render other.working other.registry := by
    rw [mirrors.working]
    exact Payload.render_congr (mirrors.resolve coupled) step.payload other.working
  unfold runStep
  rw [rendered]
  cases step.payload.render other.working other.registry with
  | mk working message =>
      have worked : Mirrors left right related view { run with working }
          { other with working } := { mirrors with working := rfl }
      cases message with
      | error failure => exact ⟨worked, rfl⟩
      | ok message =>
          dsimp only
          cases step.kind with
          | deploy => exact runDeploy_mirrors coupled worked step message
          | execute => exact runExecute_mirrors coupled worked step message
          | query => exact runQuery_mirrors coupled worked step message

/-- What one step keeps the whole run keeps. -/
theorem runSteps_mirrors (coupled : Coupled left right related view)
    (mirrors : Mirrors left right related view run other) (steps : List Step) :
    Mirrors left right related view (left.runSteps steps run).1
        (right.runSteps steps other).1 ∧
      (left.runSteps steps run).2 = (right.runSteps steps other).2 := by
  induction steps generalizing run other with
  | nil => exact ⟨mirrors.persist coupled .completed, rfl⟩
  | cons step rest ih =>
      have started := mirrors.notify (Eq.refl ((Notice.started step).mapRecord view))
      have stepped := runStep_mirrors coupled started step
      unfold runSteps
      cases theirs : right.runStep step (other.notify (.started step)) with
      | mk after outcome =>
          cases ours : left.runStep step (run.notify (.started step)) with
          | mk before result =>
              rw [ours, theirs] at stepped
              obtain ⟨between, same⟩ := stepped
              dsimp only at between same
              cases outcome with
              | error failure =>
                  cases result with
                  | ok outcome => cases same
                  | error refusal =>
                      rw [Except.error.inj same]
                      exact ⟨(between.notify rfl).persist coupled .failed, rfl⟩
              | ok outcome =>
                  cases result with
                  | error refusal => cases same
                  | ok result =>
                      have told := Except.ok.inj same
                      have noted : (Notice.reported step result).mapRecord view =
                          (Notice.reported step outcome).mapRecord view :=
                        congrArg (Notice.reported step) told
                      have kept : (StepReport.mk step.label step.kind result).mapRecord view =
                          (StepReport.mk step.label step.kind outcome).mapRecord view :=
                        congrArg (StepReport.mk step.label step.kind) told
                      exact ih ((between.notify noted).report kept)

/-! ### Whole runs -/

theorem start_mirrors (coupled : Coupled left right related view) {here : σ} {there : τ}
    (begun : related here there) {files elsewhere : FileTree}
    (same : SameManifest left right view → files = elsewhere) :
    Mirrors left right related view (Run.start left.profile here files)
      (Run.start right.profile there elsewhere) :=
  { client := begun, working := coupled.profile, registry := rfl, steps := rfl, vammState := rfl
    requests := rfl, notices := rfl, files := same }

theorem Mirrors.report_eq (coupled : Coupled left right related view)
    (mirrors : Mirrors left right related view run other) (deployer : String) :
    (RunSetting.report left deployer run).mapRecords view =
      (RunSetting.report right deployer other).mapRecords view := by
  have records : run.registry.records.map view = other.registry.records.map view :=
    congrArg Registry.records mirrors.registry
  unfold RunSetting.report Report.mapRecords
  rw [coupled.profile, mirrors.steps, mirrors.vammState, records]

/-- Two runs of a pipeline that are begun alike. -/
theorem runPipeline_mirrors (coupled : Coupled left right related view)
    (named : left.identity.keyName = right.identity.keyName) {here : σ} {there : τ}
    (begun : related here there)
    (account :
      let reply := left.client.answer (.accountAddress left.identity) here
      let other := right.client.answer (.accountAddress right.identity) there
      reply.1 = other.1 ∧ related reply.2 other.2)
    {files elsewhere : FileTree} (same : SameManifest left right view → files = elsewhere)
    (pipeline : Pipeline)
    (checked : left.preflight pipeline files = right.preflight pipeline elsewhere) :
    Mirrors left right related view (left.runPipeline pipeline here files).run
        (right.runPipeline pipeline there elsewhere).run ∧
      (left.runPipeline pipeline here files).result.map (Report.mapRecords view) =
        (right.runPipeline pipeline there elsewhere).result.map (Report.mapRecords view) := by
  have started := start_mirrors coupled begun same
  obtain ⟨equal, answered⟩ := account
  have opened : Mirrors left right related view (left.opened here files)
      (right.opened there elsewhere) :=
    started.asked (.accountAddress right.identity) answered
  cases passed : right.preflight pipeline elsewhere with
  | error failure =>
      rw [runPipeline_of_refused (checked.trans passed), runPipeline_of_refused passed]
      exact ⟨started, rfl⟩
  | ok valid =>
      cases reply : (right.client.answer (.accountAddress right.identity) there).1 with
      | error source =>
          rw [runPipeline_of_unknown (checked.trans passed) (equal.trans reply),
            runPipeline_of_unknown passed reply]
          have failure : accountFailure left.identity source =
              accountFailure right.identity source := by
            unfold accountFailure
            rw [named]
          exact ⟨opened, congrArg Except.error failure⟩
      | ok deployer =>
          have ended := runSteps_mirrors coupled opened pipeline.steps
          cases theirs : right.runSteps pipeline.steps (right.opened there elsewhere) with
          | mk last outcome =>
              cases ours : left.runSteps pipeline.steps (left.opened here files) with
              | mk final result =>
                  rw [ours, theirs] at ended
                  obtain ⟨ended, outcomes⟩ := ended
                  dsimp only at ended outcomes
                  rw [runPipeline_of_runSteps ⟨checked.trans passed, equal.trans reply⟩ ours,
                    runPipeline_of_runSteps ⟨passed, reply⟩ theirs, outcomes]
                  cases outcome with
                  | error failure => exact ⟨ended, rfl⟩
                  | ok done => exact ⟨ended, congrArg Except.ok (ended.report_eq coupled deployer)⟩

end RunSetting

end PerpDeploy
