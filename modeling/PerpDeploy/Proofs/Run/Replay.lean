/-
A run is determined by the answers that it gets. Where another client gives the same answers
to the requests of a run, its run sends the same requests, tells the same, writes the same
and ends the same.
-/

import PerpDeploy.Proofs.Run.Accounts

namespace PerpDeploy

variable {σ τ α : Type}

/-- The same run with the client of another one. -/
def Run.servedBy (run : Run σ) (client : τ) : Run τ :=
  { client, files := run.files, working := run.working, registry := run.registry
    steps := run.steps, vammState := run.vammState, calls := run.calls, notices := run.notices }

@[simp] theorem Run.servedBy_registry (run : Run σ) (client : τ) :
    (run.servedBy client).registry = run.registry := rfl

@[simp] theorem Run.servedBy_working (run : Run σ) (client : τ) :
    (run.servedBy client).working = run.working := rfl

def Execution.servedBy (execution : Execution σ) (client : τ) : Execution τ :=
  { result := execution.result, run := execution.run.servedBy client }

def Run.requests (run : Run σ) : List ChainRequest := run.calls.map Call.request

namespace ChainClient

theorem converse_single_iff (client : ChainClient σ) (other : ChainClient τ)
    (request : ChainRequest) (here : σ) (there : τ) :
    other.converse [request] there = client.converse [request] here ↔
      (other.answer request there).1 = (client.answer request here).1 := by
  simp [converse]

theorem converse_append_iff (client : ChainClient σ) (other : ChainClient τ)
    (front back : List ChainRequest) (here : σ) (there : τ) :
    other.converse (front ++ back) there = client.converse (front ++ back) here ↔
      other.converse front there = client.converse front here ∧
        other.converse back (other.settle front there) =
          client.converse back (client.settle front here) := by
  have lengths : (other.converse front there).length = (client.converse front here).length := by
    have ours := congrArg List.length (client.converse_requests front here)
    have theirs := congrArg List.length (other.converse_requests front there)
    rw [List.length_map] at ours theirs
    omega
  rw [converse_append, converse_append]
  exact ⟨fun same => List.append_inj same lengths, fun same => by rw [same.1, same.2]⟩

end ChainClient

namespace RunSetting

/-- The same setting with another client. -/
def servedBy (setting : RunSetting σ) (client : ChainClient τ) : RunSetting τ :=
  { deployer := setting.deployer, client, profile := setting.profile
    identity := setting.identity, clock := setting.clock }

@[simp] theorem servedBy_deployer (setting : RunSetting σ) (client : ChainClient τ) :
    (setting.servedBy client).deployer = setting.deployer := rfl

@[simp] theorem servedBy_clock (setting : RunSetting σ) (client : ChainClient τ) :
    (setting.servedBy client).clock = setting.clock := rfl

/-- What a run comes to with the requests that it has sent, and that it comes to the same with
another client if that gives the same answers to them. -/
structure Replays (setting : RunSetting σ) (client : ChainClient τ) (run : Run σ) (state : τ)
    (made : List Call) (ending : Run σ × α) (other : Run τ × α) : Prop where
  calls : ending.1.calls = run.calls ++ made
  settled : ending.1.client = setting.client.settle (made.map Call.request) run.client
  replayed :
    client.converse (made.map Call.request) state =
        setting.client.converse (made.map Call.request) run.client →
      other = (ending.1.servedBy (client.settle (made.map Call.request) state), ending.2)

variable {setting : RunSetting σ} {client : ChainClient τ}

/-- What is done without a request is done with any client. -/
theorem replays_of_silent {run : Run σ} {state : τ} {ending : Run σ × α} {other : Run τ × α}
    (calls : ending.1.calls = run.calls) (kept : ending.1.client = run.client)
    (same : other = (ending.1.servedBy state, ending.2)) :
    Replays setting client run state [] ending other :=
  { calls := by rw [calls, List.append_nil]
    settled := kept
    replayed := fun _ => same }

/-- A request, and then something that needs no other. -/
theorem replays_of_ask (run : Run σ) (state : τ) (request : ChainRequest)
    (next : Except Trail request.Reply → Run σ → Run σ × α)
    (other : Except Trail request.Reply → Run τ → Run τ × α)
    (calls : ∀ reply run, (next reply run).1.calls = run.calls)
    (kept : ∀ reply run, (next reply run).1.client = run.client)
    (same : ∀ reply run, ∀ state : τ,
      other reply (run.servedBy state) = ((next reply run).1.servedBy state, (next reply run).2)) :
    Replays setting client run state [⟨request, run.files⟩]
      (next (run.ask setting.client request).1 (run.ask setting.client request).2)
      (other ((run.servedBy state).ask client request).1
        ((run.servedBy state).ask client request).2) :=
  { calls := by
      rw [calls]
      rfl
    settled := by
      rw [kept]
      rfl
    replayed := by
      intro answered
      have equal := (ChainClient.converse_single_iff _ _ request _ _).mp answered
      have asked : ((run.servedBy state).ask client request) =
          ((run.ask setting.client request).1,
            (run.ask setting.client request).2.servedBy (client.answer request state).2) := by
        unfold Run.ask
        rw [← equal]
        rfl
      rw [asked]
      exact same _ _ _ }

/-- The same beginning, but for what a client does not see. -/
theorem Replays.congr {run before : Run σ} {state : τ} {made : List Call} {ending : Run σ × α}
    {other : Run τ × α} (replays : Replays setting client run state made ending other)
    (calls : run.calls = before.calls) (kept : run.client = before.client) :
    Replays setting client before state made ending other :=
  { calls := by rw [replays.calls, calls]
    settled := by rw [replays.settled, kept]
    replayed := by
      rw [← kept]
      exact replays.replayed }

theorem Replays.bind {β : Type} {run : Run σ} {state : τ} {early late : List Call}
    {ending : Run σ × α} {other : Run τ × α} {next : Run σ × α → Run σ × β}
    {continued : Run τ × α → Run τ × β}
    (first : Replays setting client run state early ending other)
    (second : Replays setting client ending.1
      (client.settle (early.map Call.request) state) late (next ending)
      (continued (ending.1.servedBy (client.settle (early.map Call.request) state), ending.2))) :
    Replays setting client run state (early ++ late) (next ending) (continued other) :=
  { calls := by rw [second.calls, first.calls, List.append_assoc]
    settled := by
      rw [second.settled, first.settled, List.map_append, ChainClient.settle_append]
    replayed := by
      intro answered
      rw [List.map_append, ChainClient.converse_append_iff] at answered
      obtain ⟨before, after⟩ := answered
      rw [← first.settled] at after
      rw [first.replayed before, second.replayed after, List.map_append,
        ChainClient.settle_append] }

theorem persist_servedBy (setting : RunSetting σ) (client : ChainClient τ) (status : RunStatus)
    (run : Run σ) (state : τ) :
    (setting.servedBy client).persist status (run.servedBy state) =
      (setting.persist status run).servedBy state := by
  simp only [persist, servedBy]
  cases setting.deployer.manifest <;> rfl

/-! ### One step -/

/-- What a deployment does with the answer. -/
def afterDeploy (setting : RunSetting σ) (step : Step) :
    Except Trail DeployedContract → Run σ → Run σ × Except Failure StepOutcome
  | .error source, run => (run, .error (.deployment step.label step.contract source))
  | .ok deployed, run =>
      let name := (Path.fileName? (setting.deployer.artifacts.pathFor step.contract)).getD ""
      let now := setting.clock (.recording (run.registry.size + 1))
      match run.registry.record now step.contract deployed.address name deployed.codeId with
      | .error failure => (run, .error failure)
      | .ok registry =>
          let record := run.registry.nextRecord now step.contract deployed.address name
            deployed.codeId
          (setting.persist .inProgress { run with registry }, .ok (.deployed record))

theorem afterDeploy_kept (setting : RunSetting σ) (step : Step)
    (reply : Except Trail DeployedContract) (run : Run σ) :
    (setting.afterDeploy step reply run).1.calls = run.calls ∧
      (setting.afterDeploy step reply run).1.client = run.client := by
  unfold afterDeploy
  cases reply with
  | error source => exact ⟨rfl, rfl⟩
  | ok deployed =>
      dsimp only
      split
      · exact ⟨rfl, rfl⟩
      · rw [persist_eq]
        exact ⟨rfl, rfl⟩

theorem afterDeploy_servedBy (setting : RunSetting σ) (client : ChainClient τ) (step : Step)
    (reply : Except Trail DeployedContract) (run : Run σ) (state : τ) :
    (setting.servedBy client).afterDeploy step reply (run.servedBy state) =
      ((setting.afterDeploy step reply run).1.servedBy state,
        (setting.afterDeploy step reply run).2) := by
  cases reply with
  | error source => rfl
  | ok deployed =>
      simp only [afterDeploy, Run.servedBy_registry, servedBy_deployer, servedBy_clock]
      cases run.registry.record (setting.clock (.recording (run.registry.size + 1)))
          step.contract deployed.address
          ((Path.fileName? (setting.deployer.artifacts.pathFor step.contract)).getD "")
          deployed.codeId with
      | error failure => rfl
      | ok registry =>
          have persisted :=
            setting.persist_servedBy client .inProgress { run with registry } state
          exact Prod.ext persisted rfl

theorem runDeploy_eq (setting : RunSetting σ) (step : Step) (message : Json) (run : Run σ) :
    setting.runDeploy step message run =
      let asked := run.ask setting.client
        (.deploy setting.identity (setting.deployer.artifacts.pathFor step.contract) message
          step.instanceLabel)
      setting.afterDeploy step asked.1 asked.2 := by
  simp only [runDeploy]
  cases run.ask setting.client (.deploy setting.identity
      (setting.deployer.artifacts.pathFor step.contract) message step.instanceLabel) with
  | mk reply run => cases reply <;> rfl

theorem runDeploy_replays (setting : RunSetting σ) (client : ChainClient τ) (step : Step)
    (message : Json) (run : Run σ) (state : τ) :
    ∃ made, Replays setting client run state made (setting.runDeploy step message run)
      ((setting.servedBy client).runDeploy step message (run.servedBy state)) := by
  rw [runDeploy_eq, runDeploy_eq]
  exact ⟨_, replays_of_ask run state
    (.deploy setting.identity (setting.deployer.artifacts.pathFor step.contract) message
      step.instanceLabel)
    (setting.afterDeploy step) ((setting.servedBy client).afterDeploy step)
    (fun reply run => (setting.afterDeploy_kept step reply run).1)
    (fun reply run => (setting.afterDeploy_kept step reply run).2)
    (setting.afterDeploy_servedBy client step)⟩

def afterExecute (step : Step) (address : String) :
    Except Trail ExecuteReceipt → Run σ → Run σ × Except Failure StepOutcome
  | .error source, run => (run, .error (.execution step.label step.contract address source))
  | .ok receipt, run => (run, .ok (.executed receipt))

theorem runExecute_eq {step : Step} {run : Run σ} {address : String}
    (found : targetAddress step run = .ok address) (setting : RunSetting σ) (message : Json) :
    setting.runExecute step message run =
      let asked := run.ask setting.client (.execute setting.identity address message)
      afterExecute step address asked.1 asked.2 := by
  simp only [runExecute, found]
  cases run.ask setting.client (.execute setting.identity address message) with
  | mk reply run => cases reply <;> rfl

theorem runExecute_replays (setting : RunSetting σ) (client : ChainClient τ) (step : Step)
    (message : Json) (run : Run σ) (state : τ) :
    ∃ made, Replays setting client run state made (setting.runExecute step message run)
      ((setting.servedBy client).runExecute step message (run.servedBy state)) := by
  cases found : targetAddress step run with
  | error failure =>
      have also : targetAddress step (run.servedBy state) = .error failure := found
      simp only [runExecute, found, also]
      exact ⟨[], replays_of_silent rfl rfl rfl⟩
  | ok address =>
      have also : targetAddress step (run.servedBy state) = .ok address := found
      rw [runExecute_eq found, runExecute_eq also]
      refine ⟨_, replays_of_ask run state (.execute setting.identity address message)
        (afterExecute step address) (afterExecute step address) ?_ ?_ ?_⟩
      · intro reply run
        cases reply <;> rfl
      · intro reply run
        cases reply <;> rfl
      · intro reply run state
        cases reply <;> rfl

def afterQuery (step : Step) (address : String) :
    Except Trail Json → Run σ → Run σ × Except Failure StepOutcome
  | .error source, run =>
      let failure := Failure.query step.label step.contract address source
      (run, .ok (.queryFailed failure.trail.oneLine))
  | .ok answer, run => ({ run with vammState := some answer }, .ok (.queried answer))

theorem runQuery_eq {step : Step} {run : Run σ} {address : String}
    (found : targetAddress step run = .ok address) (setting : RunSetting σ) (message : Json) :
    setting.runQuery step message run =
      let asked := run.ask setting.client (.query address message)
      afterQuery step address asked.1 asked.2 := by
  simp only [runQuery, found]
  cases run.ask setting.client (.query address message) with
  | mk reply run => cases reply <;> rfl

theorem runQuery_replays (setting : RunSetting σ) (client : ChainClient τ) (step : Step)
    (message : Json) (run : Run σ) (state : τ) :
    ∃ made, Replays setting client run state made (setting.runQuery step message run)
      ((setting.servedBy client).runQuery step message (run.servedBy state)) := by
  cases found : targetAddress step run with
  | error failure =>
      have also : targetAddress step (run.servedBy state) = .error failure := found
      simp only [runQuery, found, also]
      exact ⟨[], replays_of_silent rfl rfl rfl⟩
  | ok address =>
      have also : targetAddress step (run.servedBy state) = .ok address := found
      rw [runQuery_eq found, runQuery_eq also]
      refine ⟨_, replays_of_ask run state (.query address message)
        (afterQuery step address) (afterQuery step address) ?_ ?_ ?_⟩
      · intro reply run
        cases reply <;> rfl
      · intro reply run
        cases reply <;> rfl
      · intro reply run state
        cases reply <;> rfl

theorem runStep_replays (setting : RunSetting σ) (client : ChainClient τ) (step : Step)
    (run : Run σ) (state : τ) :
    ∃ made, Replays setting client run state made (setting.runStep step run)
      ((setting.servedBy client).runStep step (run.servedBy state)) := by
  simp only [runStep, Run.servedBy_working, Run.servedBy_registry]
  cases step.payload.render run.working run.registry with
  | mk working message =>
      cases message with
      | error failure => exact ⟨[], replays_of_silent rfl rfl rfl⟩
      | ok message =>
          cases step.kind with
          | deploy =>
              obtain ⟨made, replays⟩ :=
                setting.runDeploy_replays client step message { run with working } state
              exact ⟨made, replays.congr rfl rfl⟩
          | execute =>
              obtain ⟨made, replays⟩ :=
                setting.runExecute_replays client step message { run with working } state
              exact ⟨made, replays.congr rfl rfl⟩
          | query =>
              obtain ⟨made, replays⟩ :=
                setting.runQuery_replays client step message { run with working } state
              exact ⟨made, replays.congr rfl rfl⟩

/-! ### Whole runs -/

/-- What follows a step that has been made. -/
def afterStep (setting : RunSetting σ) (step : Step) (rest : List Step) :
    Run σ × Except Failure StepOutcome → Run σ × Except Failure Unit
  | (run, .error failure) =>
      let run := run.notify (.reported step (.failed failure.trail.oneLine))
      (setting.persist .failed run, .error failure)
  | (run, .ok outcome) =>
      let run := run.notify (.reported step outcome)
      setting.runSteps rest { run with steps := run.steps ++ [⟨step.label, step.kind, outcome⟩] }

theorem runSteps_cons (setting : RunSetting σ) (step : Step) (rest : List Step) (run : Run σ) :
    setting.runSteps (step :: rest) run =
      setting.afterStep step rest (setting.runStep step (run.notify (.started step))) := by
  simp only [runSteps]
  cases setting.runStep step (run.notify (.started step)) with
  | mk run outcome => cases outcome <;> rfl

theorem runSteps_replays (setting : RunSetting σ) (client : ChainClient τ) (steps : List Step)
    (run : Run σ) (state : τ) :
    ∃ made, Replays setting client run state made (setting.runSteps steps run)
      ((setting.servedBy client).runSteps steps (run.servedBy state)) := by
  induction steps generalizing run state with
  | nil =>
      have persisted := setting.persist_servedBy client .completed run state
      refine ⟨[], replays_of_silent ?_ ?_ ?_⟩
      · simp only [runSteps]
        rw [persist_eq]
      · simp only [runSteps]
        rw [persist_eq]
      · exact Prod.ext persisted rfl
  | cons step rest ih =>
      obtain ⟨early, stepped⟩ :=
        setting.runStep_replays client step (run.notify (.started step)) state
      have onward : ∃ late, Replays setting client
          (setting.runStep step (run.notify (.started step))).1
          (client.settle (early.map Call.request) state) late
          (setting.afterStep step rest (setting.runStep step (run.notify (.started step))))
          ((setting.servedBy client).afterStep step rest
            ((setting.runStep step (run.notify (.started step))).1.servedBy
                (client.settle (early.map Call.request) state),
              (setting.runStep step (run.notify (.started step))).2)) := by
        cases setting.runStep step (run.notify (.started step)) with
        | mk after outcome =>
            cases outcome with
            | error failure =>
                have persisted := setting.persist_servedBy client .failed
                  (after.notify (.reported step (.failed failure.trail.oneLine)))
                  (client.settle (early.map Call.request) state)
                refine ⟨[], replays_of_silent ?_ ?_ ?_⟩
                · simp only [afterStep]
                  rw [persist_eq]
                  rfl
                · simp only [afterStep]
                  rw [persist_eq]
                  rfl
                · exact Prod.ext persisted rfl
            | ok outcome =>
                obtain ⟨late, replays⟩ := ih
                  { after.notify (.reported step outcome) with
                    steps := after.steps ++ [⟨step.label, step.kind, outcome⟩] }
                  (client.settle (early.map Call.request) state)
                exact ⟨late, replays.congr rfl rfl⟩
      obtain ⟨late, continued⟩ := onward
      rw [runSteps_cons, runSteps_cons]
      exact ⟨early ++ late, (stepped.bind continued).congr rfl rfl⟩

/-- What follows the answer to the request for the account. -/
def afterAccount (setting : RunSetting σ) (pipeline : Pipeline) :
    Run σ × Except Trail String → Run σ × Except Failure Report
  | (run, .error source) => (run, .error (accountFailure setting.identity source))
  | (run, .ok deployer) =>
      let ended := setting.runSteps pipeline.steps run
      (ended.1, ended.2.map fun _ => setting.report deployer ended.1)

theorem runPipeline_eq {setting : RunSetting σ} {pipeline : Pipeline} {files : FileTree}
    (passed : setting.preflight pipeline files = .ok ()) (client : σ) :
    setting.runPipeline pipeline client files =
      let asked := (Run.start setting.profile client files).ask setting.client
        (.accountAddress setting.identity)
      let ended := setting.afterAccount pipeline (asked.2, asked.1)
      { result := ended.2, run := ended.1 } := by
  simp only [runPipeline, passed]
  cases (Run.start setting.profile client files).ask setting.client
      (.accountAddress setting.identity) with
  | mk reply run =>
      cases reply with
      | error source => rfl
      | ok deployer =>
          simp only [afterAccount]
          cases setting.runSteps pipeline.steps run with
          | mk final outcome => cases outcome <;> rfl

theorem afterAccount_replays (setting : RunSetting σ) (client : ChainClient τ)
    (pipeline : Pipeline) (run : Run σ) (reply : Except Trail String) (state : τ) :
    ∃ made, Replays setting client run state made (setting.afterAccount pipeline (run, reply))
      ((setting.servedBy client).afterAccount pipeline (run.servedBy state, reply)) := by
  cases reply with
  | error source => exact ⟨[], replays_of_silent rfl rfl rfl⟩
  | ok deployer =>
      obtain ⟨made, replays⟩ := setting.runSteps_replays client pipeline.steps run state
      refine ⟨made, ?_⟩
      exact
        { calls := replays.calls
          settled := replays.settled
          replayed := by
            intro answered
            simp only [afterAccount]
            rw [replays.replayed answered]
            rfl }

/-- A run with another client that answers the same to the requests of the run. -/
theorem runPipeline_replays (setting : RunSetting σ) (client : ChainClient τ)
    (pipeline : Pipeline) (here : σ) (there : τ) (files : FileTree) :
    let execution := setting.runPipeline pipeline here files
    execution.run.client = setting.client.settle execution.run.requests here ∧
      (client.converse execution.run.requests there =
          setting.client.converse execution.run.requests here →
        (setting.servedBy client).runPipeline pipeline there files =
          execution.servedBy (client.settle execution.run.requests there)) := by
  intro execution
  cases passed : setting.preflight pipeline files with
  | error failure =>
      have also : (setting.servedBy client).preflight pipeline files = .error failure := passed
      have ran : execution = _ := runPipeline_of_refused passed here
      rw [ran, runPipeline_of_refused also]
      exact ⟨rfl, fun _ => rfl⟩
  | ok done =>
      have also : (setting.servedBy client).preflight pipeline files = .ok () := passed
      have asked : Replays setting client (Run.start setting.profile here files) there
          [⟨.accountAddress setting.identity, files⟩] _ _ :=
        replays_of_ask (Run.start setting.profile here files) there
          (.accountAddress setting.identity) (fun reply run => (run, reply))
          (fun reply run => (run, reply)) (fun _ _ => rfl) (fun _ _ => rfl) (fun _ _ _ => rfl)
      obtain ⟨late, onward⟩ := setting.afterAccount_replays client pipeline _ _ _
      have whole := asked.bind onward
      have ran : execution = _ := runPipeline_eq passed here
      have requests : execution.run.requests =
          (Call.mk (.accountAddress setting.identity) files :: late).map Call.request := by
        rw [ran]
        exact congrArg (List.map Call.request) whole.calls
      rw [requests]
      constructor
      · rw [ran]
        exact whole.settled
      · intro answered
        have replayed := whole.replayed answered
        rw [runPipeline_eq also, ran]
        exact congrArg
          (fun ended : Run τ × Except Failure Report => Execution.mk ended.2 ended.1) replayed

end RunSetting

end PerpDeploy
