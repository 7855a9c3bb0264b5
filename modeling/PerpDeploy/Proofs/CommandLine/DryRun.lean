/-
A dry run is a rehearsal. It goes through the very pipeline of a deployment to the same network,
comes to its end for every network there is, and foretells each deployment that succeeds.
-/

import PerpDeploy.Proofs.CommandLine.Selection
import PerpDeploy.Proofs.Run.Confirmation
import PerpDeploy.Proofs.Run.Granting
import PerpDeploy.Proofs.Run.Rehearsal

namespace PerpDeploy

/-- The mock chain of a dry run refuses nothing. -/
theorem MockChain.standard_obliging : MockChain.standard.client.Obliging := by
  intro request state
  cases request <;> exact ⟨_, rfl⟩

namespace CommandLine

/-- The run that a dry run makes. -/
def rehearsalOf (options : Options) (overrides : Overrides) (world : World) (network : Network) :
    RunSetting MockState :=
  { deployer :=
      { artifacts := { root := options.artifacts }, manifest := none, checkArtifacts := false }
    client := MockChain.standard.client
    profile := network.standardProfile
    identity :=
      { keyName := (network.defaultSettings.withOverrides overrides).keyName, mnemonic := none }
    clock := world.clock }

theorem dryRun_of_known {options : Options} {network : Network}
    (mode : options.network = network.text) (overrides : Overrides) (world : World) :
    dryRun options overrides world =
      .ofExecution ((rehearsalOf options overrides world network).execute MockChain.initialState
        world.files) fun _ => .initial := by
  unfold dryRun
  rw [mode]
  cases network <;> rfl

theorem result_ofExecution_eq_ok_iff {σ : Type} (execution : Execution σ) (node : σ → NodeState)
    (report : Report) :
    (Ending.ofExecution execution node).result = .ok report ↔ execution.result = .ok report := by
  unfold Ending.ofExecution
  cases execution.result <;> simp [Except.mapError]

/-- A dry run that goes on to its steps has no manifest. -/
theorem dryRun_cases (options : Options) (overrides : Overrides) (world : World) :
    (∃ trail, dryRun options overrides world = .stopped trail world.files) ∨
      ∃ setting : RunSetting MockState, setting.deployer.manifest = none ∧
        dryRun options overrides world =
          .ofExecution (setting.execute MockChain.initialState world.files) fun _ => .initial := by
  unfold dryRun
  split
  · exact Or.inl ⟨_, rfl⟩
  · exact Or.inr ⟨_, rfl, rfl⟩

theorem dryRun_files (options : Options) (overrides : Overrides) (world : World) :
    (dryRun options overrides world).files = world.files := by
  rcases dryRun_cases options overrides world with ⟨trail, ran⟩ | ⟨setting, unrecorded, ran⟩
  · rw [ran]
    rfl
  · rw [ran]
    exact RunSetting.runPipeline_files_unrecorded unrecorded _ _ _

theorem dryRun_node (options : Options) (overrides : Overrides) (world : World) :
    (dryRun options overrides world).node = .initial := by
  rcases dryRun_cases options overrides world with ⟨trail, ran⟩ | ⟨setting, unrecorded, ran⟩
  · rw [ran]
    rfl
  · rw [ran]
    rfl

theorem rehearsalOf_passes (options : Options) (overrides : Overrides) (world : World)
    (network : Network) :
    (rehearsalOf options overrides world network).preflight
      (.forProfile network.standardProfile) world.files = .ok () := by
  have profile := network.standardProfile_valid
  have steps := Pipeline.validate_forProfile network.standardProfile
  simp only [RunSetting.preflight, rehearsalOf, profile, steps]
  rfl

/-- A dry run for a network that there is comes to its end. -/
theorem dryRun_returns {options : Options} {network : Network}
    (mode : options.network = network.text) (overrides : Overrides) (world : World) :
    ∃ rehearsed, (dryRun options overrides world).result = .ok rehearsed ∧
      (rehearsalOf options overrides world network).Completed
        (.forProfile network.standardProfile) rehearsed
        ((dryRun options overrides world).calls.map Call.request) := by
  have passed := rehearsalOf_passes options overrides world network
  obtain ⟨rehearsed, returned⟩ :=
    RunSetting.returns_of_obliging MockChain.standard_obliging passed MockChain.initialState
  rw [dryRun_of_known mode]
  exact ⟨rehearsed, (result_ofExecution_eq_ok_iff _ _ _).mpr returned,
    RunSetting.completed_of_ok returned⟩

/-- A deployment that goes on to its steps has selected the network that its mode names. -/
theorem deploy_cases (options : Options) (overrides : Overrides) (world : World) :
    (∃ trail files, deploy options overrides world = .stopped trail files) ∨
      ∃ selection deployer files,
        Selection.ofMode options.network overrides { mnemonic := options.mnemonic } =
          .ok selection ∧
        deploy options overrides world =
          .ofExecution ((deploymentOf world selection deployer).execute NodeState.initial files)
            id := by
  cases selected : Selection.ofMode options.network overrides { mnemonic := options.mnemonic } with
  | error failure => exact Or.inl ⟨failure.trail, world.files, by simp only [deploy, selected]⟩
  | ok selection =>
      rcases built : (deploymentPlan options selection.settings).build world.temporary
        world.files with ⟨files, trail | deployer⟩
      · exact Or.inl ⟨trail, files, by simp only [deploy, selected, built]⟩
      · exact Or.inr ⟨selection, deployer, files, rfl, deploy_of_built selected built⟩

theorem deploy_completed {options : Options} {overrides : Overrides} {world : World}
    {report : Report} (returned : (deploy options overrides world).result = .ok report) :
    ∃ (network : Network) (setting : RunSetting NodeState),
      options.network = network.text ∧ setting.profile = network.standardProfile ∧
      setting.Completed (.forProfile network.standardProfile) report
        ((deploy options overrides world).calls.map Call.request) := by
  rcases deploy_cases options overrides world with
    ⟨trail, files, ran⟩ | ⟨selection, deployer, files, selected, ran⟩
  · rw [ran] at returned
    cases returned
  · have resolves := Selection.ofMode_ok_iff.mp selected
    rw [ran] at returned ⊢
    have ended := (result_ofExecution_eq_ok_iff _ _ _).mp returned
    refine ⟨selection.network, deploymentOf world selection deployer, resolves.named,
      resolves.profile_eq, ?_⟩
    rw [← resolves.profile_eq]
    exact RunSetting.completed_of_ok ended

/-- Whatever a deployment that has succeeded was given besides, a dry run for the same network
succeeds as well and foretells it. No dry run touches a file or the node. -/
theorem dryRun_foretells_deploy (options : Options) (overrides : Overrides) (elsewhere : World) :
    (∀ real : Options, real.network = options.network → ∀ world report,
      (deploy real overrides world).result = .ok report →
      ∃ (network : Network) (rehearsed : Report), options.network = network.text ∧
        (dryRun options overrides elsewhere).result = .ok rehearsed ∧
        rehearsed.Foretells report (Pipeline.forProfile network.standardProfile).steps
          ((dryRun options overrides elsewhere).calls.map Call.request)
          ((deploy real overrides world).calls.map Call.request)) ∧
    (dryRun options overrides elsewhere).files = elsewhere.files ∧
    (dryRun options overrides elsewhere).node = .initial ∧
    ∀ host, dryRun options overrides { elsewhere with node := host } =
      dryRun options overrides elsewhere := by
  refine ⟨fun real mode world report returned => ?_, dryRun_files options overrides elsewhere,
    dryRun_node options overrides elsewhere, fun host => rfl⟩
  obtain ⟨network, setting, named, profile, deployed⟩ := deploy_completed returned
  rw [mode] at named
  obtain ⟨rehearsed, ended, completed⟩ := dryRun_returns named overrides elsewhere
  exact ⟨network, rehearsed, named, ended, completed.foretells deployed profile.symm⟩

/-! ### A deployment that succeeds -/

open NodeClient

/-- The test network, where transactions are asked for over a secure connection. -/
def publicly : Selection :=
  { network := .testnet
    profile := .testnet
    settings := recoveringNode.settings
    nodeUrl :=
      { scheme := "https"
        authority := some { credentials := "", host := "[::1]", port := some 26657 }
        path := .segments [""]
        query := none
        fragment := none }
    identity := recoveredIdentity }

def publicOptions : Options :=
  { Options.ofGiven .nothing with
    network := Network.testnet.text
    mnemonic := some Network.localMnemonic }

/-- The program runs beside the directory that the artifacts lie in. -/
def provisioned : World :=
  { environment := []
    files :=
      { entries :=
          (["artifacts"], .directory 0o755) :: (["out"], .directory 0o755) ::
            ContractName.all.map fun contract =>
              (["artifacts", contract.artifact ++ ArtifactStore.extension], .file .empty)
        workingDirectory := ["out"] }
    node := recoveringHost
    temporary := "/tmp/data-margined"
    clock := fun _ => 0 }

def besideArtifacts : Deployer :=
  { artifacts := { root := ArtifactStore.defaultRoot }
    manifest := some { path := "/out/deployments.json", chainId := "bombay-12" }
    checkArtifacts := true }

theorem publicly_selected :
    Selection.ofMode publicOptions.network securely { mnemonic := publicOptions.mnemonic } =
      .ok publicly := by
  have read : (Selection.ofMode publicOptions.network securely
      { mnemonic := publicOptions.mnemonic }).toOption.map (fun selection =>
        (selection.network, selection.profile, selection.settings, selection.nodeUrl,
          selection.identity)) =
      some (publicly.network, publicly.profile, publicly.settings, publicly.nodeUrl,
        publicly.identity) := by
    decide +kernel
  obtain ⟨selection, found, fields⟩ := Option.map_eq_some_iff.mp read
  simp only [Prod.mk.injEq] at fields
  obtain ⟨network, profile, settings, nodeUrl, identity⟩ := fields
  have same : selection = publicly := by
    cases selection
    simp_all
  rw [same] at found
  exact Json.ok_of_toOption found

/-- A deployment to the test network succeeds through this node. -/
theorem provisioned_deploys :
    ∃ report, (deploy publicOptions securely provisioned).result = .ok report := by
  have built : (deploymentPlan publicOptions publicly.settings).build provisioned.temporary
      provisioned.files = (provisioned.files, .ok besideArtifacts) := rfl
  have passed : (deploymentOf provisioned publicly besideArtifacts).preflight
      (.forProfile publicly.profile) provisioned.files = .ok () := rfl
  obtain ⟨report, returned⟩ :=
    (RunSetting.runPipeline_of_recovering rfl rfl (by decide) passed).1
  refine ⟨report, ?_⟩
  rw [deploy_of_built publicly_selected built]
  exact (result_ofExecution_eq_ok_iff _ _ _).mpr returned

theorem dryRun_foretells_deploy_provisioned :
    ∃ report, (deploy publicOptions securely provisioned).result = .ok report ∧
      ∃ (network : Network) (rehearsed : Report), publicOptions.network = network.text ∧
        (dryRun publicOptions securely provisioned).result = .ok rehearsed ∧
        rehearsed.Foretells report (Pipeline.forProfile network.standardProfile).steps
          ((dryRun publicOptions securely provisioned).calls.map Call.request)
          ((deploy publicOptions securely provisioned).calls.map Call.request) := by
  obtain ⟨report, returned⟩ := provisioned_deploys
  exact ⟨report, returned,
    (dryRun_foretells_deploy publicOptions securely provisioned).1 publicOptions rfl provisioned
      report returned⟩

end CommandLine

end PerpDeploy
