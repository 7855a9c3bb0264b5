/-
What is in the manifest makes no difference to a run. A run that keeps a manifest, whatever
was in it before and whether or not it can be written, makes the same requests, tells the
same and ends the same as a run that keeps none, but for the times in the records.
-/

import PerpDeploy.Proofs.Manifest.History
import PerpDeploy.Proofs.Run.Mirror

namespace PerpDeploy

variable {σ : Type}

/-- The record without its time. -/
def ContractRecord.undated (record : ContractRecord) : ContractRecord := record.dated 0

/-- Two executions agree but for the times in their records. -/
structure Execution.AgreesButDates (execution other : Execution σ) : Prop where
  requests : execution.run.calls.map Call.request = other.run.calls.map Call.request
  client : execution.run.client = other.run.client
  notices : execution.run.notices.map (Notice.mapRecord ContractRecord.undated) =
    other.run.notices.map (Notice.mapRecord ContractRecord.undated)
  result : execution.result.map (Report.mapRecords ContractRecord.undated) =
    other.result.map (Report.mapRecords ContractRecord.undated)

namespace RunSetting

/-- The setting with a manifest to keep. -/
def recording (setting : RunSetting σ) (target : ManifestTarget) : RunSetting σ :=
  { setting with deployer := { setting.deployer with manifest := some target } }

/-- The setting without a manifest, by another clock. -/
def unrecorded (setting : RunSetting σ) (clock : Moment → Int) : RunSetting σ :=
  { setting with deployer := { setting.deployer with manifest := none }, clock }

/-- A client answers the same to the same requests. -/
theorem coupled_of_client {left right : RunSetting σ}
    {view : ContractRecord → ContractRecord} (profile : left.profile = right.profile)
    (artifacts : left.deployer.artifacts = right.deployer.artifacts)
    (identity : left.identity = right.identity) (client : left.client = right.client)
    (dates : OnlyDates view)
    (clock : ∀ (record : ContractRecord) (moment : Moment),
      view (record.dated (left.clock moment)) = view (record.dated (right.clock moment))) :
    Coupled left right Eq view :=
  { profile, artifacts, dates, clock
    deploy := by
      rintro here _ rfl artifact message label
      rw [identity, client]
      exact ⟨rfl, rfl⟩
    execute := by
      rintro here _ rfl contract message
      rw [identity, client]
      exact ⟨rfl, rfl⟩
    query := by
      rintro here _ rfl contract message
      rw [client]
      exact ⟨rfl, rfl⟩ }

/-- Every request of a run is signed by the account of its setting. -/
theorem runPipeline_signedBy (setting : RunSetting σ) (pipeline : Pipeline) (client : σ)
    (files : FileTree) :
    ((setting.runPipeline pipeline client files).run.calls.map fun call =>
        call.request.signedBy setting.identity) =
      (setting.runPipeline pipeline client files).run.calls.map Call.request := by
  have same : ∀ record : ContractRecord, id record = record.dated record.deployedAt :=
    fun record => rfl
  have coupled : Coupled setting setting Eq id :=
    coupled_of_client rfl rfl rfl rfl (fun record => ⟨_, same record⟩) fun _ _ => rfl
  obtain ⟨mirrors, _⟩ := runPipeline_mirrors coupled rfl (Eq.refl client) ⟨rfl, rfl⟩
    (fun _ => Eq.refl files) pipeline rfl
  exact mirrors.requests.symm

theorem preflight_recording {setting : RunSetting σ} {files : FileTree}
    {target : ManifestTarget} {before : Manifest}
    (loaded : Manifest.load files target.path = .ok before) (clock : Moment → Int)
    (pipeline : Pipeline) :
    (setting.recording target).preflight pipeline files =
      (setting.unrecorded clock).preflight pipeline files := by
  unfold preflight recording unrecorded
  simp only [loaded]

theorem runPipeline_ignores_manifest (setting : RunSetting σ) (pipeline : Pipeline)
    (client : σ) (files : FileTree) (target : ManifestTarget) (before : Manifest)
    (loaded : Manifest.load files target.path = .ok before) (clock : Moment → Int) :
    ((setting.recording target).runPipeline pipeline client files).AgreesButDates
      ((setting.unrecorded clock).runPipeline pipeline client files) := by
  have coupled : Coupled (setting.recording target) (setting.unrecorded clock) Eq
      ContractRecord.undated :=
    coupled_of_client rfl rfl rfl rfl (fun record => ⟨0, rfl⟩) fun _ _ => rfl
  obtain ⟨mirrors, result⟩ := runPipeline_mirrors coupled rfl (Eq.refl client) ⟨rfl, rfl⟩
    (fun _ => Eq.refl files) pipeline (preflight_recording loaded clock pipeline)
  have signed := runPipeline_signedBy (setting.unrecorded clock) pipeline client files
  exact
    { requests := mirrors.requests.trans signed
      client := mirrors.client
      notices := mirrors.notices
      result }

/-- What an earlier run has left of the same network. -/
def formerManifest : Manifest :=
  { networks :=
      [ (Profile.localChain.network,
          { chainId := "localterra", fingerprint := "", status := .completed, updatedAt := 7
            deployerVersion := NetworkEntry.currentVersion
            contracts :=
              [ { name := .insuranceFund, address := "terra9", ordinal := 1, deployedAt := 6
                  artifact := "margined_insurance_fund.wasm", codeId := some 3 } ] }) ] }

def hinderedManifest : ManifestTarget :=
  { path := "deployments.json", chainId := "localterra" }

/-- The manifest is there to be read, and all writes to it end in the same fault. -/
def hinderedTree (fault : WriteFault) : FileTree :=
  { entries := [(["deployments.json"], .file formerManifest.text.toUTF8)]
    workingDirectory := []
    faults := fun location => if location = ["deployments.json"] then some fault else none }

theorem formerManifest_storable : formerManifest.Storable := by
  constructor
  · exact List.pairwise_singleton _ _
  · intro held member
    cases List.mem_singleton.mp member
    refine ⟨by decide, fun record found => ?_⟩
    cases List.mem_singleton.mp found
    exact ⟨by decide, by decide, fun codeId given => by cases given; decide⟩

theorem load_hinderedTree (fault : WriteFault) :
    Manifest.load (hinderedTree fault) hinderedManifest.path = .ok formerManifest :=
  (Manifest.load_ok_iff _ _ _).mpr
    (.stored rfl (Text.fromUTF8?_eq_some_iff.mpr rfl)
      (Manifest.decode_text formerManifest_storable))

/-- Once with a manifest that is never written and once with one that the first write ruins. -/
theorem runPipeline_ignores_manifest_hindered :
    let sealed := hinderedTree (.refused .readOnly)
    let full := hinderedTree (.cut 20 .storageFull)
    let ticking : Moment → Int
      | .recording ordinal => ordinal
      | .writing _ contracts => 100 + contracts
    let setting := { rehearsal grantingChain .localChain with clock := ticking }
    let plain := setting.unrecorded fun _ => 50
    let pipeline := Pipeline.forProfile .localChain
    Manifest.load sealed hinderedManifest.path = .ok formerManifest ∧
      Manifest.load full hinderedManifest.path = .ok formerManifest ∧
      (∀ network entry,
        (Manifest.upsert sealed hinderedManifest.path network entry).1 = sealed) ∧
      ((setting.recording hinderedManifest).runPipeline pipeline 0 sealed).AgreesButDates
        (plain.runPipeline pipeline 0 sealed) ∧
      ((setting.recording hinderedManifest).runPipeline pipeline 0 full).AgreesButDates
        (plain.runPipeline pipeline 0 full) := by
  intro sealed full ticking setting plain pipeline
  have kept := load_hinderedTree (.refused .readOnly)
  have ruined := load_hinderedTree (.cut 20 .storageFull)
  refine ⟨kept, ruined, Manifest.upsert_of_refused rfl rfl rfl, ?_, ?_⟩
  · exact runPipeline_ignores_manifest setting pipeline 0 sealed hinderedManifest formerManifest
      kept fun _ => 50
  · exact runPipeline_ignores_manifest setting pipeline 0 full hinderedManifest formerManifest
      ruined fun _ => 50

end RunSetting

end PerpDeploy
