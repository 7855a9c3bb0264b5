/-
The manifest at every moment of a run. A process may end between any two requests, so the
file is looked at where each request is sent and at the end: it can be loaded, the other
networks are as they were, and the entry of the run holds the contracts that the chain has
made so far. Files that change otherwise during a run are not considered.
-/

import Mathlib.Data.List.Perm.Subperm
import PerpDeploy.Proofs.Manifest.File
import PerpDeploy.Proofs.Run.Accounts

namespace PerpDeploy

/-- A code id is a number of sixty-four bits. -/
def Exchange.InRange : Exchange → Prop
  | ⟨.deploy .., .ok contract⟩ => ∀ codeId ∈ contract.codeId, IsWord codeId
  | _ => True

/-- The file holds this entry for the network, and for all others what the manifest has. -/
def FileTree.Tells (files : FileTree) (path : Path) (before : Manifest) (network : String)
    (own : Option NetworkEntry) : Prop :=
  ∃ manifest, Manifest.load files path = .ok manifest ∧ manifest.network? network = own ∧
    ∀ other, other ≠ network → manifest.network? other = before.network? other

namespace RunSetting

variable {σ : Type}

/-- Whenever the clock is looked at, it shows a number of sixty-four bits with a sign. -/
def ClockInRange (setting : RunSetting σ) : Prop :=
  ∀ moment, IsSignedWord (setting.clock moment)

/-! ### Records in range -/

theorem Reaches.names_nodup {setting : RunSetting σ} {start run : Run σ}
    {attempts : List Attempt} (reached : Reaches setting start attempts run)
    (fresh : start.registry.names.Nodup) : run.registry.names.Nodup := by
  induction reached with
  | start => exact fresh
  | @advance attempts run step reached admitted succeeded ih =>
      rw [names_advance succeeded]
      unfold Step.deploys
      split
      · rename_i deploying
        rw [List.nodup_append]
        refine ⟨ih, List.pairwise_singleton _ _, fun name held other new same => ?_⟩
        rw [List.mem_singleton.mp new] at same
        exact admitted.fresh deploying (same ▸ held)
      · rw [List.append_nil]
        exact ih

theorem Reaches.few_records {setting : RunSetting σ} {start run : Run σ}
    {attempts : List Attempt} (reached : Reaches setting start attempts run)
    (unstepped : Unstepped start) : (Attempt.records setting attempts).length ≤ 5 := by
  have distinct := reached.names_nodup (by rw [unstepped.registry]; exact List.nodup_nil)
  have known : run.registry.names ⊆ ContractName.all := fun name _ => name.mem_all
  have bound : run.registry.names.length ≤ 5 :=
    (List.subperm_of_subset distinct known).length_le
  rw [← (reached.accounts unstepped).records]
  simpa only [Registry.names, List.length_map] using bound

end RunSetting

namespace Attempt

variable {σ : Type}

theorem record_of_exchange {setting : RunSetting σ} {deployed : Nat} {attempt : Attempt}
    {record : ContractRecord} (made : (attempt.outcome setting deployed).record? = some record)
    (inRange : (attempt.exchange setting).InRange) :
    (∃ moment, record.deployedAt = setting.clock moment) ∧
      ∀ codeId ∈ record.codeId, IsWord codeId := by
  cases attempt with
  | deploy step message reply =>
      cases reply with
      | error source => cases made
      | ok contract =>
          cases made
          exact ⟨⟨_, rfl⟩, inRange⟩
  | execute step address message reply => cases reply <;> cases made
  | query step address message reply => cases reply <;> cases made

theorem mem_records {setting : RunSetting σ} {attempts : List Attempt} {record : ContractRecord}
    (member : record ∈ records setting attempts)
    (inRange : ∀ attempt ∈ attempts, (attempt.exchange setting).InRange) :
    (∃ moment, record.deployedAt = setting.clock moment) ∧
      ∀ codeId ∈ record.codeId, IsWord codeId := by
  obtain ⟨attempt, among, deployed, made⟩ := made_of_mem_records member
  exact record_of_exchange made (inRange attempt among)

theorem records_inRange {setting : RunSetting σ} {attempts : List Attempt}
    (few : (records setting attempts).length ≤ 5) (clock : setting.ClockInRange)
    (inRange : ∀ attempt ∈ attempts, (attempt.exchange setting).InRange) :
    ∀ record ∈ records setting attempts, record.InRange := by
  intro record member
  obtain ⟨⟨moment, time⟩, code⟩ := mem_records member inRange
  have counted := ordinals_outcomes setting 0 attempts
  rw [← records] at counted
  have ordinal : record.ordinal ∈ List.range' 1 (records setting attempts).length :=
    counted ▸ List.mem_map_of_mem member
  refine ⟨?_, by rw [time]; exact clock moment, code⟩
  rw [List.mem_range'_1] at ordinal
  unfold IsWord
  rw [Json.wordLimit_eq]
  omega

end Attempt

namespace RunSetting

variable {σ : Type}

/-! ### The file after each step -/

def entryOf (setting : RunSetting σ) (target : ManifestTarget) (status : RunStatus)
    (records : List ContractRecord) : NetworkEntry :=
  .ofRegistry target.chainId setting.profile.fingerprint status
    (setting.clock (.writing status records.length)) { records }

/-- The manifest while the run goes on: as before until a contract is made. -/
def ledger (setting : RunSetting σ) (target : ManifestTarget) (before : Manifest)
    (attempts : List Attempt) : Manifest :=
  match Attempt.records setting attempts with
  | [] => before
  | records =>
      before.insert setting.profile.network (setting.entryOf target .inProgress records)

def standing (setting : RunSetting σ) (target : ManifestTarget) (before : Manifest)
    (attempts : List Attempt) : Option NetworkEntry :=
  match Attempt.records setting attempts with
  | [] => before.network? setting.profile.network
  | records => some (setting.entryOf target .inProgress records)

theorem ledger_insert (setting : RunSetting σ) (target : ManifestTarget) (before : Manifest)
    (attempts : List Attempt) (entry : NetworkEntry) :
    (setting.ledger target before attempts).insert setting.profile.network entry =
      before.insert setting.profile.network entry := by
  unfold ledger
  split
  · rfl
  · exact Manifest.insert_insert _ _ _ _

theorem tells_insert {files : FileTree} {path : Path} {before : Manifest} {network : String}
    {entry : NetworkEntry} (loaded : Manifest.load files path = .ok (before.insert network entry)) :
    files.Tells path before network (some entry) :=
  ⟨_, loaded, Manifest.network?_insert_self before network entry,
    fun _ apart => Manifest.network?_insert_other before apart entry⟩

theorem tells_ledger {setting : RunSetting σ} {files : FileTree} {target : ManifestTarget}
    {before : Manifest} {attempts : List Attempt}
    (loaded : Manifest.load files target.path = .ok (setting.ledger target before attempts)) :
    files.Tells target.path before setting.profile.network
      (setting.standing target before attempts) := by
  unfold ledger at loaded
  unfold standing
  split at loaded
  · exact ⟨before, loaded, rfl, fun _ _ => rfl⟩
  · exact tells_insert loaded

theorem persist_files {setting : RunSetting σ} {target : ManifestTarget}
    (targeted : setting.deployer.manifest = some target) (status : RunStatus) (run : Run σ) :
    (setting.persist status run).files =
      (Manifest.upsert run.files target.path setting.profile.network
        (setting.entryOf target status run.registry.records)).1 := by
  unfold persist
  rw [targeted]
  rfl

theorem entryOf_inRange {setting : RunSetting σ} (clock : setting.ClockInRange)
    {records : List ContractRecord} (inRange : ∀ record ∈ records, record.InRange)
    (target : ManifestTarget) (status : RunStatus) :
    (setting.entryOf target status records).InRange :=
  ⟨clock _, inRange⟩

/-- The file after some attempts, and what it was when each request was sent. -/
structure Kept (setting : RunSetting σ) (target : ManifestTarget) (before : Manifest)
    (attempts : List Attempt) (run : Run σ) : Prop where
  writable : Manifest.Writable run.files target.path
  loaded : Manifest.load run.files target.path = .ok (setting.ledger target before attempts)
  sent : run.calls.length = attempts.length + 1
  calls : ∀ (position : Nat) (call : Call), run.calls[position]? = some call →
    Manifest.load call.files target.path =
      .ok (setting.ledger target before (attempts.take (position - 1)))

/-- One more request is sent while the file is as the attempts before it have left it. -/
theorem Kept.calls_append {setting : RunSetting σ} {target : ManifestTarget} {before : Manifest}
    {attempts : List Attempt} {run : Run σ} (kept : setting.Kept target before attempts run)
    (last : Attempt) (request : ChainRequest) {position : Nat} {call : Call}
    (there : (run.calls ++ [⟨request, run.files⟩])[position]? = some call) :
    Manifest.load call.files target.path =
      .ok (setting.ledger target before ((attempts ++ [last]).take (position - 1))) := by
  have sent := kept.sent
  rcases Nat.lt_trichotomy position run.calls.length with earlier | same | beyond
  · rw [List.getElem?_append_left earlier] at there
    rw [List.take_append_of_le_length (by omega)]
    exact kept.calls position call there
  · rw [same, List.getElem?_concat_length] at there
    cases there
    have all : position - 1 = attempts.length := by omega
    rw [all, List.take_left]
    exact kept.loaded
  · rw [List.getElem?_eq_none (by rw [List.length_append, List.length_singleton]; omega)] at there
    cases there

theorem Kept.persist {setting : RunSetting σ} {target : ManifestTarget} {before : Manifest}
    {attempts : List Attempt} {run : Run σ} (kept : setting.Kept target before attempts run)
    (targeted : setting.deployer.manifest = some target) (clock : setting.ClockInRange)
    (status : RunStatus) (next : Run σ) (files : next.files = run.files)
    (inRange : ∀ record ∈ next.registry.records, record.InRange) :
    Manifest.load (setting.persist status next).files target.path =
        .ok (before.insert setting.profile.network
          (setting.entryOf target status next.registry.records)) ∧
      Manifest.Writable (setting.persist status next).files target.path := by
  have entry := entryOf_inRange clock inRange target status
  rw [persist_files targeted, files, ← ledger_insert setting target before attempts]
  exact Manifest.upsert_of_writable kept.writable kept.loaded setting.profile.network entry

theorem advance_files_of_deployed {setting : RunSetting σ} {step : Step} {run : Run σ}
    {record : ContractRecord} (made : setting.outcome step run = .deployed record) :
    (setting.advance step run).files =
      (setting.persist .inProgress
        { setting.sent step (run.notify (.started step)) with
          registry := { records := run.registry.records ++ [record] } }).files := by
  simp only [advance, made, absorb]
  rfl

theorem advance_files_of_unrecorded {setting : RunSetting σ} {step : Step} {run : Run σ}
    (none : (setting.outcome step run).record? = none) :
    (setting.advance step run).files = run.files := by
  unfold advance
  cases made : setting.outcome step run with
  | deployed record => rw [made] at none; cases none
  | _ => rfl

theorem Kept.advance {setting : RunSetting σ} {target : ManifestTarget} {before : Manifest}
    {attempts : List Attempt} {run : Run σ} (kept : setting.Kept target before attempts run)
    (targeted : setting.deployer.manifest = some target) (clock : setting.ClockInRange)
    {step : Step} (recorded : (setting.advance step run).registry.records =
      Attempt.records setting (attempts ++ [setting.attempt step run]))
    (inRange : ∀ record ∈ Attempt.records setting (attempts ++ [setting.attempt step run]),
      record.InRange)
    (same : run.registry.records = Attempt.records setting attempts) :
    setting.Kept target before (attempts ++ [setting.attempt step run])
      (setting.advance step run) := by
  have calls : (setting.advance step run).calls =
      run.calls ++ [⟨setting.requestOf run.registry.addressOf step, run.files⟩] := by
    rw [advance_eq]
  have sent : (setting.advance step run).calls.length =
      (attempts ++ [setting.attempt step run]).length + 1 := by
    rw [calls, List.length_append, List.length_append, kept.sent]
    rfl
  have files : Manifest.Writable (setting.advance step run).files target.path ∧
      Manifest.load (setting.advance step run).files target.path =
        .ok (setting.ledger target before (attempts ++ [setting.attempt step run])) := by
    have grown : (setting.advance step run).registry.records =
        run.registry.records ++ (setting.outcome step run).record?.toList := by
      rw [advance_eq]
    cases made : (setting.outcome step run).record? with
    | none =>
        rw [made, Option.toList_none, List.append_nil] at grown
        have unchanged : setting.ledger target before (attempts ++ [setting.attempt step run]) =
            setting.ledger target before attempts := by
          unfold ledger
          rw [← recorded, grown, same]
        rw [advance_files_of_unrecorded made, unchanged]
        exact ⟨kept.writable, kept.loaded⟩
    | some record =>
        have outcome : setting.outcome step run = .deployed record := by
          cases told : setting.outcome step run with
          | deployed other => rw [told] at made; cases made; rfl
          | _ => rw [told] at made; cases made
        rw [made] at grown
        rw [← recorded, grown] at inRange
        obtain ⟨loaded, writable⟩ := kept.persist targeted clock .inProgress
          { setting.sent step (run.notify (.started step)) with
            registry := { records := run.registry.records ++ [record] } } rfl inRange
        rw [advance_files_of_deployed outcome]
        refine ⟨writable, loaded.trans ?_⟩
        unfold ledger
        rw [← recorded, grown]
        cases run.registry.records with
        | nil => rfl
        | cons first rest => rfl
  refine ⟨files.1, files.2, sent, fun position call there => ?_⟩
  rw [calls] at there
  exact kept.calls_append _ _ there

theorem Reaches.kept {setting : RunSetting σ} {target : ManifestTarget} {before : Manifest}
    (targeted : setting.deployer.manifest = some target) (clock : setting.ClockInRange)
    {start run : Run σ} {attempts : List Attempt} (unstepped : Unstepped start)
    (begun : setting.Kept target before [] start)
    (reached : Reaches setting start attempts run)
    (inRange : ∀ attempt ∈ attempts, (attempt.exchange setting).InRange) :
    setting.Kept target before attempts run := by
  induction reached with
  | start => exact begun
  | @advance attempts run step reached admitted succeeded ih =>
      have further := reached.advance admitted succeeded
      have records := Attempt.records_inRange (further.few_records unstepped) clock inRange
      exact (ih fun attempt member => inRange attempt (List.mem_append_left _ member)).advance
        targeted clock (further.accounts unstepped).records records
        (reached.accounts unstepped).records

/-! ### Whole runs -/

/-- The file at each request and at the end of a run with these attempts. Request `0` asks for
the account, and request `n + 1` is that of attempt `n`. -/
structure ManifestKept (setting : RunSetting σ) (pipeline : Pipeline) (client : σ)
    (target : ManifestTarget) (before : Manifest) (attempts : List Attempt)
    (execution : Execution σ) : Prop where
  conversation : (setting.conversation client execution).tail =
    attempts.map (Attempt.exchange setting)
  order : attempts.map Attempt.step <+: pipeline.steps
  calls : ∀ (position : Nat) (call : Call), execution.run.calls[position]? = some call →
    call.files.Tells target.path before setting.profile.network
      (setting.standing target before (attempts.take (position - 1)))
  completed : ∀ report, execution.result = .ok report →
    execution.run.files.Tells target.path before setting.profile.network
      (some (setting.entryOf target .completed (Attempt.records setting attempts)))
  failed : ∀ failure, execution.result = .error failure → attempts ≠ [] →
    execution.run.files.Tells target.path before setting.profile.network
      (some (setting.entryOf target .failed (Attempt.records setting attempts)))
  stopped : ∀ failure, execution.result = .error failure → attempts = [] →
    execution.run.files.Tells target.path before setting.profile.network
      (before.network? setting.profile.network)

theorem kept_opened (setting : RunSetting σ) {target : ManifestTarget} {before : Manifest}
    {files : FileTree} (loaded : Manifest.load files target.path = .ok before)
    (writable : Manifest.Writable files target.path) (client : σ) :
    setting.Kept target before [] (setting.opened client files) := by
  refine ⟨writable, loaded, rfl, fun position call there => ?_⟩
  cases position with
  | zero =>
      cases there
      exact loaded
  | succ position => cases there

theorem manifestKept_of_unstepped {setting : RunSetting σ} {pipeline : Pipeline} {client : σ}
    {target : ManifestTarget} {before : Manifest} {files : FileTree} {execution : Execution σ}
    {failure : Failure} (loaded : Manifest.load files target.path = .ok before)
    (ended : execution.result = .error failure) (same : execution.run.files = files)
    (asked : execution.run.calls.length ≤ 1)
    (calls : ∀ call ∈ execution.run.calls, call.files = files) :
    setting.ManifestKept pipeline client target before [] execution := by
  have untouched : files.Tells target.path before setting.profile.network
      (before.network? setting.profile.network) := ⟨before, loaded, rfl, fun _ _ => rfl⟩
  refine
    { conversation := ?_
      order := List.nil_prefix
      calls := fun position call there => ?_
      completed := fun report done => ?_
      failed := fun _ _ some => absurd rfl some
      stopped := fun _ _ _ => by rw [same]; exact untouched }
  · unfold conversation
    match execution.run.calls, asked with
    | [], _ => rfl
    | [only], _ => rfl
    | _ :: _ :: _, many => simp only [List.length_cons] at many; omega
  · rw [calls call (List.mem_of_getElem? there), List.take_nil]
    exact untouched
  · rw [ended] at done
    cases done

theorem Kept.completed {setting : RunSetting σ} {pipeline : Pipeline} {client : σ}
    {files : FileTree} {deployer : String} (opens : setting.Opens pipeline client files deployer)
    {target : ManifestTarget} {before : Manifest} {attempts : List Attempt} {final : Run σ}
    (kept : setting.Kept target before attempts final)
    (targeted : setting.deployer.manifest = some target) (clock : setting.ClockInRange)
    (accounts : Accounts setting (setting.opened client files) attempts final)
    (inRange : ∀ record ∈ Attempt.records setting attempts, record.InRange)
    (same : attempts.map Attempt.step = pipeline.steps) (report : Report) :
    setting.ManifestKept pipeline client target before attempts
      { result := .ok report, run := setting.persist .completed final } := by
  have told := accounts.told_completed opens (.ok report)
  have ended := kept.persist targeted clock .completed final rfl
    (by rw [accounts.records]; exact inRange)
  rw [accounts.records] at ended
  refine
    { conversation := by rw [told.conversation, List.tail_cons]
      order := same ▸ List.prefix_rfl
      calls := fun position call there => ?_
      completed := fun _ _ => tells_insert ended.1
      failed := fun _ impossible => by cases impossible
      stopped := fun _ impossible => by cases impossible }
  rw [persist_eq] at there
  exact tells_ledger (kept.calls position call there)

theorem Kept.halted {setting : RunSetting σ} {pipeline : Pipeline} {client : σ}
    {files : FileTree} {deployer : String} (opens : setting.Opens pipeline client files deployer)
    {target : ManifestTarget} {before : Manifest} {attempts : List Attempt} {final : Run σ}
    (kept : setting.Kept target before attempts final)
    (targeted : setting.deployer.manifest = some target) (clock : setting.ClockInRange)
    (accounts : Accounts setting (setting.opened client files) attempts final)
    (inRange : ∀ record ∈ Attempt.records setting attempts, record.InRange) {step : Step}
    {later : List Step} (split : pipeline.steps = attempts.map Attempt.step ++ step :: later)
    {failure : Failure} (refused : (setting.attempt step final).failure? = some failure) :
    setting.ManifestKept pipeline client target before (attempts ++ [setting.attempt step final])
      { result := .error failure
        run := setting.persist .failed (setting.halt step final) } := by
  have told := accounts.told_halted opens refused (.error failure)
  have unrecorded : Attempt.records setting (attempts ++ [setting.attempt step final]) =
      Attempt.records setting attempts := by
    rw [Attempt.records_append_single, outcome_of_failure refused]
    exact List.append_nil _
  have records : (setting.halt step final).registry.records =
      Attempt.records setting attempts := accounts.records
  have ended := kept.persist targeted clock .failed (setting.halt step final) rfl
    (by rw [records]; exact inRange)
  rw [records, ← unrecorded] at ended
  refine
    { conversation := by rw [told.conversation, List.tail_cons]
      order := ?_
      calls := fun position call there => ?_
      completed := fun _ impossible => by cases impossible
      failed := fun _ _ _ => tells_insert ended.1
      stopped := fun _ _ none => by simp at none }
  · rw [split, List.map_append, List.map_cons, attempt_step]
    exact ⟨later, by simp⟩
  · rw [persist_eq] at there
    exact tells_ledger (kept.calls_append _ _ there)

theorem runPipeline_keeps_manifest (setting : RunSetting σ) (pipeline : Pipeline) (client : σ)
    (files : FileTree) (target : ManifestTarget) (before : Manifest)
    (targeted : setting.deployer.manifest = some target)
    (loaded : Manifest.load files target.path = .ok before)
    (writable : Manifest.Writable files target.path) (clock : setting.ClockInRange)
    (words : ∀ exchange ∈ setting.conversation client (setting.runPipeline pipeline client files),
      exchange.InRange) :
    ∃ attempts, setting.ManifestKept pipeline client target before attempts
      (setting.runPipeline pipeline client files) := by
  cases checked : setting.preflight pipeline files with
  | error failure =>
      have ran : setting.runPipeline pipeline client files =
          { result := .error failure, run := Run.start setting.profile client files } := by
        simp only [runPipeline, checked]
      rw [ran]
      exact ⟨[], manifestKept_of_unstepped loaded rfl rfl (Nat.zero_le 1)
        fun call member => by cases member⟩
  | ok passed =>
      cases account : (setting.client.answer (.accountAddress setting.identity) client).1 with
      | error source =>
          have asked := ask_account account files
          have ran : setting.runPipeline pipeline client files =
              { result := .error (accountFailure setting.identity source)
                run := setting.opened client files } := by
            simp only [runPipeline, checked, asked]
          rw [ran]
          exact ⟨[], manifestKept_of_unstepped loaded rfl rfl (Nat.le_refl 1)
            fun call member => by cases List.mem_singleton.mp member; rfl⟩
      | ok deployer =>
          have opens : setting.Opens pipeline client files deployer :=
            { passed := checked, account := account }
          obtain ⟨attempts, final, reached, ending⟩ := runPipeline_of_opens opens
          have unstepped := opened_unstepped setting client files
          have accounts := reached.accounts unstepped
          have begun := kept_opened setting loaded writable client
          have stored := Attempt.records_inRange (reached.few_records unstepped) clock
          rcases ending with ⟨same, ran⟩ | ⟨step, later, failure, split, _, refused, ran⟩
          · rw [ran] at words ⊢
            rw [(accounts.told_completed opens _).conversation] at words
            have inRange : ∀ attempt ∈ attempts, (attempt.exchange setting).InRange :=
              fun attempt member =>
                words _ (List.mem_cons_of_mem _ (List.mem_map_of_mem member))
            have kept := reached.kept targeted clock unstepped begun inRange
            exact ⟨attempts, kept.completed opens targeted clock accounts (stored inRange) same _⟩
          · rw [ran] at words ⊢
            rw [(accounts.told_halted opens refused _).conversation] at words
            have inRange : ∀ attempt ∈ attempts, (attempt.exchange setting).InRange :=
              fun attempt member =>
                words _ (List.mem_cons_of_mem _
                  (List.mem_map_of_mem (List.mem_append_left _ member)))
            have kept := reached.kept targeted clock unstepped begun inRange
            exact ⟨_, kept.halted opens targeted clock accounts (stored inRange) split refused⟩

theorem grantingChain_inRange (requests : List ChainRequest) (granted : Nat) :
    ∀ exchange ∈ grantingChain.converse requests granted, exchange.InRange := by
  induction requests generalizing granted with
  | nil => intro exchange member; cases member
  | cons request rest ih =>
      intro exchange member
      rcases List.mem_cons.mp member with rfl | later
      · cases request with
        | deploy identity artifact message label => intro codeId given; cases given
        | _ => trivial
      · exact ih (granted + 1) exchange later

def localManifest : ManifestTarget := { path := "deployments.json", chainId := "localterra" }

def recordedRehearsal : RunSetting Nat :=
  { rehearsal grantingChain .localChain with
    deployer :=
      { (rehearsal grantingChain .localChain).deployer with manifest := some localManifest } }

theorem runPipeline_keeps_manifest_from_empty :
    Manifest.load { entries := [], workingDirectory := [] } localManifest.path = .ok .empty ∧
      Manifest.Writable { entries := [], workingDirectory := [] } localManifest.path ∧
      ∃ attempts, recordedRehearsal.ManifestKept (.forProfile .localChain) 0 localManifest .empty
        attempts (recordedRehearsal.runPipeline (.forProfile .localChain) 0
          { entries := [], workingDirectory := [] }) := by
  have loaded : Manifest.load { entries := [], workingDirectory := [] } localManifest.path =
      .ok .empty := rfl
  have writable : Manifest.Writable { entries := [], workingDirectory := [] }
      localManifest.path := fun manifest => rfl
  exact ⟨loaded, writable, runPipeline_keeps_manifest recordedRehearsal (.forProfile .localChain)
    0 _ localManifest .empty rfl loaded writable (fun _ => (by decide : IsSignedWord 0))
      (grantingChain_inRange _ 0)⟩

end RunSetting

end PerpDeploy
