/-
Which key a run signs with. The commands of a run through a node are, in this order, those
that make the key ready, one that asks for the address of the account, and the transactions
and queries of the steps; a run that cannot make the key ready goes no further. So before
every transaction the key was found in the keyring or recovered, agreeing with the mnemonic
where there is one, and a key that the keyring has told of is never written over.
-/

import PerpDeploy.Proofs.Chain.Commit
import PerpDeploy.Proofs.Run.Granting

namespace PerpDeploy

/-- A request of a step, signed by the account where it is signed. -/
inductive ChainRequest.OfStep (identity : Identity) : ChainRequest → Prop
  | deploy (artifact : Path) (message : Json) (label : String) :
      OfStep identity (.deploy identity artifact message label)
  | execute (contract : String) (message : Json) :
      OfStep identity (.execute identity contract message)
  | query (contract : String) (message : Json) : OfStep identity (.query contract message)

def Invocation.IsTransaction (invocation : Invocation) : Prop :=
  invocation.arguments.head? = some "tx"

/-- A key is put into the keyring, and not only tried. -/
def Invocation.AddsKey (invocation : Invocation) : Prop :=
  invocation.arguments.take 2 = ["keys", "add"] ∧
    (invocation.arguments.drop 3).take 2 ≠ ["--recover", "--dry-run"]

namespace NodeClient

/-- A command that a step may run. -/
inductive StepCommand (client : NodeClient) (keyName : String) : Invocation → Prop
  | transaction (arguments : List String) :
      StepCommand client keyName (client.signing keyName ("tx" :: arguments))
  | question (contract : String) (message : Json) :
      StepCommand client keyName (.ofInput (client.queryArguments contract message) none)

/-- The commands once the key is ready: the address is asked for, then the steps follow. -/
inductive Working (client : NodeClient) (keyName : String) : List CommandRun → Prop
  | unasked : Working client keyName []
  | asked {shown : ProcessReply} {rest : List CommandRun}
      (steps : ∀ command ∈ rest, client.StepCommand keyName command.invocation) :
      Working client keyName (⟨client.inquiry keyName, shown⟩ :: rest)

/-- All commands of a run, and how far it has come with them. -/
inductive Signing (client : NodeClient) (identity : Identity) :
    List CommandRun → Except Failure Report → Prop
  | unbegun {failure : Failure} : Signing client identity [] (.error failure)
  | unprepared {preparation : List CommandRun} {trail : Trail}
      (refused : client.Preparation identity preparation (.error trail)) :
      Signing client identity preparation (.error (RunSetting.accountFailure identity trail))
  | prepared {preparation work : List CommandRun} {result : Except Failure Report}
      (ready : client.Preparation identity preparation (.ok ()))
      (working : client.Working identity.keyName work) :
      Signing client identity (preparation ++ work) result

/-- The commands begin with the key that the mnemonic leads to: it was found in the keyring, or
put there where there was none. -/
def Vouched (client : NodeClient) (identity : Identity) (mnemonic : String)
    (made : List CommandRun) : Prop :=
  ∃ (shown derived : ProcessReply) (address : String) (later : List CommandRun),
    derived.Derives address ∧
    (shown.storedAddress? = some address ∧
        made = ⟨client.inquiry identity.keyName, shown⟩ ::
          ⟨client.derivation identity.keyName mnemonic, derived⟩ :: later ∨
      shown.storedAddress? = none ∧ ∃ added : ProcessReply, added.Succeeds true ∧
        made = ⟨client.inquiry identity.keyName, shown⟩ ::
          ⟨client.derivation identity.keyName mnemonic, derived⟩ ::
          ⟨client.recovery identity.keyName mnemonic, added⟩ :: later)

/-- The commands begin with a key that was found in the keyring. -/
def Found (client : NodeClient) (identity : Identity) (made : List CommandRun) : Prop :=
  ∃ shown address later, shown.storedAddress? = some address ∧
    made = ⟨client.inquiry identity.keyName, shown⟩ :: later

/-- What an operator relies on, of the commands of a run and its result. -/
structure SignsSafely (client : NodeClient) (identity : Identity) (made : List CommandRun)
    (result : Except Failure Report) : Prop where
  prepared : ∀ front command later, made = front ++ command :: later →
    command.invocation.IsTransaction → ∃ preparation work, front = preparation ++ work ∧
      client.Preparation identity preparation (.ok ())
  once : client.Signing identity made result
  given : ∀ mnemonic, identity.mnemonic = some mnemonic →
    (∃ command ∈ made, command.invocation.IsTransaction) →
    client.Vouched identity mnemonic made
  alone : identity.mnemonic = none →
    (∃ command ∈ made, command.invocation.IsTransaction) → client.Found identity made
  recovered : ∀ front command later, made = front ++ command :: later →
    command.invocation.AddsKey →
    (∀ other ∈ front ++ later, ¬ other.invocation.AddsKey) ∧
      ∃ mnemonic shown derived, shown.storedAddress? = none ∧
        front = [ ⟨client.inquiry identity.keyName, shown⟩,
          ⟨client.derivation identity.keyName mnemonic, derived⟩ ]
  differing : ∀ mnemonic shown derived stored expected later,
    made = ⟨client.inquiry identity.keyName, shown⟩ ::
      ⟨client.derivation identity.keyName mnemonic, derived⟩ :: later →
    shown.storedAddress? = some stored → derived.Derives expected → stored ≠ expected →
    later = [] ∧ result = .error
      (RunSetting.accountFailure identity (mismatch identity.keyName stored expected))

/-! ### What kind of command it is -/

theorem inquiry_not_transaction (client : NodeClient) (keyName : String) :
    ¬ (client.inquiry keyName).IsTransaction := by
  simp [Invocation.IsTransaction, inquiry, Invocation.ofInput, showArguments]

theorem derivation_not_transaction (client : NodeClient) (keyName mnemonic : String) :
    ¬ (client.derivation keyName mnemonic).IsTransaction := by
  simp [Invocation.IsTransaction, derivation, Invocation.ofInput, deriveArguments]

theorem recovery_not_transaction (client : NodeClient) (keyName mnemonic : String) :
    ¬ (client.recovery keyName mnemonic).IsTransaction := by
  simp [Invocation.IsTransaction, recovery, Invocation.ofInput, recoverArguments]

theorem inquiry_not_addsKey (client : NodeClient) (keyName : String) :
    ¬ (client.inquiry keyName).AddsKey := by
  simp [Invocation.AddsKey, inquiry, Invocation.ofInput, showArguments]

theorem derivation_not_addsKey (client : NodeClient) (keyName mnemonic : String) :
    ¬ (client.derivation keyName mnemonic).AddsKey := by
  simp [Invocation.AddsKey, derivation, Invocation.ofInput, deriveArguments]

theorem recovery_addsKey (client : NodeClient) (keyName mnemonic : String) :
    (client.recovery keyName mnemonic).AddsKey := by
  simp [Invocation.AddsKey, recovery, Invocation.ofInput, recoverArguments, keyringArguments]

theorem inquiry_ne_derivation (client : NodeClient) (keyName mnemonic : String) :
    client.inquiry keyName ≠ client.derivation keyName mnemonic := by
  simp [inquiry, derivation, Invocation.ofInput, showArguments, deriveArguments]

theorem StepCommand.not_addsKey {client : NodeClient} {keyName : String}
    {invocation : Invocation} (command : client.StepCommand keyName invocation) :
    ¬ invocation.AddsKey := by
  cases command with
  | transaction arguments =>
      cases arguments <;> simp [Invocation.AddsKey, signing, Invocation.ofInput, signingArguments]
  | question contract message =>
      simp [Invocation.AddsKey, Invocation.ofInput, queryArguments]

theorem Working.not_addsKey {client : NodeClient} {keyName : String} {work : List CommandRun}
    (working : client.Working keyName work) :
    ∀ command ∈ work, ¬ command.invocation.AddsKey := by
  intro command member
  cases working with
  | unasked => cases member
  | asked steps =>
      rcases List.mem_cons.mp member with rfl | later
      · exact inquiry_not_addsKey client keyName
      · exact (steps command later).not_addsKey

theorem Preparation.not_transaction {client : NodeClient} {identity : Identity}
    {preparation : List CommandRun} {outcome : Except Trail Unit}
    (prepared : client.Preparation identity preparation outcome) :
    ∀ command ∈ preparation, ¬ command.invocation.IsTransaction := by
  have inquiry := inquiry_not_transaction client identity.keyName
  have derivation := derivation_not_transaction client identity.keyName
  have recovery := recovery_not_transaction client identity.keyName
  cases prepared <;> simp [inquiry, derivation, recovery]

/-- A preparation that puts a key into the keyring does so at its end, and only if the keyring
has told of none. -/
theorem Preparation.addsKey_cases {client : NodeClient} {identity : Identity}
    {preparation : List CommandRun} {outcome : Except Trail Unit}
    (prepared : client.Preparation identity preparation outcome) :
    (∀ command ∈ preparation, ¬ command.invocation.AddsKey) ∨
      ∃ (mnemonic : String) (shown derived added : ProcessReply),
        shown.storedAddress? = none ∧
        preparation =
          [ ⟨client.inquiry identity.keyName, shown⟩,
            ⟨client.derivation identity.keyName mnemonic, derived⟩,
            ⟨client.recovery identity.keyName mnemonic, added⟩ ] := by
  have inquiry := inquiry_not_addsKey client identity.keyName
  have derivation := derivation_not_addsKey client identity.keyName
  cases prepared with
  | recovered given expected stored accepted => exact Or.inr ⟨_, _, _, _, stored, rfl⟩
  | unrecovered given expected stored refused => exact Or.inr ⟨_, _, _, _, stored, rfl⟩
  | _ => left; simp [inquiry, derivation]

/-- What is found where the first part has nothing of the kind lies in the second. -/
theorem split_beyond {α : Type} {kind : α → Prop} {early late front later : List α} {item : α}
    (none : ∀ other ∈ early, ¬ kind other) (split : early ++ late = front ++ item :: later)
    (found : kind item) : ∃ rest, front = early ++ rest ∧ late = rest ++ item :: later := by
  rcases List.append_eq_append_iff.mp split with ⟨rest, same, beyond⟩ | ⟨rest, same, beyond⟩
  · exact ⟨rest, same, beyond⟩
  · cases rest with
    | nil => exact ⟨[], by simpa using same.symm, beyond.symm⟩
    | cons first rest =>
        have member : first ∈ early := by
          rw [same]
          exact List.mem_append_right _ List.mem_cons_self
        cases beyond
        exact absurd found (none _ member)

/-! ### From the shape of the commands to what an operator relies on -/

variable {client : NodeClient} {identity : Identity} {made : List CommandRun}
  {result : Except Failure Report}

/-- Where there is a transaction the key has been made ready first. -/
theorem Signing.prepared_of_transaction (signing : client.Signing identity made result)
    {front later : List CommandRun} {command : CommandRun}
    (split : made = front ++ command :: later)
    (transaction : command.invocation.IsTransaction) :
    ∃ preparation work rest, made = preparation ++ work ∧ front = preparation ++ rest ∧
      client.Preparation identity preparation (.ok ()) := by
  cases signing with
  | unbegun => simp at split
  | unprepared refused =>
      have member : command ∈ made := by
        rw [split]
        exact List.mem_append_right _ List.mem_cons_self
      exact absurd transaction (refused.not_transaction command member)
  | prepared ready working =>
      obtain ⟨rest, same, _⟩ := split_beyond ready.not_transaction split transaction
      exact ⟨_, _, rest, rfl, same, ready⟩

theorem Signing.given (signing : client.Signing identity made result) {mnemonic : String}
    (held : identity.mnemonic = some mnemonic) {command : CommandRun} (member : command ∈ made)
    (transaction : command.invocation.IsTransaction) :
    client.Vouched identity mnemonic made := by
  obtain ⟨front, later, split⟩ := List.append_of_mem member
  obtain ⟨preparation, work, _, whole, _, ready⟩ :=
    signing.prepared_of_transaction split transaction
  cases ready with
  | trusted alone stored =>
      rw [held] at alone
      cases alone
  | agreeing given expected stored =>
      rw [held] at given
      cases given
      exact ⟨_, _, _, work, expected, Or.inl ⟨stored, whole⟩⟩
  | recovered given expected stored accepted =>
      rw [held] at given
      cases given
      exact ⟨_, _, _, work, expected, Or.inr ⟨stored, _, accepted, whole⟩⟩

theorem Signing.alone (signing : client.Signing identity made result)
    (missing : identity.mnemonic = none) {command : CommandRun} (member : command ∈ made)
    (transaction : command.invocation.IsTransaction) :
    client.Found identity made := by
  obtain ⟨front, later, split⟩ := List.append_of_mem member
  obtain ⟨preparation, work, _, whole, _, ready⟩ :=
    signing.prepared_of_transaction split transaction
  cases ready with
  | trusted alone stored => exact ⟨_, _, work, stored, whole⟩
  | agreeing given expected stored =>
      rw [missing] at given
      cases given
  | recovered given expected stored accepted =>
      rw [missing] at given
      cases given

theorem Signing.recovered (signing : client.Signing identity made result)
    {front later : List CommandRun} {command : CommandRun}
    (split : made = front ++ command :: later) (adds : command.invocation.AddsKey) :
    (∀ other ∈ front ++ later, ¬ other.invocation.AddsKey) ∧
      ∃ mnemonic shown derived, shown.storedAddress? = none ∧
        front = [ ⟨client.inquiry identity.keyName, shown⟩,
          ⟨client.derivation identity.keyName mnemonic, derived⟩ ] := by
  have parts : ∃ preparation outcome work, made = preparation ++ work ∧
      client.Preparation identity preparation outcome ∧
      ∀ command ∈ work, ¬ command.invocation.AddsKey := by
    cases signing with
    | unbegun => simp at split
    | unprepared refused =>
        exact ⟨made, _, [], (List.append_nil made).symm, refused, fun _ none => by cases none⟩
    | prepared ready working => exact ⟨_, _, _, rfl, ready, working.not_addsKey⟩
  obtain ⟨preparation, outcome, work, whole, prepared, idle⟩ := parts
  rw [whole] at split
  rcases prepared.addsKey_cases with quiet | ⟨mnemonic, shown, derived, added, stored, rfl⟩
  · obtain ⟨rest, _, beyond⟩ := split_beyond quiet split adds
    have member : command ∈ work := by
      rw [beyond]
      exact List.mem_append_right _ List.mem_cons_self
    exact absurd adds (idle command member)
  · have tried : ∀ other ∈ [ (⟨client.inquiry identity.keyName, shown⟩ : CommandRun),
        ⟨client.derivation identity.keyName mnemonic, derived⟩ ],
        ¬ other.invocation.AddsKey := by
      simp [inquiry_not_addsKey, derivation_not_addsKey]
    have parted : [ (⟨client.inquiry identity.keyName, shown⟩ : CommandRun),
        ⟨client.derivation identity.keyName mnemonic, derived⟩ ] ++
        ⟨client.recovery identity.keyName mnemonic, added⟩ :: work =
          front ++ command :: later := split
    obtain ⟨rest, same, beyond⟩ := split_beyond tried parted adds
    cases rest with
    | nil =>
        rw [List.append_nil] at same
        obtain ⟨_, rfl⟩ := List.cons.inj beyond
        refine ⟨fun other member => ?_, mnemonic, shown, derived, stored, same⟩
        rcases List.mem_append.mp member with early | late
        · exact tried other (same ▸ early)
        · exact idle other late
    | cons first rest =>
        have member : command ∈ work := by
          rw [(List.cons.inj beyond).2]
          exact List.mem_append_right _ List.mem_cons_self
        exact absurd adds (idle command member)

theorem replies_of_cons_cons {first second early late : Invocation}
    {shown derived shown' derived' : ProcessReply} {rest later : List CommandRun}
    (same : (⟨first, shown⟩ :: ⟨second, derived⟩ :: rest : List CommandRun) =
      ⟨early, shown'⟩ :: ⟨late, derived'⟩ :: later) :
    shown = shown' ∧ derived = derived' ∧ rest = later := by
  cases same
  exact ⟨rfl, rfl, rfl⟩

theorem Signing.differing (signing : client.Signing identity made result) {mnemonic : String}
    {shown derived : ProcessReply} {stored expected : String} {later : List CommandRun}
    (begins : made = ⟨client.inquiry identity.keyName, shown⟩ ::
      ⟨client.derivation identity.keyName mnemonic, derived⟩ :: later)
    (told : shown.storedAddress? = some stored)
    (derives : derived.Derives expected) (apart : stored ≠ expected) :
    later = [] ∧ result = .error
      (RunSetting.accountFailure identity (mismatch identity.keyName stored expected)) := by
  cases signing with
  | unbegun => cases begins
  | unprepared refused =>
      cases refused with
      | unstarted => cases begins
      | unknown alone missing => cases begins
      | underived given none =>
          obtain ⟨rfl, rfl, rfl⟩ := replies_of_cons_cons begins
          exact absurd derives (none expected)
      | differing given same held other =>
          obtain ⟨rfl, rfl, rfl⟩ := replies_of_cons_cons begins
          rw [told] at held
          cases held
          cases derives.unique same
          exact ⟨rfl, rfl⟩
      | unrecovered given same missing refused =>
          obtain ⟨rfl, rfl, rfl⟩ := replies_of_cons_cons begins
          rw [told] at missing
          cases missing
  | prepared ready working =>
      cases ready with
      | trusted alone held =>
          cases working with
          | unasked => cases begins
          | asked steps =>
              have same := congrArg (fun runs => runs[1]?.map CommandRun.invocation) begins
              simp [inquiry_ne_derivation] at same
      | agreeing given same held =>
          obtain ⟨rfl, rfl, rfl⟩ := replies_of_cons_cons begins
          rw [told] at held
          cases held
          exact absurd (same.unique derives) apart
      | recovered given same missing accepted =>
          obtain ⟨rfl, rfl, rfl⟩ := replies_of_cons_cons begins
          rw [told] at missing
          cases missing

theorem Signing.safely (signing : client.Signing identity made result) :
    client.SignsSafely identity made result :=
  { prepared := by
      intro front command later split transaction
      obtain ⟨preparation, _, rest, _, same, ready⟩ :=
        signing.prepared_of_transaction split transaction
      exact ⟨preparation, rest, same, ready⟩
    once := signing
    given := by
      rintro mnemonic held ⟨command, member, transaction⟩
      exact signing.given held member transaction
    alone := by
      rintro missing ⟨command, member, transaction⟩
      exact signing.alone missing member transaction
    recovered := fun front command later split adds => signing.recovered split adds
    differing := fun mnemonic shown derived stored expected later begins told derives apart =>
      signing.differing begins told derives apart }

/-! ### The commands of a run -/

theorem Sends.stepCommands {state : NodeState} {request : ChainRequest} {sent : List Invocation}
    (sends : client.Sends state request sent) (step : request.OfStep identity) :
    ∀ invocation ∈ sent, client.StepCommand identity.keyName invocation := by
  intro invocation member
  cases sends with
  | silent => cases member
  | address => cases step
  | execution =>
      cases step
      rw [List.mem_singleton.mp member]
      exact .transaction _
  | storage =>
      cases step
      rw [List.mem_singleton.mp member]
      exact .transaction _
  | creation stores told =>
      cases step
      rcases List.mem_cons.mp member with rfl | later
      · exact .transaction _
      · rw [List.mem_singleton.mp later]
        exact .transaction _
  | question =>
      rw [List.mem_singleton.mp member]
      exact .question _ _

theorem Conducts.stepCommands {state : NodeState} {requests : List ChainRequest}
    {sent : List Invocation} (conducts : client.Conducts state requests sent)
    (steps : ∀ request ∈ requests, request.OfStep identity) :
    ∀ invocation ∈ sent, client.StepCommand identity.keyName invocation := by
  induction conducts with
  | done => intro invocation member; cases member
  | next sends onward ih =>
      intro invocation member
      rcases List.mem_append.mp member with first | rest
      · exact sends.stepCommands (steps _ List.mem_cons_self) invocation first
      · exact ih (fun request later => steps request (List.mem_cons_of_mem _ later)) invocation
          rest

/-- The steps of a run whose key is ready run transactions and queries, and nothing else. -/
theorem settle_stepCommands (client : NodeClient) {requests : List ChainRequest}
    (steps : ∀ request ∈ requests, request.OfStep identity) {state : NodeState}
    (prepared : identity.keyName ∈ state.preparedKeys) :
    ∃ rest, client.transcript (client.chainClient.settle requests state) =
        client.transcript state ++ rest ∧
      ∀ command ∈ rest, client.StepCommand identity.keyName command.invocation := by
  have ready : ∀ request ∈ requests, ∀ keyName ∈ request.keyName?,
      keyName ∈ state.preparedKeys := by
    intro request member keyName needed
    cases steps request member with
    | deploy => cases needed; exact prepared
    | execute => cases needed; exact prepared
    | query => cases needed
  obtain ⟨sent, conducts, extended⟩ := settle_conducts client requests state ready
  obtain ⟨rest, told, same⟩ := client.transcript_append extended.invocations
  refine ⟨rest, told, fun command member => ?_⟩
  apply conducts.stepCommands steps
  rw [← same]
  exact List.mem_map_of_mem member

/-- How a request for the address of the account ends. -/
inductive Accounted (client : NodeClient) (identity : Identity) (begun : NodeState) :
    Except Trail String × NodeState → Prop
  | unprepared {preparation : List CommandRun} {trail : Trail} {after : NodeState}
      (refused : client.Preparation identity preparation (.error trail))
      (told : client.transcript after = client.transcript begun ++ preparation) :
      Accounted client identity begun (.error trail, after)
  | unasked {preparation : List CommandRun} {trail : Trail} {after : NodeState}
      (ready : client.Preparation identity preparation (.ok ()))
      (told : client.transcript after = client.transcript begun ++ preparation) :
      Accounted client identity begun (.error trail, after)
  | asked {preparation : List CommandRun} {shown : ProcessReply} {answer : Except Trail String}
      {after : NodeState} (ready : client.Preparation identity preparation (.ok ()))
      (told : client.transcript after = client.transcript begun ++
        (preparation ++ [⟨client.inquiry identity.keyName, shown⟩]))
      (prepared : identity.keyName ∈ after.preparedKeys) :
      Accounted client identity begun (answer, after)

theorem accountAddress_accounted (client : NodeClient) {begun : NodeState}
    (unprepared : identity.keyName ∉ begun.preparedKeys) :
    client.Accounted identity begun ((client.accountAddress identity).run.run begun) := by
  obtain ⟨preparation, preparing, told, ready⟩ := ensureKey_readies client unprepared
  unfold accountAddress
  cases ensured : (client.ensureKey identity).run.run begun with
  | mk outcome between =>
      rw [ensured] at preparing told ready
      cases outcome with
      | error trail =>
          rw [bind_of_error ensured]
          exact .unprepared preparing told
      | ok done =>
          rw [bind_of_ok ensured]
          have key := ready rfl
          have shown := client.transcript_invoked between (client.inquiry identity.keyName)
          dsimp only at told
          rw [told, List.append_assoc] at shown
          by_cases starts : client.Starts (client.showArguments identity.keyName)
          · rcases run_cases starts none between with ⟨output, _, ran⟩ | ⟨_, trail, ran⟩
            · rw [bind_of_ok ran]
              exact .asked preparing shown key
            · rw [bind_of_error ran]
              exact .asked preparing shown key
          · obtain ⟨trail, ran⟩ := run_of_not_starts starts
            rw [bind_of_error (ran none between)]
            exact .unasked preparing told

end NodeClient

namespace RunSetting

open NodeClient

/-- Once the account is known, the chain gets the requests of the steps and no others. -/
theorem runPipeline_settles {σ : Type} {setting : RunSetting σ} {pipeline : Pipeline}
    {client : σ} {files : FileTree} {deployer : String}
    (opens : setting.Opens pipeline client files deployer) :
    ∃ requests, (∀ request ∈ requests, request.OfStep setting.identity) ∧
      (setting.runPipeline pipeline client files).run.client =
        setting.client.settle requests (setting.opened client files).client := by
  have ofStep : ∀ attempt : Attempt,
      (attempt.exchange setting).request.OfStep setting.identity := by
    intro attempt
    cases attempt with
    | deploy step message reply => exact .deploy _ _ _
    | execute step address message reply => exact .execute _ _
    | query step address message reply => exact .query _ _
  have allOfStep : ∀ attempts, ∀ request ∈ Attempt.requests setting attempts,
      request.OfStep setting.identity := by
    intro attempts request member
    obtain ⟨attempt, _, rfl⟩ := List.mem_map.mp member
    exact ofStep attempt
  obtain ⟨attempts, final, reached, ending⟩ := runPipeline_of_opens opens
  have accounts := reached.accounts (opened_unstepped setting client files)
  rcases ending with ⟨_, ran⟩ | ⟨step, _, failure, _, _, _, ran⟩
  · refine ⟨Attempt.requests setting attempts, allOfStep attempts, ?_⟩
    rw [ran, persist_eq]
    exact accounts.client
  · refine ⟨Attempt.requests setting (attempts ++ [setting.attempt step final]), allOfStep _, ?_⟩
    have last : Attempt.requests setting [setting.attempt step final] =
        [setting.requestOf final.registry.addressOf step] := by
      simp only [Attempt.requests, List.map_cons, List.map_nil, attempt_exchange]
    have split : Attempt.requests setting (attempts ++ [setting.attempt step final]) =
        Attempt.requests setting attempts ++ [setting.requestOf final.registry.addressOf step] := by
      rw [← last]
      exact List.map_append
    rw [ran, persist_eq, split, ChainClient.settle_append, ← accounts.client]
    rfl

theorem runPipeline_signs_safely (client : NodeClient) (setting : RunSetting NodeState)
    (through : setting.client = client.chainClient) (pipeline : Pipeline) (begun : NodeState)
    (unprepared : setting.identity.keyName ∉ begun.preparedKeys) (files : FileTree) :
    ∃ made, client.transcript (setting.runPipeline pipeline begun files).run.client =
        client.transcript begun ++ made ∧
      client.SignsSafely setting.identity made
        (setting.runPipeline pipeline begun files).result := by
  have accounted := client.accountAddress_accounted unprepared
  have asked : (client.accountAddress setting.identity).run.run begun =
      setting.client.answer (.accountAddress setting.identity) begun := by
    rw [through]
    rfl
  rw [asked] at accounted
  cases checked : setting.preflight pipeline files with
  | error failure =>
      rw [runPipeline_of_refused checked]
      exact ⟨[], (List.append_nil _).symm, NodeClient.Signing.unbegun.safely⟩
  | ok passed =>
      cases answered : setting.client.answer (.accountAddress setting.identity) begun with
      | mk answer after =>
          rw [answered] at accounted
          have account := congrArg Prod.fst answered
          have opened : (setting.opened begun files).client = after := congrArg Prod.snd answered
          cases accounted with
          | unprepared refused told =>
              rw [runPipeline_of_unknown checked account, opened]
              exact ⟨_, told, (NodeClient.Signing.unprepared refused).safely⟩
          | @unasked preparation _ _ ready told =>
              rw [runPipeline_of_unknown checked account, opened, told]
              refine ⟨preparation ++ [], by rw [List.append_nil], ?_⟩
              exact (NodeClient.Signing.prepared ready .unasked).safely
          | asked ready told prepared =>
              cases answer with
              | error source =>
                  rw [runPipeline_of_unknown checked account, opened]
                  have none : ∀ command ∈ ([] : List CommandRun),
                      client.StepCommand setting.identity.keyName command.invocation := by
                    intro command member
                    cases member
                  exact ⟨_, told, (NodeClient.Signing.prepared ready (.asked none)).safely⟩
              | ok deployer =>
                  obtain ⟨requests, steps, settled⟩ := runPipeline_settles ⟨checked, account⟩
                  rw [settled, opened, through]
                  obtain ⟨rest, onward, ofStep⟩ := client.settle_stepCommands steps prepared
                  rw [onward, told, List.append_assoc, List.append_assoc]
                  exact ⟨_, rfl, (NodeClient.Signing.prepared ready (.asked ofStep)).safely⟩

/-- A rehearsal on a node whose keyring does not have the key yet. -/
def recoveringRehearsal : RunSetting NodeState :=
  { rehearsal recoveringNode.chainClient .testnet with identity := recoveredIdentity }

/-- An execution through the node without the key in which the key was recovered and used. -/
structure Recovers (execution : Execution NodeState) : Prop where
  returned : ∃ report, execution.result = .ok report
  safely : ∃ made, recoveringNode.transcript execution.run.client =
      recoveringNode.transcript .initial ++ made ∧
    (∃ command ∈ made, command.invocation.AddsKey) ∧
    (∃ command ∈ made, command.invocation.IsTransaction) ∧
    recoveringNode.SignsSafely recoveringRehearsal.identity made execution.result

theorem Recovers.of_signed {execution : Execution NodeState} {made : List CommandRun}
    {arguments : List String} (returned : ∃ report, execution.result = .ok report)
    (begun : recoveringCommands <+: execution.run.client.invocations)
    (signed : recoveringNode.signing recoveredIdentity.keyName ("tx" :: arguments) ∈
      execution.run.client.invocations)
    (told : recoveringNode.transcript execution.run.client =
      recoveringNode.transcript .initial ++ made)
    (safely : recoveringNode.SignsSafely recoveringRehearsal.identity made execution.result) :
    Recovers execution := by
  have whole : execution.run.client.invocations = made.map CommandRun.invocation := by
    have same := congrArg (List.map CommandRun.invocation) told
    rwa [transcript_invocations, List.map_append, transcript_invocations] at same
  rw [whole] at begun signed
  obtain ⟨added, adds, recovers⟩ := List.mem_map.mp (begun.subset recovery_mem_commands)
  obtain ⟨sent, sends, signs⟩ := List.mem_map.mp signed
  refine ⟨returned, made, told, ⟨added, adds, ?_⟩, ⟨sent, sends, ?_⟩, safely⟩
  · rw [recovers]
    exact recovery_addsKey _ _ _
  · rw [signs]
    exact congrArg List.head? (List.cons_append ..)

theorem runPipeline_signs_safely_rehearsed :
    recoveringRehearsal.client = recoveringNode.chainClient ∧
      recoveringRehearsal.identity.keyName ∉ NodeState.initial.preparedKeys ∧
      Recovers (recoveringRehearsal.runPipeline (.forProfile .testnet) .initial
        { entries := [], workingDirectory := [] }) := by
  have unprepared : recoveringRehearsal.identity.keyName ∉ NodeState.initial.preparedKeys :=
    List.not_mem_nil
  have passed : recoveringRehearsal.preflight (.forProfile .testnet)
      { entries := [], workingDirectory := [] } = .ok () := rfl
  have deploys : ∃ step ∈ (Pipeline.forProfile .testnet).steps, step.kind = .deploy := by decide
  obtain ⟨step, listed, kind⟩ := deploys
  obtain ⟨returned, begun, signed⟩ := runPipeline_of_recovering rfl rfl (by decide) passed
  obtain ⟨arguments, sent⟩ := signed step listed kind
  obtain ⟨made, told, safely⟩ := runPipeline_signs_safely recoveringNode recoveringRehearsal rfl
    (.forProfile .testnet) .initial unprepared { entries := [], workingDirectory := [] }
  exact ⟨rfl, unprepared, .of_signed returned begun sent told safely⟩

end RunSetting

end PerpDeploy
