/-
Making a key ready for signing. The keyring is asked for the address of the key; if there is
a mnemonic, the address that it leads to is derived, and where the keyring has told none the
key is recovered. `Preparation` lists all the ways in which this can go.
-/

import PerpDeploy.Proofs.Chain.Reply

namespace PerpDeploy

/-- The address that the keyring has told: what was printed, without the blanks around it. -/
def ProcessReply.storedAddress? (reply : ProcessReply) : Option String :=
  ((reply.output? false).map Text.trim).filter fun address => !address.isEmpty

/-- The key is known to be in the keyring from here on. -/
def NodeState.readied (state : NodeState) (keyName : String) : NodeState :=
  { state with preparedKeys := state.preparedKeys ++ [keyName] }

namespace NodeClient

variable {α β : Type}

def inquiry (client : NodeClient) (keyName : String) : Invocation :=
  .ofInput (client.showArguments keyName) none

def derivation (client : NodeClient) (keyName mnemonic : String) : Invocation :=
  .ofInput (client.deriveArguments keyName) (some mnemonic)

def recovery (client : NodeClient) (keyName mnemonic : String) : Invocation :=
  .ofInput (client.recoverArguments keyName) (some mnemonic)

/-- What is said of a key in the keyring that is not the one of the mnemonic. -/
def mismatch (keyName stored derived : String) : Trail :=
  Trail.ofText
    ("Key '" ++ keyName ++ "' in the keyring is " ++ stored ++ " but the mnemonic derives " ++
      derived ++ "; use another key name or remove the existing key")

/-- The commands that make a key ready and what comes of them. -/
inductive Preparation (client : NodeClient) (identity : Identity) :
    List CommandRun → Except Trail Unit → Prop
  /-- The program of the node cannot be started. -/
  | unstarted (trail : Trail) : Preparation client identity [] (.error trail)
  | trusted {shown : ProcessReply} {address : String} (alone : identity.mnemonic = none)
      (stored : shown.storedAddress? = some address) :
      Preparation client identity [⟨client.inquiry identity.keyName, shown⟩] (.ok ())
  | unknown {shown : ProcessReply} {trail : Trail} (alone : identity.mnemonic = none)
      (stored : shown.storedAddress? = none) :
      Preparation client identity [⟨client.inquiry identity.keyName, shown⟩] (.error trail)
  | underived {shown derived : ProcessReply} {mnemonic : String} {trail : Trail}
      (given : identity.mnemonic = some mnemonic)
      (expected : ∀ address, ¬ derived.Derives address) :
      Preparation client identity
        [ ⟨client.inquiry identity.keyName, shown⟩,
          ⟨client.derivation identity.keyName mnemonic, derived⟩ ] (.error trail)
  | agreeing {shown derived : ProcessReply} {mnemonic address : String}
      (given : identity.mnemonic = some mnemonic)
      (expected : derived.Derives address)
      (stored : shown.storedAddress? = some address) :
      Preparation client identity
        [ ⟨client.inquiry identity.keyName, shown⟩,
          ⟨client.derivation identity.keyName mnemonic, derived⟩ ] (.ok ())
  | differing {shown derived : ProcessReply} {mnemonic address other : String}
      (given : identity.mnemonic = some mnemonic)
      (expected : derived.Derives address)
      (stored : shown.storedAddress? = some other) (apart : other ≠ address) :
      Preparation client identity
        [ ⟨client.inquiry identity.keyName, shown⟩,
          ⟨client.derivation identity.keyName mnemonic, derived⟩ ]
        (.error (mismatch identity.keyName other address))
  | recovered {shown derived added : ProcessReply} {mnemonic address : String}
      (given : identity.mnemonic = some mnemonic)
      (expected : derived.Derives address)
      (stored : shown.storedAddress? = none) (accepted : added.Succeeds true) :
      Preparation client identity
        [ ⟨client.inquiry identity.keyName, shown⟩,
          ⟨client.derivation identity.keyName mnemonic, derived⟩,
          ⟨client.recovery identity.keyName mnemonic, added⟩ ] (.ok ())
  | unrecovered {shown derived added : ProcessReply} {mnemonic address : String} {trail : Trail}
      (given : identity.mnemonic = some mnemonic)
      (expected : derived.Derives address)
      (stored : shown.storedAddress? = none) (refused : ¬ added.Succeeds true) :
      Preparation client identity
        [ ⟨client.inquiry identity.keyName, shown⟩,
          ⟨client.derivation identity.keyName mnemonic, derived⟩,
          ⟨client.recovery identity.keyName mnemonic, added⟩ ] (.error trail)

/-! ### The commands of the keyring -/

private theorem starts_iff_of_fit {client : NodeClient} {left right : List String}
    (same : (client.settings.binary :: left).any holdsNul =
      (client.settings.binary :: right).any holdsNul) :
    client.Starts left ↔ client.Starts right := by
  constructor
  · rintro ⟨fit, installed⟩
    exact ⟨same ▸ fit, installed⟩
  · rintro ⟨fit, installed⟩
    exact ⟨same ▸ fit, installed⟩

/-- The commands of the keyring can be started all or none. -/
theorem starts_derive_iff (client : NodeClient) (keyName : String) :
    client.Starts (client.deriveArguments keyName) ↔
      client.Starts (client.showArguments keyName) := by
  apply starts_iff_of_fit
  simp [deriveArguments, showArguments, keyringArguments, holdsNul]

theorem starts_recover_iff (client : NodeClient) (keyName : String) :
    client.Starts (client.recoverArguments keyName) ↔
      client.Starts (client.showArguments keyName) := by
  apply starts_iff_of_fit
  simp [recoverArguments, showArguments, keyringArguments, holdsNul]

theorem keyringAddress_of_starts {client : NodeClient} {keyName : String}
    (starts : client.Starts (client.showArguments keyName)) (state : NodeState) :
    (client.keyringAddress keyName).run.run state =
      (.ok (client.host.reply state.invocations.length).storedAddress?,
        state.invoked (client.inquiry keyName)) := by
  change (ExceptT.run (client.run (client.showArguments keyName) none) >>= _).run state = _
  unfold ProcessReply.storedAddress?
  rcases run_cases starts none state with ⟨output, printed, ran⟩ | ⟨silent, trail, ran⟩
  · have address : (if (Text.trim output).isEmpty then none else some (Text.trim output)) =
        (some (Text.trim output)).filter fun address => !address.isEmpty := by
      rw [Option.filter_some]
      cases (Text.trim output).isEmpty <;> rfl
    rw [Option.isSome_none] at printed
    rw [StateT.run_bind, ran, printed, Option.map_some, ← address]
    rfl
  · rw [Option.isSome_none] at silent
    rw [StateT.run_bind, ran, silent]
    rfl

theorem keyringAddress_of_not_starts {client : NodeClient} {keyName : String}
    (stuck : ¬ client.Starts (client.showArguments keyName)) (state : NodeState) :
    (client.keyringAddress keyName).run.run state = (.ok none, state) := by
  change (ExceptT.run (client.run (client.showArguments keyName) none) >>= _).run state = _
  obtain ⟨trail, ran⟩ := run_of_not_starts stuck
  rw [StateT.run_bind, ran]
  rfl

/-- Once it is started, a derivation gives the address in what it has printed or fails. -/
theorem mnemonicAddress_of_starts {client : NodeClient} {keyName : String}
    (starts : client.Starts (client.showArguments keyName)) (mnemonic : String)
    (state : NodeState) :
    ∃ result : Except Trail String,
      (∀ address, result = .ok address ↔
        (client.host.reply state.invocations.length).Derives address) ∧
        (client.mnemonicAddress keyName mnemonic).run.run state =
          (result, state.invoked (client.derivation keyName mnemonic)) := by
  unfold mnemonicAddress
  rcases run_cases ((starts_derive_iff client keyName).mpr starts) (some mnemonic) state with
    ⟨output, printed, ran⟩ | ⟨silent, trail, ran⟩
  · rw [Option.isSome_some] at printed
    rw [bind_of_ok (within_of_ok ran _), decodeOutput_run]
    refine ⟨_, fun address => ?_, rfl⟩
    rw [ProcessReply.derives_iff, printed]
    cases read : Json.decodeText derivedKeyDecoder (Text.trim output) <;>
      simp [Except.mapError, read]
  · rw [Option.isSome_some] at silent
    rw [bind_of_error (within_of_error ran _)]
    refine ⟨_, fun address => ?_, rfl⟩
    rw [ProcessReply.derives_iff, silent]
    simp

theorem mnemonicAddress_of_not_starts {client : NodeClient} {keyName : String}
    (stuck : ¬ client.Starts (client.showArguments keyName)) (mnemonic : String) :
    ∃ trail, ∀ state,
      (client.mnemonicAddress keyName mnemonic).run.run state = (.error trail, state) := by
  obtain ⟨trail, ran⟩ := run_of_not_starts (mt (starts_derive_iff client keyName).mp stuck)
  exact ⟨_, fun state => bind_of_error (within_of_error (ran (some mnemonic) state) _) _⟩

theorem recoverKey_of_starts {client : NodeClient} {identity : Identity} {mnemonic : String}
    (starts : client.Starts (client.showArguments identity.keyName))
    (given : identity.mnemonic = some mnemonic) (state : NodeState) :
    ∃ result : Except Trail Unit,
      (result = .ok () ↔ (client.host.reply state.invocations.length).Succeeds true) ∧
        (client.recoverKey identity).run.run state =
          (result, state.invoked (client.recovery identity.keyName mnemonic)) := by
  unfold recoverKey
  rw [given]
  rcases run_cases ((starts_recover_iff client identity.keyName).mpr starts) (some mnemonic) state
    with ⟨output, printed, ran⟩ | ⟨silent, trail, ran⟩
  · rw [bind_of_ok (within_of_ok ran _)]
    refine ⟨_, ?_, rfl⟩
    exact ⟨fun _ => (ProcessReply.output?_eq_some_iff.mp printed).1, fun _ => rfl⟩
  · rw [bind_of_error (within_of_error ran _)]
    have failed := ProcessReply.not_succeeds_of_no_output silent
    refine ⟨_, ⟨fun done => ?_, fun succeeds => absurd succeeds failed⟩, rfl⟩
    cases done

theorem derivedAddress_of_none {identity : Identity} (alone : identity.mnemonic = none)
    (client : NodeClient) : client.derivedAddress identity = pure none := by
  unfold derivedAddress
  rw [alone]

theorem derivedAddress_of_some {identity : Identity} {mnemonic : String}
    (given : identity.mnemonic = some mnemonic) (client : NodeClient) :
    client.derivedAddress identity =
      some <$> client.mnemonicAddress identity.keyName mnemonic := by
  unfold derivedAddress
  rw [given]

/-! ### The whole preparation -/

theorem ensureKey_of_prepared {client : NodeClient} {identity : Identity} {state : NodeState}
    (prepared : identity.keyName ∈ state.preparedKeys) :
    (client.ensureKey identity).run.run state = (.ok (), state) := by
  unfold ensureKey
  rw [get_bind_run, if_pos prepared]
  rfl

/-- The decision between the two addresses, and what is done about it. -/
def settleKey (client : NodeClient) (identity : Identity) (stored derived : Option String) :
    Action Unit := do
  match ← ofExcept (KeyAction.choose identity.keyName stored derived) with
  | .useExisting => pure ()
  | .recover => client.recoverKey identity
  modify fun state => state.readied identity.keyName

theorem ensureKey_of_unprepared {identity : Identity} {state : NodeState}
    (unprepared : identity.keyName ∉ state.preparedKeys) (client : NodeClient) :
    (client.ensureKey identity).run.run state =
      (client.keyringAddress identity.keyName >>= fun stored =>
        client.derivedAddress identity >>= client.settleKey identity stored).run.run state := by
  unfold ensureKey
  rw [get_bind_run, if_neg unprepared]
  rfl

theorem settleKey_of_refused {identity : Identity} {stored derived : Option String}
    {trail : Trail} (refused : KeyAction.choose identity.keyName stored derived = .error trail)
    (client : NodeClient) (state : NodeState) :
    (client.settleKey identity stored derived).run.run state = (.error trail, state) := by
  unfold settleKey
  rw [refused]
  rfl

theorem settleKey_of_existing {identity : Identity} {stored derived : Option String}
    (existing : KeyAction.choose identity.keyName stored derived = .ok .useExisting)
    (client : NodeClient) (state : NodeState) :
    (client.settleKey identity stored derived).run.run state =
      (.ok (), state.readied identity.keyName) := by
  unfold settleKey
  rw [existing]
  rfl

theorem settleKey_of_recover {identity : Identity} {stored derived : Option String}
    (missing : KeyAction.choose identity.keyName stored derived = .ok .recover)
    (client : NodeClient) (state : NodeState) :
    (client.settleKey identity stored derived).run.run state =
      (client.recoverKey identity >>= fun _ =>
        modify fun state => state.readied identity.keyName).run.run state := by
  unfold settleKey
  rw [missing]
  rfl

/-- A preparation has been made, and the key is known to be ready if it has succeeded. -/
structure Readies (client : NodeClient) (identity : Identity) (state : NodeState)
    (commands : List CommandRun) (ending : Except Trail Unit × NodeState) : Prop where
  preparation : Preparation client identity commands ending.1
  told : client.transcript ending.2 = client.transcript state ++ commands
  ready : ending.1 = .ok () → identity.keyName ∈ ending.2.preparedKeys

theorem Readies.of_error {client : NodeClient} {identity : Identity} {state after : NodeState}
    {commands : List CommandRun} {trail : Trail}
    (preparation : Preparation client identity commands (.error trail))
    (told : client.transcript after = client.transcript state ++ commands) :
    Readies client identity state commands (.error trail, after) :=
  { preparation, told, ready := fun done => by cases done }

theorem Readies.of_readied {client : NodeClient} {identity : Identity} {state after : NodeState}
    {commands : List CommandRun}
    (preparation : Preparation client identity commands (.ok ()))
    (told : client.transcript after = client.transcript state ++ commands) :
    Readies client identity state commands (.ok (), after.readied identity.keyName) :=
  { preparation, told, ready := fun _ => List.mem_append_right _ List.mem_cons_self }

theorem ensureKey_of_not_starts {client : NodeClient} {identity : Identity}
    (stuck : ¬ client.Starts (client.showArguments identity.keyName)) {state : NodeState}
    (unprepared : identity.keyName ∉ state.preparedKeys) :
    Readies client identity state [] ((client.ensureKey identity).run.run state) := by
  have nothing : client.transcript state = client.transcript state ++ [] :=
    (List.append_nil _).symm
  rw [ensureKey_of_unprepared unprepared, bind_of_ok (keyringAddress_of_not_starts stuck state)]
  cases given : identity.mnemonic with
  | none =>
      rw [derivedAddress_of_none given, pure_bind_run, settleKey_of_refused rfl]
      exact .of_error (.unstarted _) nothing
  | some mnemonic =>
      obtain ⟨trail, ran⟩ := mnemonicAddress_of_not_starts stuck mnemonic
      rw [derivedAddress_of_some given, bind_of_error (map_of_error (ran state) some)]
      exact .of_error (.unstarted _) nothing

theorem ensureKey_of_alone {client : NodeClient} {identity : Identity}
    (starts : client.Starts (client.showArguments identity.keyName))
    (alone : identity.mnemonic = none) {state : NodeState}
    (unprepared : identity.keyName ∉ state.preparedKeys) :
    Readies client identity state [client.commandRun state (client.inquiry identity.keyName)]
      ((client.ensureKey identity).run.run state) := by
  have shown := client.transcript_invoked state (client.inquiry identity.keyName)
  rw [ensureKey_of_unprepared unprepared, bind_of_ok (keyringAddress_of_starts starts state),
    derivedAddress_of_none alone, pure_bind_run]
  cases stored : (client.host.reply state.invocations.length).storedAddress? with
  | none =>
      rw [settleKey_of_refused rfl]
      exact .of_error (.unknown alone stored) shown
  | some address =>
      rw [settleKey_of_existing rfl]
      exact .of_readied (.trusted alone stored) shown

/-- Once the address is derived, the key that the keyring has told of decides. -/
theorem settleKey_of_derived {client : NodeClient} {identity : Identity} {mnemonic : String}
    (starts : client.Starts (client.showArguments identity.keyName))
    (given : identity.mnemonic = some mnemonic) {state after : NodeState}
    {shown derived : ProcessReply} {address : String}
    (expected : derived.Derives address)
    (told : client.transcript after = client.transcript state ++
      [ ⟨client.inquiry identity.keyName, shown⟩,
        ⟨client.derivation identity.keyName mnemonic, derived⟩ ]) :
    ∃ commands, Readies client identity state commands
      ((client.settleKey identity shown.storedAddress? (some address)).run.run after) := by
  cases stored : shown.storedAddress? with
  | some other =>
      by_cases same : other = address
      · have agreed : KeyAction.choose identity.keyName (some other) (some address) =
            .ok .useExisting := if_pos same
        rw [settleKey_of_existing agreed]
        rw [same] at stored
        exact ⟨_, .of_readied (.agreeing given expected stored) told⟩
      · have refused : KeyAction.choose identity.keyName (some other) (some address) =
            .error (mismatch identity.keyName other address) := if_neg same
        rw [settleKey_of_refused refused]
        exact ⟨_, .of_error (.differing given expected stored same) told⟩
  | none =>
      rw [settleKey_of_recover rfl]
      obtain ⟨result, accepted, ran⟩ := recoverKey_of_starts starts given after
      have added := client.transcript_invoked after (client.recovery identity.keyName mnemonic)
      rw [told, List.append_assoc] at added
      cases result with
      | error trail =>
          rw [bind_of_error ran]
          have refused := mt accepted.mpr (by intro done; cases done)
          exact ⟨_, .of_error (.unrecovered given expected stored refused) added⟩
      | ok done =>
          rw [bind_of_ok ran]
          exact ⟨_, .of_readied (.recovered given expected stored (accepted.mp rfl)) added⟩

/-- With a mnemonic the address is derived before anything is decided. -/
theorem ensureKey_of_given {client : NodeClient} {identity : Identity} {mnemonic : String}
    (starts : client.Starts (client.showArguments identity.keyName))
    (given : identity.mnemonic = some mnemonic) {state : NodeState}
    (unprepared : identity.keyName ∉ state.preparedKeys) :
    ∃ commands, Readies client identity state commands
      ((client.ensureKey identity).run.run state) := by
  let asked := state.invoked (client.inquiry identity.keyName)
  let derived := asked.invoked (client.derivation identity.keyName mnemonic)
  obtain ⟨result, expected, ran⟩ := mnemonicAddress_of_starts starts mnemonic asked
  have told : client.transcript derived = client.transcript state ++
      [ client.commandRun state (client.inquiry identity.keyName),
        client.commandRun asked (client.derivation identity.keyName mnemonic) ] := by
    rw [transcript_invoked, transcript_invoked, List.append_assoc]
    rfl
  rw [ensureKey_of_unprepared unprepared, bind_of_ok (keyringAddress_of_starts starts state),
    derivedAddress_of_some given]
  cases result with
  | error trail =>
      rw [bind_of_error (map_of_error ran some)]
      have underived : ∀ address, ¬ (client.host.reply asked.invocations.length).Derives address :=
        fun address derives => by cases (expected address).mpr derives
      exact ⟨_, .of_error (.underived given underived) told⟩
  | ok address =>
      rw [bind_of_ok (map_of_ok ran some)]
      exact settleKey_of_derived starts given ((expected address).mp rfl) told

/-- A key that is not known to be ready is prepared in one of the ways listed. -/
theorem ensureKey_readies (client : NodeClient) {identity : Identity} {state : NodeState}
    (unprepared : identity.keyName ∉ state.preparedKeys) :
    ∃ commands, Readies client identity state commands
      ((client.ensureKey identity).run.run state) := by
  by_cases starts : client.Starts (client.showArguments identity.keyName)
  · cases given : identity.mnemonic with
    | none => exact ⟨_, ensureKey_of_alone starts given unprepared⟩
    | some mnemonic => exact ensureKey_of_given starts given unprepared
  · exact ⟨[], ensureKey_of_not_starts starts unprepared⟩

end NodeClient

end PerpDeploy
