/-
Waiting for a block by the node and asking for the transaction come to the same. For worlds
that deliver the same outcome for each transaction every request is answered alike, with the
same failures, by the same commands but for the mode of the broadcast.
-/

import PerpDeploy.Proofs.Chain.Pairing

namespace PerpDeploy

/-- What the outcome of a transaction is to the one who has sent it. -/
def ChainOutcome.committed (outcome : ChainOutcome) : Except Trail CommittedTransaction :=
  if outcome.code = 0 then .ok { hash := outcome.hash, events := outcome.events }
  else .error (NodeClient.failedTransaction outcome.hash outcome.code outcome.log)

namespace NodeClient

variable {α β : Type}

theorem Extends.isPrefix {state after : NodeState} {made : List Invocation}
    (extended : Extends state made after) : state.invocations <+: after.invocations :=
  ⟨made, extended.invocations.symm⟩

/-- What the reply to a broadcast command says. -/
def readBroadcast (client : NodeClient) (arguments : List String) (reply : ProcessReply) :
    Except Trail BroadcastReply :=
  match client.verdict arguments none reply with
  | .error trail => .error trail
  | .ok output =>
      (Json.decodeText BroadcastReply.decoder output).mapError fun fault =>
        (Trail.ofCause (.json fault)).within "Failed to parse broadcast response"

theorem readBroadcast_eq_ok_iff (client : NodeClient) (arguments : List String)
    (reply : ProcessReply) (answer : BroadcastReply) :
    client.readBroadcast arguments reply = .ok answer ↔ reply.Answers answer := by
  have printed := client.verdict_toOption arguments none reply
  rw [Option.isSome_none] at printed
  rw [ProcessReply.answers_iff, ← printed]
  unfold readBroadcast
  cases client.verdict arguments none reply with
  | error trail => simp [Except.toOption]
  | ok output =>
      cases read : Json.decodeText BroadcastReply.decoder output with
      | error fault => simp [Except.toOption, Except.mapError, read]
      | ok value => simp [Except.toOption, Except.mapError, read]

theorem submit_of_starts {client : NodeClient} {keyName : String} {arguments : List String}
    (starts : client.Starts (arguments ++ client.signingArguments keyName))
    (state : NodeState) :
    (client.submit keyName arguments).run.run state =
      match client.readBroadcast (arguments ++ client.signingArguments keyName)
          (client.host.reply state.invocations.length) with
      | .error trail => (.error trail, state.invoked (client.signing keyName arguments))
      | .ok reply =>
          (if reply.code = 0 then client.confirm reply
            else throw (failedTransaction reply.hash reply.code reply.rawLog)).run.run
              (state.invoked (client.signing keyName arguments)) := by
  have ran := run_of_starts starts none state
  unfold submit readBroadcast
  cases printed : client.verdict (arguments ++ client.signingArguments keyName) none
      (client.host.reply state.invocations.length) with
  | error trail =>
      rw [printed] at ran
      rw [bind_of_error ran]
      rfl
  | ok output =>
      rw [printed] at ran
      rw [bind_of_ok ran]
      have decoded := decodeOutput_run BroadcastReply.decoder "Failed to parse broadcast response"
        output (state.invoked (client.signing keyName arguments))
      dsimp only
      cases read : Json.decodeText BroadcastReply.decoder output with
      | error fault =>
          rw [read] at decoded
          exact bind_of_error decoded _
      | ok reply =>
          rw [read] at decoded
          exact bind_of_ok decoded _

theorem submit_of_refused {client : NodeClient} {keyName : String} {arguments : List String}
    (starts : client.Starts (arguments ++ client.signingArguments keyName)) {state : NodeState}
    (refused : ∀ reply, (client.host.reply state.invocations.length).Answers reply →
      reply.code ≠ 0) :
    (client.submit keyName arguments).run.run state =
      ((client.readBroadcast (arguments ++ client.signingArguments keyName)
          (client.host.reply state.invocations.length)).bind fun reply =>
        .error (failedTransaction reply.hash reply.code reply.rawLog),
        state.invoked (client.signing keyName arguments)) := by
  rw [submit_of_starts starts]
  cases read : client.readBroadcast (arguments ++ client.signingArguments keyName)
      (client.host.reply state.invocations.length) with
  | error trail => rfl
  | ok reply =>
      have rejected := refused reply ((readBroadcast_eq_ok_iff _ _ _ _).mp read)
      dsimp only
      rw [if_neg rejected]
      rfl

namespace Pairing

variable {pairing : Pairing}

/-- What the first client makes of the answer to a broadcast. -/
theorem submit_blocking {keyName : String} {arguments : List String}
    (starts : pairing.blocking.Starts (arguments ++ pairing.blocking.signingArguments keyName))
    (state : NodeState) :
    (pairing.blocking.submit keyName arguments).run.run state =
      ((pairing.blocking.readBroadcast (arguments ++ pairing.blocking.signingArguments keyName)
          (pairing.block.reply state.invocations.length)).bind fun reply =>
        ChainOutcome.committed
          { hash := reply.hash, code := reply.code, log := reply.rawLog
            events := reply.events ++ reply.logs.flatten },
        state.invoked (pairing.blocking.signing keyName arguments)) := by
  rw [submit_of_starts starts]
  change (match pairing.blocking.readBroadcast _ (pairing.block.reply _) with
    | .error trail => _
    | .ok reply => _) = _
  cases pairing.blocking.readBroadcast _ (pairing.block.reply state.invocations.length) with
  | error trail => rfl
  | ok reply =>
      by_cases accepted : reply.code = 0
      · simp only [if_pos accepted, ChainOutcome.committed, Except.bind]
        rfl
      · simp only [if_neg accepted, ChainOutcome.committed, Except.bind]
        rfl

theorem submit_blocking_of_delivers {keyName : String} {arguments : List String}
    (starts : pairing.blocking.Starts (arguments ++ pairing.blocking.signingArguments keyName))
    {state : NodeState} {outcome : ChainOutcome} {posted misses : Nat}
    (delivers : pairing.Delivers outcome state.invocations.length posted misses) :
    (pairing.blocking.submit keyName arguments).run.run state =
      (outcome.committed, state.invoked (pairing.blocking.signing keyName arguments)) := by
  obtain ⟨reply, told, hash, code, log, events⟩ := delivers.block
  have read := (readBroadcast_eq_ok_iff pairing.blocking
    (arguments ++ pairing.blocking.signingArguments keyName) _ reply).mpr told
  rw [submit_blocking starts, read]
  simp only [Except.bind, hash, code, log, events]

/-- What the second client makes of a transaction that it has to ask for. -/
theorem submit_polling_of_delivers {keyName : String} {arguments : List String}
    (starts : pairing.polling.Starts (arguments ++ pairing.polling.signingArguments keyName))
    {state : NodeState} {outcome : ChainOutcome} {misses : Nat}
    (delivers : pairing.Delivers outcome state.invocations.length state.posted.length misses) :
    ∃ posted : Posted, posted.length = state.posted.length + (misses + 1) ∧
      (pairing.polling.submit keyName arguments).run.run state =
        (outcome.committed,
          { state.invoked (pairing.polling.signing keyName arguments) with posted }) := by
  obtain ⟨reply, told, hash, code⟩ := delivers.poll
  have pairs := delivers.hash
  rw [← hash] at pairs
  obtain ⟨posted, found, length⟩ := Rpc.waitForTransaction_of_includes delivers.reachable
    pairs delivers.few delivers.includes
  have signed : Rpc.waitForTransaction pairing.polling.host.http pairing.polling.nodeUrl reply.hash
      (pairing.timeout * 1000) (pairing.interval * 1000)
      (state.invoked (pairing.polling.signing keyName arguments)).posted =
        (.ok { code := outcome.code, log := outcome.log, events := outcome.events }, posted) :=
    found
  have waited : (pairing.polling.awaitCommit reply.hash pairing.timeout pairing.interval).run.run
      (state.invoked (pairing.polling.signing keyName arguments)) =
        (.ok { code := outcome.code, log := outcome.log, events := outcome.events },
          { state.invoked (pairing.polling.signing keyName arguments) with posted }) := by
    rw [awaitCommit_run, signed]
  have read := (readBroadcast_eq_ok_iff pairing.polling
    (arguments ++ pairing.polling.signingArguments keyName) _ reply).mpr told
  refine ⟨posted, length, ?_⟩
  rw [submit_of_starts starts]
  change (match pairing.polling.readBroadcast _ (pairing.poll.reply _) with
    | .error trail => _
    | .ok reply => _) = _
  rw [read]
  dsimp only
  rw [if_pos code]
  refine (bind_of_ok waited _).trans ?_
  unfold ChainOutcome.committed
  rw [hash]
  by_cases accepted : outcome.code = 0
  · rw [if_pos accepted, if_pos accepted]
    rfl
  · rw [if_neg accepted, if_neg accepted]
    rfl

theorem starts_polling_iff (pairing : Pairing) {arguments others : List String}
    (same : others.any holdsNul = arguments.any holdsNul) :
    pairing.polling.Starts others ↔ pairing.blocking.Starts arguments := by
  have fit : (pairing.polling.settings.binary :: others).any holdsNul =
      (pairing.blocking.settings.binary :: arguments).any holdsNul := by
    rw [List.any_cons, List.any_cons, same]
    rfl
  have installed : pairing.polling.host.installed = pairing.blocking.host.installed :=
    pairing.installed
  constructor
  · rintro ⟨fits, there⟩
    exact ⟨fit ▸ fits, installed ▸ there⟩
  · rintro ⟨fits, there⟩
    exact ⟨fit ▸ fits, installed ▸ there⟩

theorem holdsNul_signing (pairing : Pairing) (keyName : String) (arguments : List String) :
    (arguments ++ pairing.polling.signingArguments keyName).any holdsNul =
      (arguments ++ pairing.blocking.signingArguments keyName).any holdsNul := by
  have mode : holdsNul "sync" = holdsNul "block" := rfl
  have modes : (pairing.polling.signingArguments keyName).any holdsNul =
      (pairing.blocking.signingArguments keyName).any holdsNul := by
    simp only [signingArguments, polling, blocking, broadcastMode, List.any_append, List.any_cons,
      mode]
    rfl
  rw [List.any_append, List.any_append, modes]

theorem startFault_polling (pairing : Pairing) {arguments others : List String}
    (same : others.any holdsNul = arguments.any holdsNul) :
    pairing.polling.startFault others = pairing.blocking.startFault arguments := by
  unfold startFault
  rw [List.any_cons, List.any_cons, same]
  rfl

/-- The two clients sign the same but for the mode of the broadcast. -/
theorem signing_sameButMode (pairing : Pairing) (keyName : String) (arguments : List String) :
    (pairing.blocking.signing keyName arguments).SameButMode
      (pairing.polling.signing keyName arguments) := by
  have modes := Invocation.SameButMode.mode
    (arguments ++
      [ "--from", keyName, "--chain-id", pairing.settings.chainId, "--node", pairing.nodeUrl,
        "--gas", "auto", "--gas-adjustment", pairing.settings.gasAdjustmentText,
        "--gas-prices", pairing.settings.gasPrices ])
    (["--output", "json", "--yes"] ++ pairing.blocking.keyringArguments) ""
  simp only [List.append_assoc, List.cons_append, List.nil_append] at modes
  exact modes

theorem agree_run {arguments : List String} (plain : arguments.head? ≠ some "tx")
    (input : Option String) :
    pairing.Agree (pairing.blocking.run arguments input)
      (pairing.polling.run arguments input) := by
  constructor
  · intro state
    rcases run_extends pairing.blocking arguments input state with silent | ran
    · exact silent.isPrefix
    · exact ran.isPrefix
  · intro here there alike delivered
    by_cases starts : pairing.blocking.Starts arguments
    · have also := (pairing.starts_polling_iff rfl).mpr starts
      rw [run_of_starts starts] at delivered ⊢
      rw [run_of_starts also]
      obtain ⟨same, alike⟩ := alike.inquired plain delivered
      refine ⟨?_, alike⟩
      change pairing.blocking.verdict arguments input (pairing.block.reply _) =
        pairing.polling.verdict arguments input (pairing.poll.reply _)
      rw [same]
      rfl
    · have neither := mt (pairing.starts_polling_iff rfl).mp starts
      rw [run_of_unstarted starts, run_of_unstarted neither, pairing.startFault_polling rfl]
      exact ⟨rfl, alike⟩

/-- A transaction comes to the same for both clients, whether it is taken or not. -/
theorem agree_submit (pairing : Pairing) (keyName : String) (arguments : List String) :
    pairing.Agree (pairing.blocking.submit keyName ("tx" :: arguments))
      (pairing.polling.submit keyName ("tx" :: arguments)) := by
  have modes := pairing.holdsNul_signing keyName ("tx" :: arguments)
  have signed := pairing.signing_sameButMode keyName ("tx" :: arguments)
  constructor
  · intro state
    rcases submit_extends pairing.blocking keyName ("tx" :: arguments) state with silent | ran
    · exact silent.isPrefix
    · exact ran.isPrefix
  · intro here there alike delivered
    by_cases starts : pairing.blocking.Starts
        ("tx" :: arguments ++ pairing.blocking.signingArguments keyName)
    · have also := (pairing.starts_polling_iff modes).mpr starts
      rw [submit_blocking starts] at delivered
      have settles := alike.settles delivered
      generalize next : pairing.asked (here.invocations.length + 1) = later at settles
      cases settles with
      | inquiry plain _ => exact absurd rfl plain
      | refusal same refused =>
          have rejected : ∀ reply,
              (pairing.poll.reply there.invocations.length).Answers reply → reply.code ≠ 0 := by
            rw [alike.count, same]
            exact refused
          rw [submit_of_refused starts refused, submit_of_refused also rejected]
          refine ⟨?_, alike.invoked signed next.symm⟩
          change (pairing.blocking.readBroadcast _ (pairing.block.reply _)).bind _ =
            (pairing.polling.readBroadcast _ (pairing.poll.reply _)).bind _
          rw [alike.count, same]
          rfl
      | @delivery outcome misses _ delivers =>
          have ours := submit_blocking_of_delivers starts delivers
          rw [← alike.count] at delivers
          obtain ⟨posted, length, theirs⟩ := submit_polling_of_delivers also delivers
          rw [ours, theirs]
          exact ⟨rfl, alike.invoked signed (length.trans next.symm)⟩
    · have neither := mt (pairing.starts_polling_iff modes).mp starts
      unfold submit
      rw [bind_of_error (run_of_unstarted starts none here),
        bind_of_error (run_of_unstarted neither none there), pairing.startFault_polling modes]
      exact ⟨rfl, alike⟩

/-! ### The key -/

theorem agree_keyringAddress (pairing : Pairing) (keyName : String) :
    pairing.Agree (pairing.blocking.keyringAddress keyName)
      (pairing.polling.keyringAddress keyName) := by
  have plain : (pairing.blocking.showArguments keyName).head? ≠ some "tx" := by
    simp [showArguments]
  by_cases starts : pairing.blocking.Starts (pairing.blocking.showArguments keyName)
  · have also : pairing.polling.Starts (pairing.polling.showArguments keyName) :=
      (pairing.starts_polling_iff rfl).mpr starts
    constructor
    · intro state
      rw [keyringAddress_of_starts starts]
      exact (extends_invoked state _).isPrefix
    · intro here there alike delivered
      rw [keyringAddress_of_starts starts] at delivered ⊢
      rw [keyringAddress_of_starts also]
      obtain ⟨same, alike⟩ := alike.inquired plain delivered
      refine ⟨?_, alike⟩
      change Except.ok (pairing.block.reply _).storedAddress? =
        Except.ok (pairing.poll.reply _).storedAddress?
      rw [same]
  · have neither : ¬ pairing.polling.Starts (pairing.polling.showArguments keyName) :=
      mt (pairing.starts_polling_iff rfl).mp starts
    constructor
    · intro state
      simp only [keyringAddress_of_not_starts starts, List.prefix_rfl]
    · intro here there alike _
      rw [keyringAddress_of_not_starts starts, keyringAddress_of_not_starts neither]
      exact ⟨rfl, alike⟩

theorem agree_derivedAddress (pairing : Pairing) (identity : Identity) :
    pairing.Agree (pairing.blocking.derivedAddress identity)
      (pairing.polling.derivedAddress identity) := by
  cases given : identity.mnemonic with
  | none =>
      rw [derivedAddress_of_none given, derivedAddress_of_none given]
      exact agree_pure none
  | some mnemonic =>
      have plain : (pairing.blocking.deriveArguments identity.keyName).head? ≠ some "tx" := by
        simp [deriveArguments]
      rw [derivedAddress_of_some given, derivedAddress_of_some given]
      apply Agree.map
      unfold mnemonicAddress
      apply ((agree_run plain (some mnemonic)).within _).bind
      intro output
      exact agree_decodeOutput _ _ _

theorem agree_recoverKey (pairing : Pairing) (identity : Identity) :
    pairing.Agree (pairing.blocking.recoverKey identity)
      (pairing.polling.recoverKey identity) := by
  have plain : (pairing.blocking.recoverArguments identity.keyName).head? ≠ some "tx" := by
    simp [recoverArguments]
  unfold recoverKey
  apply ((agree_run plain identity.mnemonic).within _).bind
  intro output
  exact agree_pure ()

theorem agree_settleKey (pairing : Pairing) (identity : Identity)
    (stored derived : Option String) :
    pairing.Agree (pairing.blocking.settleKey identity stored derived)
      (pairing.polling.settleKey identity stored derived) := by
  unfold settleKey
  apply (agree_ofExcept (KeyAction.choose identity.keyName stored derived)).bind
  intro action
  cases action with
  | useExisting => exact (agree_pure ()).bind fun _ => agree_readied identity.keyName
  | recover =>
      exact (pairing.agree_recoverKey identity).bind fun _ => agree_readied identity.keyName

theorem agree_ensureKey (pairing : Pairing) (identity : Identity) :
    pairing.Agree (pairing.blocking.ensureKey identity)
      (pairing.polling.ensureKey identity) := by
  have settles := (pairing.agree_keyringAddress identity.keyName).bind fun stored =>
    (pairing.agree_derivedAddress identity).bind fun derived =>
      pairing.agree_settleKey identity stored derived
  constructor
  · intro state
    by_cases prepared : identity.keyName ∈ state.preparedKeys
    · simp only [ensureKey_of_prepared prepared, List.prefix_rfl]
    · rw [ensureKey_of_unprepared prepared]
      exact settles.grows state
  · intro here there alike delivered
    by_cases prepared : identity.keyName ∈ here.preparedKeys
    · have also : identity.keyName ∈ there.preparedKeys := alike.keys ▸ prepared
      rw [ensureKey_of_prepared prepared, ensureKey_of_prepared also]
      exact ⟨rfl, alike⟩
    · have neither : identity.keyName ∉ there.preparedKeys := alike.keys ▸ prepared
      rw [ensureKey_of_unprepared prepared] at delivered ⊢
      rw [ensureKey_of_unprepared neither]
      exact settles.follows alike delivered

/-! ### Requests -/

theorem agree_broadcast (pairing : Pairing) (identity : Identity) (arguments : List String) :
    pairing.Agree (pairing.blocking.broadcast identity ("tx" :: arguments))
      (pairing.polling.broadcast identity ("tx" :: arguments)) :=
  (pairing.agree_ensureKey identity).bind fun _ =>
    pairing.agree_submit identity.keyName arguments

theorem agree_accountAddress (pairing : Pairing) (identity : Identity) :
    pairing.Agree (pairing.blocking.accountAddress identity)
      (pairing.polling.accountAddress identity) := by
  have plain : (pairing.blocking.showArguments identity.keyName).head? ≠ some "tx" := by
    simp [showArguments]
  unfold accountAddress
  apply (pairing.agree_ensureKey identity).bind
  intro _
  apply (agree_run plain none).bind
  intro output
  exact agree_pure (Text.trim output)

theorem agree_deploy (pairing : Pairing) (identity : Identity) (artifact : Path) (message : Json)
    (label : String) :
    pairing.Agree (pairing.blocking.deploy identity artifact message label)
      (pairing.polling.deploy identity artifact message label) := by
  unfold deploy
  apply ((pairing.agree_broadcast identity _).within _).bind
  intro stored
  apply (agree_ofExcept (storedCode stored)).bind
  intro codeId
  apply ((pairing.agree_broadcast identity _).within _).bind
  intro created
  apply (agree_ofExcept (instantiatedAddress created)).bind
  intro address
  exact agree_pure _

theorem agree_execute (pairing : Pairing) (identity : Identity) (contract : String)
    (message : Json) :
    pairing.Agree (pairing.blocking.execute identity contract message)
      (pairing.polling.execute identity contract message) := by
  unfold execute
  apply ((pairing.agree_broadcast identity _).within _).bind
  intro transaction
  exact agree_pure _

theorem agree_query (pairing : Pairing) (contract : String) (message : Json) :
    pairing.Agree (pairing.blocking.query contract message)
      (pairing.polling.query contract message) := by
  have plain : (pairing.blocking.queryArguments contract message).head? ≠ some "tx" := by
    simp [queryArguments]
  unfold query
  apply ((agree_run plain none).within _).bind
  intro output
  exact agree_decodeOutput _ _ _

theorem agree_action (pairing : Pairing) (request : ChainRequest) :
    pairing.Agree (pairing.blocking.action request) (pairing.polling.action request) := by
  cases request with
  | accountAddress identity => exact pairing.agree_accountAddress identity
  | deploy identity artifact message label =>
      exact pairing.agree_deploy identity artifact message label
  | execute identity contract message => exact pairing.agree_execute identity contract message
  | query contract message => exact pairing.agree_query contract message

theorem answer_agrees (pairing : Pairing) (request : ChainRequest) {here there : NodeState}
    (alike : pairing.Alike here there)
    (delivered : pairing.Delivered
      (pairing.blocking.chainClient.answer request here).2.invocations) :
    (pairing.polling.chainClient.answer request there).1 =
        (pairing.blocking.chainClient.answer request here).1 ∧
      pairing.Alike (pairing.blocking.chainClient.answer request here).2
        (pairing.polling.chainClient.answer request there).2 := by
  obtain ⟨same, alike⟩ := (pairing.agree_action request).follows alike delivered
  exact ⟨same.symm, alike⟩

theorem settle_grows (pairing : Pairing) (requests : List ChainRequest) (state : NodeState) :
    state.invocations <+: (pairing.blocking.chainClient.settle requests state).invocations := by
  induction requests generalizing state with
  | nil => exact List.prefix_refl state.invocations
  | cons request rest ih => exact ((pairing.agree_action request).grows state).trans (ih _)

/-- Requests one after the other get the same answers. -/
theorem converse_agrees (pairing : Pairing) (requests : List ChainRequest)
    {here there : NodeState} (alike : pairing.Alike here there)
    (delivered : pairing.Delivered
      (pairing.blocking.chainClient.settle requests here).invocations) :
    pairing.polling.chainClient.converse requests there =
        pairing.blocking.chainClient.converse requests here ∧
      pairing.Alike (pairing.blocking.chainClient.settle requests here)
        (pairing.polling.chainClient.settle requests there) := by
  induction requests generalizing here there with
  | nil =>
      refine ⟨?_, alike⟩
      simp only [ChainClient.converse]
  | cons request rest ih =>
      have onward := pairing.settle_grows rest
        (pairing.blocking.chainClient.answer request here).2
      obtain ⟨same, alike⟩ := pairing.answer_agrees request alike (delivered.mono onward)
      obtain ⟨others, alike⟩ := ih alike delivered
      refine ⟨?_, alike⟩
      unfold ChainClient.converse
      rw [others, same]

end Pairing

end NodeClient

end PerpDeploy
