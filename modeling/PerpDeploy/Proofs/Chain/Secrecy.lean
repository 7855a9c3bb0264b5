/-
The mnemonic goes to the node as what two commands read, and nowhere else. Two clients that
differ in the mnemonic of one key run the same commands with the same arguments and answer
the same; `Agree` says so of a pair of actions and is kept when actions are put together.
-/

import PerpDeploy.Proofs.Chain.Commit

namespace PerpDeploy

/-- All commands read what they are given, as they do if nothing is known of them but what they
print and how they end. -/
def NodeHost.Reads (host : NodeHost) : Prop := ∀ position, (host.reply position).inputFault = none

namespace NodeClient

/-! ### What a failure tells of a line -/

/-- Of what a command was given to read a failure tells no more than whether it was empty, and not
even that if the command has read it. -/
theorem verdict_congr (client : NodeClient) (arguments : List String) {reply : ProcessReply}
    {here there : String}
    (alike : here.isEmpty = there.isEmpty ∨ reply.inputFault = none) :
    client.verdict arguments (some here) reply = client.verdict arguments (some there) reply := by
  have faults : reply.inputFault.map (ProcessReply.inputTrail here) =
      reply.inputFault.map (ProcessReply.inputTrail there) := by
    rcases alike with same | read
    · have trails : ProcessReply.inputTrail here = ProcessReply.inputTrail there := by
        funext fault
        cases fault with
        | line fault => simp only [ProcessReply.inputTrail, same]
        | lineEnd fault => rfl
      rw [trails]
    · rw [read]
      rfl
  simp only [verdict, ProcessReply.fault?, Option.bind_some, faults]

/-- A command that reads nothing tells an empty line from any other: of an empty line only the end
is written, and what has failed then is not said. -/
theorem verdict_ne_of_empty (client : NodeClient) (arguments : List String) {reply : ProcessReply}
    {fault : FileFault} (started : reply.startFault = none)
    (closed : reply.inputFault = some (.line fault)) {line : String} (solid : line ≠ "") :
    client.verdict arguments (some "") reply ≠ client.verdict arguments (some line) reply := by
  have full : line.isEmpty = false := by simpa using solid
  simp only [verdict, ProcessReply.fault?, started, closed, ProcessReply.inputTrail, full,
    Option.map_none, Option.map_some, Option.bind_some, Option.none_or, Option.some_or]
  intro same
  have outermost := congrArg Trail.outermost (Except.error.inj same)
  cases outermost

/-- Two mnemonics for one key of a client, and the state from which both are tried. They may differ
in everything if the commands read what they are given, but in being empty if not. -/
structure Contrast where
  client : NodeClient
  keyName : String
  here : String
  there : String
  begun : NodeState
  fair : here.isEmpty = there.isEmpty ∨ client.host.Reads

/-- A command with what it is given to read if the key is to be had from the mnemonic. -/
def supplied (client : NodeClient) (keyName mnemonic : String) (arguments : List String) :
    Invocation :=
  { arguments
    input :=
      if arguments = client.deriveArguments keyName ∨ arguments = client.recoverArguments keyName
      then mnemonic ++ "\n" else "" }

/-- No other command of the keyring, and no command outside of it, reads the mnemonic. -/
structure Plain (client : NodeClient) (keyName : String) (arguments : List String) : Prop where
  underived : arguments ≠ client.deriveArguments keyName
  unrecovered : arguments ≠ client.recoverArguments keyName

theorem Plain.supplied {client : NodeClient} {keyName : String} {arguments : List String}
    (plain : client.Plain keyName arguments) (mnemonic : String) :
    client.supplied keyName mnemonic arguments = .ofInput arguments none := by
  unfold NodeClient.supplied Invocation.ofInput
  rw [if_neg (not_or.mpr ⟨plain.underived, plain.unrecovered⟩)]
  rfl

theorem plain_of_head {client : NodeClient} {keyName : String} {arguments : List String}
    (outside : arguments.head? ≠ some "keys") : client.Plain keyName arguments := by
  constructor
  · rintro rfl
    exact outside rfl
  · rintro rfl
    exact outside rfl

theorem plain_show (client : NodeClient) (keyName other : String) :
    client.Plain keyName (client.showArguments other) := by
  constructor
  · simp [showArguments, deriveArguments]
  · simp [showArguments, recoverArguments]

theorem plain_signing (client : NodeClient) (keyName : String) (arguments rest : List String) :
    client.Plain keyName ("tx" :: arguments ++ rest) := by
  apply plain_of_head
  simp

theorem supplied_derive (client : NodeClient) (keyName mnemonic : String) :
    client.supplied keyName mnemonic (client.deriveArguments keyName) =
      client.derivation keyName mnemonic := by
  unfold supplied derivation Invocation.ofInput
  rw [if_pos (Or.inl rfl)]
  rfl

theorem supplied_recover (client : NodeClient) (keyName mnemonic : String) :
    client.supplied keyName mnemonic (client.recoverArguments keyName) =
      client.recovery keyName mnemonic := by
  unfold supplied recovery Invocation.ofInput
  rw [if_pos (Or.inr rfl)]
  rfl

namespace Contrast

variable {α β : Type} {contrast : Contrast}

/-- The same commands have been run with either mnemonic. -/
structure Alike (contrast : Contrast) (left right : NodeState) : Prop where
  keys : left.preparedKeys = right.preparedKeys
  posted : left.posted = right.posted
  commands : ∃ commands : List (List String),
    left.invocations = contrast.begun.invocations ++
        commands.map (contrast.client.supplied contrast.keyName contrast.here) ∧
      right.invocations = contrast.begun.invocations ++
        commands.map (contrast.client.supplied contrast.keyName contrast.there)

theorem Alike.refl (contrast : Contrast) : contrast.Alike contrast.begun contrast.begun :=
  { keys := rfl
    posted := rfl
    commands := ⟨[], (List.append_nil _).symm, (List.append_nil _).symm⟩ }

theorem Alike.count {left right : NodeState} (alike : contrast.Alike left right) :
    left.invocations.length = right.invocations.length := by
  obtain ⟨commands, here, there⟩ := alike.commands
  rw [here, there, List.length_append, List.length_append, List.length_map, List.length_map]

theorem Alike.invoked {left right : NodeState} (alike : contrast.Alike left right)
    (arguments : List String) :
    contrast.Alike
      (left.invoked (contrast.client.supplied contrast.keyName contrast.here arguments))
      (right.invoked (contrast.client.supplied contrast.keyName contrast.there arguments)) := by
  obtain ⟨commands, here, there⟩ := alike.commands
  refine { keys := alike.keys, posted := alike.posted, commands := ⟨commands ++ [arguments], ?_⟩ }
  simp only [NodeState.invoked, here, there, List.map_append, List.map_cons, List.map_nil,
    List.append_assoc, and_self]

theorem Alike.readied {left right : NodeState} (alike : contrast.Alike left right)
    (keyName : String) : contrast.Alike (left.readied keyName) (right.readied keyName) :=
  { alike with keys := congrArg (· ++ [keyName]) alike.keys }

/-- Two actions end the same and leave the same behind, but for the mnemonic. -/
def Agree (contrast : Contrast) (left right : Action α) : Prop :=
  ∀ here there, contrast.Alike here there →
    (left.run.run here).1 = (right.run.run there).1 ∧
      contrast.Alike (left.run.run here).2 (right.run.run there).2

theorem agree_ofExcept (result : Except Trail α) :
    contrast.Agree (ofExcept result) (ofExcept result) :=
  fun _ _ alike => ⟨rfl, alike⟩

theorem agree_pure (value : α) : contrast.Agree (pure value) (pure value) :=
  fun _ _ alike => ⟨rfl, alike⟩

theorem agree_throw (trail : Trail) : contrast.Agree (throw trail : Action α) (throw trail) :=
  fun _ _ alike => ⟨rfl, alike⟩

theorem agree_decodeOutput (decoder : Json.Decoder α) (message output : String) :
    contrast.Agree (decodeOutput decoder message output) (decodeOutput decoder message output) := by
  intro here there alike
  rw [decodeOutput_run, decodeOutput_run]
  exact ⟨rfl, alike⟩

theorem agree_readied (keyName : String) :
    contrast.Agree (modify fun state => state.readied keyName)
      (modify fun state => state.readied keyName) :=
  fun _ _ alike => ⟨rfl, alike.readied keyName⟩

theorem verdict_supplied (contrast : Contrast) (arguments : List String) (position : Nat) :
    contrast.client.verdict arguments (some contrast.here) (contrast.client.host.reply position) =
      contrast.client.verdict arguments (some contrast.there)
        (contrast.client.host.reply position) :=
  verdict_congr _ _ (contrast.fair.imp_right fun reads => reads position)

theorem Agree.outcome {left right : Action α} (agree : contrast.Agree left right)
    {here there : NodeState} (alike : contrast.Alike here there) :
    ∃ result after behind, left.run.run here = (result, after) ∧
      right.run.run there = (result, behind) ∧ contrast.Alike after behind := by
  obtain ⟨same, alike⟩ := agree here there alike
  refine ⟨(left.run.run here).1, (left.run.run here).2, (right.run.run there).2, rfl, ?_, alike⟩
  exact Prod.ext same.symm rfl

theorem Agree.bind {left right : Action α} {next other : α → Action β}
    (first : contrast.Agree left right)
    (rest : ∀ value, contrast.Agree (next value) (other value)) :
    contrast.Agree (left >>= next) (right >>= other) := by
  intro here there alike
  obtain ⟨result, after, behind, ours, theirs, alike⟩ := first.outcome alike
  cases result with
  | error trail =>
      rw [bind_of_error ours, bind_of_error theirs]
      exact ⟨rfl, alike⟩
  | ok value =>
      rw [bind_of_ok ours, bind_of_ok theirs]
      exact rest value after behind alike

theorem Agree.map {left right : Action α} (inner : contrast.Agree left right)
    (function : α → β) : contrast.Agree (function <$> left) (function <$> right) := by
  intro here there alike
  obtain ⟨result, after, behind, ours, theirs, alike⟩ := inner.outcome alike
  cases result with
  | error trail =>
      rw [map_of_error ours, map_of_error theirs]
      exact ⟨rfl, alike⟩
  | ok value =>
      rw [map_of_ok ours, map_of_ok theirs]
      exact ⟨rfl, alike⟩

theorem Agree.within {left right : Action α} (inner : contrast.Agree left right)
    (message : String) :
    contrast.Agree (within message left) (within message right) := by
  intro here there alike
  obtain ⟨result, after, behind, ours, theirs, alike⟩ := inner.outcome alike
  cases result with
  | error trail =>
      rw [within_of_error ours, within_of_error theirs]
      exact ⟨rfl, alike⟩
  | ok value =>
      rw [within_of_ok ours, within_of_ok theirs]
      exact ⟨rfl, alike⟩

/-- A command agrees with itself if it is given either mnemonic only where it is supplied, and
tells nothing of it. -/
theorem agree_run {arguments : List String} {input other : Option String}
    (here : contrast.client.supplied contrast.keyName contrast.here arguments =
      .ofInput arguments input)
    (there : contrast.client.supplied contrast.keyName contrast.there arguments =
      .ofInput arguments other)
    (told : ∀ position,
      contrast.client.verdict arguments input (contrast.client.host.reply position) =
        contrast.client.verdict arguments other (contrast.client.host.reply position)) :
    contrast.Agree (contrast.client.run arguments input)
      (contrast.client.run arguments other) := by
  intro left right alike
  by_cases starts : contrast.client.Starts arguments
  · rw [run_of_starts starts, run_of_starts starts, alike.count, ← here, ← there]
    exact ⟨told _, alike.invoked arguments⟩
  · rw [run_of_unstarted starts, run_of_unstarted starts]
    exact ⟨rfl, alike⟩

theorem agree_run_plain {arguments : List String}
    (plain : contrast.client.Plain contrast.keyName arguments) :
    contrast.Agree (contrast.client.run arguments none) (contrast.client.run arguments none) :=
  agree_run (plain.supplied _) (plain.supplied _) fun _ => rfl

theorem agree_confirm (reply : BroadcastReply) :
    contrast.Agree (contrast.client.confirm reply) (contrast.client.confirm reply) := by
  unfold confirm
  cases contrast.client.settings.confirmation with
  | block => exact agree_pure _
  | poll timeout interval =>
      have waits : contrast.Agree (contrast.client.awaitCommit reply.hash timeout interval)
          (contrast.client.awaitCommit reply.hash timeout interval) := by
        intro here there alike
        rw [awaitCommit_run, awaitCommit_run, alike.posted]
        exact ⟨rfl, { alike with posted := rfl }⟩
      apply waits.bind
      intro result
      split
      · exact agree_pure _
      · exact agree_throw _

theorem agree_submit (arguments : List String) (keyName : String) :
    contrast.Agree (contrast.client.submit keyName ("tx" :: arguments))
      (contrast.client.submit keyName ("tx" :: arguments)) := by
  unfold submit
  apply (agree_run_plain (plain_signing _ _ _ _)).bind
  intro output
  apply (agree_decodeOutput _ _ _).bind
  intro reply
  split
  · exact agree_confirm reply
  · exact agree_throw _

/-! ### The key -/

theorem agree_keyringAddress (keyName : String) :
    contrast.Agree (contrast.client.keyringAddress keyName)
      (contrast.client.keyringAddress keyName) := by
  intro here there alike
  by_cases starts : contrast.client.Starts (contrast.client.showArguments keyName)
  · have plain := plain_show contrast.client contrast.keyName keyName
    rw [keyringAddress_of_starts starts, keyringAddress_of_starts starts, alike.count]
    refine ⟨rfl, ?_⟩
    have asked := alike.invoked (contrast.client.showArguments keyName)
    rw [plain.supplied, plain.supplied] at asked
    exact asked
  · rw [keyringAddress_of_not_starts starts, keyringAddress_of_not_starts starts]
    exact ⟨rfl, alike⟩

/-- The identity with the first mnemonic. -/
def ours (contrast : Contrast) : Identity :=
  { keyName := contrast.keyName, mnemonic := some contrast.here }

/-- The identity with the second mnemonic. -/
def theirs (contrast : Contrast) : Identity :=
  { keyName := contrast.keyName, mnemonic := some contrast.there }

theorem agree_derivedAddress (contrast : Contrast) :
    contrast.Agree (contrast.client.derivedAddress contrast.ours)
      (contrast.client.derivedAddress contrast.theirs) := by
  rw [derivedAddress_of_some rfl, derivedAddress_of_some rfl]
  apply Agree.map
  unfold mnemonicAddress
  have derives := agree_run (supplied_derive _ _ contrast.here)
    (supplied_derive _ _ contrast.there) (contrast.verdict_supplied _)
  apply (derives.within _).bind
  intro output
  exact agree_decodeOutput _ _ _

theorem agree_recoverKey (contrast : Contrast) :
    contrast.Agree (contrast.client.recoverKey contrast.ours)
      (contrast.client.recoverKey contrast.theirs) := by
  unfold recoverKey
  have recovers := agree_run (supplied_recover _ _ contrast.here)
    (supplied_recover _ _ contrast.there) (contrast.verdict_supplied _)
  apply (recovers.within _).bind
  intro output
  exact agree_pure _

theorem agree_settleKey (stored derived : Option String) :
    contrast.Agree (contrast.client.settleKey contrast.ours stored derived)
      (contrast.client.settleKey contrast.theirs stored derived) := by
  unfold settleKey
  apply (agree_ofExcept (KeyAction.choose contrast.keyName stored derived)).bind
  intro action
  cases action with
  | useExisting => exact (agree_pure ()).bind fun _ => agree_readied contrast.keyName
  | recover => exact contrast.agree_recoverKey.bind fun _ => agree_readied contrast.keyName

theorem agree_ensureKey (contrast : Contrast) :
    contrast.Agree (contrast.client.ensureKey contrast.ours)
      (contrast.client.ensureKey contrast.theirs) := by
  intro here there alike
  by_cases prepared : contrast.keyName ∈ here.preparedKeys
  · have also : contrast.keyName ∈ there.preparedKeys := alike.keys ▸ prepared
    rw [ensureKey_of_prepared prepared, ensureKey_of_prepared also]
    exact ⟨rfl, alike⟩
  · have neither : contrast.keyName ∉ there.preparedKeys := alike.keys ▸ prepared
    rw [ensureKey_of_unprepared prepared, ensureKey_of_unprepared neither]
    have settles := (agree_keyringAddress contrast.keyName).bind fun stored =>
      contrast.agree_derivedAddress.bind fun derived => agree_settleKey stored derived
    exact settles here there alike

/-! ### Requests -/

theorem agree_broadcast (contrast : Contrast) (arguments : List String) :
    contrast.Agree (contrast.client.broadcast contrast.ours ("tx" :: arguments))
      (contrast.client.broadcast contrast.theirs ("tx" :: arguments)) :=
  contrast.agree_ensureKey.bind fun _ => agree_submit arguments contrast.keyName

theorem agree_accountAddress (contrast : Contrast) :
    contrast.Agree (contrast.client.accountAddress contrast.ours)
      (contrast.client.accountAddress contrast.theirs) := by
  unfold accountAddress
  apply contrast.agree_ensureKey.bind
  intro _
  apply (agree_run_plain (plain_show _ _ _)).bind
  intro output
  exact agree_pure _

theorem agree_deploy (contrast : Contrast) (artifact : Path) (message : Json) (label : String) :
    contrast.Agree (contrast.client.deploy contrast.ours artifact message label)
      (contrast.client.deploy contrast.theirs artifact message label) := by
  unfold deploy
  apply ((contrast.agree_broadcast _).within _).bind
  intro stored
  apply (agree_ofExcept _).bind
  intro codeId
  apply ((contrast.agree_broadcast _).within _).bind
  intro created
  apply (agree_ofExcept _).bind
  intro address
  exact agree_pure _

theorem agree_execute (contrast : Contrast) (contract : String) (message : Json) :
    contrast.Agree (contrast.client.execute contrast.ours contract message)
      (contrast.client.execute contrast.theirs contract message) := by
  unfold execute
  apply ((contrast.agree_broadcast _).within _).bind
  intro transaction
  exact agree_pure _

theorem agree_query (contrast : Contrast) (contract : String) (message : Json) :
    contrast.Agree (contrast.client.query contract message)
      (contrast.client.query contract message) := by
  have plain : contrast.client.Plain contrast.keyName
      (contrast.client.queryArguments contract message) := plain_of_head (by simp [queryArguments])
  unfold query
  apply ((agree_run_plain plain).within _).bind
  intro output
  exact agree_decodeOutput _ _ _

end Contrast

end NodeClient

end PerpDeploy
