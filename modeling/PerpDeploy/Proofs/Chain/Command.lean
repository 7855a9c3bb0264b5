/-
Commands of the node, and the actions that are made of them. A command that can be started
leaves one more invocation behind, whatever becomes of it, and one that cannot leaves
nothing.
-/

import PerpDeploy.Chain.Node

namespace PerpDeploy

/-- A command as it was run, and what the node did. -/
structure CommandRun where
  invocation : Invocation
  reply : ProcessReply

namespace ProcessReply

/-- The command has been run to its end and has ended well; `given` if there was something that
it had to read. -/
structure Succeeds (reply : ProcessReply) (given : Bool) : Prop where
  started : reply.startFault = none
  taken : given = true → reply.inputFault = none
  awaited : reply.waitFault = none
  exited : reply.status = .exited 0

/-- No fault of the system has come up. -/
def isComplete (reply : ProcessReply) (given : Bool) : Bool :=
  reply.startFault.isNone && (!given || reply.inputFault.isNone) && reply.waitFault.isNone

/-- What the command has printed, if it has succeeded. -/
def output? (reply : ProcessReply) (given : Bool) : Option String :=
  if reply.isComplete given ∧ reply.status = .exited 0 then some (Text.lenientText reply.stdout)
  else none

theorem succeeds_iff {reply : ProcessReply} {given : Bool} :
    reply.Succeeds given ↔ reply.isComplete given ∧ reply.status = .exited 0 := by
  have complete : reply.isComplete given ↔
      reply.startFault = none ∧ (given = true → reply.inputFault = none) ∧
        reply.waitFault = none := by
    unfold isComplete
    cases given <;> simp [and_assoc]
  rw [complete]
  constructor
  · intro succeeds
    exact ⟨⟨succeeds.started, succeeds.taken, succeeds.awaited⟩, succeeds.exited⟩
  · rintro ⟨⟨started, taken, awaited⟩, exited⟩
    exact { started, taken, awaited, exited }

theorem output?_eq_some_iff {reply : ProcessReply} {given : Bool} {output : String} :
    reply.output? given = some output ↔
      reply.Succeeds given ∧ Text.lenientText reply.stdout = output := by
  rw [output?, succeeds_iff]
  split <;> simp [*]

theorem output?_of_succeeds {reply : ProcessReply} {given : Bool}
    (succeeds : reply.Succeeds given) :
    reply.output? given = some (Text.lenientText reply.stdout) :=
  output?_eq_some_iff.mpr ⟨succeeds, rfl⟩

theorem not_succeeds_of_no_output {reply : ProcessReply} {given : Bool}
    (silent : reply.output? given = none) : ¬ reply.Succeeds given := by
  intro succeeds
  rw [output?_of_succeeds succeeds] at silent
  cases silent

/-- Whether there is something to read decides which faults can come up, but not what it is. -/
theorem isNone_fault? (reply : ProcessReply) (binary : String) (input : Option String) :
    (reply.fault? binary input).isNone = reply.isComplete input.isSome := by
  unfold fault? isComplete
  cases reply.startFault <;> cases input <;> cases reply.inputFault <;>
    cases reply.waitFault <;> rfl

end ProcessReply

def Invocation.ofInput (arguments : List String) (input : Option String) : Invocation :=
  { arguments, input := (input.map fun text => text ++ "\n").getD "" }

def NodeState.invoked (state : NodeState) (invocation : Invocation) : NodeState :=
  { state with invocations := state.invocations ++ [invocation] }

namespace NodeClient

variable {α β : Type}

/-- The command that is run next. -/
def commandRun (client : NodeClient) (state : NodeState) (invocation : Invocation) : CommandRun :=
  ⟨invocation, client.host.reply state.invocations.length⟩

/-- The commands of a client, each with the reply that the node has given to it. -/
def transcript (client : NodeClient) (state : NodeState) : List CommandRun :=
  state.invocations.zipIdx.map fun (invocation, position) =>
    ⟨invocation, client.host.reply position⟩

theorem transcript_invocations (client : NodeClient) (state : NodeState) :
    (client.transcript state).map CommandRun.invocation = state.invocations := by
  rw [transcript, List.map_map]
  exact List.zipIdx_map_fst 0 state.invocations

theorem transcript_append (client : NodeClient) {state after : NodeState}
    {made : List Invocation} (grown : after.invocations = state.invocations ++ made) :
    ∃ commands, client.transcript after = client.transcript state ++ commands ∧
      commands.map CommandRun.invocation = made := by
  refine ⟨(made.zipIdx state.invocations.length).map fun (invocation, position) =>
    ⟨invocation, client.host.reply position⟩, ?_, ?_⟩
  · rw [transcript, grown, List.zipIdx_append, List.map_append, Nat.zero_add]
    rfl
  · rw [List.map_map]
    exact List.zipIdx_map_fst state.invocations.length made

theorem transcript_invoked (client : NodeClient) (state : NodeState) (invocation : Invocation) :
    client.transcript (state.invoked invocation) =
      client.transcript state ++ [client.commandRun state invocation] := by
  simp only [transcript, NodeState.invoked, List.zipIdx_append, List.map_append, List.zipIdx_cons,
    List.zipIdx_nil, List.map_cons, List.map_nil, Nat.zero_add]
  rfl

/-! ### Actions one after the other -/

theorem bind_of_ok {action : Action α} {state after : NodeState} {value : α}
    (done : action.run.run state = (.ok value, after)) (next : α → Action β) :
    (action >>= next).run.run state = (next value).run.run after := by
  change (ExceptT.run action >>= ExceptT.bindCont next).run state = _
  rw [StateT.run_bind, done]
  rfl

theorem bind_of_error {action : Action α} {state after : NodeState} {trail : Trail}
    (failed : action.run.run state = (.error trail, after)) (next : α → Action β) :
    (action >>= next).run.run state = (.error trail, after) := by
  change (ExceptT.run action >>= ExceptT.bindCont next).run state = _
  rw [StateT.run_bind, failed]
  rfl

theorem map_of_ok {action : Action α} {state after : NodeState} {value : α}
    (done : action.run.run state = (.ok value, after)) (function : α → β) :
    (function <$> action).run.run state = (.ok (function value), after) := by
  rw [ExceptT.run_map, StateT.run_map, done]
  rfl

theorem map_of_error {action : Action α} {state after : NodeState} {trail : Trail}
    (failed : action.run.run state = (.error trail, after)) (function : α → β) :
    (function <$> action).run.run state = (.error trail, after) := by
  rw [ExceptT.run_map, StateT.run_map, failed]
  rfl

theorem pure_bind_run (value : α) (next : α → Action β) (state : NodeState) :
    (pure value >>= next).run.run state = (next value).run.run state :=
  bind_of_ok rfl next

theorem get_bind_run (next : NodeState → Action α) (state : NodeState) :
    (get >>= next).run.run state = (next state).run.run state :=
  bind_of_ok rfl next

theorem modify_bind_run (change : NodeState → NodeState) (next : Unit → Action α)
    (state : NodeState) :
    (modify change >>= next).run.run state = (next ()).run.run (change state) :=
  bind_of_ok rfl next

/-- A chain of actions succeeds if each of them does. -/
theorem bind_ok_iff (action : Action α) (next : α → Action β) (state after : NodeState)
    (value : β) :
    (action >>= next).run.run state = (.ok value, after) ↔
      ∃ middle between, action.run.run state = (.ok middle, between) ∧
        (next middle).run.run between = (.ok value, after) := by
  constructor
  · intro done
    cases first : action.run.run state with
    | mk result between =>
        cases result with
        | error trail =>
            rw [bind_of_error first] at done
            cases done
        | ok middle =>
            rw [bind_of_ok first] at done
            exact ⟨middle, between, rfl, done⟩
  · rintro ⟨middle, between, first, second⟩
    rw [bind_of_ok first, second]

theorem within_of_ok {action : Action α} {state after : NodeState} {value : α}
    (done : action.run.run state = (.ok value, after)) (message : String) :
    (within message action).run.run state = (.ok value, after) := by
  change (ExceptT.run action >>= _).run state = _
  rw [StateT.run_bind, done]
  rfl

theorem within_of_error {action : Action α} {state after : NodeState} {trail : Trail}
    (failed : action.run.run state = (.error trail, after)) (message : String) :
    (within message action).run.run state = (.error (trail.within message), after) := by
  change (ExceptT.run action >>= _).run state = _
  rw [StateT.run_bind, failed]
  rfl

/-- More text around a failure changes nothing but the failure. -/
theorem within_state (message : String) (action : Action α) (state : NodeState) :
    ((within message action).run.run state).2 = (action.run.run state).2 := by
  cases done : action.run.run state with
  | mk result after =>
      cases result with
      | ok value => rw [within_of_ok done]
      | error trail => rw [within_of_error done]

theorem within_ok_iff (message : String) (action : Action α) (state after : NodeState)
    (value : α) :
    (within message action).run.run state = (.ok value, after) ↔
      action.run.run state = (.ok value, after) := by
  constructor
  · intro done
    cases first : action.run.run state with
    | mk result between =>
        cases result with
        | error trail =>
            rw [within_of_error first] at done
            cases done
        | ok middle => rwa [within_of_ok first] at done
  · intro done
    exact within_of_ok done message

theorem ofExcept_ok_iff (result : Except Trail α) (state after : NodeState) (value : α) :
    (ofExcept result).run.run state = (.ok value, after) ↔ result = .ok value ∧ after = state := by
  constructor
  · intro done
    obtain ⟨same, rfl⟩ := Prod.mk.inj done
    exact ⟨same, rfl⟩
  · rintro ⟨rfl, rfl⟩
    rfl

theorem decodeOutput_run (decoder : Json.Decoder α) (message output : String)
    (state : NodeState) :
    (decodeOutput decoder message output).run.run state =
      ((Json.decodeText decoder output).mapError fun fault =>
        (Trail.ofCause (.json fault)).within message, state) := by
  unfold decodeOutput
  cases Json.decodeText decoder output <;> rfl

theorem decodeOutput_ok_iff (decoder : Json.Decoder α) (message output : String)
    (state after : NodeState) (value : α) :
    (decodeOutput decoder message output).run.run state = (.ok value, after) ↔
      Json.decodeText decoder output = .ok value ∧ after = state := by
  rw [decodeOutput_run]
  cases Json.decodeText decoder output with
  | ok decoded =>
      constructor
      · intro same
        cases same
        exact ⟨rfl, rfl⟩
      · rintro ⟨same, rfl⟩
        cases same
        rfl
  | error fault =>
      constructor
      · intro same
        cases same
      · rintro ⟨same, _⟩
        cases same

/-! ### Texts that a command can be given -/

theorem holdsNul_append (left right : String) :
    holdsNul (left ++ right) = (holdsNul left || holdsNul right) := by
  simp [holdsNul]

/-- A numeral holds nothing but digits. -/
theorem holdsNul_toString (number : Nat) : holdsNul (toString number) = false := by
  unfold holdsNul
  rw [List.contains_eq_mem, decide_eq_false_iff_not]
  intro member
  have digit : (Char.ofNat 0).isDigit = true := by
    apply Nat.isDigit_of_mem_toDigits (by decide : 0 < 10) (by decide : 10 ≤ 10)
    simpa using member
  revert digit
  decide

theorem holdsNul_of_subset {part whole : String} (within : ∀ c ∈ part.toList, c ∈ whole.toList)
    (clean : holdsNul whole = false) : holdsNul part = false := by
  unfold holdsNul at clean ⊢
  rw [List.contains_eq_mem, decide_eq_false_iff_not] at clean ⊢
  intro member
  exact clean (within _ member)

theorem holdsNul_zeros (count : Nat) : holdsNul (Number.zeros count) = false := by
  unfold holdsNul Number.zeros
  rw [List.contains_eq_mem, decide_eq_false_iff_not, String.toList_ofList]
  intro member
  have zero := List.eq_of_mem_replicate member
  revert zero
  decide

theorem holdsNul_inPlace (decimal : Number.Decimal) {ending : String}
    (clean : holdsNul ending = false) : holdsNul (decimal.inPlace ending) = false := by
  have digits := holdsNul_toString decimal.digits
  have point : holdsNul "." = false := rfl
  have lead : holdsNul "0." = false := rfl
  unfold Number.Decimal.inPlace
  dsimp only
  split
  · rw [holdsNul_append, holdsNul_append, digits, holdsNul_zeros, clean]
    rfl
  · split
    · have front : holdsNul (String.ofList ((toString decimal.digits).toList.take
          decimal.order.toNat)) = false := by
        apply holdsNul_of_subset _ digits
        intro c member
        rw [String.toList_ofList] at member
        exact List.mem_of_mem_take member
      have back : holdsNul (String.ofList ((toString decimal.digits).toList.drop
          decimal.order.toNat)) = false := by
        apply holdsNul_of_subset _ digits
        intro c member
        rw [String.toList_ofList] at member
        exact List.mem_of_mem_drop member
      rw [holdsNul_append, holdsNul_append, front, point, back]
      rfl
    · rw [holdsNul_append, holdsNul_append, lead, holdsNul_zeros, digits]
      rfl

theorem holdsNul_withExponent (decimal : Number.Decimal) :
    holdsNul decimal.withExponent = false := by
  have digits := holdsNul_toString decimal.digits
  have power := holdsNul_toString (decimal.order - 1).natAbs
  have sign : holdsNul (if decimal.order - 1 < 0 then "-" else "+") = false := by
    split <;> rfl
  have mark : holdsNul "e" = false := rfl
  unfold Number.Decimal.withExponent
  dsimp only
  rw [holdsNul_append, holdsNul_append, holdsNul_append, power, sign, mark]
  simp only [Bool.or_false]
  split
  · rename_i first second rest numeral
    unfold holdsNul at digits ⊢
    rw [numeral] at digits
    rw [String.toList_ofList, List.contains_cons, List.contains_cons]
    rw [List.contains_cons] at digits
    exact digits
  · rename_i numeral
    rw [String.ofList_toList]
    exact digits

/-- A number is written without a character that a command cannot be given. -/
theorem holdsNul_write {format : Number.FloatFormat} (ending : holdsNul format.wholeEnding = false)
    (notANumber : holdsNul format.notANumber = false)
    (infinite : holdsNul format.infinite = false) (value : Float) :
    holdsNul (format.write value) = false := by
  have sign : holdsNul (if Number.isNegative value then "-" else "") = false := by
    split <;> rfl
  have zero : holdsNul "0" = false := rfl
  unfold Number.FloatFormat.write
  dsimp only
  split
  · exact notANumber
  · rw [holdsNul_append, sign, infinite]
    rfl
  · split
    · rw [holdsNul_append, holdsNul_append, sign, zero, ending]
      rfl
    · split
      · rw [holdsNul_append, sign, holdsNul_inPlace _ ending]
        rfl
      · rw [holdsNul_append, sign, holdsNul_withExponent]
        rfl

/-- Any number can be given to a command. -/
theorem holdsNul_plainFormat (value : Float) :
    holdsNul (Number.plainFormat.write value) = false :=
  holdsNul_write rfl rfl rfl value

/-! ### One command -/

/-- The program of the node is there, and no text given to it holds a character that it
cannot be given. -/
structure Starts (client : NodeClient) (arguments : List String) : Prop where
  fit : (client.settings.binary :: arguments).any holdsNul = false
  installed : client.host.installed client.settings.binary = true

/-- A command that has been started gives its output or fails. -/
theorem verdict_toOption (client : NodeClient) (arguments : List String) (input : Option String)
    (reply : ProcessReply) :
    (client.verdict arguments input reply).toOption = reply.output? input.isSome := by
  unfold verdict ProcessReply.output?
  rw [← reply.isNone_fault? client.settings.binary input]
  dsimp only
  cases reply.fault? client.settings.binary input with
  | some trail => rfl
  | none =>
      by_cases exited : reply.status = .exited 0
      · simp [exited, Except.toOption]
      · simp [exited, Except.toOption]

theorem run_of_starts {client : NodeClient} {arguments : List String}
    (starts : client.Starts arguments) (input : Option String) (state : NodeState) :
    (client.run arguments input).run.run state =
      (client.verdict arguments input (client.host.reply state.invocations.length),
        state.invoked (.ofInput arguments input)) := by
  unfold run
  dsimp only
  rw [if_neg (by rw [starts.fit]; decide), if_neg (by rw [starts.installed]; decide)]
  simp only [get_bind_run, modify_bind_run]
  rfl

theorem run_cases {client : NodeClient} {arguments : List String}
    (starts : client.Starts arguments) (input : Option String) (state : NodeState) :
    (∃ output,
      (client.host.reply state.invocations.length).output? input.isSome = some output ∧
      (client.run arguments input).run.run state =
        (.ok output, state.invoked (.ofInput arguments input))) ∨
    (client.host.reply state.invocations.length).output? input.isSome = none ∧
      ∃ trail, (client.run arguments input).run.run state =
        (.error trail, state.invoked (.ofInput arguments input)) := by
  rw [run_of_starts starts, ← client.verdict_toOption arguments input]
  cases client.verdict arguments input (client.host.reply state.invocations.length) with
  | ok output => exact Or.inl ⟨output, rfl, rfl⟩
  | error trail => exact Or.inr ⟨rfl, trail, rfl⟩

/-- Why a command cannot be started. -/
def startFault (client : NodeClient) (arguments : List String) : Trail :=
  let fault : FileFault :=
    if (client.settings.binary :: arguments).any holdsNul then .invalidArgument else .notFound
  (Trail.ofCause (.file fault)).within ("Failed to start " ++ client.settings.binary)

theorem run_of_unstarted {client : NodeClient} {arguments : List String}
    (stuck : ¬ client.Starts arguments) (input : Option String) (state : NodeState) :
    (client.run arguments input).run.run state = (.error (client.startFault arguments), state) := by
  unfold run startFault
  dsimp only
  cases fit : (client.settings.binary :: arguments).any holdsNul with
  | true => rfl
  | false =>
      cases there : client.host.installed client.settings.binary with
      | false => rfl
      | true => exact absurd ⟨fit, there⟩ stuck

theorem run_of_not_starts {client : NodeClient} {arguments : List String}
    (stuck : ¬ client.Starts arguments) :
    ∃ trail, ∀ input state, (client.run arguments input).run.run state = (.error trail, state) :=
  ⟨client.startFault arguments, run_of_unstarted stuck⟩

/-- A command gives what it has printed if it is started and succeeds. -/
theorem run_ok_iff (client : NodeClient) (arguments : List String) (input : Option String)
    (state after : NodeState) (output : String) :
    (client.run arguments input).run.run state = (.ok output, after) ↔
      client.Starts arguments ∧
        (client.host.reply state.invocations.length).output? input.isSome = some output ∧
        after = state.invoked (.ofInput arguments input) := by
  constructor
  · intro ran
    by_cases starts : client.Starts arguments
    · rcases run_cases starts input state with ⟨printed, replied, done⟩ | ⟨_, trail, failed⟩
      · rw [done] at ran
        cases ran
        exact ⟨starts, replied, rfl⟩
      · rw [failed] at ran
        cases ran
    · obtain ⟨trail, stuck⟩ := run_of_not_starts starts
      rw [stuck] at ran
      cases ran
  · rintro ⟨starts, replied, rfl⟩
    rcases run_cases starts input state with ⟨printed, same, done⟩ | ⟨silent, _⟩
    · rw [replied] at same
      cases same
      exact done
    · rw [replied] at silent
      cases silent

end NodeClient

end PerpDeploy
