/-
Two clients that differ in the way of confirmation only, and the worlds that they run in. The
worlds deliver the same outcome for each transaction, one in the answer to the broadcast and
the other after some requests over the network. `Agree` relates two actions that come to the
same there, and is kept when actions are put together.
-/

import Mathlib.Data.List.Forall2
import PerpDeploy.Proofs.Chain.Commit
import PerpDeploy.Proofs.Chain.Polling

namespace PerpDeploy

/-- What becomes of a transaction on the chain. -/
structure ChainOutcome where
  hash : String
  code : Nat
  log : String
  events : List TransactionEvent
  deriving DecidableEq, Repr

/-- Two commands that are the same, or differ in the mode of the broadcast. -/
inductive Invocation.SameButMode : Invocation → Invocation → Prop
  | same (invocation : Invocation) : SameButMode invocation invocation
  | mode (front back : List String) (input : String) :
      SameButMode
        { arguments := front ++ ["--broadcast-mode", "block"] ++ back, input }
        { arguments := front ++ ["--broadcast-mode", "sync"] ++ back, input }

namespace NodeClient

variable {α β : Type}

/-- A client for each way of confirmation, and the worlds that they run in. -/
structure Pairing where
  settings : NetworkSettings
  nodeUrl : String
  timeout : Nat
  interval : Nat
  block : NodeHost
  poll : NodeHost
  installed : poll.installed = block.installed
  /-- The first command that the worlds are compared from. -/
  begun : Nat
  /-- How many requests have been posted before a command, if transactions are polled for. -/
  asked : Nat → Nat

namespace Pairing

def blocking (pairing : Pairing) : NodeClient :=
  { host := pairing.block, settings := { pairing.settings with confirmation := .block }
    nodeUrl := pairing.nodeUrl }

def polling (pairing : Pairing) : NodeClient :=
  { host := pairing.poll
    settings :=
      { pairing.settings with confirmation := .poll pairing.timeout pairing.interval }
    nodeUrl := pairing.nodeUrl }

/-- Both worlds deliver an outcome for the command at a position: one in the answer to the
broadcast, its events split in any way, and the other after some answers in which the
transaction is not in a block yet. -/
structure Delivers (pairing : Pairing) (outcome : ChainOutcome) (position posted misses : Nat) :
    Prop where
  block : ∃ reply, (pairing.block.reply position).Answers reply ∧
    reply.hash = outcome.hash ∧ reply.code = outcome.code ∧ reply.rawLog = outcome.log ∧
    reply.events ++ reply.logs.flatten = outcome.events
  poll : ∃ reply, (pairing.poll.reply position).Answers reply ∧
    reply.hash = outcome.hash ∧ reply.code = 0
  hash : Codec.HexPairs outcome.hash
  reachable : Rpc.Reachable pairing.nodeUrl
  few : misses ≤ Rpc.retryAttempts (pairing.timeout * 1000) (pairing.interval * 1000)
  includes : Rpc.Includes pairing.poll.http posted misses
    { code := outcome.code, log := outcome.log, events := outcome.events }

/-- What the worlds do about a command, and how many requests have been posted afterwards. -/
inductive Settles (pairing : Pairing) (invocation : Invocation) (position posted : Nat) :
    Nat → Prop
  | inquiry (plain : invocation.arguments.head? ≠ some "tx")
      (same : pairing.poll.reply position = pairing.block.reply position) :
      Settles pairing invocation position posted posted
  /-- Neither world takes the transaction. -/
  | refusal (same : pairing.poll.reply position = pairing.block.reply position)
      (refused : ∀ reply, (pairing.block.reply position).Answers reply → reply.code ≠ 0) :
      Settles pairing invocation position posted posted
  | delivery {outcome : ChainOutcome} {misses : Nat}
      (transaction : invocation.arguments.head? = some "tx")
      (delivers : pairing.Delivers outcome position posted misses) :
      Settles pairing invocation position posted (posted + (misses + 1))

/-- The worlds deliver the same for each of the commands. -/
def Delivered (pairing : Pairing) (made : List Invocation) : Prop :=
  ∀ position invocation, pairing.begun ≤ position → made[position]? = some invocation →
    pairing.Settles invocation position (pairing.asked position) (pairing.asked (position + 1))

/-- The same has been done in both worlds. -/
structure Alike (pairing : Pairing) (here there : NodeState) : Prop where
  keys : there.preparedKeys = here.preparedKeys
  commands : List.Forall₂ Invocation.SameButMode here.invocations there.invocations
  begun : pairing.begun ≤ here.invocations.length
  posted : there.posted.length = pairing.asked here.invocations.length

/-- Two actions end the same and leave the worlds alike, if the worlds deliver the same for the
commands that the first has run. -/
structure Agree (pairing : Pairing) (left right : Action α) : Prop where
  grows : ∀ state, state.invocations <+: (left.run.run state).2.invocations
  follows : ∀ {here there}, pairing.Alike here there →
    pairing.Delivered (left.run.run here).2.invocations →
    (left.run.run here).1 = (right.run.run there).1 ∧
      pairing.Alike (left.run.run here).2 (right.run.run there).2

variable {pairing : Pairing}

theorem Delivered.mono {made more : List Invocation} (delivered : pairing.Delivered more)
    (grown : made <+: more) : pairing.Delivered made := by
  intro position invocation begun found
  obtain ⟨rest, rfl⟩ := grown
  apply delivered position invocation begun
  rw [List.getElem?_append_left (List.getElem?_eq_some_iff.mp found).1]
  exact found

theorem Alike.readied {here there : NodeState} (alike : pairing.Alike here there)
    (keyName : String) : pairing.Alike (here.readied keyName) (there.readied keyName) :=
  { alike with keys := congrArg (· ++ [keyName]) alike.keys }

theorem Alike.count {here there : NodeState} (alike : pairing.Alike here there) :
    there.invocations.length = here.invocations.length :=
  alike.commands.length_eq.symm

/-- What the worlds do about the command that is run next. -/
theorem Alike.settles {here there : NodeState} (alike : pairing.Alike here there)
    {invocation : Invocation}
    (delivered : pairing.Delivered (here.invoked invocation).invocations) :
    pairing.Settles invocation here.invocations.length there.posted.length
      (pairing.asked (here.invocations.length + 1)) := by
  rw [alike.posted]
  apply delivered _ invocation alike.begun
  exact List.getElem?_concat_length

theorem Alike.invoked {here there : NodeState} (alike : pairing.Alike here there)
    {invocation other : Invocation} (same : invocation.SameButMode other) {posted : Posted}
    (asked : posted.length = pairing.asked (here.invocations.length + 1)) :
    pairing.Alike (here.invoked invocation) { there.invoked other with posted } := by
  have length : (here.invoked invocation).invocations.length = here.invocations.length + 1 := by
    rw [NodeState.invoked, List.length_append, List.length_singleton]
  have begun := alike.begun
  refine { keys := alike.keys, commands := ?_, begun := ?_, posted := ?_ }
  · exact List.rel_append alike.commands (.cons same .nil)
  · omega
  · rw [length]
    exact asked

/-- A command that is no transaction finds the same in both worlds. -/
theorem Alike.inquired {here there : NodeState} (alike : pairing.Alike here there)
    {invocation : Invocation} (plain : invocation.arguments.head? ≠ some "tx")
    (delivered : pairing.Delivered (here.invoked invocation).invocations) :
    pairing.poll.reply there.invocations.length = pairing.block.reply here.invocations.length ∧
      pairing.Alike (here.invoked invocation) (there.invoked invocation) := by
  have settles := alike.settles delivered
  generalize next : pairing.asked (here.invocations.length + 1) = later at settles
  rw [alike.count]
  cases settles with
  | inquiry _ same => exact ⟨same, alike.invoked (.same invocation) next.symm⟩
  | refusal same _ => exact ⟨same, alike.invoked (.same invocation) next.symm⟩
  | delivery transaction _ => exact absurd transaction plain

/-! ### Actions put together -/

theorem Agree.outcome {left right : Action α} (agree : pairing.Agree left right)
    {here there : NodeState} (alike : pairing.Alike here there)
    (delivered : pairing.Delivered (left.run.run here).2.invocations) :
    ∃ result after behind, left.run.run here = (result, after) ∧
      right.run.run there = (result, behind) ∧ pairing.Alike after behind := by
  obtain ⟨same, alike⟩ := agree.follows alike delivered
  refine ⟨(left.run.run here).1, (left.run.run here).2, (right.run.run there).2, rfl, ?_, alike⟩
  exact Prod.ext same.symm rfl

/-- An action that does nothing but to give its result. -/
theorem agree_of_constant {action : Action α} {result : Except Trail α}
    (constant : ∀ state, action.run.run state = (result, state)) :
    pairing.Agree action action := by
  constructor
  · intro state
    simp only [constant, List.prefix_rfl]
  · intro here there alike _
    rw [constant, constant]
    exact ⟨rfl, alike⟩

theorem agree_pure (value : α) : pairing.Agree (pure value) (pure value) :=
  agree_of_constant fun _ => rfl

theorem agree_ofExcept (result : Except Trail α) :
    pairing.Agree (ofExcept result) (ofExcept result) :=
  agree_of_constant fun _ => rfl

theorem agree_decodeOutput (decoder : Json.Decoder α) (message output : String) :
    pairing.Agree (decodeOutput decoder message output) (decodeOutput decoder message output) :=
  agree_of_constant (decodeOutput_run decoder message output)

theorem agree_readied (keyName : String) :
    pairing.Agree (modify fun state => state.readied keyName)
      (modify fun state => state.readied keyName) :=
  { grows := fun state => List.prefix_refl state.invocations
    follows := fun alike _ => ⟨rfl, alike.readied keyName⟩ }

/-- What is done by the first of two actions is done by both together. -/
theorem prefix_bind {action : Action α} {next : α → Action β}
    (grows : ∀ value state, state.invocations <+: ((next value).run.run state).2.invocations)
    (state : NodeState) :
    (action.run.run state).2.invocations <+: ((action >>= next).run.run state).2.invocations := by
  cases done : action.run.run state with
  | mk result after =>
      cases result with
      | error trail =>
          simp only [bind_of_error done, List.prefix_rfl]
      | ok value =>
          rw [bind_of_ok done]
          exact grows value after

theorem Agree.bind {left right : Action α} {next other : α → Action β}
    (first : pairing.Agree left right)
    (rest : ∀ value, pairing.Agree (next value) (other value)) :
    pairing.Agree (left >>= next) (right >>= other) := by
  have onward : ∀ state,
      (left.run.run state).2.invocations <+: ((left >>= next).run.run state).2.invocations :=
    prefix_bind fun value => (rest value).grows
  constructor
  · intro state
    exact (first.grows state).trans (onward state)
  · intro here there alike delivered
    obtain ⟨result, after, behind, ours, theirs, alike⟩ :=
      first.outcome alike (delivered.mono (onward here))
    cases result with
    | error trail =>
        rw [bind_of_error ours, bind_of_error theirs]
        exact ⟨rfl, alike⟩
    | ok value =>
        rw [bind_of_ok ours] at delivered ⊢
        rw [bind_of_ok theirs]
        exact (rest value).follows alike delivered

theorem Agree.map {left right : Action α} (inner : pairing.Agree left right)
    (function : α → β) : pairing.Agree (function <$> left) (function <$> right) := by
  rw [map_eq_pure_bind, map_eq_pure_bind]
  exact inner.bind fun value => agree_pure (function value)

theorem Agree.within {left right : Action α} (inner : pairing.Agree left right)
    (message : String) :
    pairing.Agree (within message left) (within message right) := by
  constructor
  · intro state
    rw [within_state]
    exact inner.grows state
  · intro here there alike delivered
    rw [within_state] at delivered
    obtain ⟨result, after, behind, ours, theirs, alike⟩ := inner.outcome alike delivered
    cases result with
    | error trail =>
        rw [within_of_error ours, within_of_error theirs]
        exact ⟨rfl, alike⟩
    | ok value =>
        rw [within_of_ok ours, within_of_ok theirs]
        exact ⟨rfl, alike⟩

end Pairing

end NodeClient

end PerpDeploy
