/-
The addresses that a node client hands out. An account has the address that the keyring prints and
a contract the one that its transaction tells, and neither is looked at any further: where nothing
but blanks is printed, and where the attribute with the address has no value, the address is empty.
-/

import PerpDeploy.Proofs.Chain.Attribute
import PerpDeploy.Proofs.Chain.Commit
import PerpDeploy.Proofs.Text.Trim

namespace PerpDeploy

open Text (isBlank)

/-! ### Attributes without a value -/

/-- The attribute has the key, plain or encoded, and there is nothing in it. -/
structure EventAttribute.Hollow (key : String) (entry : EventAttribute) : Prop where
  key : entry.key = key ∨ entry.key = encodedText key
  value : entry.value = none ∨ entry.value = some ""

theorem EventAttribute.valueFor?_eq_empty_iff {key : String} {entry : EventAttribute} :
    entry.valueFor? key = some "" ↔ entry.Hollow key := by
  have empty : entry.value.getD "" = "" ↔ entry.value = none ∨ entry.value = some "" := by
    cases entry.value <;> simp
  have hollow : entry.Hollow key ↔
      (entry.key = key ∨ entry.key = encodedText key) ∧ entry.value.getD "" = "" := by
    rw [empty]
    exact ⟨fun holds => ⟨holds.key, holds.value⟩, fun ⟨key, value⟩ => ⟨key, value⟩⟩
  rw [hollow, valueFor?]
  simp only [decodedText?_eq_some_iff]
  by_cases plain : entry.key = key
  · rw [if_pos plain, Option.some.injEq]
    exact ⟨fun value => ⟨Or.inl plain, value⟩, And.right⟩
  · by_cases encoded : entry.key = encodedText key
    · rw [if_neg plain, if_pos encoded, decodedText?_eq_some_iff, encodedText_empty]
      exact ⟨fun value => ⟨Or.inr encoded, value⟩, And.right⟩
    · rw [if_neg plain, if_neg encoded]
      constructor
      · intro found
        cases found
      · intro ⟨either, _⟩
        exact absurd either (not_or.mpr ⟨plain, encoded⟩)

/-- Of the attributes with this key that can be read, the first one is hollow. -/
def Nameless (kind key : String) (events : List TransactionEvent) : Prop :=
  ∃ front entry rest, attributesOf kind events = front ++ entry :: rest ∧
    (∀ earlier ∈ front, earlier.valueFor? key = none) ∧ entry.Hollow key

theorem findAttribute?_eq_empty_iff {events : List TransactionEvent} {kind key : String} :
    findAttribute? events kind key = some "" ↔ Nameless kind key events := by
  rw [findAttribute?_eq, List.findSome?_eq_some_iff]
  constructor
  · intro ⟨front, entry, rest, split, found, unread⟩
    exact ⟨front, entry, rest, split, unread, EventAttribute.valueFor?_eq_empty_iff.mp found⟩
  · intro ⟨front, entry, rest, split, unread, hollow⟩
    exact ⟨front, entry, rest, split, EventAttribute.valueFor?_eq_empty_iff.mpr hollow, unread⟩

namespace NodeClient

/-! ### Requests whose key is still to be made ready -/

theorem ensureKey_prepares {client : NodeClient} {identity : Identity} {state ready : NodeState}
    (ensured : (client.ensureKey identity).run.run state = (.ok (), ready)) :
    identity.keyName ∈ ready.preparedKeys := by
  by_cases prepared : identity.keyName ∈ state.preparedKeys
  · rw [ensureKey_of_prepared prepared] at ensured
    cases ensured
    exact prepared
  · obtain ⟨commands, readies⟩ := ensureKey_readies client prepared
    rw [ensured] at readies
    exact readies.ready rfl

theorem accountAddress_ok_iff (client : NodeClient) (identity : Identity)
    (state after : NodeState) (address : String) :
    (client.accountAddress identity).run.run state = (.ok address, after) ↔
      ∃ ready output, (client.ensureKey identity).run.run state = (.ok (), ready) ∧
        client.Starts (client.showArguments identity.keyName) ∧
        (client.host.reply ready.invocations.length).output? false = some output ∧
        address = Text.trim output ∧ after = ready.invoked (client.inquiry identity.keyName) := by
  unfold accountAddress
  rw [bind_ok_iff]
  constructor
  · intro ⟨_, ready, ensured, asked⟩
    obtain ⟨output, between, ran, given⟩ := (bind_ok_iff _ _ _ _ _).mp asked
    obtain ⟨starts, printed, rfl⟩ := (run_ok_iff _ _ _ _ _ _).mp ran
    cases given
    exact ⟨ready, output, ensured, starts, printed, rfl, rfl⟩
  · rintro ⟨ready, output, ensured, starts, printed, rfl, rfl⟩
    refine ⟨(), ready, ensured, ?_⟩
    rw [bind_of_ok ((run_ok_iff _ _ _ _ _ _).mpr ⟨starts, printed, rfl⟩)]
    rfl

theorem deploy_of_ensured {client : NodeClient} {identity : Identity} {state ready : NodeState}
    (ensured : (client.ensureKey identity).run.run state = (.ok (), ready)) (artifact : Path)
    (message : Json) (label : String) :
    (client.deploy identity artifact message label).run.run state =
      (client.deploy identity artifact message label).run.run ready := by
  have same : (client.broadcast identity (storeArguments artifact)).run.run state =
      (client.broadcast identity (storeArguments artifact)).run.run ready :=
    (bind_of_ok ensured fun _ => client.submit identity.keyName (storeArguments artifact)).trans
      (broadcast_of_prepared (ensureKey_prepares ensured) client _).symm
  rw [deploy_eq]
  cases stored : (client.broadcast identity (storeArguments artifact)).run.run ready with
  | mk result between =>
      cases result with
      | error trail =>
          rw [bind_of_error (within_of_error (same.trans stored) _),
            bind_of_error (within_of_error stored _)]
      | ok transaction =>
          rw [bind_of_ok (within_of_ok (same.trans stored) _), bind_of_ok (within_of_ok stored _)]

/-- Whether its key was ready or not, a deployment is made of two transactions. -/
theorem deploy_ok_iff_ensured (client : NodeClient) (identity : Identity) (artifact : Path)
    (message : Json) (label : String) (state after : NodeState) (contract : DeployedContract) :
    (client.deploy identity artifact message label).run.run state = (.ok contract, after) ↔
      ∃ ready, (client.ensureKey identity).run.run state = (.ok (), ready) ∧
        client.Deploys identity.keyName artifact message label ready contract after := by
  constructor
  · intro deployed
    have started := deployed
    rw [deploy_eq] at started
    obtain ⟨_, _, stores, _⟩ := (bind_ok_iff _ _ _ _ _).mp started
    obtain ⟨_, ready, ensured, _⟩ :=
      (bind_ok_iff _ _ _ _ _).mp ((within_ok_iff _ _ _ _ _).mp stores)
    rw [deploy_of_ensured ensured] at deployed
    exact ⟨ready, ensured, (deploy_ok_iff (ensureKey_prepares ensured) _ _ _ _ _ _).mp deployed⟩
  · intro ⟨ready, ensured, deploys⟩
    rw [deploy_of_ensured ensured]
    exact (deploy_ok_iff (ensureKey_prepares ensured) _ _ _ _ _ _).mpr deploys

/-! ### Empty addresses -/

/-- An account has an empty address exactly if the keyring has printed nothing but blanks. -/
theorem accountAddress_empty_iff (client : NodeClient) (identity : Identity)
    (state after : NodeState) :
    (client.accountAddress identity).run.run state = (.ok "", after) ↔
      ∃ ready output, (client.ensureKey identity).run.run state = (.ok (), ready) ∧
        client.Starts (client.showArguments identity.keyName) ∧
        (client.host.reply ready.invocations.length).output? false = some output ∧
        (∀ c ∈ output.toList, isBlank c = true) ∧
        after = ready.invoked (client.inquiry identity.keyName) := by
  rw [accountAddress_ok_iff]
  simp only [eq_comm (a := ""), Text.trim_eq_empty_iff]

/-- A contract has an empty address exactly if the transaction that has made it tells of none. -/
theorem deploy_address_empty_iff {client : NodeClient} {identity : Identity} {artifact : Path}
    {message : Json} {label : String} {state after : NodeState} {contract : DeployedContract}
    (deployed : (client.deploy identity artifact message label).run.run state =
      (.ok contract, after)) :
    ∃ codeId between created, contract.codeId = some codeId ∧
      client.Commits identity.keyName (instantiateArguments codeId message label) between created
        after ∧
      (contract.address = "" ↔ Nameless "instantiate" "_contract_address" created.events) := by
  obtain ⟨ready, _, deploys⟩ := (deploy_ok_iff_ensured _ _ _ _ _ _ _ _).mp deployed
  cases deploys with
  | deployed stores told number instantiates placed =>
      refine ⟨_, _, _, rfl, instantiates, ?_⟩
      rw [← findAttribute?_eq_empty_iff, placed, Option.some.injEq]

end NodeClient

end PerpDeploy
