/-
The chain in memory over any history. What it refuses is settled from the start, and all that its
answers depend on beside that are two counters: whatever has been asked and refused before, the next
contract and the next transaction take the next number. So no two contracts and no two transactions
are ever taken for each other, and each call stands in the log. A contract can be taken for a
transaction, but only behind a mark of hexadecimal digits that is nearly as long as a transaction.
-/

import Mathlib.Data.List.Nodup
import PerpDeploy.Chain.Mock
import PerpDeploy.Number.Layout
import PerpDeploy.Proofs.Chain.Conversation

namespace PerpDeploy

/-- The contract that the answer tells of. -/
def Exchange.contract? : Exchange → Option DeployedContract
  | ⟨.deploy .., .ok contract⟩ => some contract
  | _ => none

/-- The executed transaction that the answer tells of. -/
def Exchange.receipt? : Exchange → Option ExecuteReceipt
  | ⟨.execute .., .ok receipt⟩ => some receipt
  | _ => none

def Exchange.Failed (exchange : Exchange) : Prop := ∃ trail, exchange.reply = .error trail

/-! ### What a client hands out by number -/

namespace ChainClient

variable {σ α : Type}

theorem exists_answer_of_mem {client : ChainClient σ} {history : List ChainRequest} {state : σ}
    {exchange : Exchange} (member : exchange ∈ client.converse history state) :
    ∃ between, exchange.reply = (client.answer exchange.request between).1 := by
  induction history generalizing state with
  | nil => cases member
  | cons request rest ih =>
      rcases List.mem_cons.mp member with same | later
      · rw [same]
        exact ⟨state, rfl⟩
      · exact ih later

/-- Each request leaves the counter alone and nothing of the kind is handed out, or the counter goes
up by one and what has this number is handed out. -/
def Numbers (client : ChainClient σ) (counter : σ → Nat) (numbered : Nat → α)
    (handed? : Exchange → Option α) : Prop :=
  ∀ request state,
    let handed := handed? ⟨request, (client.answer request state).1⟩
    let after := counter (client.answer request state).2
    (handed = none ∧ after = counter state) ∨
      (handed = some (numbered (counter state + 1)) ∧ after = counter state + 1)

section Numbers

variable {client : ChainClient σ} {counter : σ → Nat} {numbered : Nat → α}
  {handed? : Exchange → Option α}

/-- Over a whole history the numbers follow one another without a gap. -/
theorem Numbers.converse (numbers : client.Numbers counter numbered handed?)
    (history : List ChainRequest) (state : σ) :
    let handed := (client.converse history state).filterMap handed?
    handed = (List.range' (counter state + 1) handed.length).map numbered ∧
      counter (client.settle history state) = counter state + handed.length := by
  induction history generalizing state with
  | nil => exact ⟨rfl, rfl⟩
  | cons request rest ih =>
      -- The rest starts from the counter that the first request has left.
      obtain ⟨handed, counted⟩ := ih (client.answer request state).2
      rw [ChainClient.converse, settle]
      rcases numbers request state with ⟨nothing, same⟩ | ⟨next, up⟩
      · rw [same] at handed counted
        rw [List.filterMap_cons_none nothing]
        exact ⟨handed, counted⟩
      · rw [up] at handed counted
        rw [List.filterMap_cons_some next]
        dsimp only
        rw [List.length_cons, List.range'_succ, List.map_cons]
        exact ⟨congrArg (List.cons _) handed, by omega⟩

theorem Numbers.eq_of_getElem? (numbers : client.Numbers counter numbered handed?)
    {history : List ChainRequest} {state : σ} {position : Nat} {item : α}
    (found : ((client.converse history state).filterMap handed?)[position]? = some item) :
    item = numbered (counter state + 1 + position) := by
  obtain ⟨within, -⟩ := List.getElem?_eq_some_iff.mp found
  rw [(numbers.converse history state).1, List.getElem?_map, List.getElem?_range' within,
    Option.map_some, Nat.one_mul] at found
  exact (Option.some.inj found).symm

theorem Numbers.exists_of_mem (numbers : client.Numbers counter numbered handed?)
    {history : List ChainRequest} {state : σ} {item : α}
    (member : item ∈ (client.converse history state).filterMap handed?) :
    ∃ number, item = numbered number := by
  obtain ⟨position, found⟩ := List.mem_iff_getElem?.mp member
  exact ⟨_, numbers.eq_of_getElem? found⟩

theorem Numbers.nodup {β : Type} {mark : α → β}
    (numbers : client.Numbers counter numbered handed?)
    (distinct : Function.Injective fun number => mark (numbered number))
    (history : List ChainRequest) (state : σ) :
    (((client.converse history state).filterMap handed?).map mark).Nodup := by
  rw [(numbers.converse history state).1, List.map_map]
  exact List.Nodup.map distinct List.nodup_range'

end Numbers

end ChainClient

/-! ### Texts of numbers -/

theorem toString_nat_injective : Function.Injective (toString : Nat → String) := by
  intro left right same
  have digits : Nat.toDigits 10 left = Nat.toDigits 10 right := by
    have chars := congrArg String.toList same
    simpa only [Nat.toString_eq_repr, Nat.toList_repr] using chars
  have values := congrArg (fun chars => Nat.ofDigitChars 10 chars 0) digits
  simpa using values

def upperHexDigits : List Char := "0123456789ABCDEF".toList

/-- The text is the number in upper-case hexadecimal digits: sixty-four of them, unless the number
is too large for as many. -/
structure UpperHex (text : String) (number : Nat) : Prop where
  digits : ∀ c ∈ text.toList, c ∈ upperHexDigits
  value : text.toList.foldl (fun value c => value * 16 + upperHexDigits.idxOf c) 0 = number
  width : text.length = 64 ↔ number < Nat.pow 16 64

theorem UpperHex.unique {text : String} {left right : Nat} (first : UpperHex text left)
    (second : UpperHex text right) : left = right :=
  first.value.symm.trans second.value

namespace MockChain

theorem upperHexDigit_stands :
    ∀ digit < 16, upperHexDigit digit ∈ upperHexDigits ∧
      upperHexDigits.idxOf (upperHexDigit digit) = digit := by
  decide

/-- The lowest digits of a number behind those of `value`. -/
theorem foldl_upperHexDigits (number digits value : Nat) :
    ((List.range digits).reverse.map fun place =>
        upperHexDigit (number / Nat.pow 16 place % 16)).foldl
      (fun value c => value * 16 + upperHexDigits.idxOf c) value =
      value * Nat.pow 16 digits + number % Nat.pow 16 digits := by
  induction digits generalizing value with
  | zero =>
      change value = value * 1 + number % 1
      omega
  | succ digits ih =>
      have small : number / Nat.pow 16 digits % 16 < 16 := Nat.mod_lt _ (by decide)
      -- The digit of the highest place is the first one to be read.
      have leading := (upperHexDigit_stands _ small).2
      rw [List.range_succ, List.reverse_append, List.reverse_singleton, List.singleton_append,
        List.map_cons, List.foldl_cons, leading, ih]
      have split : number % Nat.pow 16 (digits + 1) =
          number % Nat.pow 16 digits + Nat.pow 16 digits * (number / Nat.pow 16 digits % 16) :=
        Nat.mod_pow_succ
      have power : Nat.pow 16 (digits + 1) = 16 * Nat.pow 16 digits := Nat.pow_succ'
      rw [split, power, Nat.add_mul, Nat.mul_assoc, Nat.mul_comm (number / _ % 16)]
      omega

theorem lt_pow_of_log2 (number : Nat) : number < Nat.pow 16 (number.log2 / 4 + 1) := by
  have below : number < Nat.pow 2 (number.log2 + 1) := Nat.lt_log2_self
  have grown : Nat.pow 2 (number.log2 + 1) ≤ Nat.pow 2 (4 * (number.log2 / 4 + 1)) :=
    Nat.pow_le_pow_right (by decide) (by omega)
  have nibbles : Nat.pow 2 (4 * (number.log2 / 4 + 1)) = Nat.pow 16 (number.log2 / 4 + 1) :=
    Nat.pow_mul 2 4 _
  omega

theorem length_transactionHash (number : Nat) :
    (transactionHash number).length = max 64 (number.log2 / 4 + 1) := by
  simp [transactionHash]

theorem upperHex_transactionHash (number : Nat) : UpperHex (transactionHash number) number where
  digits c member := by
    rw [transactionHash, String.toList_ofList] at member
    obtain ⟨place, -, rfl⟩ := List.mem_map.mp member
    exact (upperHexDigit_stands _ (Nat.mod_lt _ (by decide))).1
  value := by
    have enough : Nat.pow 16 (number.log2 / 4 + 1) ≤ Nat.pow 16 (max 64 (number.log2 / 4 + 1)) :=
      Nat.pow_le_pow_right (by decide) (Nat.le_max_right _ _)
    have whole : number % Nat.pow 16 (max 64 (number.log2 / 4 + 1)) = number :=
      Nat.mod_eq_of_lt (Nat.lt_of_lt_of_le (lt_pow_of_log2 number) enough)
    rw [transactionHash, String.toList_ofList, foldl_upperHexDigits, whole, Nat.zero_mul,
      Nat.zero_add]
  width := by
    rw [length_transactionHash]
    rcases Nat.eq_zero_or_pos number with rfl | positive
    · decide
    · have bits : number.log2 < 256 ↔ number < Nat.pow 16 64 := Nat.log2_lt (Nat.ne_of_gt positive)
      rw [← bits]
      omega

example : (transactionHash 2748).toList.drop 60 = ['0', 'A', 'B', 'C'] := by decide +kernel

theorem transactionHash_injective : Function.Injective transactionHash := by
  intro left right same
  have number := upperHex_transactionHash right
  rw [← same] at number
  exact (upperHex_transactionHash left).unique number

/-! ### Addresses -/

/-- The contract with this number. -/
def contractAt (chain : MockChain) (number : Nat) : DeployedContract :=
  { address := chain.addressMark ++ toString number, codeId := some number }

theorem address_contractAt_injective (chain : MockChain) :
    Function.Injective fun number => (chain.contractAt number).address := by
  intro left right same
  exact toString_nat_injective ((String.append_right_inj chain.addressMark).mp same)

/-- A contract has a digit behind the mark, and an account a dash. -/
theorem address_contractAt_ne_account (chain : MockChain) (number : Nat) (keyName : String) :
    (chain.contractAt number).address ≠ chain.addressMark ++ "-" ++ keyName := by
  intro same
  rw [String.append_assoc] at same
  have behind := congrArg String.toList ((String.append_right_inj chain.addressMark).mp same)
  rw [Nat.toString_eq_repr, Nat.toList_repr, String.toList_append] at behind
  have dash : '-' ∈ Nat.toDigits 10 number := by
    rw [behind]
    exact List.mem_append_left _ List.mem_cons_self
  have digit := Nat.isDigit_of_mem_toDigits (by decide) (by decide) dash
  exact absurd digit (by decide)

/-- An address that is the text of a transaction is as long as one, and its mark is of the digits of
one. -/
theorem hex_of_address_eq_transactionHash {chain : MockChain} {contract transaction : Nat}
    (same : (chain.contractAt contract).address = transactionHash transaction) :
    64 ≤ (chain.contractAt contract).address.length ∧
      ∀ c ∈ chain.addressMark.toList, c ∈ upperHexDigits := by
  constructor
  · rw [same, length_transactionHash]
    exact Nat.le_max_left 64 _
  · intro c member
    apply (upperHex_transactionHash transaction).digits
    rw [← same]
    change c ∈ (chain.addressMark ++ toString contract).toList
    rw [String.toList_append]
    exact List.mem_append_left _ member

end MockChain

/-! ### One request -/

/-- What the log holds of a request; a question for an account is not noted. -/
def MockCall.ofRequest? : ChainRequest → Option MockCall
  | .accountAddress _ => none
  | .deploy _ artifact message label => some (.deploy artifact.stem message label)
  | .execute _ contract message => some (.execute contract message)
  | .query contract message => some (.query contract message)

namespace MockChain

/-- What the chain has been set up to refuse. -/
def Refuses (chain : MockChain) : ChainRequest → Prop
  | .accountAddress _ => False
  | .deploy _ artifact _ _ => artifact.stem ∈ chain.failingArtifacts
  | .execute _ _ message => messageName message ∈ chain.failingMessages
  | .query .. => chain.failingQueries = true

/-- The ways in which a request can be answered. -/
inductive Responds (chain : MockChain) (state : MockState) :
    (request : ChainRequest) → Except Trail request.Reply → MockState → Prop
  | account (identity : Identity) :
      Responds chain state (.accountAddress identity)
        (.ok (chain.addressMark ++ "-" ++ identity.keyName)) state
  | refused {request : ChainRequest} {call : MockCall}
      (noted : MockCall.ofRequest? request = some call) (refuses : chain.Refuses request)
      (trail : Trail) :
      Responds chain state request (.error trail) { state with calls := state.calls ++ [call] }
  | deployed {identity : Identity} {artifact : Path} {message : Json} {label : String}
      (granted : ¬ chain.Refuses (.deploy identity artifact message label)) :
      Responds chain state (.deploy identity artifact message label)
        (.ok (chain.contractAt (state.deployments + 1)))
        { state with
          calls := state.calls ++ [.deploy artifact.stem message label]
          deployments := state.deployments + 1 }
  | executed {identity : Identity} {contract : String} {message : Json}
      (granted : ¬ chain.Refuses (.execute identity contract message)) :
      Responds chain state (.execute identity contract message)
        (.ok { transaction := transactionHash (state.executions + 1) })
        { state with
          calls := state.calls ++ [.execute contract message]
          executions := state.executions + 1 }
  | queried {contract : String} {message : Json}
      (granted : ¬ chain.Refuses (.query contract message)) :
      Responds chain state (.query contract message) (.ok chain.queryAnswer)
        { state with calls := state.calls ++ [.query contract message] }

theorem responds_answer (chain : MockChain) (request : ChainRequest) (state : MockState) :
    chain.Responds state request (chain.client.answer request state).1
      (chain.client.answer request state).2 := by
  cases request with
  | accountAddress identity => exact .account identity
  | deploy identity artifact message label =>
      by_cases refuses : chain.Refuses (.deploy identity artifact message label)
      · have failing : artifact.stem ∈ chain.failingArtifacts := refuses
        simp only [client, deploy, if_pos failing]
        exact .refused rfl refuses _
      · have sound : artifact.stem ∉ chain.failingArtifacts := refuses
        simp only [client, deploy, if_neg sound]
        exact .deployed refuses
  | execute identity contract message =>
      by_cases refuses : chain.Refuses (.execute identity contract message)
      · have failing : messageName message ∈ chain.failingMessages := refuses
        simp only [client, execute, if_pos failing]
        exact .refused rfl refuses _
      · have sound : messageName message ∉ chain.failingMessages := refuses
        simp only [client, execute, if_neg sound]
        exact .executed refuses
  | query contract message =>
      by_cases refuses : chain.Refuses (.query contract message)
      · have failing : chain.failingQueries = true := refuses
        simp only [client, query, if_pos failing]
        exact .refused rfl refuses _
      · have sound : ¬ chain.failingQueries = true := refuses
        simp only [client, query, if_neg sound]
        exact .queried refuses

section Responses

variable {chain : MockChain} {state after : MockState} {request : ChainRequest}
  {reply : Except Trail request.Reply}

theorem Responds.calls (responds : chain.Responds state request reply after) :
    after.calls = state.calls ++ (MockCall.ofRequest? request).toList := by
  cases responds with
  | account identity => exact (List.append_nil _).symm
  | refused noted refuses trail =>
      rw [noted]
      rfl
  | deployed granted => rfl
  | executed granted => rfl
  | queried granted => rfl

theorem Responds.failed_iff (responds : chain.Responds state request reply after) :
    (∃ trail, reply = .error trail) ↔ chain.Refuses request := by
  cases responds with
  | account identity => simp [Refuses]
  | refused noted refuses trail => simp [refuses]
  | deployed granted => simp [granted]
  | executed granted => simp [granted]
  | queried granted => simp [granted]

/-- Each contract and each transaction has a call of its own in the log. -/
theorem Responds.logged (responds : chain.Responds state request reply after)
    (logged : state.deployments + state.executions ≤ state.calls.length) :
    after.deployments + after.executions ≤ after.calls.length := by
  cases responds with
  | account identity => exact logged
  | refused noted refuses trail =>
      rw [List.length_append]
      exact Nat.le_add_right_of_le logged
  | deployed granted =>
      simp only [List.length_append, List.length_singleton]
      omega
  | executed granted =>
      simp only [List.length_append, List.length_singleton]
      omega
  | queried granted =>
      rw [List.length_append]
      exact Nat.le_add_right_of_le logged

theorem Responds.contract (responds : chain.Responds state request reply after) :
    (Exchange.contract? ⟨request, reply⟩ = none ∧ after.deployments = state.deployments) ∨
      (Exchange.contract? ⟨request, reply⟩ = some (chain.contractAt (state.deployments + 1)) ∧
        after.deployments = state.deployments + 1) := by
  cases responds with
  | deployed granted => exact Or.inr ⟨rfl, rfl⟩
  | refused noted refuses trail =>
      refine Or.inl ⟨?_, rfl⟩
      cases request <;> rfl
  | account identity => exact Or.inl ⟨rfl, rfl⟩
  | executed granted => exact Or.inl ⟨rfl, rfl⟩
  | queried granted => exact Or.inl ⟨rfl, rfl⟩

theorem Responds.receipt (responds : chain.Responds state request reply after) :
    (Exchange.receipt? ⟨request, reply⟩ = none ∧ after.executions = state.executions) ∨
      (Exchange.receipt? ⟨request, reply⟩ =
          some { transaction := transactionHash (state.executions + 1) } ∧
        after.executions = state.executions + 1) := by
  cases responds with
  | executed granted => exact Or.inr ⟨rfl, rfl⟩
  | refused noted refuses trail =>
      refine Or.inl ⟨?_, rfl⟩
      cases request <;> rfl
  | account identity => exact Or.inl ⟨rfl, rfl⟩
  | deployed granted => exact Or.inl ⟨rfl, rfl⟩
  | queried granted => exact Or.inl ⟨rfl, rfl⟩

end Responses

/-! ### A history of requests -/

theorem numbers_contracts (chain : MockChain) :
    chain.client.Numbers MockState.deployments chain.contractAt Exchange.contract? :=
  fun request state => (chain.responds_answer request state).contract

theorem numbers_receipts (chain : MockChain) :
    chain.client.Numbers MockState.executions
      (fun number => { transaction := transactionHash number }) Exchange.receipt? :=
  fun request state => (chain.responds_answer request state).receipt

theorem settle_calls (chain : MockChain) (history : List ChainRequest) (state : MockState) :
    (chain.client.settle history state).calls =
      state.calls ++ history.filterMap MockCall.ofRequest? := by
  induction history generalizing state with
  | nil => exact (List.append_nil _).symm
  | cons request rest ih =>
      rw [ChainClient.settle, ih, (chain.responds_answer request state).calls, List.append_assoc]
      cases noted : MockCall.ofRequest? request with
      | none => rw [List.filterMap_cons_none noted, Option.toList_none, List.nil_append]
      | some call => rw [List.filterMap_cons_some noted, Option.toList_some, List.singleton_append]

theorem settle_logged (chain : MockChain) (history : List ChainRequest) {state : MockState}
    (logged : state.deployments + state.executions ≤ state.calls.length) :
    (chain.client.settle history state).deployments +
        (chain.client.settle history state).executions ≤
      (chain.client.settle history state).calls.length := by
  induction history generalizing state with
  | nil => exact logged
  | cons request rest ih => exact ih ((chain.responds_answer request state).logged logged)

theorem responds_of_mem {chain : MockChain} {history : List ChainRequest} {state : MockState}
    {exchange : Exchange} (member : exchange ∈ chain.client.converse history state) :
    ∃ between after, chain.Responds between exchange.request exchange.reply after := by
  obtain ⟨between, answered⟩ := ChainClient.exists_answer_of_mem member
  rw [answered]
  exact ⟨between, _, chain.responds_answer exchange.request between⟩

/-- Over any history the chain in memory keeps each call, refuses what it has been set up to refuse
and nothing else, and numbers what it hands out from one on. No two contracts and no two transactions
that it hands out are the same. -/
theorem converse_numbered (chain : MockChain) (history : List ChainRequest) :
    let exchanges := chain.client.converse history initialState
    let contracts := exchanges.filterMap Exchange.contract?
    let receipts := exchanges.filterMap Exchange.receipt?
    let final := chain.client.settle history initialState
    final.calls = history.filterMap MockCall.ofRequest? ∧
    (∀ exchange ∈ exchanges, exchange.Failed ↔ chain.Refuses exchange.request) ∧
    (∀ contract message answer, ⟨.query contract message, .ok answer⟩ ∈ exchanges →
      answer = chain.queryAnswer) ∧
    contracts = (List.range' 1 contracts.length).map (fun number =>
      { address := chain.addressMark ++ toString number, codeId := some number }) ∧
    (∀ position receipt, receipts[position]? = some receipt →
      UpperHex receipt.transaction (position + 1)) ∧
    final.deployments = contracts.length ∧ final.executions = receipts.length ∧
    contracts.length + receipts.length ≤ final.calls.length ∧
    (contracts.map DeployedContract.address).Nodup ∧
    (receipts.map ExecuteReceipt.transaction).Nodup ∧
    (∀ contract ∈ contracts, ∀ identity state, ∃ account,
      (chain.client.answer (.accountAddress identity) state).1 = .ok account ∧
        contract.address ≠ account) ∧
    (∀ contract ∈ contracts, ∀ receipt ∈ receipts, contract.address = receipt.transaction →
      64 ≤ contract.address.length ∧ ∀ c ∈ chain.addressMark.toList, c ∈ upperHexDigits) := by
  intro exchanges contracts receipts final
  have made := chain.numbers_contracts
  have done := chain.numbers_receipts
  obtain ⟨numbered, deployments⟩ := made.converse history initialState
  obtain ⟨-, executions⟩ := done.converse history initialState
  have deployed : final.deployments = contracts.length := deployments.trans (Nat.zero_add _)
  have executed : final.executions = receipts.length := executions.trans (Nat.zero_add _)
  refine ⟨?_, ?_, ?_, numbered, ?_, deployed, executed, ?_,
    made.nodup chain.address_contractAt_injective history initialState,
    done.nodup transactionHash_injective history initialState, ?_, ?_⟩
  · exact (chain.settle_calls history initialState).trans (List.nil_append _)
  · intro exchange member
    obtain ⟨between, after, responds⟩ := responds_of_mem member
    exact responds.failed_iff
  · intro contract message answer member
    obtain ⟨between, after, responds⟩ := responds_of_mem member
    cases responds
    rfl
  · intro position receipt found
    rw [done.eq_of_getElem? found, Nat.add_comm]
    exact upperHex_transactionHash (position + 1)
  · rw [← deployed, ← executed]
    exact chain.settle_logged history (Nat.le_refl 0)
  · intro contract member identity state
    obtain ⟨number, rfl⟩ := made.exists_of_mem member
    exact ⟨_, rfl, chain.address_contractAt_ne_account number identity.keyName⟩
  · intro contract member receipt among same
    obtain ⟨number, rfl⟩ := made.exists_of_mem member
    obtain ⟨other, rfl⟩ := done.exists_of_mem among
    exact hex_of_address_eq_transactionHash same

/-- One artifact and one message are refused. -/
def waryChain : MockChain :=
  { standard with failingArtifacts := ["margined_engine"], failingMessages := ["set_open"] }

/-- The first of three contracts and the first of two transactions are refused. -/
def interleaved : List ChainRequest :=
  let identity : Identity := { keyName := "test1", mnemonic := none }
  [ .deploy identity "artifacts/margined_engine.wasm" (.object []) "engine",
    .deploy identity "artifacts/margined_vamm.wasm" (.object []) "vamm",
    .execute identity "terra1mock1" (.object [("set_open", .object [("open", .bool true)])]),
    .query "terra1mock1" (.object [("state", .object [])]),
    .execute identity "terra1mock1" (.object [("update_config", .object [])]),
    .deploy identity "artifacts/margined_vamm.wasm" (.object []) "second vamm" ]

theorem converse_numbered_interleaved :
    let exchanges := waryChain.client.converse interleaved initialState
    let contracts := exchanges.filterMap Exchange.contract?
    let receipts := exchanges.filterMap Exchange.receipt?
    (∃ exchange ∈ exchanges, waryChain.Refuses exchange.request ∧ exchange.Failed) ∧
    (∃ contract message, ⟨.query contract message, .ok freshMarket⟩ ∈ exchanges ∧
      freshMarket = waryChain.queryAnswer) ∧
    (∃ receipt, receipts[0]? = some receipt ∧ UpperHex receipt.transaction 1) ∧
    { address := "terra1mock2", codeId := some 2 } ∈ contracts ∧
    ∀ receipt ∈ receipts, "terra1mock2" ≠ receipt.transaction := by
  intro exchanges contracts receipts
  obtain ⟨-, refusals, answers, -, hashes, -, -, -, -, -, -, apart⟩ :=
    converse_numbered waryChain interleaved
  have short : ¬ 64 ≤ "terra1mock2".length := by decide
  have second : { address := "terra1mock2", codeId := some 2 } ∈ contracts :=
    .tail _ (.head _)
  have asked : ⟨.query "terra1mock1" (.object [("state", .object [])]), .ok freshMarket⟩ ∈
      exchanges :=
    .tail _ (.tail _ (.tail _ (.head _)))
  have refuses : waryChain.Refuses (.deploy { keyName := "test1", mnemonic := none }
      "artifacts/margined_engine.wasm" (.object []) "engine") :=
    List.mem_singleton.mpr (by decide)
  exact ⟨⟨_, .head _, refuses, (refusals _ (.head _)).mpr refuses⟩,
    ⟨_, _, asked, answers _ _ _ asked⟩, ⟨_, rfl, hashes 0 _ rfl⟩, second,
    fun receipt member same => short (apart _ second receipt member same).1⟩

/-- A chain whose first contract has the address that is also the text of its first transaction. -/
def zeroChain : MockChain := { standard with addressMark := Number.zeros 63 }

def oneOfEach : List ChainRequest :=
  let identity : Identity := { keyName := "test1", mnemonic := none }
  [ .deploy identity "artifacts/margined_vamm.wasm" (.object []) "vamm",
    .execute identity (Number.zeros 63 ++ "1") (.object [("set_open", .object [])]) ]

theorem first_contract_taken_for_transaction :
    let exchanges := zeroChain.client.converse oneOfEach initialState
    let contracts := exchanges.filterMap Exchange.contract?
    let receipts := exchanges.filterMap Exchange.receipt?
    contracts.map DeployedContract.address = [Number.zeros 63 ++ "1"] ∧
      receipts.map ExecuteReceipt.transaction = [Number.zeros 63 ++ "1"] ∧
      ¬ (contracts.map DeployedContract.address ++
        receipts.map ExecuteReceipt.transaction).Nodup := by
  decide +kernel

end MockChain

end PerpDeploy
