/-
A run does the same whether the node waits for a block or the transaction is asked for. Where
the worlds deliver the same outcome for each transaction, the two runs end the same, tell the
same, write the same and run the same commands but for the mode of the broadcast.
-/

import PerpDeploy.Proofs.Chain.Confirmation
import PerpDeploy.Proofs.Json.Decoding
import PerpDeploy.Proofs.Run.Confidentiality
import PerpDeploy.Proofs.Run.Replay

namespace PerpDeploy

/-- Two executions that came to the same, each in its own world. -/
structure NodeClient.Pairing.Same (pairing : NodeClient.Pairing)
    (execution other : Execution NodeState) : Prop where
  result : other.result = execution.result
  notices : other.run.notices = execution.run.notices
  files : other.run.files = execution.run.files
  calls : other.run.calls = execution.run.calls
  client : pairing.Alike execution.run.client other.run.client

/-- The same answer was given, and the same was done for it. -/
structure NodeClient.Pairing.Answers (pairing : NodeClient.Pairing) (request : ChainRequest)
    (here there : NodeState) : Prop where
  reply : (pairing.polling.chainClient.answer request there).1 =
    (pairing.blocking.chainClient.answer request here).1
  client : pairing.Alike (pairing.blocking.chainClient.answer request here).2
    (pairing.polling.chainClient.answer request there).2

namespace RunSetting

variable {σ : Type}

theorem confirmations_agree (setting : RunSetting σ) (pairing : NodeClient.Pairing)
    {here there : NodeState} (alike : pairing.Alike here there) :
    (∀ request,
      pairing.Delivered (pairing.blocking.chainClient.answer request here).2.invocations →
        pairing.Answers request here there) ∧
    ∀ (identity : Identity) (pipeline : Pipeline) (files : FileTree),
      let execution :=
        (setting.through pairing.blocking identity).runPipeline pipeline here files
      let other := (setting.through pairing.polling identity).runPipeline pipeline there files
      pairing.Delivered execution.run.client.invocations → pairing.Same execution other := by
  constructor
  · intro request delivered
    obtain ⟨reply, client⟩ := pairing.answer_agrees request alike delivered
    exact { reply, client }
  · intro identity pipeline files execution other delivered
    obtain ⟨settled, replayed⟩ := runPipeline_replays (setting.through pairing.blocking identity)
      pairing.polling.chainClient pipeline here there files
    change execution.run.client = _ at settled
    rw [settled] at delivered
    obtain ⟨answers, client⟩ :=
      pairing.converse_agrees execution.run.requests alike delivered
    have ran : other = execution.servedBy _ := replayed answers
    rw [ran]
    exact
      { result := rfl
        notices := rfl
        files := rfl
        calls := rfl
        client := by
          rw [settled]
          exact client }

end RunSetting

namespace NodeClient

/-- Worlds that deliver two transactions; the first of them is asked for three times. -/
def twoDeliveries : Pairing :=
  { settings := Network.localChain.defaultSettings
    nodeUrl := "https://[::1]:26657"
    timeout := 60
    interval := 2
    block :=
      { installed := fun _ => true
        reply := fun position =>
          if position = 0 then
            printing (.object [("txhash", .string "00AB"),
              ("logs", .array [.object [("events", .array [storedEvent])]])])
          else printing (.object [("txhash", .string "ff"), ("events", .array [placedEvent])])
        http := fun _ => .unreachable }
    poll :=
      { installed := fun _ => true
        reply := fun position =>
          if position = 0 then printing (.object [("txhash", .string "00AB")])
          else printing (.object [("txhash", .string "ff")])
        http := fun position =>
          if position = 0 then .unreachable
          else if position = 1 then .body "not yet".toUTF8
          else if position = 2 then inclusion [storedEvent]
          else inclusion [placedEvent] }
    installed := rfl
    begun := 0
    asked := fun position => if position = 0 then 0 else if position = 1 then 3 else 4 }

def storedOutcome : ChainOutcome :=
  { hash := "00AB", code := 0, log := ""
    events := [⟨"store_code", [⟨"Y29kZV9pZA==", some "Nw=="⟩]⟩] }

def placedOutcome : ChainOutcome :=
  { hash := "ff", code := 0, log := ""
    events := [⟨"instantiate", [⟨"_contract_address", some "terra1vamm"⟩]⟩] }

theorem twoDeliveries_reachable : Rpc.Reachable twoDeliveries.nodeUrl :=
  Rpc.reachable_of_scheme (by decide +kernel) (.inr rfl)

/-- An outcome, from what either world has printed of it. -/
theorem Pairing.delivers_of_printed {pairing : Pairing} {outcome : ChainOutcome}
    {position posted misses : Nat}
    (block : (pairing.block.reply position).broadcast?.map (fun reply =>
      (reply.hash, reply.code, reply.rawLog, reply.events ++ reply.logs.flatten)) =
        some (outcome.hash, outcome.code, outcome.log, outcome.events))
    (poll : (pairing.poll.reply position).broadcast?.map (fun reply => (reply.hash, reply.code)) =
      some (outcome.hash, 0))
    (hash : Codec.HexPairs outcome.hash) (reachable : Rpc.Reachable pairing.nodeUrl)
    (few : misses ≤ Rpc.retryAttempts (pairing.timeout * 1000) (pairing.interval * 1000))
    (includes : Rpc.Includes pairing.poll.http posted misses
      { code := outcome.code, log := outcome.log, events := outcome.events }) :
    pairing.Delivers outcome position posted misses := by
  obtain ⟨taken, told, fields⟩ := Option.map_eq_some_iff.mp block
  obtain ⟨accepted, also, plain⟩ := Option.map_eq_some_iff.mp poll
  simp only [Prod.mk.injEq] at fields plain
  exact
    { block := ⟨taken, ProcessReply.broadcast?_eq_some_iff.mp told, fields⟩
      poll := ⟨accepted, ProcessReply.broadcast?_eq_some_iff.mp also, plain⟩
      hash, reachable, few, includes }

/-- An answer to a broadcast that tells of nothing but the hash. -/
theorem broadcast?_printing_hash (hash : String) :
    (printing (.object [("txhash", .string hash)])).broadcast? =
      some { hash, code := 0, rawLog := "", logs := [], events := [] } := by
  have exact : (Json.object [("txhash", .string hash)]).Exact := ⟨trivial, trivial⟩
  exact (broadcast?_printing exact).trans rfl

theorem twoDeliveries_stored : twoDeliveries.Delivers storedOutcome 0 0 2 := by
  have events : Json.ExactItems [storedEvent] := ⟨eventJson_exact _ _ _, trivial⟩
  have exact : (Json.object [("txhash", .string "00AB"),
      ("logs", .array [.object [("events", .array [storedEvent])]])]).Exact :=
    ⟨trivial, ⟨⟨events, trivial⟩, trivial⟩, trivial⟩
  have block : (twoDeliveries.block.reply 0).broadcast? = _ := broadcast?_printing exact
  have poll : (twoDeliveries.poll.reply 0).broadcast? = _ := broadcast?_printing_hash "00AB"
  refine Pairing.delivers_of_printed (by rw [block]; rfl) (by rw [poll]; rfl)
    ⟨by decide, List.all_eq_true.mp (by decide)⟩ twoDeliveries_reachable (by decide)
    ⟨?_, (included?_inclusion events (by decide)).trans rfl⟩
  intro offset within
  match offset with
  | 0 => rfl
  | 1 => decide +kernel

theorem twoDeliveries_placed : twoDeliveries.Delivers placedOutcome 1 3 0 := by
  have events : Json.ExactItems [placedEvent] := ⟨eventJson_exact _ _ _, trivial⟩
  have exact : (Json.object
      [("txhash", .string "ff"), ("events", .array [placedEvent])]).Exact :=
    ⟨trivial, events, trivial⟩
  have block : (twoDeliveries.block.reply 1).broadcast? = _ := broadcast?_printing exact
  have poll : (twoDeliveries.poll.reply 1).broadcast? = _ := broadcast?_printing_hash "ff"
  refine Pairing.delivers_of_printed (by rw [block]; rfl) (by rw [poll]; rfl)
    ⟨by decide, List.all_eq_true.mp (by decide)⟩ twoDeliveries_reachable (by decide)
    ⟨?_, (included?_inclusion events (by decide)).trans rfl⟩
  intro offset within
  omega

theorem twoDeliveries_delivered {first second : Invocation}
    (stores : first.arguments.head? = some "tx") (places : second.arguments.head? = some "tx") :
    twoDeliveries.Delivered [first, second] := by
  intro position invocation _ found
  match position with
  | 0 =>
      cases found
      exact .delivery stores twoDeliveries_stored
  | 1 =>
      cases found
      exact .delivery places twoDeliveries_placed

theorem twoDeliveries_starts {arguments : List String} (clean : arguments.any holdsNul = false) :
    twoDeliveries.blocking.Starts
      (arguments ++ twoDeliveries.blocking.signingArguments "test1") :=
  starts_of_clean rfl (by decide) clean

end NodeClient

open NodeClient

theorem RunSetting.confirmations_agree_deployment :
    let identity : Identity := { keyName := "test1", mnemonic := none }
    let begun : NodeState := { NodeState.initial with preparedKeys := ["test1"] }
    let request := ChainRequest.deploy identity "vamm.wasm" .null "vamm"
    let here := twoDeliveries.blocking.chainClient.answer request begun
    twoDeliveries.Alike begun begun ∧ twoDeliveries.Delivered here.2.invocations ∧
      here.2.invocations.length = 2 ∧
      here.1 = .ok { address := "terra1vamm", codeId := some 7 } ∧
      twoDeliveries.Answers request begun begun := by
  intro identity begun request here
  have alike : twoDeliveries.Alike begun begun :=
    { keys := rfl, commands := .nil, begun := Nat.le_refl 0, posted := rfl }
  have prepared : identity.keyName ∈ begun.preparedKeys := List.mem_singleton.mpr rfl
  let client := twoDeliveries.blocking
  let between := begun.invoked (client.signing "test1" (storeArguments "vamm.wasm"))
  let after := between.invoked (client.signing "test1" (instantiateArguments 7 .null "vamm"))
  have stores : client.Starts (storeArguments "vamm.wasm" ++ client.signingArguments "test1") :=
    twoDeliveries_starts rfl
  have creates : client.Starts
      (instantiateArguments 7 .null "vamm" ++ client.signingArguments "test1") :=
    twoDeliveries_starts rfl
  have stored : (client.submit "test1" (storeArguments "vamm.wasm")).run.run begun =
      (storedOutcome.committed, between) :=
    Pairing.submit_blocking_of_delivers stores twoDeliveries_stored
  have created : (client.submit "test1" (instantiateArguments 7 .null "vamm")).run.run between =
      (placedOutcome.committed, after) :=
    Pairing.submit_blocking_of_delivers creates twoDeliveries_placed
  have told : findAttribute? storedOutcome.events "store_code" "code_id" = some "7" := by
    decide +kernel
  have placed : findAttribute? placedOutcome.events "instantiate" "_contract_address" =
      some "terra1vamm" := by
    decide +kernel
  have deployed : here = (.ok { address := "terra1vamm", codeId := some 7 }, after) :=
    (deploy_ok_iff prepared client "vamm.wasm" .null "vamm" _ after).mpr
      (.deployed ((submit_ok_iff ..).mp stored) told rfl ((submit_ok_iff ..).mp created) placed)
  have delivered : twoDeliveries.Delivered here.2.invocations := by
    rw [deployed]
    exact twoDeliveries_delivered rfl rfl
  refine ⟨alike, delivered, ?_, ?_, ?_⟩
  · rw [deployed]
    rfl
  · rw [deployed]
  · exact (RunSetting.confirmations_agree
      (RunSetting.rehearsal RunSetting.grantingChain .localChain) twoDeliveries alike).1 request
        delivered

end PerpDeploy
