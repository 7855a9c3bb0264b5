/-
Waiting for a transaction. A node is asked again and again until an answer holds the
transaction; answers that do not, as many as there are retries, change nothing but the number
of requests that have been posted. A connection that is refused counts as such an answer.
-/

import PerpDeploy.Chain.Rpc
import PerpDeploy.Proofs.Codec.Hex
import PerpDeploy.Proofs.Json.Writing
import PerpDeploy.Text.Utf8

namespace PerpDeploy.Rpc

/-- The transaction that an answer tells to be in a block. -/
def included? : HttpAnswer → Option TransactionResult
  | .body content => (readAnswer lookupDecoder "tx" content).toOption
  | _ => none

/-- An answer that is printed is read as it was, its fields sorted. -/
theorem parseBody_compact {answer : Json} (exact : answer.Exact) (shallow : answer.depth ≤ 127) :
    parseBody answer.compact.toUTF8 = some (Json.canonical answer) := by
  have text : String.fromUTF8? answer.compact.toUTF8 = some answer.compact :=
    Text.fromUTF8?_eq_some_iff.mpr rfl
  have read : Json.parse answer.compact = .ok (Json.canonical answer) := by
    rw [Json.parse, Json.decodeText_compact _ exact, Json.Decoder.json,
      Json.readJson_ofJson Json.Context.ofText answer fun _ => shallow]
    rfl
  rw [parseBody, text, Option.bind_some, read]
  rfl

theorem included?_compact {answer : Json} (exact : answer.Exact) (shallow : answer.depth ≤ 127) :
    included? (.body answer.compact.toUTF8) =
      (resultOf (Json.canonical answer)).toOption.bind fun result =>
        (Json.decodeValue lookupDecoder result).toOption := by
  simp only [included?, readAnswer, parseBody_compact exact shallow]
  cases resultOf (Json.canonical answer) with
  | error trail => rfl
  | ok result =>
      simp only [Except.toOption, Option.bind_some]
      cases Json.decodeValue lookupDecoder result <;> rfl

/-- A url that requests are posted to. -/
def Reachable (url : String) : Prop :=
  ∃ parsed, Url.parse url = .ok parsed ∧ (parsed.scheme = "http" ∨ parsed.scheme = "https")

theorem reachable_of_scheme {url scheme : String}
    (read : (Url.parse url).toOption.map Url.scheme = some scheme)
    (web : scheme = "http" ∨ scheme = "https") : Reachable url := by
  obtain ⟨parsed, found, rfl⟩ := Option.map_eq_some_iff.mp read
  exact ⟨parsed, Json.ok_of_toOption found, web⟩

theorem isReachable_of_reachable {url : String} (reachable : Reachable url) :
    isReachable url = true := by
  obtain ⟨parsed, read, scheme⟩ := reachable
  unfold isReachable
  rw [read]
  simpa using scheme

theorem post_of_reachable {url : String} (reachable : Reachable url) (host : HttpHost)
    (body : Json) (posted : Posted) :
    post host url body posted =
      match host posted.length with
      | .unreachable | .closed => (none, posted ++ [⟨url, body⟩])
      | .body content => (some content, posted ++ [⟨url, body⟩]) := by
  have sent : ¬ (!isReachable url) = true := by simp [isReachable_of_reachable reachable]
  exact if_neg sent

def lookup (url : String) (params : Json) : HttpRequest := { url, body := callBody "tx" params }

/-- What a request comes to that is answered so. -/
def outcome : HttpAnswer → Except Trail TransactionResult
  | .body content => readAnswer lookupDecoder "tx" content
  | _ => .error ((Trail.ofCause .unanswered).within "Failed to send tx request")

theorem included?_eq (answer : HttpAnswer) : included? answer = (outcome answer).toOption := by
  cases answer <;> rfl

/-- A request is counted, and comes to what the answer to it holds. -/
theorem call_eq_outcome {url : String} (reachable : Reachable url) (host : HttpHost)
    (posted : Posted) (params : Json) :
    call host lookupDecoder url "tx" params posted =
      (outcome (host posted.length), posted ++ [lookup url params]) := by
  unfold call
  rw [post_of_reachable reachable]
  cases host posted.length <;> rfl

/-- The answers from a position on: some that do not hold the transaction, then one that does. -/
structure Includes (host : HttpHost) (position misses : Nat) (result : TransactionResult) :
    Prop where
  missed : ∀ offset < misses, included? (host (position + offset)) = none
  included : included? (host (position + misses)) = some result

theorem Includes.succ {host : HttpHost} {position misses : Nat} {result : TransactionResult}
    (includes : Includes host position (misses + 1) result) :
    Includes host (position + 1) misses result := by
  constructor
  · intro offset within
    have missed := includes.missed (offset + 1) (by omega)
    rwa [show position + 1 + offset = position + (offset + 1) by omega]
  · have included := includes.included
    rwa [show position + 1 + misses = position + (misses + 1) by omega]

theorem retrying_of_includes {url : String} (reachable : Reachable url) {host : HttpHost}
    (params : Json) {misses retries : Nat} (few : misses ≤ retries) {posted : Posted}
    {result : TransactionResult} (includes : Includes host posted.length misses result) :
    retrying (call host lookupDecoder url "tx" params) retries posted =
      (.ok result, posted ++ List.replicate (misses + 1) (lookup url params)) := by
  induction misses generalizing retries posted with
  | zero =>
      have called := call_eq_outcome reachable host posted params
      have included : included? (host posted.length) = some result := includes.included
      rw [included?_eq] at included
      cases answered : outcome (host posted.length) with
      | error trail => rw [answered] at included; cases included
      | ok value =>
          rw [answered] at included called
          cases included
          cases retries with
          | zero => exact called
          | succ retries =>
              unfold retrying
              rw [called]
              rfl
  | succ misses ih =>
      have called := call_eq_outcome reachable host posted params
      have missed := includes.missed 0 (by omega)
      rw [Nat.add_zero, included?_eq] at missed
      cases retries with
      | zero => omega
      | succ retries =>
          cases answered : outcome (host posted.length) with
          | ok value => rw [answered] at missed; cases missed
          | error trail =>
              rw [answered] at called
              have next : Includes host (posted ++ [lookup url params]).length misses result := by
                rw [List.length_append]
                exact includes.succ
              have fewer : misses ≤ retries := by omega
              unfold retrying
              rw [called]
              dsimp only
              rw [ih fewer next, List.append_assoc]
              rfl

/-- Without the transaction in any answer all requests are made, and the last answer counts. -/
theorem retrying_of_misses {url : String} (reachable : Reachable url) {host : HttpHost}
    (params : Json) {retries : Nat} {posted : Posted}
    (missed : ∀ offset ≤ retries, included? (host (posted.length + offset)) = none) :
    retrying (call host lookupDecoder url "tx" params) retries posted =
      (outcome (host (posted.length + retries)),
        posted ++ List.replicate (retries + 1) (lookup url params)) := by
  induction retries generalizing posted with
  | zero => exact call_eq_outcome reachable host posted params
  | succ retries ih =>
      have empty := missed 0 (Nat.zero_le _)
      have called := call_eq_outcome reachable host posted params
      rw [Nat.add_zero, included?_eq] at empty
      have next : ∀ offset, (posted ++ [lookup url params]).length + offset =
          posted.length + (offset + 1) := by
        intro offset
        rw [List.length_append, List.length_singleton]
        omega
      have others : ∀ offset ≤ retries,
          included? (host ((posted ++ [lookup url params]).length + offset)) = none := by
        intro offset within
        rw [next]
        exact missed (offset + 1) (by omega)
      have later := ih others
      rw [next, List.append_assoc] at later
      unfold retrying
      rw [called]
      cases told : outcome (host posted.length) with
      | ok result =>
          rw [told] at empty
          cases empty
      | error trail => exact later

theorem waitForTransaction_included {url transaction : String} {hash : List UInt8}
    (reachable : Reachable url) (read : Codec.decodeHex transaction = .ok hash) {host : HttpHost}
    {timeout interval misses : Nat} (few : misses ≤ retryAttempts timeout interval)
    {posted : Posted} {result : TransactionResult}
    (includes : Includes host posted.length misses result) :
    waitForTransaction host url transaction timeout interval posted =
      (.ok result,
        posted ++ List.replicate (misses + 1) (lookup url (lookupParams hash))) := by
  have found := retrying_of_includes reachable (lookupParams hash) few includes
  unfold waitForTransaction
  rw [read]
  dsimp only
  rw [found]

theorem waitForTransaction_of_includes {url hash : String} (reachable : Reachable url)
    (pairs : Codec.HexPairs hash) {host : HttpHost} {timeout interval misses : Nat}
    (few : misses ≤ retryAttempts timeout interval) {posted : Posted}
    {result : TransactionResult} (includes : Includes host posted.length misses result) :
    ∃ later, waitForTransaction host url hash timeout interval posted = (.ok result, later) ∧
      later.length = posted.length + (misses + 1) := by
  obtain ⟨bytes, read⟩ := Codec.decodeHex_of_pairs pairs
  refine ⟨_, waitForTransaction_included reachable read few includes, ?_⟩
  rw [List.length_append, List.length_replicate]

/-- After the last answer without the transaction its reason is told. -/
theorem waitForTransaction_missed {url transaction : String} {hash : List UInt8}
    (reachable : Reachable url) (read : Codec.decodeHex transaction = .ok hash) {host : HttpHost}
    {timeout interval : Nat} {posted : Posted}
    (missed : ∀ offset ≤ retryAttempts timeout interval,
      included? (host (posted.length + offset)) = none)
    {trail : Trail}
    (last : outcome (host (posted.length + retryAttempts timeout interval)) = .error trail) :
    waitForTransaction host url transaction timeout interval posted =
      (.error (trail.within ("Timeout waiting for transaction " ++ transaction ++ " after " ++
        toString (timeout / 1000) ++ "s")),
        posted ++ List.replicate (retryAttempts timeout interval + 1)
          (lookup url (lookupParams hash))) := by
  have tried := retrying_of_misses reachable (lookupParams hash) missed
  rw [last] at tried
  unfold waitForTransaction
  rw [read]
  dsimp only
  rw [tried]

end PerpDeploy.Rpc
