/-
Which answers tell that a block holds a transaction, and what waiting for it comes to. The node
is asked the same thing again and again, once and then as often as the interval fits into the
timeout. The first answer that holds the transaction ends the wait, whatever came before it
and whatever the code of the transaction is; without one the last answer tells why.
-/

import PerpDeploy.Proofs.Chain.Polling
import PerpDeploy.Proofs.Chain.Reply
import PerpDeploy.Proofs.Json.Decoding
import PerpDeploy.Proofs.Json.Place
import PerpDeploy.Settings.Network
import PerpDeploy.Text.Utf8

namespace PerpDeploy

/-- Times that are polled with are positive, once the settings have been checked. -/
theorem NetworkSettings.times_of_validate {settings : NetworkSettings} {nodeUrl : Url}
    {timeout interval : Nat} (valid : settings.validate = .ok nodeUrl)
    (polls : settings.confirmation = .poll timeout interval) : 0 < timeout ∧ 0 < interval := by
  have passed : settings.problem? = none := by
    unfold validate at valid
    split at valid
    · cases valid
    · assumption
  unfold problem? at passed
  split at passed
  · cases passed
  split at passed
  · cases passed
  split at passed
  · cases passed
  split at passed
  · cases passed
  split at passed
  · cases passed
  · rename_i times
    rw [polls] at times
    simp only [hasZeroTime, Bool.or_eq_true, beq_iff_eq, not_or] at times
    omega

namespace Rpc

/-- The answer is an object without an error, and its result holds the transaction. -/
inductive Inclusion : HttpAnswer → TransactionResult → Prop
  | told {text : String} {fields : List (String × Json)} {found : Json}
      {result : TransactionResult} (parsed : Json.parse text = .ok (.object fields))
      (clean : Json.lookup? "error" fields = none)
      (holds : Json.lookup? "result" fields = some found)
      (means : LookupMeans (Json.Document.ofJson found) result) :
      Inclusion (.body text.toUTF8) result

/-- Why an answer is none of these. -/
inductive Miss : HttpAnswer → Trail → Prop
  | unreachable :
      Miss .unreachable ((Trail.ofCause .unanswered).within "Failed to send tx request")
  | closed : Miss .closed ((Trail.ofCause .unanswered).within "Failed to send tx request")
  | unreadable {content : ByteArray}
      (unread : ∀ text json, content = text.toUTF8 → Json.parse text ≠ .ok json) :
      Miss (.body content) ((Trail.ofCause .unreadable).within "Failed to parse tx response")
  | refused {text : String} {json error : Json} (parsed : Json.parse text = .ok json)
      (told : json.field? "error" = some error) :
      Miss (.body text.toUTF8) (Trail.ofText ("RPC error: " ++ errorText error))
  | empty {text : String} {json : Json} (parsed : Json.parse text = .ok json)
      (clean : json.field? "error" = none) (lacking : json.field? "result" = none) :
      Miss (.body text.toUTF8) (Trail.ofText "No result in response")
  | undecodable {text : String} {json found : Json} {fault : Json.Fault}
      (parsed : Json.parse text = .ok json) (clean : json.field? "error" = none)
      (holds : json.field? "result" = some found)
      (fails : Json.decodeValue lookupDecoder found = .error fault) :
      Miss (.body text.toUTF8)
        ((Trail.ofCause (.json fault)).within "Failed to deserialize tx result")

theorem parseBody_eq_some_iff {content : ByteArray} {json : Json} :
    parseBody content = some json ↔
      ∃ text : String, content = text.toUTF8 ∧ Json.parse text = .ok json := by
  unfold parseBody
  rw [Option.bind_eq_some_iff]
  constructor
  · rintro ⟨text, read, parsed⟩
    exact ⟨text, Text.fromUTF8?_eq_some_iff.mp read, Json.ok_of_toOption parsed⟩
  · rintro ⟨text, rfl, parsed⟩
    exact ⟨text, Text.fromUTF8?_eq_some_iff.mpr rfl, by rw [parsed]; rfl⟩

/-- Only an object has fields. -/
theorem object_of_field? {json held : Json} {name : String} (found : json.field? name = some held) :
    ∃ fields, json = .object fields := by
  cases json with
  | object fields => exact ⟨fields, rfl⟩
  | null | bool | number | string | array => cases found

/-- A request finds the transaction, or there is a reason why it does not. -/
theorem outcome_cases (answer : HttpAnswer) :
    (∃ result, Inclusion answer result ∧ outcome answer = .ok result) ∨
      ∃ trail, Miss answer trail ∧ outcome answer = .error trail := by
  cases answer with
  | unreachable => exact Or.inr ⟨_, .unreachable, rfl⟩
  | closed => exact Or.inr ⟨_, .closed, rfl⟩
  | body content =>
      simp only [outcome, readAnswer]
      cases read : parseBody content with
      | none =>
          refine Or.inr ⟨_, .unreadable ?_, rfl⟩
          intro text json same parsed
          rw [parseBody_eq_some_iff.mpr ⟨text, same, parsed⟩] at read
          cases read
      | some json =>
          obtain ⟨text, rfl, parsed⟩ := parseBody_eq_some_iff.mp read
          simp only [resultOf]
          cases clean : json.field? "error" with
          | some error => exact Or.inr ⟨_, .refused parsed clean, rfl⟩
          | none =>
              cases holds : json.field? "result" with
              | none => exact Or.inr ⟨_, .empty parsed clean holds, rfl⟩
              | some found =>
                  simp only
                  cases decoded : Json.decodeValue lookupDecoder found with
                  | error fault => exact Or.inr ⟨_, .undecodable parsed clean holds decoded, rfl⟩
                  | ok result =>
                      obtain ⟨fields, rfl⟩ := object_of_field? holds
                      have means := (decodeValue_lookup_ok_iff found result).mp decoded
                      exact Or.inl ⟨result, .told parsed clean holds means, rfl⟩

theorem outcome_eq_ok_iff {answer : HttpAnswer} {result : TransactionResult} :
    outcome answer = .ok result ↔ Inclusion answer result := by
  constructor
  · intro told
    rcases outcome_cases answer with ⟨other, included, same⟩ | ⟨trail, -, same⟩
    · rw [told] at same
      cases same
      exact included
    · rw [told] at same
      cases same
  · rintro (⟨parsed, clean, holds, means⟩)
    rename_i text fields found
    have decoded := (decodeValue_lookup_ok_iff found result).mpr means
    have read : parseBody text.toUTF8 = some (.object fields) :=
      parseBody_eq_some_iff.mpr ⟨text, rfl, parsed⟩
    have object : resultOf (.object fields) = .ok found := by
      simp only [resultOf, Json.field?, clean, holds]
    simp only [outcome, readAnswer, read, object, decoded]

theorem included?_of_missed {answer : HttpAnswer} (missed : ∀ result, ¬ Inclusion answer result) :
    included? answer = none := by
  rw [included?_eq]
  cases told : outcome answer with
  | error trail => rfl
  | ok result => exact absurd (outcome_eq_ok_iff.mp told) (missed result)

theorem included?_of_inclusion {answer : HttpAnswer} {result : TransactionResult}
    (included : Inclusion answer result) : included? answer = some result := by
  rw [included?_eq, outcome_eq_ok_iff.mpr included]
  rfl

/-! ### The requests -/

/-- The request asks the node for the transaction with these bytes as its hash. -/
structure AsksFor (request : HttpRequest) (url : String) (hash : List UInt8) : Prop where
  url : request.url = url
  version : request.body.field? "jsonrpc" = some (.string "2.0")
  method : request.body.field? "method" = some (.string "tx")
  hash : request.body.at? [.field "params", .field "hash"] =
    some (.string (Codec.encodeBase64 hash))

theorem lookup_asksFor (url : String) (hash : List UInt8) :
    AsksFor (lookup url (lookupParams hash)) url hash :=
  { url := rfl, version := rfl, method := rfl, hash := rfl }

/-- Times in seconds: the interval fits into the timeout as often as in milliseconds, and the
number of requests does not wrap around. -/
theorem retryAttempts_seconds {timeout interval : Nat} (word : timeout < Number.wordLimit)
    (positive : 0 < interval) :
    retryAttempts (timeout * 1000) (interval * 1000) = max 1 (timeout / interval) := by
  have whole : max (interval * 1000) 1 = interval * 1000 := by omega
  have quotient : timeout * 1000 / (interval * 1000) = timeout / interval :=
    Nat.mul_div_mul_right timeout interval (by decide)
  have few : timeout / interval ≤ timeout := Nat.div_le_self timeout interval
  have one : 1 < Number.wordLimit := by decide
  have fits : max 1 (timeout / interval) < Number.wordLimit := by omega
  rw [retryAttempts, whole, quotient, Nat.max_comm, Nat.mod_eq_of_lt fits]

/-! ### The whole wait -/

/-- Of the answers from a position on, the first to hold the transaction comes after others. -/
structure FirstInclusion (host : HttpHost) (position misses : Nat) (result : TransactionResult) :
    Prop where
  missed : ∀ offset < misses, ∀ other, ¬ Inclusion (host (position + offset)) other
  included : Inclusion (host (position + misses)) result

/-- None of so many answers from a position on holds the transaction. -/
def NoInclusion (host : HttpHost) (position attempts : Nat) : Prop :=
  ∀ offset < attempts, ∀ result, ¬ Inclusion (host (position + offset)) result

theorem FirstInclusion.includes {host : HttpHost} {position misses : Nat}
    {result : TransactionResult} (first : FirstInclusion host position misses result) :
    Includes host position misses result :=
  { missed := fun offset within => included?_of_missed (first.missed offset within)
    included := included?_of_inclusion first.included }

theorem waitForTransaction_of_unread {transaction : String}
    (unread : ¬ Codec.HexPairs transaction) (host : HttpHost) (url : String)
    (timeout interval : Nat) (posted : Posted) :
    ∃ fault, waitForTransaction host url transaction timeout interval posted =
      (.error ((Trail.ofCause (.hex fault)).within "Transaction hash is not hex encoded"),
        posted) := by
  unfold waitForTransaction
  cases read : Codec.decodeHex transaction with
  | error fault => exact ⟨fault, rfl⟩
  | ok hash => exact absurd (Codec.decodeHex_reads read).1 unread

/-- The first answer that holds the transaction, or else the last one, decides what waiting comes
to, and no request is made after it. -/
theorem waitForTransaction_polls {settings : NetworkSettings} {nodeUrl : Url}
    {timeout interval : Nat} (valid : settings.validate = .ok nodeUrl)
    (polls : settings.confirmation = .poll timeout interval) (word : timeout < Number.wordLimit)
    {url : String} (reachable : Reachable url) (host : HttpHost) (transaction : String)
    (posted : Posted) :
    let waited := waitForTransaction host url transaction (timeout * 1000) (interval * 1000) posted
    let attempts := 1 + max 1 (timeout / interval)
    (¬ Codec.HexPairs transaction → ∃ fault, waited =
      (.error ((Trail.ofCause (.hex fault)).within "Transaction hash is not hex encoded"),
        posted)) ∧
    (Codec.HexPairs transaction → ∃ hash request,
      Codec.Spells transaction hash ∧ AsksFor request url hash ∧
      (∀ misses < attempts, ∀ result, FirstInclusion host posted.length misses result →
        waited = (.ok result, posted ++ List.replicate (misses + 1) request)) ∧
      (NoInclusion host posted.length attempts →
        ∃ trail, Miss (host (posted.length + (attempts - 1))) trail ∧
          waited = (.error (trail.within ("Timeout waiting for transaction " ++ transaction ++
            " after " ++ toString timeout ++ "s")),
            posted ++ List.replicate attempts request))) := by
  intro waited attempts
  obtain ⟨-, positive⟩ := settings.times_of_validate valid polls
  have retries := retryAttempts_seconds word positive
  have count : retryAttempts (timeout * 1000) (interval * 1000) + 1 = attempts := by
    rw [retries, Nat.add_comm]
  have final : attempts - 1 = retryAttempts (timeout * 1000) (interval * 1000) := by omega
  refine ⟨fun unread => waitForTransaction_of_unread unread _ _ _ _ _, fun pairs => ?_⟩
  obtain ⟨hash, read⟩ := Codec.decodeHex_of_pairs pairs
  refine ⟨hash, lookup url (lookupParams hash), (Codec.decodeHex_reads read).2,
    lookup_asksFor url hash, ?_, ?_⟩
  · intro misses within result first
    exact waitForTransaction_included reachable read (by omega) first.includes
  · intro missing
    rw [final]
    rcases outcome_cases (host (posted.length +
        retryAttempts (timeout * 1000) (interval * 1000))) with
      ⟨result, included, -⟩ | ⟨trail, miss, told⟩
    · exact absurd included (missing _ (by omega) result)
    · refine ⟨trail, miss, ?_⟩
      have missed : ∀ offset ≤ retryAttempts (timeout * 1000) (interval * 1000),
          included? (host (posted.length + offset)) = none :=
        fun offset within => included?_of_missed (missing offset (by omega))
      have waited := waitForTransaction_missed reachable read missed told
      rwa [Nat.mul_div_cancel timeout (by decide), count] at waited

/-- Three requests at most. -/
def briefSettings : NetworkSettings :=
  { Network.testnet.defaultSettings with
    nodeUrl := some "http://[::1]:26657"
    confirmation := .poll 5 2 }

/-- The first request finds no connection, the second is answered with an error and the third
with a transaction that has failed. -/
def reluctantHost : HttpHost := fun position =>
  if position = 0 then .unreachable
  else if position = 1 then
    .body (Json.object [("error", .object [("data", .string "not found")])]).compact.toUTF8
  else
    .body (Json.object [("result", .object [("tx_result", .object
      [("code", .natural 5), ("log", .string "out of gas")])])]).compact.toUTF8

theorem reluctantHost_first :
    FirstInclusion reluctantHost 0 2 { code := 5, log := "out of gas", events := [] } where
  missed offset within other included := by
    have empty : ∀ position < 2, included? (reluctantHost position) = none := by decide +kernel
    have told := included?_of_inclusion included
    rw [Nat.zero_add, empty offset within] at told
    exact absurd told (Option.some_ne_none other).symm
  included := by
    have told : (outcome (reluctantHost 2)).toOption =
        some { code := 5, log := "out of gas", events := [] } := by
      decide +kernel
    exact outcome_eq_ok_iff.mp (Json.ok_of_toOption told)

theorem briefSettings_valid : ∃ nodeUrl, briefSettings.validate = .ok nodeUrl := by
  have read : briefSettings.validate.toOption.map Url.scheme = some "http" := by decide +kernel
  obtain ⟨nodeUrl, found, -⟩ := Option.map_eq_some_iff.mp read
  exact ⟨nodeUrl, Json.ok_of_toOption found⟩

theorem waitForTransaction_polls_reluctant :
    ∃ hash request, Codec.Spells "00aB" hash ∧ AsksFor request "http://[::1]:26657" hash ∧
      waitForTransaction reluctantHost "http://[::1]:26657" "00aB" 5000 2000 [] =
        (.ok { code := 5, log := "out of gas", events := [] }, [request, request, request]) := by
  obtain ⟨nodeUrl, valid⟩ := briefSettings_valid
  have reachable : Reachable "http://[::1]:26657" :=
    reachable_of_scheme (by decide +kernel) (.inl rfl)
  have pairs : Codec.HexPairs "00aB" := ⟨by decide, List.all_eq_true.mp (by decide)⟩
  obtain ⟨hash, request, spelled, asks, included, -⟩ :=
    (waitForTransaction_polls valid rfl (by decide) reachable reluctantHost "00aB" []).2
      pairs
  exact ⟨hash, request, spelled, asks, included 2 (by decide) _ reluctantHost_first⟩

end Rpc

end PerpDeploy
