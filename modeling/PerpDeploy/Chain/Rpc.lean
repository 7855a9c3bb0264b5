/-
Requests to a node over the network, and waiting for a transaction until a block holds it.
-/

import PerpDeploy.Chain.Transaction
import PerpDeploy.Codec.Base64
import PerpDeploy.Failure
import PerpDeploy.Json.Printer
import PerpDeploy.Url.Basic

namespace PerpDeploy

open Json (Fields)

/-- What becomes of a request, redirections included. -/
inductive HttpAnswer
  /-- There is no connection. -/
  | unreachable
  /-- The connection is closed without an answer. -/
  | closed
  | body (content : ByteArray)

structure HttpRequest where
  url : String
  body : Json

/-- The world behind the network: the answer to the first request that is posted, the second, and
so on. -/
abbrev HttpHost := Nat → HttpAnswer

abbrev Posted := List HttpRequest

namespace Rpc

abbrev Action (α : Type) := ExceptT Trail (StateM Posted) α

/-- Only to some urls a request can be posted at all. -/
def isReachable (url : String) : Bool :=
  match Url.parse url with
  | .ok url => url.scheme == "http" || url.scheme == "https"
  | .error _ => false

def post (host : HttpHost) (url : String) (body : Json) (posted : Posted) :
    Option ByteArray × Posted :=
  if !isReachable url then (none, posted)
  else match host posted.length with
    | .unreachable | .closed => (none, posted ++ [⟨url, body⟩])
    | .body content => (some content, posted ++ [⟨url, body⟩])

def callBody (method : String) (params : Json) : Json :=
  Json.canonical (.object
    [ ("jsonrpc", .string "2.0"), ("method", .string method), ("params", params),
      ("id", .natural 1) ])

def parseBody (content : ByteArray) : Option Json :=
  (String.fromUTF8? content).bind fun text => (Json.parse text).toOption

/-- What a node says of an error: its data, or else its message, if that is text. -/
def errorText (error : Json) : String :=
  (((error.field? "data").or (error.field? "message")).bind Json.asString?).getD "unknown"

/-- The result in an answer, unless the answer tells of an error. -/
def resultOf (answer : Json) : Except Trail Json :=
  match answer.field? "error" with
  | some error => .error (Trail.ofText ("RPC error: " ++ errorText error))
  | none =>
      match answer.field? "result" with
      | some result => .ok result
      | none => .error (Trail.ofText "No result in response")

def readAnswer {α : Type} (decoder : Json.Decoder α) (method : String) (content : ByteArray) :
    Except Trail α :=
  match parseBody content with
  | none =>
      .error ((Trail.ofCause .unreadable).within ("Failed to parse " ++ method ++ " response"))
  | some answer =>
      match resultOf answer with
      | .error trail => .error trail
      | .ok result =>
          match Json.decodeValue decoder result with
          | .ok value => .ok value
          | .error fault => .error ((Trail.ofCause (.json fault)).within
              ("Failed to deserialize " ++ method ++ " result"))

def call {α : Type} (host : HttpHost) (decoder : Json.Decoder α) (url method : String)
    (params : Json) (posted : Posted) : Except Trail α × Posted :=
  match post host url (callBody method params) posted with
  | (none, posted) =>
      (.error ((Trail.ofCause .unanswered).within ("Failed to send " ++ method ++ " request")),
        posted)
  | (some content, posted) => (readAnswer decoder method content, posted)

/-- Only the result of a transaction that has been asked for is of interest. -/
def lookupDecoder : Json.Decoder TransactionResult :=
  (Fields.required "tx_result" TransactionResult.decoder).decoder

/-- How often a failed request is repeated: as often as the interval fits into the timeout, both
in milliseconds, but once at least. The count is held in sixty-four bits. -/
def retryAttempts (timeout interval : Nat) : Nat :=
  max (timeout / max interval 1) 1 % Number.wordLimit

/-- Repeats an action until it succeeds, at most `retries` times after the first. -/
def retrying {α : Type} (attempt : Posted → Except Trail α × Posted) :
    Nat → Posted → Except Trail α × Posted
  | 0, posted => attempt posted
  | retries + 1, posted =>
      match attempt posted with
      | (.ok value, posted) => (.ok value, posted)
      | (.error _, posted) => retrying attempt retries posted

def lookupParams (hash : List UInt8) : Json :=
  .object [("hash", .string (Codec.encodeBase64 hash)), ("prove", .bool false)]

def waitForTransaction (host : HttpHost) (url transaction : String) (timeout interval : Nat)
    (posted : Posted) : Except Trail TransactionResult × Posted :=
  match Codec.decodeHex transaction with
  | .error fault =>
      (.error ((Trail.ofCause (.hex fault)).within "Transaction hash is not hex encoded"), posted)
  | .ok hash =>
      let attempt := call host lookupDecoder url "tx" (lookupParams hash)
      match retrying attempt (retryAttempts timeout interval) posted with
      | (.ok result, posted) => (.ok result, posted)
      | (.error trail, posted) =>
          (.error (trail.within
            ("Timeout waiting for transaction " ++ transaction ++ " after " ++
              toString (timeout / 1000) ++ "s")), posted)

end Rpc

end PerpDeploy
