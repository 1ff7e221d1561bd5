import NodeWatch.Explorer.Error
import NodeWatch.Json.Record
import NodeWatch.Json.Render
import NodeWatch.Net.Exchange
import NodeWatch.Quantity

/-!
# Replies of the explorer

What the explorer's answer means. It tells of its own failures with a good status and a text in the
place of the number, so only a quantity is taken for a block number.
-/

namespace NodeWatch.Explorer

/-- A reply: a result and perhaps a message. -/
structure Envelope where
  result : Json
  message : Option String

/-- Reads a reply. The result must be there, but may be null. -/
def Envelope.ofTree? (tree : Json.Tree) : Option Envelope := do
  match ← tree.fields? ["result", "message"] with
  | [some result, message] =>
    let result ← result.value? (Json.maxDepth - 1)
    let message ← Json.Tree.optional? Json.Tree.string? message
    some { result, message }
  | _ => none

/-- The reason with the message of the explorer, if it sent one. -/
def withMessage (reason : String) : Option String → String
  | some message => s!"{reason} ({message})"
  | none => reason

/-- The block number in a reply. -/
def Envelope.blockNumber (e : Envelope) : Except ExplorerError UInt64 :=
  match e.result with
  | .text raw =>
    (Quantity.parse raw).mapError fun fault =>
      .invalidResponse (withMessage (fault.message raw) e.message)
  | result => .error (.invalidResponse ("unexpected result " ++ result.render))

/-- Reads the block number out of an answer. -/
def blockNumberOf (answer : Answer) : Except ExplorerError UInt64 :=
  if !answer.isSuccess then .error (.http answer.status)
  else
    match answer.body.bind fun bytes => (Json.Tree.ofBytes? bytes).bind Envelope.ofTree? with
    | none => .error (.invalidResponse undecodableBody)
    | some envelope => envelope.blockNumber

/-- The order that asks for the block number. -/
def order (url : String) : Order where
  method := "GET"
  url := url

/-- Asks for the block number. -/
def remoteBlockNumber (url : String) (delivery : Delivery) : Except ExplorerError UInt64 := do
  blockNumberOf (← ((order url).send delivery).mapError fun fault => .transport url fault.message)

end NodeWatch.Explorer
