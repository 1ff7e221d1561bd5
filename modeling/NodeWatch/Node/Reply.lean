import NodeWatch.Block
import NodeWatch.Json.Document
import NodeWatch.Json.Record
import NodeWatch.Node.Error
import NodeWatch.Node.Query

/-!
# Replies of the node

What the node's answer to a query means. The status of the answer comes first, then whether the body
is a reply at all, then an error of the node's own, and only then the result.
-/

namespace NodeWatch.Node

/-- An error of the node's own. -/
structure RpcError where
  code : Int
  message : String
  deriving DecidableEq, Repr

/-- A reply: a result, which is null if it is missing, or an error. -/
structure Envelope where
  result : Json
  error : Option RpcError

/-- Reads an error. -/
def RpcError.ofTree? (tree : Json.Tree) : Option RpcError := do
  match ← tree.fields? ["code", "message"] with
  | [some code, some message] => some { code := ← code.int64?, message := ← message.string? }
  | _ => none

/-- Reads a reply. A result may be nested as deep as a document, less the reply itself. -/
def Envelope.ofTree? (tree : Json.Tree) : Option Envelope := do
  match ← tree.fields? ["result", "error"] with
  | [result, error] =>
    let result ← Json.Tree.optional? (Json.Tree.value? (Json.maxDepth - 1)) result
    let error ← Json.Tree.optional? RpcError.ofTree? error
    some { result := result.getD .null, error }
  | _ => none

/-- A block as the node writes it. -/
structure RawBlock where
  number : String
  timestamp : String
  deriving DecidableEq, Repr

namespace RawBlock

/-- The fields of a block that are read, in their order. -/
def fieldNames : List String := ["number", "timestamp"]

/-- The texts of the fields read so far. -/
structure Draft where
  number : Option String := none
  timestamp : Option String := none

/-- Reads one field. -/
def readField (name : String) (value : Json) (d : Draft) : Except Fault Draft :=
  match name with
  | "number" => do return { d with number := some (← Document.text value) }
  | "timestamp" => do return { d with timestamp := some (← Document.text value) }
  | _ => .ok d

/-- The block of a draft to which nothing will be added. -/
def Draft.finish (d : Draft) : Except Fault RawBlock :=
  match d.number, d.timestamp with
  | some number, some timestamp => .ok { number, timestamp }
  | none, _ => .error (.missingField "number")
  | _, none => .error (.missingField "timestamp")

/-- Reads a block. -/
def ofJson (json : Json) : Except Fault RawBlock :=
  match json with
  | .object members => do (← Document.readFields readField {} members).finish
  | .array items => do
    let d ← Document.readFields readField {} (fieldNames.zip items)
    if items.length < 2 then .error (.invalidLength items.length "struct RpcBlock with 2 elements")
    else if 2 < items.length then .error (Document.surplus items.length)
    else d.finish
  | json => .error (json.view.mismatch "struct RpcBlock")

end RawBlock

/-- The failure of a query that got no answer. -/
def sendError (endpoint : String) (q : Query) : SendFault → NodeError
  | .timedOut _ => .timeout endpoint q.method
  | .refused _ => .connectionRefused endpoint
  | fault => .transport endpoint fault.message

/-- Reads the result out of an answer. -/
def result (q : Query) (answer : Answer) : Except NodeError Json :=
  if !answer.isSuccess then .error (.http answer.status q.method)
  else
    match answer.body.bind fun bytes => (Json.Tree.ofBytes? bytes).bind Envelope.ofTree? with
    | none => .error (.invalidResponse q.method undecodableBody)
    | some { error := some e, .. } => .error (.rpc e.code e.message)
    | some { result, .. } => .ok result

/-- Reads a result that is a text. -/
def textResult (q : Query) (answer : Answer) : Except NodeError String := do
  let json ← result q answer
  (Document.text json).mapError fun fault => .invalidResponse q.method fault.message

/-- Reads a quantity that is part of the answer to a query. -/
def quantity (q : Query) (raw : String) : Except NodeError UInt64 :=
  (Quantity.parse raw).mapError fun fault => .invalidResponse q.method (fault.message raw)

/-- Reads a result that is a quantity. -/
def quantityResult (q : Query) (answer : Answer) : Except NodeError UInt64 := do
  quantity q (← textResult q answer)

/-- The block that a raw block describes. -/
def blockOfRaw (q : Query) (raw : RawBlock) : Except NodeError Block := do
  let number ← quantity q raw.number
  let seconds ← quantity q raw.timestamp
  match Instant.of? seconds.toNat 0 with
  | some time => .ok { number, time }
  | none => .error (.invalidResponse q.method s!"timestamp {seconds} out of range")

/-- Reads a result that is the block of that number; null means that there is none. -/
def blockResult (number : UInt64) (answer : Answer) : Except NodeError Block := do
  match ← result (.block number) answer with
  | .null => .error (.blockNotFound number)
  | json =>
    let raw ← (RawBlock.ofJson json).mapError fun fault =>
      .invalidResponse (Query.block number).method fault.message
    blockOfRaw (.block number) raw

/-- The answer to a query that was sent, `read` being how it is read. -/
def ask {α : Type} (endpoint : String) (q : Query) (read : Answer → Except NodeError α)
    (delivery : Delivery) : Except NodeError α := do
  read (← ((q.order endpoint "").send delivery).mapError (sendError endpoint q))

/-- Asks for the chain. -/
def chainId (endpoint : String) (delivery : Delivery) : Except NodeError String :=
  ask endpoint .chainId (textResult .chainId) delivery

/-- Asks for the number of peers. -/
def peerCount (endpoint : String) (delivery : Delivery) : Except NodeError UInt64 :=
  ask endpoint .peerCount (quantityResult .peerCount) delivery

/-- Asks for the number of the latest block. -/
def blockNumber (endpoint : String) (delivery : Delivery) : Except NodeError UInt64 :=
  ask endpoint .blockNumber (quantityResult .blockNumber) delivery

/-- Asks for a block. -/
def blockByNumber (endpoint : String) (number : UInt64) (delivery : Delivery) :
    Except NodeError Block :=
  ask endpoint (.block number) (blockResult number) delivery

end NodeWatch.Node
