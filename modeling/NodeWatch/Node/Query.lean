import NodeWatch.Json.Render
import NodeWatch.Net.Exchange
import NodeWatch.Quantity

/-!
# Queries of the node

What the monitor asks of the node, and the request that asks it: a call of a method with parameters,
with an identity that only has to be new each time.
-/

namespace NodeWatch

/-- A question to the node. -/
inductive Query
  | chainId
  | peerCount
  | blockNumber
  | block (number : UInt64)
  deriving DecidableEq, Repr

namespace Query

/-- The method that is called. -/
def method : Query → String
  | chainId => "parity_chain"
  | peerCount => "net_peerCount"
  | blockNumber => "eth_blockNumber"
  | block _ => "eth_getBlockByNumber"

/-- The parameters of the call. -/
def params : Query → List Json
  | block number => [.text (Quantity.render number), .bool false]
  | _ => []

/-- The call as JSON. -/
def toJson (q : Query) (id : String) : Json :=
  .ofMembers [("jsonrpc", .text "2.0"), ("method", .text q.method), ("params", .array q.params),
    ("id", .text id)]

/-- The order that asks the question at an endpoint. -/
def order (q : Query) (endpoint id : String) : Order where
  method := "POST"
  url := endpoint
  json := some (q.toJson id).render

end Query

end NodeWatch
