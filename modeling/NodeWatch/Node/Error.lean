/-!
# Failures of the node

What can go wrong when the node is asked something, and how each failure is reported.
-/

namespace NodeWatch

/-- A failed query of the node. -/
inductive NodeError
  /-- The node did not accept the connection. -/
  | connectionRefused (endpoint : String)
  /-- No answer came in time. -/
  | timeout (endpoint method : String)
  /-- The request failed on its way in some other manner. -/
  | transport (endpoint reason : String)
  /-- The answer's status tells of a failure. -/
  | http (status : Nat) (method : String)
  /-- The node answered with an error of its own. -/
  | rpc (code : Int) (text : String)
  /-- The answer could not be decoded. -/
  | invalidResponse (method reason : String)
  /-- The node has no block of that number. -/
  | blockNotFound (number : UInt64)
  deriving DecidableEq, Repr

namespace NodeError

/-- The failure in words. -/
def message : NodeError → String
  | connectionRefused endpoint => s!"Connection refused by node at {endpoint}"
  | timeout endpoint method => s!"Timeout while calling {method} on {endpoint}"
  | transport endpoint reason => s!"Request to {endpoint} failed: {reason}"
  | http status method => s!"HTTP error {status} from node on {method}"
  | rpc code text => s!"RPC error {code}: {text}"
  | invalidResponse method reason => s!"Invalid response to {method}: {reason}"
  | blockNotFound number => s!"Block {number} not found"

/-- Whether the failure means that the node is down. -/
def isConnectionRefused : NodeError → Bool
  | connectionRefused _ => true
  | _ => false

end NodeError

end NodeWatch
