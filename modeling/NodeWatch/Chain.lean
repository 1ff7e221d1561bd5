/-!
# Chains

The chains for which a block explorer is known. A node names its chain by an identifier; only the
exact names `kovan` and `foundation` are recognised.
-/

namespace NodeWatch

/-- A chain with a known block explorer. -/
inductive Chain
  | kovan
  | foundation
  deriving DecidableEq, Repr

namespace Chain

/-- The name by which a node reports the chain. -/
def name : Chain → String
  | kovan => "kovan"
  | foundation => "foundation"

/-- The chain that a node's identifier names. -/
def ofId? (id : String) : Option Chain :=
  if id = "kovan" then some kovan
  else if id = "foundation" then some foundation
  else none

/-- The address at which the chain's explorer tells its block number. -/
def explorerUrl : Chain → String
  | kovan => "https://kovan.etherscan.io/api?module=proxy&action=eth_blockNumber"
  | foundation => "https://api.etherscan.io/api?module=proxy&action=eth_blockNumber"

@[simp] theorem ofId?_name (c : Chain) : ofId? c.name = some c := by
  cases c <;> decide

end Chain

end NodeWatch
