import NodeWatch.Explorer.Reply
import NodeWatch.Node.Reply
import NodeWatch.Registry.Client
import NodeWatch.Round

/-!
# Collaborators over the web

What the collaborators answer during a tick is read out of what becomes of the requests to them. An
explorer client is nothing but the address of the explorer, so building one cannot fail.
-/

namespace NodeWatch

/-- The endpoint of the node. -/
def Config.nodeEndpoint (c : Config) : String := Url.withScheme c.endpoint

/-- The address of the registry's agent. -/
def ConsulConfig.agentAddress (c : ConsulConfig) : String := Url.withScheme c.address

/-- The number of the explorer client of a chain. -/
def Chain.explorerId : Chain → ExplorerId
  | kovan => 0
  | foundation => 1

/-- The address that an explorer client asks. -/
def explorerUrl (explorer : ExplorerId) : String :=
  if explorer = Chain.kovan.explorerId then Chain.kovan.explorerUrl
  else Chain.foundation.explorerUrl

/-- What becomes of the requests of a tick. -/
structure Deliveries where
  node : Query → Delivery
  explorer : ExplorerId → Delivery

/-- What the collaborators answer, the node being at this endpoint. -/
def Deliveries.replies (d : Deliveries) (endpoint : String) : Replies where
  chainId := Node.chainId endpoint (d.node .chainId)
  peerCount := Node.peerCount endpoint (d.node .peerCount)
  blockNumber := Node.blockNumber endpoint (d.node .blockNumber)
  blockByNumber number := Node.blockByNumber endpoint number (d.node (.block number))
  explorerFactory chain := .ok chain.explorerId
  remoteBlockNumber explorer :=
    Explorer.remoteBlockNumber (explorerUrl explorer) (d.explorer explorer)

end NodeWatch
