import NodeWatch.Event
import NodeWatch.Sync
import NodeWatch.Block

/-!
# Gathering rounds

A round asks the node for its peers, its block number and that block, and the explorer for its own
block number. A step that fails is put on the report and does not keep the later ones from being
taken, except that without a block number there is nothing more to ask. Each value that is obtained
is exported at once; what was not obtained stays as it was exported last.
-/

namespace NodeWatch

/-- What the collaborators answer during one tick, if they are asked. -/
structure Replies where
  chainId : Except NodeError String
  peerCount : Except NodeError UInt64
  blockNumber : Except NodeError UInt64
  blockByNumber : UInt64 → Except NodeError Block
  /-- Building an explorer client for a chain. -/
  explorerFactory : Chain → Except ExplorerError ExplorerId
  remoteBlockNumber : ExplorerId → Except ExplorerError UInt64

/-- What the monitor remembers of the node from tick to tick. -/
structure Status where
  connected : Bool := false
  verdict : Verdict := ⟨false⟩
  lastBlock : Option Block := none
  deriving DecidableEq, Repr

/-- The last verdict, connected or not. -/
def Status.synced (s : Status) : Bool := s.verdict.synced

namespace Gauge

/-- The gauge of the number of peers. -/
def peers : String := "peers"

/-- The gauge of the node's block number. -/
def blockNumber : String := "blockNumber"

/-- The gauge of the seconds between the last two blocks obtained. -/
def blockTime : String := "blocktime"

/-- The gauge of the signed lag. -/
def blocksBehind : String := "blocksbehind"

/-- The gauge of the sync verdict. -/
def synced : String := "synced"

/-- The labels of every gauge of a node. -/
def nodeLabels (nodeName : String) : Labels := [("node", nodeName)]

end Gauge

namespace Round

/-- The outcome of one step: what it did, and how it failed if it did. -/
abbrev StepResult := List Event × List Failure

/-- Asks for the peers. -/
def askPeers (replies : Replies) (labels : Labels) : StepResult :=
  match replies.peerCount with
  | .ok n => ([.call .peerCount, .set Gauge.peers labels (.count n)], [])
  | .error e => ([.call .peerCount], [⟨.peers, .node e⟩])

/-- Asks for the block of that number; the time since the last block obtained is exported. -/
def askBlock (replies : Replies) (labels : Labels) (number : UInt64) (status : Status) :
    Status × StepResult :=
  match replies.blockByNumber number with
  | .ok block =>
    let elapsed := match status.lastBlock with
      | some last => [Event.set Gauge.blockTime labels (.thousandths (block.millisSince last))]
      | none => []
    ({ status with lastBlock := some block }, .call (.blockByNumber number) :: elapsed, [])
  | .error e => (status, [.call (.blockByNumber number)], [⟨.block, .node e⟩])

/-- Compares the node's block number with the explorer's. -/
def askExplorer (replies : Replies) (explorer : ExplorerId) (labels : Labels) (threshold : UInt64)
    (number : UInt64) (status : Status) : Status × Report × List Event :=
  match replies.remoteBlockNumber explorer with
  | .ok remote =>
    let behind := blocksBehind number remote
    let (verdict, changed) := status.verdict.update (absoluteLag behind) threshold
    ({ status with verdict },
     { blocksBehind := some behind, transition := if changed then some verdict.synced else none },
     [.call (.remoteBlockNumber explorer), .set Gauge.blocksBehind labels (.whole behind)]
       ++ (if changed then [.note (.verdictChanged verdict.synced)] else [])
       ++ [.set Gauge.synced labels (.flag verdict.synced)])
  | .error e =>
    (status, { failures := [⟨.explorer, .explorer e⟩] }, [.call (.remoteBlockNumber explorer)])

/-- The steps that need the block number. -/
def examine (replies : Replies) (explorer : ExplorerId) (labels : Labels) (threshold : UInt64)
    (number : UInt64) (status : Status) : Status × Report × List Event :=
  let (status, blockEvents, blockFailures) := askBlock replies labels number status
  let (status, report, explorerEvents) :=
    askExplorer replies explorer labels threshold number status
  (status, { report with failures := blockFailures ++ report.failures },
    blockEvents ++ explorerEvents)

/-- One round: the status after it, its report, and all it did in order. -/
def run (replies : Replies) (explorer : ExplorerId) (labels : Labels) (threshold : UInt64)
    (status : Status) : Status × Report × List Event :=
  let (peerEvents, peerFailures) := askPeers replies labels
  match replies.blockNumber with
  | .ok number =>
    let (status, report, events) := examine replies explorer labels threshold number status
    (status, { report with failures := peerFailures ++ report.failures },
      peerEvents ++ [.call .blockNumber, .set Gauge.blockNumber labels (.count number)] ++ events)
  | .error e =>
    (status, { failures := peerFailures ++ [⟨.blockNumber, .node e⟩] },
      peerEvents ++ [.call .blockNumber])

end Round

end NodeWatch
