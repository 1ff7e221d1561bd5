import NodeWatch.Chain
import NodeWatch.Gauge.Name
import NodeWatch.Registry.Error
import NodeWatch.Report

/-!
# Notices

A notice is something worth a line in the log. It is kept as what happened, so that one can ask
whether it happened; its level and its wording follow from that.
-/

namespace NodeWatch

/-- Why an attempt to connect failed. -/
inductive ConnectError
  /-- The node did not tell its chain. -/
  | node (error : NodeError)
  /-- The node is on a chain that has no known explorer. -/
  | unsupportedChain (id : String)
  /-- No explorer client could be built. -/
  | explorer (error : ExplorerError)
  deriving DecidableEq, Repr

/-- The failure in words. -/
def ConnectError.message : ConnectError → String
  | node error => error.message
  | unsupportedChain id =>
    s!"Chain {id} not found. 'kovan' and 'foundation' are the only valid options"
  | explorer error => error.message

/-- How much a notice matters. -/
inductive Level
  | debug
  | info
  | warn
  | error
  deriving DecidableEq, Repr

/-- The name of the level. -/
def Level.name : Level → String
  | debug => "debug"
  | info => "info"
  | warn => "warn"
  | error => "error"

/-- Something worth a line in the log. -/
inductive Notice
  | launched
  /-- A configuration was loaded. -/
  | configLoaded (node endpoint : String) (pollSeconds threshold : UInt64) (hasRegistry : Bool)
  | nodeTargeted (endpoint : String)
  /-- No registry is configured, so the service is not registered. -/
  | noRegistry
  /-- The health endpoint listens. -/
  | serving (address : String)
  /-- The polling begins, with this many seconds from tick to tick. -/
  | starting (seconds : UInt64)
  | interrupted
  /-- An interrupt would not be heard of. -/
  | interruptUnheard (reason : String)
  /-- The polling has come to its end. -/
  | shuttingDown
  /-- Everything has come to its end. -/
  | stopped
  /-- The chain is known and its explorer client built. -/
  | usingChain (chain : Chain)
  | connected
  | connectFailed (cause : ConnectError)
  /-- The node has named the same unsupported chain so many times without a break. -/
  | unsupportedAgain (id : String) (times : UInt32)
  | verdictChanged (synced : Bool)
  | roundClean
  | roundFailed (report : Report)
  | nodeDown
  | gaugeUnregistered (gauge : String) (fault : Gauge.Fault)
  | gaugeUnset (gauge : String) (fault : Gauge.Fault)
  | gaugeUnremoved (gauge : String) (fault : Gauge.Fault)
  | registered (service id : String)
  | registrationFailed (attempt maxAttempts : Nat) (error : RegistryError)
  | registrationGivenUp (maxAttempts : Nat)
  deriving DecidableEq, Repr

namespace Notice

/-- The level of the notice. -/
def level : Notice → Level
  | launched | configLoaded .. | nodeTargeted _ | serving _ | starting _ | interrupted
  | shuttingDown | stopped | usingChain _ | connected | verdictChanged _ | registered .. => .info
  | noRegistry | connectFailed _ | roundFailed _ | nodeDown | gaugeUnregistered ..
  | gaugeUnset .. | registrationFailed .. | registrationGivenUp _ => .warn
  | interruptUnheard _ | unsupportedAgain .. => .error
  | roundClean | gaugeUnremoved .. => .debug

/-- The wording of the notice. -/
def message : Notice → String
  | launched => "Starting node monitor"
  | configLoaded node endpoint pollSeconds threshold hasRegistry =>
    s!"Loaded config for node '{node}' (endpoint {endpoint}, poll every {pollSeconds}s, "
      ++ s!"sync threshold {threshold} blocks, registry "
      ++ (if hasRegistry then "enabled)" else "disabled)")
  | nodeTargeted endpoint => s!"Node RPC client targeting {endpoint}"
  | noRegistry => "No [consul] section configured, skipping service registration"
  | serving address => s!"Http api running on http://{address}"
  | starting seconds => s!"Starting monitor, polling every {seconds}s"
  | interrupted => "Interrupt received, shutting down"
  | interruptUnheard reason => s!"Failed to listen for shutdown signal: {reason}"
  | shuttingDown => "Monitor shutting down"
  | stopped => "Node monitor stopped"
  | usingChain chain => "Using chain " ++ chain.name
  | connected => "Chain connected. Gathering metrics..."
  | connectFailed cause => "Failed to connect to node: " ++ cause.message
  | unsupportedAgain id times =>
    s!"Node has reported unsupported chain '{id}' {times} times in a row; "
      ++ "check the node's --chain setting"
  | verdictChanged synced => s!"State changed. Is synced?: {synced}"
  | roundClean => "Round completed without errors"
  | roundFailed report => "Export errors: " ++ report.message
  | nodeDown => "Node may be down"
  | gaugeUnregistered gauge fault => s!"Failed to register gauge {gauge}: " ++ fault.message
  | gaugeUnset gauge fault => s!"Failed to set gauge {gauge}: " ++ fault.message
  | gaugeUnremoved gauge fault => s!"Gauge {gauge} has no series to remove: " ++ fault.message
  | registered service id => s!"Service {service} registered in consul as {id}"
  | registrationFailed attempt maxAttempts error =>
    s!"Failed to register in consul (attempt {attempt}/{maxAttempts}): " ++ error.message
  | registrationGivenUp maxAttempts =>
    s!"Stop trying to register on consul after {maxAttempts} attempts"

end Notice

end NodeWatch
