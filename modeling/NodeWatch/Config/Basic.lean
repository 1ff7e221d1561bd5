/-!
# Configuration

What the monitor is told: which node it watches and how often, where it answers, and, if at all, how
it registers with the service registry. Everything but the endpoint has a default.
-/

namespace NodeWatch

/-- How to register with the service registry. -/
structure ConsulConfig where
  address : String := "127.0.0.1:8500"
  serviceName : String := "parity"
  tags : List String := []
  /-- The port of the node, which the service is advertised with. -/
  servicePort : UInt16 := 8545
  checkInterval : String := "1s"
  checkTimeout : String := "5s"
  maxAttempts : UInt32 := 5
  /-- Seconds between a failed attempt and the next one. -/
  retryBackoff : UInt64 := 60
  deriving DecidableEq, Repr

/-- The configuration of the monitor. -/
structure Config where
  nodeName : String
  endpoint : String
  /-- Seconds from one tick to the next. -/
  pollInterval : UInt64 := 5
  /-- Seconds after which a query is given up. -/
  rpcTimeout : UInt64 := 10
  /-- The greatest lag at which the node still counts as in sync. -/
  syncThreshold : UInt64 := 5
  bindAddr : String := "127.0.0.1"
  bindPort : UInt16 := 4647
  metricsNamespace : String := "parity_pool"
  /-- Without it nothing is registered. -/
  consul : Option ConsulConfig := none
  deriving DecidableEq, Repr

namespace Config

/-- The name of a node that was given none: the host's, if that is known and not empty. -/
def defaultNodeName (hostname : Option String) : String :=
  match hostname with
  | some name => if name = "" then "parity" else name
  | none => "parity"

/-- The address on which the health endpoint listens. -/
def healthAddr (c : Config) : String := s!"{c.bindAddr}:{c.bindPort}"

/-- The address at which the registry asks whether the node is healthy. -/
def healthCheckUrl (c : Config) : String := "http://" ++ c.healthAddr ++ "/synced"

end Config

end NodeWatch
