import NodeWatch.Config.Load
import NodeWatch.Net.Ip
import NodeWatch.Station

/-!
# Starting up

Before the monitor runs, its configuration is loaded, the table of gauges is made and the health
endpoint begins to listen. Whatever of it fails ends the program, with one line about the failure.
-/

namespace NodeWatch

/-- Why the health endpoint cannot listen. -/
inductive ListenFault
  | inUse
  /-- The address is not one of this host. -/
  | notLocal
  | other (reason : String)
  deriving DecidableEq, Repr

/-- The fault in words. -/
def ListenFault.message : ListenFault → String
  | inUse => "Address already in use (os error 98)"
  | notLocal => "Cannot assign requested address (os error 99)"
  | other reason => reason

/-- Why the program ended. -/
inductive StartError
  | config (error : ConfigError)
  /-- The gauges have no namespace. -/
  | noNamespace
  | listen (fault : ListenFault)
  deriving DecidableEq, Repr

namespace StartError

/-- The failure in words. -/
def message : StartError → String
  | config error => error.message
  | noNamespace => Gauge.emptyNamespace
  | listen fault => fault.message

/-- The line that is written about the failure. -/
def line (e : StartError) : String := s!"Error: {e.message}"

end StartError

/-- Begins to listen where the configuration says, the port there being free or taken. -/
def Config.listen (c : Config) (portTaken : Bool) : Except ListenFault Notice :=
  if !(Ip.parse? c.bindAddr).any Ip.isLocal then .error .notLocal
  else if portTaken then .error .inUse
  else .ok (.serving c.healthAddr)

/-- Makes the station of a configuration. -/
def Station.start (loaded : Except ConfigError Config) : Except StartError (Config × Station) := do
  let c ← loaded.mapError .config
  match Station.new? c with
  | some station => .ok (c, station)
  | none => .error .noNamespace

end NodeWatch
