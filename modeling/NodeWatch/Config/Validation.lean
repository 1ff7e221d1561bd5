import NodeWatch.Config.Basic
import NodeWatch.Net.Ip
import NodeWatch.Text.Blank

/-!
# Validation of a configuration

A configuration that was read may still hold values the monitor cannot run with. They are looked for
in a fixed order, and the first one is reported.
-/

namespace NodeWatch.Config

/-- A value the monitor cannot run with. -/
inductive Defect
  | blankNodeName
  | blankEndpoint
  | zeroPollInterval
  /-- The address to listen on is none. -/
  | badBindAddr (given : String)
  | zeroMaxAttempts
  deriving DecidableEq, Repr

/-- The name of the field. -/
def Defect.field : Defect → String
  | blankNodeName => "node_name"
  | blankEndpoint => "endpoint"
  | zeroPollInterval => "poll_interval_seconds"
  | badBindAddr _ => "bind_addr"
  | zeroMaxAttempts => "consul.max_attempts"

/-- What is wrong with the value. -/
def Defect.reason : Defect → String
  | blankNodeName => "must not be empty"
  | blankEndpoint => "must not be empty"
  | zeroPollInterval => "must be greater than zero"
  | badBindAddr given => s!"'{given}' is not a valid ip"
  | zeroMaxAttempts => "must be at least 1"

/-- Looks for the first defect. -/
def validate (c : Config) : Except Defect Unit :=
  if Text.isBlank c.nodeName then .error .blankNodeName
  else if Text.isBlank c.endpoint then .error .blankEndpoint
  else if c.pollInterval = 0 then .error .zeroPollInterval
  else if (Ip.parse? c.bindAddr).isNone then .error (.badBindAddr c.bindAddr)
  else if c.consul.any (·.maxAttempts = 0) then .error .zeroMaxAttempts
  else .ok ()

end NodeWatch.Config
