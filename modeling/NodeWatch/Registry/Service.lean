import NodeWatch.Config.Basic
import NodeWatch.Json.Render

/-!
# The registered service

What the service registry is told: under which identity and name the node is advertised, and how to
ask whether it is healthy.
-/

namespace NodeWatch.Registry

/-- How the registry asks whether the service is healthy. -/
structure HealthCheck where
  http : String
  interval : String
  timeout : String
  deriving DecidableEq, Repr

/-- A service to be registered. -/
structure Service where
  id : String
  name : String
  tags : List String
  port : UInt16
  check : HealthCheck
  deriving DecidableEq, Repr

namespace Service

/-- The service that a configuration describes. -/
def ofConfig (config : Config) (consul : ConsulConfig) : Service where
  id := config.nodeName
  name := consul.serviceName
  tags := consul.tags
  port := consul.servicePort
  check :=
    { http := config.healthCheckUrl
      interval := consul.checkInterval
      timeout := consul.checkTimeout }

/-- The service as JSON. -/
def toJson (s : Service) : Json :=
  .object [("ID", .text s.id), ("Name", .text s.name), ("Tags", .array (s.tags.map .text)),
    ("Port", .nat s.port.toNat),
    ("Check", .object [("HTTP", .text s.check.http), ("Interval", .text s.check.interval),
      ("Timeout", .text s.check.timeout)])]

/-- The text that the registry is sent. -/
def render (s : Service) : String := s.toJson.render

end Service

end NodeWatch.Registry
