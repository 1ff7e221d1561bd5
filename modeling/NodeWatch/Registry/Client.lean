import NodeWatch.Net.Exchange
import NodeWatch.Registry.Error
import NodeWatch.Registry.Service
import NodeWatch.Text.Body

/-!
# Submitting a service to the registry

A service is put to the registry's agent. Every status but those of success is a refusal, whose body
tells why; a body that was cut short tells nothing.
-/

namespace NodeWatch.Registry

/-- The order that submits a service to the agent at an address. -/
def order (address : String) (service : Service) : Order where
  method := "PUT"
  url := address ++ "/v1/agent/service/register"
  json := some service.render

/-- What the agent's answer means. -/
def accept (answer : Answer) : Except RegistryError Unit :=
  if answer.isSuccess then .ok ()
  else .error (.rejected answer.status ((answer.body.map Body.text).getD ""))

/-- Submits a service. -/
def register (address : String) (service : Service) (delivery : Delivery) :
    Except RegistryError Unit := do
  accept (← ((order address service).send delivery).mapError fun fault =>
    .transport address fault.message)

end NodeWatch.Registry
