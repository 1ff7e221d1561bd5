/-!
# Failures of the service registry

What can go wrong when the service is registered, and how each failure is reported.
-/

namespace NodeWatch

/-- A failed registration. -/
inductive RegistryError
  /-- The registry could not be reached. -/
  | transport (address reason : String)
  /-- The registry answered and refused. -/
  | rejected (status : Nat) (body : String)
  deriving DecidableEq, Repr

/-- The failure in words. -/
def RegistryError.message : RegistryError → String
  | transport address reason => s!"Failed to reach registry at {address}: {reason}"
  | rejected status body => s!"Registry rejected registration ({status}): {body}"

end NodeWatch
