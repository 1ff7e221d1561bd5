/-!
# Failures of the explorer

What can go wrong when the block explorer is asked for its block number, and how each failure is
reported.
-/

namespace NodeWatch

/-- A failed query of the block explorer. -/
inductive ExplorerError
  /-- The explorer could not be reached. -/
  | transport (url reason : String)
  /-- The answer's status tells of a failure. -/
  | http (status : Nat)
  /-- The answer could not be decoded. -/
  | invalidResponse (reason : String)
  deriving DecidableEq, Repr

/-- The failure in words. -/
def ExplorerError.message : ExplorerError → String
  | transport url reason => s!"Explorer request to {url} failed: {reason}"
  | http status => s!"Explorer returned HTTP {status}"
  | invalidResponse reason => s!"Invalid explorer response: {reason}"

end NodeWatch
