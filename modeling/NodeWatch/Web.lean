import NodeWatch.Json.Render
import NodeWatch.Monitor

/-!
# The health endpoint

Three pages: whether the node is in sync, for the registry; all gauges, for the scraper; and the
status of the monitor. A path is taken as it is written, up to a question mark or number sign. A
page may be got, or asked for without its body; no other method is allowed.
-/

namespace NodeWatch.Web

/-- An answer to a request. -/
structure Response where
  status : Nat
  contentType : Option String := none
  /-- The methods that would have been allowed. -/
  allow : Option String := none
  body : String := ""
  deriving DecidableEq, Repr

/-- What the pages are made of. -/
structure Site where
  nodeName : String
  health : Health
  /-- The text of all gauges. -/
  metrics : String

/-- A page. -/
inductive Page
  | synced
  | metrics
  | status
  deriving DecidableEq, Repr

/-- The page at a path. -/
def Page.at? (path : String) : Option Page :=
  if path = "/synced" then some synced
  else if path = "/metrics" then some metrics
  else if path = "/api/status" then some status
  else none

/-- Whether a character ends the path of a request. -/
def endsPath (c : Char) : Bool := c == '?' || c == '#'

/-- What follows the authority of an absolute address: a path, or nothing. -/
def afterAuthority : List Char → Option (List Char)
  | ':' :: '/' :: '/' :: rest => some (rest.dropWhile fun c => c != '/' && !endsPath c)
  | c :: rest => if c = '/' ∨ endsPath c then none else afterAuthority rest
  | [] => none

/-- The path of a request. -/
def path (target : String) : String :=
  match afterAuthority target.toList with
  | some rest =>
    match rest.takeWhile (!endsPath ·) with
    | [] => "/"
    | cs => String.ofList cs
  | none => String.ofList (target.toList.takeWhile (!endsPath ·))

/-- The status of the monitor as JSON. -/
def statusJson (nodeName : String) (health : Health) : Json :=
  .object [("success", .bool true),
    ("data", .object [("node_name", .text nodeName), ("connected", .bool health.connected),
      ("synced", .bool health.isSynced)])]

/-- A page, got. -/
def Site.page (site : Site) : Page → Response
  | .synced =>
    { status := if site.health.isSynced then 200 else 503
      contentType := some "text/plain; charset=utf-8"
      body := if site.health.isSynced then "true" else "false" }
  | .metrics =>
    { status := 200
      contentType := some "text/plain; version=0.0.4"
      body := site.metrics }
  | .status =>
    { status := 200
      contentType := some "application/json"
      body := (statusJson site.nodeName site.health).render }

/-- The answer to a request. -/
def Site.respond (site : Site) (method target : String) : Response :=
  match Page.at? (path target) with
  | none => { status := 404 }
  | some page =>
    if method = "GET" then site.page page
    else if method = "HEAD" then { site.page page with body := "" }
    else { status := 405, allow := some "GET,HEAD" }

end NodeWatch.Web
