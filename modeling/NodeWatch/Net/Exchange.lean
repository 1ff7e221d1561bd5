import NodeWatch.Net.Url

/-!
# Exchanges over the web

One request and what becomes of it: the address may be no address, the server may not accept the
connection, close it or be silent, and if it answers the body may be cut short.
-/

namespace NodeWatch

/-- A request as the server sees it. -/
structure Request where
  method : String
  target : String
  contentType : Option String := none
  body : String := ""
  deriving DecidableEq, Repr

/-- An answer of the server. -/
structure Answer where
  status : Nat
  /-- The bytes of the body, unless it was cut short. -/
  body : Option (List UInt8)
  deriving DecidableEq, Repr

/-- Whether the status tells of success. -/
def Answer.isSuccess (a : Answer) : Bool := 200 ≤ a.status && a.status < 300

/-- What becomes of a request. -/
inductive Delivery
  /-- Nothing listens at the address. -/
  | refused
  /-- The connection was closed without an answer. -/
  | closed
  /-- There was no answer in time. -/
  | timedOut
  | answered (answer : Answer)
  deriving DecidableEq, Inhabited, Repr

/-- Why a request got no answer. -/
inductive SendFault
  /-- The text is no address. -/
  | notAnAddress
  /-- The address is not one of the web. -/
  | notWeb (url : String)
  | refused (url : String)
  | closed (url : String)
  | timedOut (url : String)
  deriving DecidableEq, Repr

/-- The fault in words. -/
def SendFault.message : SendFault → String
  | notAnAddress => "builder error"
  | notWeb url => s!"builder error for url ({url})"
  | refused url | closed url | timedOut url => s!"error sending request for url ({url})"

/-- What is said of a body that is not what it should be. -/
def undecodableBody : String := "error decoding response body"

/-- What to send, and to which address. -/
structure Order where
  method : String
  url : String
  /-- The body, which is JSON if there is one. -/
  json : Option String := none

namespace Order

/-- The request that reaches the server, if one does. -/
def request? (o : Order) (delivery : Delivery) : Option Request :=
  match Url.parse? o.url with
  | none => none
  | some u =>
    if u.isWeb ∧ delivery ≠ .refused then
      some
        { method := o.method
          target := u.target
          contentType := o.json.map fun _ => "application/json"
          body := o.json.getD "" }
    else none

/-- The answer that comes back, or why none does. -/
def send (o : Order) (delivery : Delivery) : Except SendFault Answer :=
  match Url.parse? o.url with
  | none => .error .notAnAddress
  | some u =>
    if u.isWeb then
      match delivery with
      | .refused => .error (.refused u.publicText)
      | .closed => .error (.closed u.publicText)
      | .timedOut => .error (.timedOut u.publicText)
      | .answered answer => .ok answer
    else .error (.notWeb u.publicText)

end Order

end NodeWatch
