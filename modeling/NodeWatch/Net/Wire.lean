import NodeWatch.Net.Exchange
import NodeWatch.Text.Digit
import NodeWatch.Text.Utf8
import NodeWatch.Web

/-!
# Messages in bytes

Requests and answers as they go over a connection. A connection carries one exchange: it is closed
after the answer, so an answer that does not tell its length ends with the connection. Of what a
message says about itself, only the length of its body is of interest here.
-/

namespace NodeWatch.Wire

/-- The lines of a head and the empty line after them. -/
def headBytes (lines : List String) : List UInt8 :=
  (String.join (lines.map (· ++ "\r\n")) ++ "\r\n").toUTF8.toList

/-- A request to a host in bytes. -/
def ofRequest (host : String) (r : Request) : List UInt8 :=
  let body := r.body.toUTF8.toList
  let about := match r.contentType with
    | some kind => [s!"content-type: {kind}", s!"content-length: {body.length}"]
    | none => []
  headBytes ([s!"{r.method} {r.target} HTTP/1.1", s!"host: {host}", "accept: */*",
    "connection: close"] ++ about) ++ body

/-- The phrase that goes with a status. -/
def phrase (status : Nat) : String :=
  match status with
  | 200 => "OK"
  | 404 => "Not Found"
  | 405 => "Method Not Allowed"
  | 503 => "Service Unavailable"
  | _ => ""

/-- An answer of the health endpoint in bytes. -/
def ofResponse (r : Web.Response) : List UInt8 :=
  let body := r.body.toUTF8.toList
  let about := (r.contentType.map (s!"content-type: {·}")).toList
    ++ (r.allow.map (s!"allow: {·}")).toList
  headBytes ([s!"HTTP/1.1 {r.status} {phrase r.status}", s!"content-length: {body.length}",
    "connection: close"] ++ about) ++ body

/-- Splits a message after the empty line that ends its head. -/
def splitHead? : List UInt8 → Option (List UInt8 × List UInt8)
  | 13 :: 10 :: 13 :: 10 :: rest => some ([], rest)
  | b :: rest => (splitHead? rest).map fun (head, body) => (b :: head, body)
  | [] => none

/-- The lines of a head. -/
def headLines (head : List UInt8) : List String := (Utf8.decodeReplacing head).splitOn "\r\n"

/-- The value that a head gives for a name in lower case. -/
def value? (name : String) (lines : List String) : Option String :=
  lines.findSome? fun line =>
    let (key, rest) := (line.toList.takeWhile (· != ':'), line.toList.dropWhile (· != ':'))
    if String.ofList (key.map Char.toLower) = name then
      some (String.ofList ((rest.drop 1).dropWhile (· == ' ')))
    else none

/-- A natural number in decimal digits. -/
def number? (s : String) : Option Nat :=
  if s = "" then none else Digit.number? 10 s.toList

/-- The method and the target of a request whose head is complete. -/
def requestLine? (bytes : List UInt8) : Option (String × String) := do
  let (head, _) ← splitHead? bytes
  match ((headLines head).headD "").splitOn " " with
  | method :: target :: _ => some (method, target)
  | _ => none

/-- Reads the size of a chunk, in hexadecimal digits, and drops its line. -/
def chunkSize? (bytes : List UInt8) : Option (Nat × List UInt8) :=
  let digits := (bytes.map fun b => Char.ofNat b.toNat).takeWhile (Digit.isDigit 16)
  match digits, bytes.dropWhile (· != 10) with
  | [], _ | _, [] => none
  | digits, _ :: rest => some (Digit.valueOf 16 digits, rest)

/-- The body that chunks make, if the last one, which is empty, has come. -/
def unchunk? (bytes : List UInt8) : Option (List UInt8) :=
  match chunkSize? bytes with
  | none => none
  | some (0, _) => some []
  | some (size, rest) =>
    if _h : (rest.drop (size + 2)).length < bytes.length then
      (unchunk? (rest.drop (size + 2))).map (rest.take size ++ ·)
    else none
termination_by bytes.length
decreasing_by assumption

/-- The body that follows a head, as far as it has come: none if it is not complete. -/
def body? (status : Nat) (lines : List String) (ended : Bool) (rest : List UInt8) :
    Option (List UInt8) :=
  if status = 204 ∨ status = 304 then some []
  else if (value? "transfer-encoding" lines).any (·.toLower = "chunked") then unchunk? rest
  else
    match (value? "content-length" lines).bind number? with
    | some length => if length ≤ rest.length then some (rest.take length) else none
    | none => if ended then some rest else none

/-- The answer that bytes make. While the connection has not ended, there is one only when it is
complete; after that its body may be cut short. -/
def answer? (ended : Bool) (bytes : List UInt8) : Option Answer := do
  let (head, rest) ← splitHead? bytes
  let lines := headLines head
  match (lines.headD "").splitOn " " with
  | _ :: code :: _ =>
    let status ← number? code
    let body := body? status lines ended rest
    if ended || body.isSome then some { status, body } else none
  | _ => none

end NodeWatch.Wire
