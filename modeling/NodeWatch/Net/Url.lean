import NodeWatch.Net.Host

/-!
# Addresses of the web

Reads an address into its parts and brings each part into one spelling: the scheme and the host in
lower case, the port left out where it is the usual one, dots in the path resolved, and what may not
stand in a part encoded. There is no address to which it could be relative, so one without a scheme
cannot be read.
-/

namespace NodeWatch

/-- An address in its parts. -/
structure Url where
  scheme : List Char
  username : List Char := []
  password : List Char := []
  host : Option (List Char) := none
  /-- The port, if it is not the usual one of the scheme. -/
  port : Option Nat := none
  path : List Char := []
  query : Option (List Char) := none
  fragment : Option (List Char) := none
  deriving DecidableEq, Repr

namespace Url

/-- The schemes whose addresses always name a host, with their usual ports. -/
def usualPort? (scheme : List Char) : Option Nat :=
  match String.ofList scheme with
  | "http" | "ws" => some 80
  | "https" | "wss" => some 443
  | "ftp" => some 21
  | _ => none

/-- Whether addresses of the scheme are written with either slash and always have a path. -/
def isSpecial (scheme : List Char) : Bool :=
  (usualPort? scheme).isSome || String.ofList scheme == "file"

/-- Whether a character separates segments of a path. -/
def isSlash (special : Bool) (c : Char) : Bool := c == '/' || (special && c == '\\')

/-- What is left of a text that was pasted in: no blanks and control characters around it, and no
tabs and line ends in it. -/
def strip (cs : List Char) : List Char :=
  let trimmed := ((cs.dropWhile (· ≤ ' ')).reverse.dropWhile (· ≤ ' ')).reverse
  trimmed.filter fun c => c != '\t' && c != '\n' && c != '\r'

/-- Splits a text at the first character that satisfies a test; that character comes second. -/
def cut (isEnd : Char → Bool) (cs : List Char) : List Char × List Char :=
  (cs.takeWhile (!isEnd ·), cs.dropWhile (!isEnd ·))

/-- Reads the scheme and its colon. -/
def readScheme (cs : List Char) : Option (List Char × List Char) :=
  let isInner (c : Char) := c.isAlphanum || c == '+' || c == '-' || c == '.'
  match cs.takeWhile isInner, cs.dropWhile isInner with
  | c :: scheme, ':' :: rest =>
    if c.isAlpha then some ((c :: scheme).map Char.toLower, rest) else none
  | _, _ => none

/-- Whether a segment stands for the place it is in. -/
def isDot (segment : List Char) : Bool :=
  [".", "%2e"].contains (String.ofList (segment.map Char.toLower))

/-- Whether a segment stands for the place above. -/
def isDoubleDot (segment : List Char) : Bool :=
  ["..", ".%2e", "%2e.", "%2e%2e"].contains (String.ofList (segment.map Char.toLower))

/-- Walks along segments from a path, whose segments are given the last first. -/
def walk (path : List (List Char)) : List (List Char) → List (List Char)
  | [] => path
  | [segment] =>
    if isDoubleDot segment then [] :: path.tail
    else if isDot segment then [] :: path
    else Percent.encode .path segment :: path
  | segment :: rest =>
    if isDoubleDot segment then walk path.tail rest
    else if isDot segment then walk path rest
    else walk (Percent.encode .path segment :: path) rest

/-- A path of segments, each after a slash. -/
def segmentsText (path : List (List Char)) : List Char :=
  path.reverse.flatMap ('/' :: ·)

/-- Reads a path made of segments. -/
def readPath (special : Bool) (cs : List Char) : List Char :=
  match cs with
  | [] => if special then ['/'] else []
  | c :: rest =>
    let start := if isSlash special c then rest else c :: rest
    segmentsText (walk [] (Host.pieces (isSlash special) start))

/-- Reads the query and the fragment, with the marks before them. -/
def readTail (special : Bool) (cs : List Char) : Option (List Char) × Option (List Char) :=
  let (beforeHash, hash) := cut (· == '#') cs
  let fragment := match hash with
    | [] => none
    | _ :: rest => some (Percent.encode .fragment rest)
  let query := match beforeHash with
    | '?' :: rest => some (Percent.encode (if special then .specialQuery else .query) rest)
    | _ => none
  (query, fragment)

/-- Splits at the last at-sign; what comes before it is none if there is no such sign. -/
def splitUserinfo (cs : List Char) : Option (List Char) × List Char :=
  match (Host.pieces (· == '@') cs).reverse with
  | [] | [_] => (none, cs)
  | last :: before => (some (['@'].intercalate before.reverse), last)

/-- Splits at the colon before the port, which stands outside brackets. -/
def splitPort (inBrackets : Bool) : List Char → List Char × Option (List Char)
  | [] => ([], none)
  | c :: rest =>
    if c = ':' ∧ !inBrackets then ([], some rest)
    else
      let (host, port) :=
        splitPort (if c = '[' then true else if c = ']' then false else inBrackets) rest
      (c :: host, port)

/-- Reads a port. An empty one is none; the usual one is left out. -/
def readPort (usual : Option Nat) (cs : List Char) : Option (Option Nat) :=
  if cs = [] then some none
  else if cs.all Char.isDigit ∧ Digit.valueOf 10 cs < 65536 then
    some (if usual = some (Digit.valueOf 10 cs) then none else some (Digit.valueOf 10 cs))
  else none

/-- Reads user, host and port into an address. -/
def readAuthority (u : Url) (special : Bool) (cs : List Char) : Option Url := do
  let (userinfo, rest) := splitUserinfo cs
  let (hostText, portText) := splitPort false rest
  if hostText = [] ∧ (special ∨ userinfo.isSome ∨ portText.isSome) then none
  else
    let host ← if special then Host.special? hostText else Host.opaque? hostText
    let port ← readPort (usualPort? u.scheme) (portText.getD [])
    let (username, password) := cut (· == ':') (userinfo.getD [])
    some { u with
      username := Percent.encode .userinfo username
      password := Percent.encode .userinfo (password.drop 1)
      host := some host
      port }

/-- Reads the host of a file, which may be missing. -/
def readFileHost (u : Url) (cs : List Char) : Option Url :=
  if cs = [] then some { u with host := some [] }
  else (Host.special? cs).map fun host =>
    { u with host := some (if String.ofList host = "localhost" then [] else host) }

/-- Reads what follows the scheme. -/
def readAfterScheme (scheme rest : List Char) : Option Url :=
  let u : Url := { scheme }
  let special := isSpecial scheme
  let isTail (c : Char) := c == '?' || c == '#'
  let isEnd (c : Char) := isSlash special c || isTail c
  let withPath (u : Url) (cs : List Char) : Url :=
    let (path, tail) := cut isTail cs
    let (query, fragment) := readTail special tail
    { u with path := readPath special path, query, fragment }
  if String.ofList scheme == "file" then
    match rest with
    | a :: b :: rest' =>
      if isSlash true a ∧ isSlash true b then do
        let (authority, left) := cut isEnd rest'
        return withPath (← readFileHost u authority) left
      else some (withPath { u with host := some [] } rest)
    | _ => some (withPath { u with host := some [] } rest)
  else if special then do
    let (authority, left) := cut isEnd (rest.dropWhile (isSlash true))
    return withPath (← readAuthority u true authority) left
  else
    match rest with
    | '/' :: '/' :: rest' => do
      let (authority, left) := cut isEnd rest'
      return withPath (← readAuthority u false authority) left
    | '/' :: _ => some (withPath u rest)
    | _ =>
      let (path, tail) := cut isTail rest
      let (query, fragment) := readTail false tail
      some { u with path := Percent.encode .opaquePart path, query, fragment }

/-- Reads an address. -/
def parse? (s : String) : Option Url :=
  (readScheme (strip s.toList)).bind fun (scheme, rest) => readAfterScheme scheme rest

/-- What is asked of the server: the path and the query. -/
def target (u : Url) : String :=
  String.ofList (u.path ++ match u.query with
    | some query => '?' :: query
    | none => [])

/-- The host with its port. -/
def authority (u : Url) : List Char :=
  u.host.getD [] ++ match u.port with
    | some port => ':' :: Nat.toDigits 10 port
    | none => []

/-- The address without user and password. -/
def publicText (u : Url) : String :=
  String.ofList (u.scheme ++ [':'] ++ (if u.host.isSome then ['/', '/'] ++ u.authority else []))
    ++ u.target
    ++ match u.fragment with
      | some fragment => "#" ++ String.ofList fragment
      | none => ""

/-- Whether requests can be sent to the address. -/
def isWeb (u : Url) : Bool := ["http", "https"].contains (String.ofList u.scheme)

/-- Whether an address as it is configured names its scheme. -/
def hasScheme (address : String) : Bool :=
  "http://".toList.isPrefixOf address.toList || "https://".toList.isPrefixOf address.toList

/-- A configured address with a scheme: without one it is taken as one of plain web traffic. -/
def withScheme (address : String) : String :=
  if hasScheme address then address else "http://" ++ address

end Url

end NodeWatch
