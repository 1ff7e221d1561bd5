import NodeWatch.Net.Wire
import NodeWatch.Registry.Supervisor
import NodeWatch.Remote
import NodeWatch.Startup
import Std.Async.DNS
import Std.Async.Signal
import Std.Async.TCP
import Std.Async.Timer

/-!
# The command line

The one argument is the directory of the configuration. The program polls the node, answers on the
health endpoint and registers with the registry until it is interrupted. Everything here is input
and output: what is asked, what an answer means and what is answered is decided elsewhere. There is
no encryption, so requests to secure addresses come to nothing.
-/

namespace NodeWatch.Main

open Std.Async

/-- Writes a notice to the log, unless it only helps to find faults. -/
def log (notice : Notice) : IO Unit := do
  if notice.level ≠ .debug then IO.println s!"{notice.level.name.toUpper} {notice.message}"

/-- The number of a failure, which some calls give with a minus sign. -/
def failureNumber (code : UInt32) : UInt32 := min code (-code)

/-- What a failure of the file system is called. -/
def fileFault : IO.Error → FileFault
  | .noFileOrDirectory .. => .missing
  | .inappropriateType _ code _ => if failureNumber code = 20 then .notDirectory else .isDirectory
  | e => .other (toString e)

/-- The contents of a file. -/
def contents (path : String) : IO (Except FileFault (List UInt8)) := do
  try
    return .ok (← IO.FS.readBinFile path).toList
  catch e =>
    return .error (fileFault e)

/-- Waits for so many milliseconds. -/
def pause (milliseconds : Nat) : Async Unit := sleep (.ofNat milliseconds)

/-- An address of the host and a port. -/
def socketAddress (port : UInt16) : Std.Net.IPAddr → Std.Net.SocketAddress
  | .v4 addr => .v4 { addr, port }
  | .v6 addr => .v6 { addr, port }

/-- The addresses of a host, brackets around it being left out. -/
def addresses (host : List Char) (port : UInt16) : Async (List Std.Net.SocketAddress) := do
  let name := String.ofList (host.filter fun c => c != '[' && c != ']')
  let found ← DNS.getAddrInfo name (toString port)
  return found.toList.map (socketAddress port)

/-- Reads until the answer is complete or the connection ends. -/
partial def receive (client : TCP.Socket.Client) (sofar : List UInt8) : Async Delivery := do
  match Wire.answer? false sofar with
  | some answer => return .answered answer
  | none =>
    match ← client.recv? 65536 with
    | some bytes => receive client (sofar ++ bytes.toList)
    | none =>
      match Wire.answer? true sofar with
      | some answer => return .answered answer
      | none => return .closed

/-- Sends a request to an address that accepts the connection. -/
def converse (address : Std.Net.SocketAddress) (message : List UInt8) : Async Delivery := do
  let client ← TCP.Socket.Client.mk
  let isOpen ← try
      client.connect address
      pure true
    catch _ => pure false
  if !isOpen then return .refused
  try
    client.send (ByteArray.mk message.toArray)
    receive client []
  catch _ => return .closed

/-- What becomes of an order. -/
def deliver (order : Order) : Async Delivery := do
  match Url.parse? order.url, order.request? .closed with
  | some url, some request =>
    if String.ofList url.scheme ≠ "http" then return .closed
    let port := UInt16.ofNat (url.port.getD 80)
    let known ← try addresses (url.host.getD []) port catch _ => pure []
    match known with
    | address :: _ => converse address (Wire.ofRequest (String.ofList url.authority) request)
    | [] => return .refused
  | _, _ => return .refused

/-- What becomes of an order within a time. -/
def deliverWithin (seconds : Nat) (order : Order) : Async Delivery :=
  Async.race (deliver order) do
    pause (seconds * 1000)
    return .timedOut

/-- A new identity for a call. -/
def newId : IO String := do
  let digits ← (List.range 32).mapM fun _ => do
    return Nat.digitChar (← IO.rand 0 15)
  let part (start count : Nat) := String.ofList ((digits.drop start).take count)
  return "-".intercalate [part 0 8, part 8 4, part 12 4, part 16 4, part 20 12]

/-- Asks the node. -/
def askNode (c : Config) (query : Query) : Async Delivery := do
  deliverWithin c.rpcTimeout.toNat (query.order c.nodeEndpoint (← newId))

/-- Asks whatever the next tick asks. -/
def gather (c : Config) (station : Station) : Async Deliveries := do
  let none : Deliveries := { node := fun _ => .closed, explorer := fun _ => .closed }
  match station.monitor.connection with
  | .none =>
    let chain ← askNode c .chainId
    return { none with node := fun _ => chain }
  | some connection =>
    let peers ← askNode c .peerCount
    let number ← askNode c .blockNumber
    match Node.blockNumber c.nodeEndpoint number with
    | .error _ =>
      return { none with node := fun query => if query = .peerCount then peers else number }
    | .ok n =>
      let block ← askNode c (.block n)
      let remote ← deliverWithin c.rpcTimeout.toNat
        (Explorer.order (explorerUrl connection.explorer))
      return {
        node := fun query =>
          if query = .peerCount then peers else if query = .blockNumber then number else block
        explorer := fun _ => remote }

/-- Makes a tick. -/
def tick (c : Config) (state : IO.Ref Station) : Async Unit := do
  let station ← state.get
  let deliveries ← gather c station
  let (station, _, events) := station.tick (deliveries.replies c.nodeEndpoint)
  state.set station
  for event in events do
    if let .note notice := event then log notice

/-- The milliseconds since the start. -/
def elapsed (origin : Nat) : BaseIO Nat := return (← IO.monoMsNow) - origin

/-- Tells the polling to stop now, unless it was told before. -/
def tellToStop (stop : IO.Promise Schedule.Stop) (origin : Nat) : BaseIO Unit := do
  stop.resolve { time := ← elapsed origin }

/-- When the polling was told to stop, if it was. -/
def told (stop : IO.Promise Schedule.Stop) : Async (Option Schedule.Stop) := do
  if ← stop.isResolved then return some (← await stop) else return none

/-- Makes ticks on schedule until it is told to stop, times being counted from the start. The tick
that it is then in is finished. -/
partial def poll (c : Config) (state : IO.Ref Station) (stop : IO.Promise Schedule.Stop)
    (origin due : Nat) : Async Unit := do
  let now ← elapsed origin
  if now < due then Async.race (pause (due - now)) (discard (await stop))
  match Schedule.turn? (c.pollInterval.toNat * 1000) (← told stop) (← elapsed origin) due with
  | none => return
  | some turn =>
    tick c state
    poll c state stop origin turn.next

/-- Polls from the start until it is told to stop. -/
def monitor (c : Config) (state : IO.Ref Station) (stop : IO.Promise Schedule.Stop)
    (origin : Nat) : Async Unit := do
  log (.starting c.pollInterval)
  poll c state stop origin 0
  log .shuttingDown

/-- Tells the polling to stop when the program is interrupted. -/
def heedInterrupt (stop : IO.Promise Schedule.Stop) (origin : Nat) : Async Unit := do
  try
    let interrupt ← Signal.Waiter.mk .sigint false
    let _ ← await (← interrupt.wait)
    log .interrupted
  catch e => log (.interruptUnheard (toString e))
  tellToStop stop origin

/-- The registry at an address. -/
def registry (address : String) : Registry.World Async where
  submit _ service := do
    let delivery ← deliverWithin 10 (Registry.order address service)
    return Registry.register address service delivery
  note notice := log notice
  pause := pause

/-- Registers the service. -/
def register (c : Config) (consul : ConsulConfig) : Async Unit :=
  discard ((Registry.Supervisor.ofConfig c consul).runIn (registry consul.agentAddress))

/-- Reads a request up to the end of its head. -/
partial def requestLine (client : TCP.Socket.Client) (sofar : List UInt8) :
    Async (Option (String × String)) := do
  match Wire.requestLine? sofar with
  | some line => return some line
  | none =>
    match ← client.recv? 65536 with
    | some bytes => requestLine client (sofar ++ bytes.toList)
    | none => return none

/-- Answers a request. -/
def answer (state : IO.Ref Station) (client : TCP.Socket.Client) : Async Unit := do
  try
    if let some (method, target) ← requestLine client [] then
      let response := (← state.get).site.respond method target
      client.send (ByteArray.mk (Wire.ofResponse response).toArray)
      client.shutdown
  catch _ => return

/-- Answers requests as they come. -/
partial def serve (state : IO.Ref Station) (server : TCP.Socket.Server) : Async Unit := do
  let client ← server.accept
  background (answer state client)
  serve state server

/-- An internet address as the network layer has it. -/
def ipAddr : Ip → Std.Net.IPAddr
  | .v4 a b c d => .v4 ⟨#v[a, b, c, d]⟩
  | .v6 groups => .v6 ⟨groups⟩

/-- What a failure to listen is called. -/
def listenFault (e : IO.Error) : ListenFault :=
  match e with
  | .resourceBusy .. => .inUse
  | .unsupportedOperation code _ =>
    if failureNumber code = 99 then .notLocal else .other (toString e)
  | e => .other (toString e)

/-- Begins to listen. -/
def listen (c : Config) : IO (Except ListenFault TCP.Socket.Server) := do
  match Ip.parse? c.bindAddr with
  | none => return .error .notLocal
  | some ip =>
    try
      let server ← TCP.Socket.Server.mk
      server.bind (socketAddress c.bindPort (ipAddr ip))
      server.listen 128
      return .ok server
    catch e => return .error (listenFault e)

/-- Ends the program with a line about why it could not start. -/
def fail (e : StartError) : IO UInt32 := do
  IO.eprintln e.line
  return 1

/-- Runs the station until the program is interrupted or turns out not to be able to listen. Either
way the polling comes to its end first. -/
def run (c : Config) (station : Station) : Async UInt32 := do
  let state ← IO.mkRef station
  let stop ← IO.Promise.new
  let origin ← IO.monoMsNow
  match c.consul with
  | some consul => background (register c consul)
  | none => log .noRegistry
  background (heedInterrupt stop origin)
  let polling : AsyncTask Unit ← async (monitor c state stop origin)
  match ← listen c with
  | .ok server =>
    log (.serving c.healthAddr)
    background (serve state server)
    await polling
    log .stopped
    return 0
  | .error fault =>
    tellToStop stop origin
    await polling
    fail (.listen fault)

end NodeWatch.Main

open NodeWatch in
/-- Runs the monitor with the configuration in the directory that is given, or in `config`. -/
def main (args : List String) : IO UInt32 := do
  Main.log .launched
  let directory := args.headD "config"
  let found ← Main.contents (Config.filePath directory)
  let loaded := Config.load (← IO.getEnv "HOSTNAME") directory found
  if let .ok c := loaded then Main.log c.loadedNotice
  match Station.start loaded with
  | .error e => Main.fail e
  | .ok (c, station) =>
    Main.log (.nodeTargeted c.nodeEndpoint)
    (Main.run c station).block
