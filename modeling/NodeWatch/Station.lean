import NodeWatch.Config.Basic
import NodeWatch.Gauge.Exposition
import NodeWatch.Schedule
import NodeWatch.Web

/-!
# The station

The monitor together with its table of gauges. Between two ticks it can be asked over the web. It
runs by the schedule until it is told to stop.
-/

namespace NodeWatch

/-- A monitor and its gauges. -/
structure Station where
  monitor : Monitor
  gauges : Gauge.Sink Reading

/-- The monitor that a configuration describes, before its first tick. -/
def Monitor.ofConfig (c : Config) : Monitor :=
  { nodeName := c.nodeName, threshold := c.syncThreshold }

namespace Station

/-- The station that a configuration describes, before its first tick; it needs a namespace for its
gauges. -/
def new? (c : Config) : Option Station :=
  (Gauge.Sink.new? c.metricsNamespace).map fun gauges => { monitor := .ofConfig c, gauges }

/-- One tick: the station after it, what it was, and all that happened in order. -/
def tick (replies : Replies) (s : Station) : Station × Outcome × List Event :=
  let (monitor, outcome, events) := s.monitor.tick replies
  let (gauges, events) := s.gauges.recordAll events
  ({ monitor, gauges }, outcome, events)

/-- What the web is shown. -/
def site (s : Station) : Web.Site where
  nodeName := s.monitor.nodeName
  health := s.monitor.health
  metrics := s.gauges.render Gauge.readingText

/-- The world around a running station. -/
structure World where
  /-- What the collaborators answer at a time. -/
  replies : Nat → Replies
  /-- How long the question for the peers takes, by the number of times it was asked before. -/
  peerDelay : Nat → Nat
  /-- How long any other question takes that is asked at a time. -/
  delay : Call → Nat → Nat := fun _ _ => 0
  /-- Whether a tick that is due at the very moment of the stop is still made. -/
  tickAtStop : Bool := false

namespace World

variable (world : World) (asked : Nat)

/-- When a question that is asked at a time is answered, the peers having been asked for before so
many times. -/
def answeredAt (question : Call) (time : Nat) : Nat :=
  time + match question with
    | .peerCount => world.peerDelay asked
    | question => world.delay question time

/-- What is answered during a tick that starts at a time. Each question is asked as soon as the one
before it is answered, and gets the answer of the moment at which it is answered. -/
def during (start : Nat) : Replies :=
  let chainAt := world.answeredAt asked .chainId start
  let peersAt := world.answeredAt asked .peerCount start
  let numberAt := world.answeredAt asked .blockNumber peersAt
  let blockAt (number : UInt64) := world.answeredAt asked (.blockByNumber number) numberAt
  let blockNumber := (world.replies numberAt).blockNumber
  let remoteFrom := match blockNumber with
    | .ok number => blockAt number
    | .error _ => numberAt
  { chainId := (world.replies chainAt).chainId
    explorerFactory := fun chain =>
      let builtAt := world.answeredAt asked (.explorerFactory chain) chainAt
      (world.replies builtAt).explorerFactory chain
    peerCount := (world.replies peersAt).peerCount
    blockNumber
    blockByNumber := fun number => (world.replies (blockAt number)).blockByNumber number
    remoteBlockNumber := fun explorer =>
      let remoteAt := world.answeredAt asked (.remoteBlockNumber explorer) remoteFrom
      (world.replies remoteAt).remoteBlockNumber explorer }

/-- When each event of a tick happens that begins at a time, and when the last question is answered.
What follows a question happens once it is answered. -/
def stamp (time : Nat) : List Event → List (Nat × Event) × Nat
  | [] => ([], time)
  | e :: rest =>
    let (later, finish) := stamp (match e with
      | .call question => world.answeredAt asked question time
      | _ => time) rest
    ((time, e) :: later, finish)

end World

/-- A running station. -/
structure Progress where
  station : Station
  /-- How often the peers were asked for. -/
  asked : Nat := 0
  /-- What happened so far, and when. -/
  trace : List (Nat × Event) := []
  /-- What was published after each tick, and when. -/
  published : List (Nat × Health) := []

/-- A tick at a time; also how long it takes. -/
def timedTick (world : World) (start : Nat) (p : Progress) : Progress × Nat :=
  let (station, _, events) := p.station.tick (world.during p.asked start)
  let (stamped, finish) := world.stamp p.asked start events
  ({ station
     asked := p.asked + events.count (.call .peerCount)
     trace := p.trace ++ stamped
     published := p.published ++ [(finish, station.monitor.health)] }, finish - start)

/-- Runs the station with a period in seconds until it is told to stop. With a period of zero it
makes no tick. -/
def run (world : World) (seconds : UInt64) (stop : Nat) (s : Station) :
    Schedule.Ending Progress :=
  let first : Progress := { station := s, trace := [(0, .note (.starting seconds))] }
  let ending :=
    if h : 0 < seconds.toNat * 1000 then
      Schedule.run (seconds.toNat * 1000) h ⟨stop, world.tickAtStop⟩ (timedTick world) 0 0 first
    else { state := first, ticks := [], stoppedAt := stop }
  { ending with
    state := { ending.state with
      trace := ending.state.trace ++ [(ending.stoppedAt, .note .shuttingDown)] } }

end Station

end NodeWatch
