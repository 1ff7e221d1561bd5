import NodeWatch.Connection

/-!
# The monitor

The monitor lives from tick to tick. A tick without a connection makes one attempt to connect; a
tick with one makes a gathering round. A round in which the node refused to be asked ends the
connection and withdraws the sync gauge, since a verdict must not be scraped while the node is down;
all other failures leave the connection. At the end of every tick the connection state and the last
verdict are published for the health endpoint.
-/

namespace NodeWatch

/-- What is published for those who ask about the health of the node. -/
structure Health where
  connected : Bool := false
  /-- The last verdict, connected or not. -/
  lastSynced : Bool := false
  deriving DecidableEq, Repr

namespace Health

/-- Whether the node is known to be in sync: connected, and with a good last verdict. -/
def isSynced (h : Health) : Bool := h.connected && h.lastSynced

/-- What a status publishes. -/
def ofStatus (s : Status) : Health := ⟨s.connected, s.synced⟩

end Health

/-- What one tick did. -/
inductive Outcome
  | connected (chain : Chain)
  | connectFailed (cause : ConnectError)
  | round (report : Report)
  /-- A round found the node down, and the connection is gone. -/
  | disconnected (report : Report)
  deriving DecidableEq, Repr

/-- The monitor between two ticks. -/
structure Monitor where
  nodeName : String
  /-- The greatest lag at which the node still counts as in sync. -/
  threshold : UInt64
  status : Status := {}
  connection : Option Connection := none
  streak : Streak := {}
  health : Health := {}
  deriving DecidableEq, Repr

namespace Monitor

/-- The labels of all its gauges. -/
def labels (m : Monitor) : Labels := Gauge.nodeLabels m.nodeName

/-- The chain of the present connection. -/
def chain? (m : Monitor) : Option Chain := m.connection.map (·.chain)

/-- Publishes the status. -/
def publish (m : Monitor) : Monitor := { m with health := .ofStatus m.status }

/-- A tick without a connection. -/
def connect (replies : Replies) (m : Monitor) : Monitor × Outcome × List Event :=
  let (streak, result, events) := Connection.attempt replies m.streak
  match result with
  | .ok connection =>
    ({ m with
        streak, connection := some connection, status := { m.status with connected := true } },
      .connected connection.chain, events ++ [.note .connected])
  | .error cause =>
    ({ m with streak }, .connectFailed cause, events ++ [.note (.connectFailed cause)])

/-- A tick with a connection. -/
def gather (replies : Replies) (connection : Connection) (m : Monitor) :
    Monitor × Outcome × List Event :=
  let (status, report, events) :=
    Round.run replies connection.explorer m.labels m.threshold m.status
  if report.isOk then
    ({ m with status }, .round report, events ++ [.note .roundClean])
  else if report.isConnectionRefused then
    ({ m with connection := none, status := { status with connected := false } },
      .disconnected report,
      events ++ [.note (.roundFailed report), .note .nodeDown, .remove Gauge.synced m.labels])
  else
    ({ m with status }, .round report, events ++ [.note (.roundFailed report)])

/-- One tick: the monitor after it, what it was, and all it did in order. -/
def tick (replies : Replies) (m : Monitor) : Monitor × Outcome × List Event :=
  let (after, outcome, events) := match m.connection with
    | none => m.connect replies
    | some connection => m.gather replies connection
  (after.publish, outcome, events)

end Monitor

end NodeWatch
