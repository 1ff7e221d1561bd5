import NodeWatch.Proofs.Connection

/-!
# The course of a tick

What a tick is and what it makes of the connection is decided by a few of the answers it gets:
without a connection by whether one can be made, and with one by whether the node refuses one of the
questions that the round asks of it. The explorer's answers, the threshold and what is remembered of
the node have no part in it.
-/

namespace NodeWatch

/-- Whether a round finds the node down: one of the questions it asks of the node is refused. -/
def Replies.isDown (r : Replies) : Bool :=
  (errorOf? r.peerCount).any (·.isConnectionRefused) ||
    (errorOf? r.blockNumber).any (·.isConnectionRefused) ||
    r.blockNumber.toOption.any fun number =>
      (errorOf? (r.blockByNumber number)).any (·.isConnectionRefused)

/-- The report of a round says that the node is down exactly if one of its questions was refused. -/
theorem Round.isConnectionRefused_run (r : Replies) (explorer : ExplorerId) (labels : Labels)
    (threshold : UInt64) (status : Status) :
    (run r explorer labels threshold status).2.1.isConnectionRefused = r.isDown := by
  rw [Report.isConnectionRefused, failures_run]
  cases hn : r.blockNumber with
  | error e =>
    cases hp : r.peerCount <;>
      simp [questions, Replies.isDown, Replies.failure?, hn, hp, errorOf?, Except.toOption,
        Cause.isConnectionRefused]
  | ok number =>
    cases hp : r.peerCount <;> cases hb : r.blockByNumber number <;>
      cases hr : r.remoteBlockNumber explorer <;>
      simp [questions, Replies.isDown, Replies.failure?, hn, hp, hb, hr, errorOf?,
        Except.toOption, Cause.isConnectionRefused]

/-- What the report of a round says of the node when the round left it behind. -/
theorem Round.isDown_of_run {r : Replies} {explorer : ExplorerId} {labels : Labels}
    {threshold : UInt64} {status after : Status} {report : Report} {events : List Event}
    (run : Round.run r explorer labels threshold status = (after, report, events)) :
    r.isDown = report.isConnectionRefused := by
  have h := isConnectionRefused_run r explorer labels threshold status
  rw [run] at h
  exact h.symm

/-- The kinds of ticks. -/
inductive Outcome.Kind
  | connected
  | connectFailed
  | round
  | disconnected
  deriving DecidableEq, Repr

/-- What kind of tick it was. -/
def Outcome.kind : Outcome → Kind
  | connected _ => .connected
  | connectFailed _ => .connectFailed
  | round _ => .round
  | disconnected _ => .disconnected

/-- The report of the round that the tick was. -/
def Outcome.report? : Outcome → Option Report
  | round report | disconnected report => some report
  | connected _ | connectFailed _ => none

/-- The streak after an attempt in which the node gave this answer about its chain. -/
def Streak.heard (s : Streak) : Except NodeError String → Streak
  | .error _ => clear
  | .ok id => if (Chain.ofId? id).isSome then clear else s.record id

/-- The factory of explorer clients has no part in the streak. -/
theorem Connection.streak_attempt (r : Replies) (streak : Streak) :
    (attempt r streak).1 = streak.heard r.chainId := by
  cases hid : r.chainId with
  | error e => simp [attempt, hid, Streak.heard]
  | ok id =>
    cases hc : Chain.ofId? id with
    | none => simp [attempt, hid, hc, Streak.heard]
    | some chain => cases hf : r.explorerFactory chain <;> simp [attempt, hid, hc, hf, Streak.heard]

namespace Tick

/-- The kind of a tick. -/
theorem kind_outcome (t : Tick) :
    t.outcome.kind = t.before.connection.elim
      (if t.replies.connection?.isSome then .connected else .connectFailed)
      fun _ => if t.replies.isDown then .disconnected else .round := by
  have h := t.step
  generalize t.after = after, t.outcome = outcome, t.events = events at h ⊢
  cases h with
  | connected idle made => simp [idle, made, Outcome.kind]
  | connectFailed idle unmade => simp [idle, unmade, Outcome.kind]
  | round busy run refused | disconnected busy run refused =>
    simp [busy, Round.isDown_of_run run, refused, Outcome.kind]

/-- A tick makes a connection if there is none, and loses the one there is if the node is down. -/
theorem connection_after (t : Tick) :
    t.after.connection = t.before.connection.elim t.replies.connection?
      fun connection => if t.replies.isDown then none else some connection := by
  have h := t.step
  generalize t.after = after, t.outcome = outcome, t.events = events at h ⊢
  cases h with
  | connected idle made => simp [idle, made, Monitor.publish]
  | connectFailed idle unmade => simp [idle, unmade, Monitor.publish]
  | round busy run refused | disconnected busy run refused =>
    simp [busy, Round.isDown_of_run run, refused, Monitor.publish]

/-- The connection flag is raised by a connection that is made and lowered by a node that is
down. -/
theorem connected_after (t : Tick) :
    t.after.status.connected = t.before.connection.elim
      (t.before.status.connected || t.replies.connection?.isSome)
      fun _ => t.before.status.connected && !t.replies.isDown := by
  have h := t.step
  generalize t.after = after, t.outcome = outcome, t.events = events at h ⊢
  cases h with
  | connected idle made => simp [idle, made, Monitor.publish]
  | connectFailed idle unmade => simp [idle, unmade, Monitor.publish]
  | round busy run refused | disconnected busy run refused =>
    simp [busy, Round.isDown_of_run run, refused, Monitor.publish, Monitor.connected_run run]

/-- Only attempts to connect count for the streak. -/
theorem streak_after (t : Tick) :
    t.after.streak = t.before.connection.elim (t.before.streak.heard t.replies.chainId)
      fun _ => t.before.streak := by
  have h := t.step
  generalize t.after = after, t.outcome = outcome, t.events = events at h ⊢
  cases h with
  | connected idle _ attempt | connectFailed idle _ attempt =>
    have hstreak := Connection.streak_attempt t.replies t.before.streak
    rw [attempt] at hstreak
    rw [idle]
    exact hstreak
  | round busy | disconnected busy => simp [busy, Monitor.publish]

/-- The report of a tick with a connection is that of its round. -/
theorem report?_outcome {t : Tick} {connection : Connection}
    (h : t.before.connection = some connection) :
    t.outcome.report? = some (Round.run t.replies connection.explorer t.before.labels
      t.before.threshold t.before.status).2.1 := by
  have hs := t.step
  generalize t.after = after, t.outcome = outcome, t.events = events at hs ⊢
  cases hs with
  | connected idle | connectFailed idle => simp [h] at idle
  | round busy run | disconnected busy run =>
    obtain rfl := Option.some.inj (h.symm.trans busy)
    rw [run]
    rfl

end Tick

end NodeWatch
