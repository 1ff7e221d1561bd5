import NodeWatch.Proofs.Health
import NodeWatch.Proofs.NodeSide

/-!
# The threshold over a run

The threshold decides the verdicts and nothing else. Two runs with the same answers, which differ in
their thresholds alone, are tick by tick of the same kind, know the same of the node, report the
same failures and lags and set the same gauges but the sync gauge. Where the run with the smaller
threshold is in sync, the one with the greater threshold is too.
-/

namespace NodeWatch

namespace Replies

/-- Every node answers the same as itself. -/
theorem SameNode.refl (r : Replies) : SameNode r r :=
  ⟨rfl, rfl, rfl, rfl, fun _ => rfl⟩

end Replies

/-- A greater threshold judges no lag more strictly. -/
theorem Verdict.synced_ofLag_mono {lag t₁ t₂ : UInt64} (h : t₁ ≤ t₂)
    (hsynced : (ofLag lag t₁).synced = true) : (ofLag lag t₂).synced = true := by
  have hlag : lag ≤ t₁ := of_decide_eq_true hsynced
  exact decide_eq_true (UInt64.le_trans hlag h)

/-- The gauge that an event sets or withdraws. -/
def Event.gauge? : Event → Option String
  | .set gauge _ _ | .remove gauge _ => some gauge
  | .call _ | .note _ => none

/-- What events do to the gauges other than the sync gauge, in order. -/
def unjudged (events : List Event) : List Event :=
  (gaugeEvents events).filter fun e => e.gauge? ≠ some Gauge.synced

/-- Of sets of gauges those that are not of the sync gauge are sets too. -/
theorem filter_setAll (labels : Labels) (readings : List (String × Reading)) :
    (setAll labels readings).filter (fun e => e.gauge? ≠ some Gauge.synced) =
      setAll labels (readings.filter fun reading => reading.1 ≠ Gauge.synced) := by
  rw [setAll, setAll, List.filter_map]
  simp only [Function.comp_def, Event.gauge?, ne_eq, Option.some.injEq]

namespace Tick

/-- The readings of a tick but that of the sync gauge, which alone depends on the threshold. -/
theorem readings_unjudged (t : Tick) :
    t.readings.filter (fun reading => reading.1 ≠ Gauge.synced) =
      (t.peers?.map fun n => (Gauge.peers, .count n)).toList ++
        (t.number?.map fun n => (Gauge.blockNumber, .count n)).toList ++
        (t.interval?.map fun n => (Gauge.blockTime, .thousandths n)).toList ++
        (t.lag?.map fun lag => (Gauge.blocksBehind, .whole lag)).toList := by
  rw [readings_eq]
  cases t.peers? <;> cases t.number? <;> cases t.interval? <;> cases t.lag? <;> rfl

/-- What a tick does to the gauges but the sync gauge is to set what it obtained. -/
theorem unjudged_events (t : Tick) :
    unjudged t.events = setAll t.before.labels
      (t.readings.filter fun reading => reading.1 ≠ Gauge.synced) := by
  rw [unjudged, gaugeEvents_events, List.filter_append, filter_setAll]
  cases t.isLoss <;> simp [Event.gauge?]

/-- A tick without a connection has no report. -/
theorem report?_outcome_of_none {t : Tick} (h : t.before.connection = none) :
    t.outcome.report? = none := by
  have hs := t.step
  generalize t.after = after, t.outcome = outcome, t.events = events at hs ⊢
  cases hs with
  | connected | connectFailed => rfl
  | round busy | disconnected busy => simp [h] at busy

/-- The lag that a tick reports is the one that it obtained. -/
theorem blocksBehind_outcome (t : Tick) : t.outcome.report?.bind (·.blocksBehind) = t.lag? := by
  unfold lag?
  cases hc : t.before.connection with
  | none => rw [report?_outcome_of_none hc, Option.bind_none, Option.bind_none]
  | some connection =>
    rw [report?_outcome hc, Option.bind_some, Option.bind_some, Round.blocksBehind_run]

/-- The failures that a tick reports are those of the questions of its round. -/
theorem failures_outcome (t : Tick) :
    t.outcome.report?.map (·.failures) = t.before.connection.map fun connection =>
      (Round.questions t.replies connection.explorer).filterMap t.replies.failure? := by
  cases hc : t.before.connection with
  | none => rw [report?_outcome_of_none hc, Option.map_none, Option.map_none]
  | some connection =>
    rw [report?_outcome hc, Option.map_some, Option.map_some, Round.failures_run]

/-- What is published after a tick is the status after it. -/
theorem health_after (t : Tick) : t.after.health = .ofStatus t.after.status := rfl

/-- The two ticks have all in common but what depends on the verdict, and if the first one ends in
sync, so does the second one. -/
structure Laxer (t₁ t₂ : Tick) : Prop extends SameSide t₁ t₂ where
  blocksBehind : t₁.outcome.report?.bind (·.blocksBehind) =
    t₂.outcome.report?.bind (·.blocksBehind)
  failures : t₁.outcome.report?.map (·.failures) = t₂.outcome.report?.map (·.failures)
  unjudged : unjudged t₁.events = unjudged t₂.events
  synced : t₁.after.status.synced = true → t₂.after.status.synced = true
  /-- Whatever the gauges are, the sync page is answered with 200 after the second tick if it is so
  after the first. -/
  answer : ∀ gauges₁ gauges₂,
    ((Station.site ⟨t₁.after, gauges₁⟩).respond "GET" "/synced").status = 200 →
      ((Station.site ⟨t₂.after, gauges₂⟩).respond "GET" "/synced").status = 200

end Tick

/-- The sync page of a station is answered with 200 if and only if its monitor publishes that the
node is in sync. -/
theorem Station.respond_synced_iff (m : Monitor) (gauges : Gauge.Sink Reading) :
    ((Station.site ⟨m, gauges⟩).respond "GET" "/synced").status = 200 ↔
      m.health.isSynced = true := by
  rw [Web.Site.respond_get .synced (by decide)]
  change (if m.health.isSynced = true then 200 else 503) = 200 ↔ _
  cases m.health.isSynced <;> simp

namespace Monitor

/-- The two monitors differ in their thresholds and verdicts alone, and neither the threshold nor
the verdict of the first one is more favourable. -/
structure Laxer (m₁ m₂ : Monitor) : Prop extends SameSide m₁ m₂ where
  nodeName : m₁.nodeName = m₂.nodeName
  connection : m₁.connection = m₂.connection
  threshold : m₁.threshold ≤ m₂.threshold
  synced : m₁.status.synced = true → m₂.status.synced = true

namespace Laxer

variable {m₁ m₂ : Monitor}

/-- Ticks with the same answers obtain the same lag. -/
theorem lag_eq (h : Laxer m₁ m₂) (r : Replies) : Tick.lag? ⟨m₁, r⟩ = Tick.lag? ⟨m₂, r⟩ := by
  rw [Tick.lag?, Tick.lag?, h.connection]

/-- The verdict after a tick is on the same lag, or it is the one from before. -/
theorem synced_tick (h : Laxer m₁ m₂) (r : Replies)
    (hsynced : (m₁.tick r).1.status.synced = true) : (m₂.tick r).1.status.synced = true := by
  have hv₁ : (m₁.tick r).1.status.verdict = _ := (Tick.memory_after ⟨m₁, r⟩).1
  have hv₂ : (m₂.tick r).1.status.verdict = _ := (Tick.memory_after ⟨m₂, r⟩).1
  rw [Status.synced, hv₁, h.lag_eq] at hsynced
  rw [Status.synced, hv₂]
  cases hlag : Tick.lag? ⟨m₂, r⟩ with
  | none =>
    rw [hlag] at hsynced
    exact h.synced hsynced
  | some lag =>
    rw [hlag] at hsynced
    exact Verdict.synced_ofLag_mono h.threshold hsynced

/-- Ticks with the same answers keep monitors alike but for thresholds and verdicts. -/
theorem tick (h : Laxer m₁ m₂) (r : Replies) : Laxer (m₁.tick r).1 (m₂.tick r).1 where
  toSameSide := h.toSameSide.tick (.refl r)
  nodeName := by
    rw [(settings_tick m₁ r).1, (settings_tick m₂ r).1]
    exact h.nodeName
  connection := by
    have h₁ : (m₁.tick r).1.connection = _ := Tick.connection_after ⟨m₁, r⟩
    have h₂ : (m₂.tick r).1.connection = _ := Tick.connection_after ⟨m₂, r⟩
    rw [h₁, h₂, h.connection]
  threshold := by
    rw [(settings_tick m₁ r).2, (settings_tick m₂ r).2]
    exact h.threshold
  synced := h.synced_tick r

/-- Ticks with the same answers do the same to the gauges other than the sync gauge. -/
theorem unjudged_tick (h : Laxer m₁ m₂) (r : Replies) :
    unjudged (Tick.events ⟨m₁, r⟩) = unjudged (Tick.events ⟨m₂, r⟩) := by
  have hlabels : m₁.labels = m₂.labels := by rw [labels, labels, h.nodeName]
  have hpeers : Tick.peers? ⟨m₁, r⟩ = Tick.peers? ⟨m₂, r⟩ := by
    rw [Tick.peers?, Tick.peers?, h.connection]
  have hnumber : Tick.number? ⟨m₁, r⟩ = Tick.number? ⟨m₂, r⟩ := by
    rw [Tick.number?, Tick.number?, h.connection]
  have hinterval : Tick.interval? ⟨m₁, r⟩ = Tick.interval? ⟨m₂, r⟩ := by
    rw [Tick.interval?, Tick.interval?, Tick.block?, Tick.block?, h.connection, h.lastBlock]
  rw [Tick.unjudged_events, Tick.unjudged_events, Tick.readings_unjudged, Tick.readings_unjudged,
    hlabels, hpeers, hnumber, hinterval, h.lag_eq]

/-- If the first monitor publishes after a tick that the node is in sync, so does the second. -/
theorem isSynced_tick (h : Laxer m₁ m₂) (r : Replies)
    (hsynced : (m₁.tick r).1.health.isSynced = true) : (m₂.tick r).1.health.isSynced = true := by
  have h₁ : (m₁.tick r).1.health = _ := Tick.health_after ⟨m₁, r⟩
  have h₂ : (m₂.tick r).1.health = _ := Tick.health_after ⟨m₂, r⟩
  rw [h₁] at hsynced
  rw [h₂]
  obtain ⟨hconnected, hverdict⟩ := Bool.and_eq_true_iff.mp hsynced
  exact Bool.and_eq_true_iff.mpr
    ⟨(h.tick r).connected.symm.trans hconnected, h.synced_tick r hverdict⟩

/-- Ticks with the same answers differ in what depends on the verdict alone. -/
theorem laxer_ticks (h : Laxer m₁ m₂) (r : Replies) : Tick.Laxer ⟨m₁, r⟩ ⟨m₂, r⟩ where
  toSameSide := h.toSameSide.sameSide_ticks (.refl r)
  blocksBehind := by
    rw [Tick.blocksBehind_outcome, Tick.blocksBehind_outcome]
    exact h.lag_eq r
  failures := by
    rw [Tick.failures_outcome, Tick.failures_outcome, h.connection]
  unjudged := h.unjudged_tick r
  synced := h.synced_tick r
  answer gauges₁ gauges₂ hanswer := by
    rw [Station.respond_synced_iff] at hanswer ⊢
    exact h.isSynced_tick r hanswer

end Laxer

/-- A greater threshold changes nothing of a run but its verdicts, and these only to the better: if
two runs with the same answers have configurations that differ in the threshold alone, then every
two ticks of the same number are of the same kind, end with the same connection flag, chain, streak
and last block, report the same lag and the same failures, and set the same gauges but the sync
gauge to the same values. If the run with the smaller threshold has a good verdict after the tick,
the other one has it too, and if the sync page is answered with 200 there, it is answered with 200
here. -/
theorem laxer_runs (c : Config) {smaller greater : UInt64} (h : smaller ≤ greater)
    (script : List Replies) :
    List.Forall₂ Tick.Laxer ((ofConfig { c with syncThreshold := smaller }).ticks script)
      ((ofConfig { c with syncThreshold := greater }).ticks script) := by
  have hstart : Laxer (ofConfig { c with syncThreshold := smaller })
      (ofConfig { c with syncThreshold := greater }) :=
    { connected := rfl, chain := rfl, lastBlock := rfl, streak := rfl, nodeName := rfl,
      connection := rfl, threshold := h, synced := id }
  have hscripts : List.Forall₂ Eq script script := List.forall₂_refl script
  refine forall₂_ticks (fun m₁ m₂ r₁ r₂ hm hr => ?_) hscripts hstart
  subst hr
  exact ⟨hm.laxer_ticks r₁, hm.tick r₁⟩

/-- With a lag of two blocks a threshold of five leaves a run in sync in which a threshold of two
does. -/
theorem laxer_of_healthy :
    (2 : UInt64) ≤ 5 ∧
      let c : Config := { nodeName := "parity", endpoint := "localhost" }
      let m := ofConfig { c with syncThreshold := 5 }
      ((Station.site ⟨m.after [.healthy, .healthy], { space := "monitor" }⟩).respond "GET"
        "/synced").status = 200 := by
  have hle : (2 : UInt64) ≤ 5 := by decide
  refine ⟨hle, ?_⟩
  intro c m
  obtain _ | ⟨-, _ | ⟨hsecond, -⟩⟩ := laxer_runs c hle [.healthy, .healthy]
  exact hsecond.answer { space := "monitor" } { space := "monitor" } (by decide)

end Monitor

end NodeWatch
