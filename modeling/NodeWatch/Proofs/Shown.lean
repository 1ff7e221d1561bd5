import NodeWatch.Proofs.Record

/-!
# What the gauges show after a run

A gauge shows what was read of it last, however long ago and whatever failed since. The sync gauge
alone shows less: nothing while there is no connection, and only what was read since the connection
was made while there is one.
-/

namespace NodeWatch

namespace Tick

/-- A tick sets and withdraws gauges of its own node only. -/
theorem ofNode_events (t : Tick) : ∀ e ∈ t.events, e.OfNode t.before.nodeName := by
  intro e he
  have hmem (hgauge : e.isGaugeEvent = true) : e ∈ gaugeEvents t.events :=
    List.mem_filter.mpr ⟨he, hgauge⟩
  rw [t.gaugeEvents_events, List.mem_append] at hmem
  cases e with
  | set gauge labels value =>
    rcases hmem rfl with hset | hloss
    · obtain ⟨reading, hreading, heq⟩ := List.mem_map.mp hset
      cases heq
      exact ⟨t.names_readings.2 reading hreading, rfl⟩
    · split at hloss <;> simp at hloss
  | remove gauge labels =>
    rcases hmem rfl with hset | hloss
    · obtain ⟨reading, -, heq⟩ := List.mem_map.mp hset
      cases heq
    · split at hloss
      · obtain ⟨rfl, rfl⟩ : gauge = Gauge.synced ∧ labels = t.before.labels := by simpa using hloss
        rfl
      · simp at hloss
  | call | note => trivial

/-- Without a connection nothing is read. -/
theorem reading?_of_none {t : Tick} (h : t.before.connection = none) (name : String) :
    t.reading? name = none := by
  simp only [reading?, readings, h, Option.elim_none, List.lookup_nil]

/-- After a tick a gauge shows what the tick read of it, or else what it showed before; the sync
gauge shows nothing if the connection was lost. -/
theorem showing_events (t : Tick) (name : String) (shown : Option Reading) :
    showing name shown t.events =
      if name = Gauge.synced ∧ t.isLoss = true then none else (t.reading? name).or shown := by
  rw [← showing_gaugeEvents, gaugeEvents_events, showing_append, showing_setAll t.names_readings.1]
  cases t.isLoss with
  | false => simp [reading?]
  | true => simp [Event.shows, reading?, eq_comm (a := Gauge.synced)]

end Tick

/-- The ticks since the latest one that made a connection. -/
def sinceConnected (ticks : List Tick) : List Tick :=
  ticks.rtakeWhile fun t => t.resolvedChain?.isNone

theorem sinceConnected_concat (ticks : List Tick) (t : Tick) :
    sinceConnected (ticks ++ [t]) =
      if t.resolvedChain?.isNone then sinceConnected ticks ++ [t] else [] :=
  List.rtakeWhile_concat _ _ _

/-- What was obtained last since the connection was made was obtained last in the run. -/
theorem latest_of_latest_sinceConnected {α : Type} {obtained : Tick → Option α}
    {ticks : List Tick} {a : α} (h : latest obtained (sinceConnected ticks) = some a) :
    latest obtained ticks = some a := by
  have hsplit : ticks.rdropWhile (fun t => t.resolvedChain?.isNone) ++ sinceConnected ticks =
      ticks := List.rdropWhile_append_rtakeWhile
  rw [← hsplit, latest_append, h, Option.some_or]

/-- The ticks since the connection was made are among the ticks. -/
theorem sinceConnected_subset (ticks : List Tick) : sinceConnected ticks ⊆ ticks :=
  (List.rtakeWhile_suffix _ _).subset

/-- The gauges of a station show what the ticks read. -/
structure Station.Shows (ticks : List Tick) (s : Station) : Prop where
  ofNode : Gauge.Sink.OfNode s.monitor.nodeName s.gauges
  reading : ∀ name ≠ Gauge.synced,
    s.gauges.value? s.monitor.nodeName name = latest (Tick.reading? name) ticks
  synced : s.gauges.value? s.monitor.nodeName Gauge.synced =
    if s.monitor.connection.isSome then
      latest (Tick.reading? Gauge.synced) (sinceConnected ticks)
    else none

namespace Station

/-- Before the first tick nothing is shown. -/
theorem shows_of_new? {c : Config} {s : Station} (h : new? c = some s) : Shows [] s := by
  obtain ⟨gauges, hgauges, rfl⟩ := Option.map_eq_some_iff.mp h
  obtain ⟨hof, -, hnone⟩ := Gauge.Sink.ofNode_of_new? c.nodeName hgauges
  exact { ofNode := hof, reading := fun name _ => hnone name, synced := hnone Gauge.synced }

/-- What the tick of a station makes of its gauges. -/
theorem Shows.gauges_tick {ticks : List Tick} {s : Station} (h : Shows ticks s) (r : Replies) :
    Gauge.Sink.OfNode s.monitor.nodeName (s.tick r).1.gauges ∧
      ∀ name, (s.tick r).1.gauges.value? s.monitor.nodeName name =
        showing name (s.gauges.value? s.monitor.nodeName name) (Tick.events ⟨s.monitor, r⟩) := by
  obtain ⟨hof, hvalue, -⟩ := h.ofNode.recordAll (Tick.ofNode_events ⟨s.monitor, r⟩)
  exact ⟨hof, hvalue⟩

/-- Every tick keeps the gauges in step with what the ticks read. -/
theorem Shows.tick {ticks : List Tick} {s : Station} (h : Shows ticks s) (r : Replies) :
    Shows (ticks ++ [⟨s.monitor, r⟩]) (s.tick r).1 := by
  have hname : (s.tick r).1.monitor.nodeName = s.monitor.nodeName :=
    (s.monitor.settings_tick r).1
  obtain ⟨hof, hvalue⟩ := h.gauges_tick r
  simp only [Tick.showing_events] at hvalue
  refine { ofNode := ?_, reading := fun name hne => ?_, synced := ?_ }
  · rw [hname]
    exact hof
  · rw [hname, hvalue, latest_concat, h.reading name hne]
    simp only [hne, false_and, if_false]
  rw [hname, hvalue, h.synced, sinceConnected_concat]
  have hidle (idle : s.monitor.connection = none) :=
    Tick.reading?_of_none (t := ⟨s.monitor, r⟩) idle Gauge.synced
  have hs := Tick.step ⟨s.monitor, r⟩
  change _ = if (Tick.after ⟨s.monitor, r⟩).connection.isSome then _ else _
  unfold Tick.isLoss Tick.resolvedChain?
  generalize Tick.after ⟨s.monitor, r⟩ = after, Tick.outcome ⟨s.monitor, r⟩ = outcome,
    Tick.events ⟨s.monitor, r⟩ = events at hs ⊢
  cases hs with
  | connected idle =>
    replace idle : s.monitor.connection = none := idle
    simp [hidle idle, idle]
  | connectFailed idle =>
    replace idle : s.monitor.connection = none := idle
    simp [hidle idle, idle, Monitor.publish]
  | round busy =>
    replace busy : s.monitor.connection = some _ := busy
    simp [busy, Monitor.publish, latest_concat]
  | disconnected busy => simp [Monitor.publish]

/-- The gauges of a station show what was read in its run. -/
theorem shows_after {c : Config} {s : Station} (h : new? c = some s) (script : List Replies) :
    Shows (s.monitor.ticks script) (s.after script) := by
  induction script using List.reverseRecOn with
  | nil => exact shows_of_new? h
  | append_singleton script r ih =>
    rw [Monitor.ticks_concat, after_concat, ← monitor_after]
    exact ih.tick r

/-- The namespace of the gauges stays what it is. -/
theorem space_after (s : Station) (script : List Replies) :
    (s.after script).gauges.space = s.gauges.space := by
  induction script using List.reverseRecOn with
  | nil => rfl
  | append_singleton script r ih =>
    rw [after_concat, gauges_tick, Gauge.Sink.space_recordAll, ih]

end Station

namespace Monitor

/-- The times between blocks that the ticks of a run read are those between the blocks that it
obtained. -/
theorem latest_interval? (c : Config) (script : List Replies) :
    latest Tick.interval? ((ofConfig c).ticks script) =
      (Block.intervals (((ofConfig c).ticks script).filterMap Tick.block?)).getLast? := by
  induction script using List.reverseRecOn with
  | nil => rfl
  | append_singleton script r ih =>
    let t : Tick := ⟨(ofConfig c).after script, r⟩
    have hlast : t.before.status.lastBlock = latest Tick.block? ((ofConfig c).ticks script) :=
      lastBlock_after c script
    rw [ticks_concat, latest_concat, ih, List.filterMap_append]
    change (t.block?.bind fun block => t.before.status.lastBlock.map block.millisSince).or _ =
      (Block.intervals (_ ++ [t].filterMap Tick.block?)).getLast?
    cases hblock : t.block? with
    | none => simp [hblock]
    | some block =>
      rw [hlast, List.filterMap_cons_some hblock, List.filterMap_nil, Block.intervals_concat,
        List.getLast?_append, Option.bind_some, latest]
      cases (((ofConfig c).ticks script).filterMap Tick.block?).getLast? <;> rfl

/-- What the sync gauge reads of a lag. -/
theorem latest_synced (c : Config) (script : List Replies) :
    latest (Tick.reading? Gauge.synced) (sinceConnected ((ofConfig c).ticks script)) =
      (latest Tick.lag? (sinceConnected ((ofConfig c).ticks script))).map fun lag =>
        .flag (decide (lag.natAbs ≤ c.syncThreshold.toNat)) := by
  rw [← latest_map]
  refine latest_congr _ fun t ht => ?_
  have hthreshold : t.before.threshold = c.syncThreshold :=
    threshold_of_mem_ticks (sinceConnected_subset _ ht)
  rw [t.reading?_eq.2.2.2.2, hthreshold]
  refine Option.map_congr fun lag hlag => ?_
  rw [Verdict.synced_ofLag (Tick.natAbs_lt_of_lag? hlag)]

end Monitor

end NodeWatch
