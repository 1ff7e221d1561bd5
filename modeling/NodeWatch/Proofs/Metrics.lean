import NodeWatch.Proofs.Health
import NodeWatch.Proofs.Shown

/-!
# The metrics of a node

What a scrape finds between two ticks. Each gauge has at most one series, that of the node, and the
text is made of these series alone. All gauges but one carry the value that was computed last in the
whole run; the sync gauge is there only while it tells what the health endpoint tells.
-/

namespace NodeWatch

namespace Gauge

/-- All series of a table: the gauge, the labels and the value of each. -/
def Sink.series {α : Type} (s : Sink α) : List (String × Labels × α) :=
  s.exported.flatMap fun family => family.2.series.map fun series =>
    (family.1, family.2.labelNames.zip series.1, series.2)

/-- A label value as it is written out. -/
def escaped (value : String) : String := String.ofList (value.toList.flatMap escape)

/-- The text of a gauge of a node. -/
def nodeText (space nodeName gauge : String) (value : Reading) : String :=
  s!"# HELP {space}_{gauge} Node monitor gauge {gauge}\n# TYPE {space}_{gauge} gauge\n" ++
    s!"{space}_{gauge}\x7bnode=\"{escaped nodeName}\"\x7d {readingText value}\n"

/-- A gauge that has the series of the node alone is written out as the text of that series. -/
theorem familyText_nodeFamily (space nodeName gauge : String) (value : Reading) :
    familyText readingText space (gauge, nodeFamily nodeName (some value)) =
      (nodeText space nodeName gauge value).toList := by
  have hopen : "\x7bnode=\"".toList = '\x7b' :: ("node".toList ++ ['=', '"']) := by decide
  have hclose : "\"\x7d ".toList = ['"', '\x7d', ' '] := by decide
  have hline : "\n".toList = ['\n'] := by decide
  unfold familyText nodeFamily nodeText
  simp only [Option.map_some, Option.toList_some, List.flatMap_cons, List.flatMap_nil, seriesText,
    List.zip_cons_cons, List.zip_nil_left, labelsText, List.map_cons, List.map_nil,
    List.intercalate_singleton, labelText, escaped, toString, String.toList_append,
    String.toList_ofList, hopen, hclose, hline, List.append_assoc, List.cons_append,
    List.nil_append, List.append_nil]

namespace Sink

variable {nodeName : String}

/-- What is shown of the gauges of a node, in the order of their names. -/
def shown {α : Type} (s : Sink α) (nodeName : String) : List (String × α) :=
  Entries.tabulate names (s.value? nodeName)

theorem mem_shown {α : Type} {s : Sink α} {gauge : String} {v : α} :
    (gauge, v) ∈ s.shown nodeName ↔ gauge ∈ names ∧ s.value? nodeName gauge = some v := by
  simp only [shown, Entries.tabulate, List.mem_filterMap, Option.map_eq_some_iff, Prod.mk.injEq,
    exists_eq_right_right]

theorem OfNode.exported_eq_map {α : Type} {s : Sink α} (h : OfNode nodeName s) :
    s.exported =
      (s.shown nodeName).map fun (gauge, v) => (gauge, nodeFamily nodeName (some v)) := by
  rw [h.exported, shown, Entries.tabulate, Entries.tabulate, List.map_filterMap]
  simp only [Option.map_map, Function.comp_def]

/-- The series of the gauges of a node are those that are shown. -/
theorem OfNode.series_eq {α : Type} {s : Sink α} (h : OfNode nodeName s) :
    s.series = (s.shown nodeName).map fun (gauge, v) => (gauge, [("node", nodeName)], v) := by
  rw [series, h.exported_eq_map, List.flatMap_map]
  exact List.flatMap_pure_eq_map _ _

/-- The text of the gauges of a node is made of the text of those that are shown. -/
theorem OfNode.render_eq {s : Sink Reading} (h : OfNode nodeName s) :
    s.render readingText =
      String.join ((s.shown nodeName).map fun (gauge, v) => nodeText s.space nodeName gauge v) := by
  rw [render, h.exported_eq_map, List.flatMap_map, ← String.toList_inj, String.toList_ofList,
    String.toList_join, List.flatMap_map]
  simp only [familyText_nodeFamily]

end Sink

end Gauge

/-- What the ticks of a run computed last for each gauge, the sync gauge taken as given. -/
def lastKnown (ticks : List Tick) (verdict : Option Reading) : List (String × Reading) :=
  [("blockNumber", (latest Tick.number? ticks).map .count),
    ("blocksbehind", (latest Tick.lag? ticks).map .whole),
    ("blocktime", (Block.intervals (ticks.filterMap Tick.block?)).getLast?.map .thousandths),
    ("peers", (latest Tick.peers? ticks).map .count),
    ("synced", verdict)].filterMap fun (gauge, value) => value.map fun v => (gauge, v)

namespace Station

variable {c : Config} {s : Station}

/-- What a scrape may tell of the sync state after a run: the verdict on the latest lag since the
connection was made, and nothing without a connection. -/
def scrapedVerdict (s : Station) (script : List Replies) : Option Bool :=
  if (s.after script).monitor.connection.isSome then
    (latest Tick.lag? (sinceConnected (s.monitor.ticks script))).map fun lag =>
      decide (lag.natAbs ≤ s.monitor.threshold.toNat)
  else none

/-- A station keeps the name of its node. -/
theorem nodeName_after (h : new? c = some s) (script : List Replies) :
    (s.after script).monitor.nodeName = c.nodeName := by
  rw [monitor_after, monitor_of_new? h]
  exact (Monitor.settings_after (.ofConfig c) script).1

/-- The table of gauges stays that of its node. -/
theorem ofNode_after (h : new? c = some s) (script : List Replies) :
    Gauge.Sink.OfNode c.nodeName (s.after script).gauges := by
  rw [← nodeName_after h script]
  exact (shows_after h script).ofNode

/-- A gauge other than the sync gauge shows what was obtained last of that which it is read from. -/
theorem value?_eq_map_latest (h : new? c = some s) (script : List Replies) {name : String}
    (hne : name ≠ Gauge.synced) {α : Type} {obtained : Tick → Option α} {reading : α → Reading}
    (hreading : ∀ t, t.reading? name = (obtained t).map reading) :
    (s.after script).gauges.value? c.nodeName name =
      (latest obtained (s.monitor.ticks script)).map reading := by
  rw [← nodeName_after h script, (shows_after h script).reading name hne, ← latest_map]
  exact latest_congr _ fun t _ => hreading t

/-- The sync gauge shows what a scrape may tell. -/
theorem value?_synced (h : new? c = some s) (script : List Replies) :
    (s.after script).gauges.value? c.nodeName Gauge.synced =
      (s.scrapedVerdict script).map .flag := by
  rw [← nodeName_after h script, (shows_after h script).synced, scrapedVerdict,
    monitor_of_new? h, Monitor.latest_synced]
  split
  · rw [Option.map_map]
    rfl
  · rfl

/-- What is shown after a run is what was computed last. -/
theorem shown_after (h : new? c = some s) (script : List Replies) :
    (s.after script).gauges.shown c.nodeName =
      lastKnown (s.monitor.ticks script) ((s.scrapedVerdict script).map .flag) := by
  have hnumber := value?_eq_map_latest h script (by decide) fun t => t.reading?_eq.1
  have hlag := value?_eq_map_latest h script (by decide) fun t => t.reading?_eq.2.1
  have htime := value?_eq_map_latest h script (by decide) fun t => t.reading?_eq.2.2.1
  have hpeers := value?_eq_map_latest h script (by decide) fun t => t.reading?_eq.2.2.2.1
  rw [monitor_of_new? h, Monitor.latest_interval?, ← monitor_of_new? h] at htime
  simp only [Gauge.Sink.shown, Entries.tabulate, Gauge.names, List.filterMap_cons, hnumber, hlag,
    htime, hpeers, value?_synced h script]
  rfl

/-- The sync gauge is scraped exactly while there is a connection that obtained a lag. -/
theorem isSome_scrapedVerdict_iff (s : Station) (script : List Replies) :
    (s.scrapedVerdict script).isSome = true ↔
      (s.after script).monitor.connection.isSome = true ∧
        ∃ t ∈ sinceConnected (s.monitor.ticks script), t.lag?.isSome = true := by
  rw [← isSome_latest_iff, scrapedVerdict]
  split
  · rename_i hconnected
    simp only [Option.isSome_map, hconnected, true_and]
  · rename_i hidle
    simp only [Option.isSome_none, Bool.false_eq_true, hidle, false_and]

/-- A scraped verdict is that of the health endpoint. -/
theorem isSynced_of_scrapedVerdict (h : new? c = some s) {script : List Replies} {verdict : Bool}
    (hv : s.scrapedVerdict script = some verdict) :
    (s.after script).monitor.health.isSynced = verdict := by
  have hm : s.monitor = .ofConfig c := monitor_of_new? h
  simp only [scrapedVerdict, monitor_after, hm] at hv ⊢
  rw [Monitor.isSynced_after]
  split at hv
  · rename_i hconnected
    obtain ⟨lag, hlag, rfl⟩ := Option.map_eq_some_iff.mp hv
    rw [hconnected, Bool.true_and, latest_of_latest_sinceConnected hlag]
    rfl
  · cases hv

/-- The series of the sync gauge after a run. -/
theorem mem_series_synced_iff (h : new? c = some s) (script : List Replies) (labels : Labels)
    (v : Reading) :
    ("synced", labels, v) ∈ (s.after script).gauges.series ↔
      labels = [("node", c.nodeName)] ∧ ∃ verdict, s.scrapedVerdict script = some verdict ∧
        v = .flag verdict := by
  have hsynced := value?_synced h script
  rw [(ofNode_after h script).series_eq, List.mem_map]
  constructor
  · rintro ⟨⟨gauge, value⟩, hmem, heq⟩
    cases heq
    have hv := (Gauge.Sink.mem_shown.mp hmem).2.symm.trans hsynced
    obtain ⟨verdict, hverdict, rfl⟩ := Option.map_eq_some_iff.mp hv.symm
    exact ⟨rfl, verdict, hverdict, rfl⟩
  · rintro ⟨rfl, verdict, hverdict, rfl⟩
    refine ⟨("synced", .flag verdict), Gauge.Sink.mem_shown.mpr ⟨by decide, ?_⟩, rfl⟩
    rw [hverdict] at hsynced
    exact hsynced

/-- The text of the metrics after a run is that of its series. -/
theorem respond_metrics (h : new? c = some s) (script : List Replies) :
    ((s.after script).site.respond "GET" "/metrics").body =
      String.join (((s.after script).gauges.shown c.nodeName).map fun (gauge, v) =>
        Gauge.nodeText c.metricsNamespace c.nodeName gauge v) := by
  obtain ⟨gauges, hgauges, rfl⟩ := Option.map_eq_some_iff.mp h
  obtain ⟨-, hspace, -⟩ := Gauge.Sink.ofNode_of_new? c.nodeName hgauges
  rw [Web.Site.respond_get .metrics (by decide), ← hspace,
    ← space_after ⟨.ofConfig c, gauges⟩ script]
  exact (ofNode_after h script).render_eq

/-- Setting a gauge is never refused in a run, whatever the node is called. -/
theorem isUnset_of_mem_notices (h : new? c = some s) (script : List Replies) (r : Replies) :
    ∀ notice ∈ notices ((s.after script).tick r).2.2, notice.isUnset = false := by
  intro notice hnotice
  have hrecorded := ((shows_after h script).ofNode.recordAll
    (Tick.ofNode_events ⟨(s.after script).monitor, r⟩)).2.2
  rcases hrecorded _ (mem_notices.mp hnotice) with hevent | ⟨gauge, hunremoved⟩
  · exact Tick.isUnset_of_mem_notices _ _ (mem_notices.mpr hevent)
  · cases hunremoved
    rfl

/-- After every run each gauge but the sync gauge has a series exactly if its value was computed in
the run, and that is the only one, with the label of the node and the value that was computed last.
No other series is in the metrics, whose text is made of these. Setting a gauge is never refused. -/
theorem metrics_eq_lastKnown (h : new? c = some s) (script : List Replies) :
    (∃ verdict : Option Reading,
      (s.after script).gauges.series =
          (lastKnown (s.monitor.ticks script) verdict).map
            (fun (gauge, v) => (gauge, [("node", c.nodeName)], v)) ∧
        ((s.after script).site.respond "GET" "/metrics").body =
          String.join ((lastKnown (s.monitor.ticks script) verdict).map fun (gauge, v) =>
            Gauge.nodeText c.metricsNamespace c.nodeName gauge v)) ∧
      ∀ r gauge fault,
        .note (.gaugeUnregistered gauge fault) ∉ ((s.after script).tick r).2.2 ∧
          .note (.gaugeUnset gauge fault) ∉ ((s.after script).tick r).2.2 := by
  have hunset (r : Replies) (notice : Notice)
      (hmem : .note notice ∈ ((s.after script).tick r).2.2) : notice.isUnset = false :=
    isUnset_of_mem_notices h script r notice (mem_notices.mpr hmem)
  refine ⟨⟨(s.scrapedVerdict script).map .flag, ?_, ?_⟩, fun r gauge fault => ⟨?_, ?_⟩⟩
  · rw [(ofNode_after h script).series_eq, shown_after h]
  · rw [respond_metrics h, shown_after h]
  · intro hmem
    cases hunset r _ hmem
  · intro hmem
    cases hunset r _ hmem

/-- The number of peers is kept when the node refuses to tell it again. -/
theorem peers_scraped_after_refused_peerCount :
    ∃ s, new? { nodeName := "parity", endpoint := "localhost" } = some s ∧
      ("peers", [("node", "parity")], Reading.count 25) ∈
        (s.after [.healthy, .healthy, .refusing]).gauges.series := by
  refine ⟨_, rfl, ?_⟩
  obtain ⟨⟨verdict, hseries, -⟩, -⟩ :=
    metrics_eq_lastKnown (c := { nodeName := "parity", endpoint := "localhost" }) rfl
      [.healthy, .healthy, .refusing]
  have hpeers : latest Tick.peers? ((Monitor.ofConfig
      { nodeName := "parity", endpoint := "localhost" }).ticks
        [.healthy, .healthy, .refusing]) = some 25 := by decide
  rw [hseries]
  refine List.mem_map.mpr ⟨("peers", .count 25), List.mem_filterMap.mpr ?_, rfl⟩
  exact ⟨("peers", some (.count 25)), by simp [hpeers], rfl⟩

/-- After every run the metrics hold a series of the sync gauge for the node exactly if there is a
connection and a round since it was made got both block numbers. It is the only series of the sync
gauge, and it reads one or zero as the health endpoint answers that the node is in sync or not. -/
theorem synced_scraped_iff (h : new? c = some s) (script : List Replies) :
    let station := s.after script
    ((∃ v, ("synced", [("node", c.nodeName)], v) ∈ station.gauges.series) ↔
        (s.monitor.after script).connection.isSome = true ∧
          ∃ t ∈ sinceConnected (s.monitor.ticks script), ∃ connection own remote,
            t.before.connection = some connection ∧ t.replies.blockNumber = .ok own ∧
              t.replies.remoteBlockNumber connection.explorer = .ok remote) ∧
      (∀ labels v, ("synced", labels, v) ∈ station.gauges.series →
        labels = [("node", c.nodeName)] ∧
          (Gauge.readingText v = "1" ↔ (station.site.respond "GET" "/synced").status = 200) ∧
          (Gauge.readingText v = "0" ↔ (station.site.respond "GET" "/synced").status = 503)) ∧
      (station.site.respond "GET" "/metrics").body =
        String.join (station.gauges.series.map fun (gauge, _, v) =>
          Gauge.nodeText c.metricsNamespace c.nodeName gauge v) := by
  intro station
  refine ⟨?_, fun labels v hmem => ?_, ?_⟩
  · simp only [← Tick.isSome_lag?_iff, station, mem_series_synced_iff h, true_and]
    rw [← monitor_after, ← isSome_scrapedVerdict_iff, Option.isSome_iff_exists]
    constructor
    · rintro ⟨_, verdict, hverdict, -⟩
      exact ⟨verdict, hverdict⟩
    · rintro ⟨verdict, hverdict⟩
      exact ⟨_, verdict, hverdict, rfl⟩
  · obtain ⟨hlabels, verdict, hverdict, rfl⟩ := (mem_series_synced_iff h script labels v).mp hmem
    have hanswer : (station.site.respond "GET" "/synced").status =
        if verdict then 200 else 503 := by
      rw [Web.Site.respond_get .synced (by decide),
        ← isSynced_of_scrapedVerdict h hverdict]
      rfl
    have hone : Gauge.readingText (.flag true) = "1" := by rfl
    have hzero : Gauge.readingText (.flag false) = "0" := by rfl
    rw [hanswer]
    cases verdict <;> simp [hlabels, hone, hzero]
  · rw [respond_metrics h, (ofNode_after h script).series_eq, List.map_map]
    rfl

/-- Two healthy ticks bring the series of the sync gauge. A refused question withdraws it although
the same round obtained a lag. -/
theorem synced_scraped_until_refused_peerCount :
    ∃ s, new? { nodeName := "parity", endpoint := "localhost" } = some s ∧
      (∃ v, ("synced", [("node", "parity")], v) ∈
        (s.after [.healthy, .healthy]).gauges.series) ∧
      ∀ v, ("synced", [("node", "parity")], v) ∉
        (s.after [.healthy, .refusing]).gauges.series := by
  have hpresent := (synced_scraped_iff (c := { nodeName := "parity", endpoint := "localhost" }) rfl
    [.healthy, .healthy]).1
  have habsent := (synced_scraped_iff (c := { nodeName := "parity", endpoint := "localhost" }) rfl
    [.healthy, .refusing]).1
  simp only [← Tick.isSome_lag?_iff] at hpresent
  refine ⟨_, rfl, hpresent.mpr ⟨by decide, by decide⟩, fun v hv => ?_⟩
  exact absurd (habsent.mp ⟨v, hv⟩).1 (by decide)

end Station

end NodeWatch
