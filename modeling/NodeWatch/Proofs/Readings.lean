import NodeWatch.Proofs.Obtained
import NodeWatch.Proofs.Sink

/-!
# The readings of a tick

A tick sets gauges to what it obtained, each at most once and in a fixed order, and withdraws the
sync gauge at its end if it lost the connection. What the table of gauges shows after the tick
follows from these readings alone: what was not obtained stays as it was shown before.
-/

namespace NodeWatch

/-- Whether an event sets or withdraws a gauge. -/
def Event.isGaugeEvent : Event → Bool
  | .set .. | .remove .. => true
  | .call _ | .note _ => false

/-- What events do to the gauges, in order. -/
def gaugeEvents (events : List Event) : List Event := events.filter Event.isGaugeEvent

@[simp] theorem gaugeEvents_nil : gaugeEvents [] = [] := rfl

@[simp] theorem gaugeEvents_append (before after : List Event) :
    gaugeEvents (before ++ after) = gaugeEvents before ++ gaugeEvents after :=
  List.filter_append before after

@[simp] theorem gaugeEvents_set (gauge : String) (labels : Labels) (value : Reading)
    (rest : List Event) :
    gaugeEvents (.set gauge labels value :: rest) =
      .set gauge labels value :: gaugeEvents rest := rfl

@[simp] theorem gaugeEvents_remove (gauge : String) (labels : Labels) (rest : List Event) :
    gaugeEvents (.remove gauge labels :: rest) = .remove gauge labels :: gaugeEvents rest := rfl

@[simp] theorem gaugeEvents_call (q : Call) (rest : List Event) :
    gaugeEvents (.call q :: rest) = gaugeEvents rest := rfl

@[simp] theorem gaugeEvents_note (notice : Notice) (rest : List Event) :
    gaugeEvents (.note notice :: rest) = gaugeEvents rest := rfl

/-- The sets of gauges to readings, all with the same labels. -/
def setAll (labels : Labels) (readings : List (String × Reading)) : List Event :=
  readings.map fun reading => .set reading.1 labels reading.2

namespace Round

variable (r : Replies) (explorer : ExplorerId) (labels : Labels) (threshold : UInt64)
  (status : Status)

/-- What a round makes of what it obtains, gauge by gauge in the order of the sets. -/
def readings : List (String × Reading) :=
  (r.peerCount.toOption.map fun n => (Gauge.peers, .count n)).toList ++
    (r.blockNumber.toOption.map fun n => (Gauge.blockNumber, .count n)).toList ++
    (r.block?.bind fun block => status.lastBlock.map fun last =>
      (Gauge.blockTime, .thousandths (block.millisSince last))).toList ++
    (r.lag? explorer).elim [] fun lag =>
      [(Gauge.blocksBehind, .whole lag),
        (Gauge.synced, .flag (Verdict.ofLag (absoluteLag lag) threshold).synced)]

theorem gaugeEvents_askPeers :
    gaugeEvents (askPeers r labels).1 =
      setAll labels (r.peerCount.toOption.map fun n => (Gauge.peers, .count n)).toList := by
  cases h : r.peerCount <;> simp [askPeers, h, setAll, Except.toOption]

theorem gaugeEvents_askBlock (number : UInt64) :
    gaugeEvents (askBlock r labels number status).2.1 =
      setAll labels ((r.blockByNumber number).toOption.bind fun block =>
        status.lastBlock.map fun last =>
          (Gauge.blockTime, .thousandths (block.millisSince last))).toList := by
  cases h : r.blockByNumber number with
  | error e => simp [askBlock, h, setAll, Except.toOption]
  | ok block =>
    cases hl : status.lastBlock <;> simp [askBlock, h, hl, setAll, Except.toOption]

theorem gaugeEvents_askExplorer (number : UInt64) :
    gaugeEvents (askExplorer r explorer labels threshold number status).2.2 =
      setAll labels ((r.remoteBlockNumber explorer).toOption.elim [] fun remote =>
        [(Gauge.blocksBehind, .whole (blocksBehind number remote)),
          (Gauge.synced, .flag
            (Verdict.ofLag (absoluteLag (blocksBehind number remote)) threshold).synced)]) := by
  cases h : r.remoteBlockNumber explorer with
  | error e => simp [askExplorer, h, setAll, Except.toOption]
  | ok remote =>
    simp only [askExplorer, h]
    split <;> simp [setAll, Except.toOption, Verdict.update]

/-- A round does nothing to the gauges but to set its readings. -/
theorem gaugeEvents_run :
    gaugeEvents (run r explorer labels threshold status).2.2 =
      setAll labels (readings r explorer threshold status) := by
  cases h : r.blockNumber with
  | error e =>
    simp [run, h, gaugeEvents_askPeers, readings, setAll, Except.toOption, Replies.block?,
      Replies.lag?]
  | ok number =>
    simp only [run, h, examine, gaugeEvents_append, gaugeEvents_askPeers, gaugeEvents_askBlock,
      gaugeEvents_askExplorer, readings, setAll, Replies.block?, Replies.lag?]
    cases r.remoteBlockNumber explorer <;> simp [Except.toOption]

end Round

namespace Tick

/-- The readings of a tick; without a connection there are none. -/
def readings (t : Tick) : List (String × Reading) :=
  t.before.connection.elim [] fun connection =>
    Round.readings t.replies connection.explorer t.before.threshold t.before.status

/-- Whether the tick lost the connection. -/
def isLoss (t : Tick) : Bool :=
  match t.outcome with
  | .disconnected _ => true
  | _ => false

end Tick

/-- An attempt to connect does nothing to the gauges. -/
theorem Connection.gaugeEvents_attempt (r : Replies) (streak : Streak) :
    gaugeEvents (Connection.attempt r streak).2.2 = [] := by
  have hnotes (s : Streak) (id : String) : gaugeEvents (s.notes id) = [] := by
    unfold Streak.notes
    split <;> rfl
  unfold Connection.attempt
  split
  · rfl
  · split
    · simp [hnotes]
    · split <;> rfl

/-- A tick sets its readings, and withdraws the sync gauge after that if it loses the connection. -/
theorem Tick.gaugeEvents_events (t : Tick) :
    gaugeEvents t.events = setAll t.before.labels t.readings ++
      if t.isLoss then [.remove Gauge.synced t.before.labels] else [] := by
  have h := t.step
  unfold isLoss readings
  generalize t.after = after, t.outcome = outcome, t.events = events at h ⊢
  cases h with
  | connected idle _ attempt | connectFailed idle _ attempt =>
    have hnone := Connection.gaugeEvents_attempt t.replies t.before.streak
    rw [attempt] at hnone
    simp [idle, hnone, setAll]
  | @round connection _ _ _ busy run | @disconnected connection _ _ _ busy run =>
    have hsets := Round.gaugeEvents_run t.replies connection.explorer t.before.labels
      t.before.threshold t.before.status
    rw [run] at hsets
    simp [busy, hsets]

namespace Tick

/-- The time, in milliseconds, from the last block that was known before to the block that the tick
obtained. -/
def interval? (t : Tick) : Option Int :=
  t.block?.bind fun block => t.before.status.lastBlock.map block.millisSince

/-- The readings of a tick are those of what it obtained. -/
theorem readings_eq (t : Tick) :
    t.readings =
      (t.peers?.map fun n => (Gauge.peers, .count n)).toList ++
        (t.number?.map fun n => (Gauge.blockNumber, .count n)).toList ++
        (t.interval?.map fun n => (Gauge.blockTime, .thousandths n)).toList ++
        t.lag?.elim [] fun lag => [(Gauge.blocksBehind, .whole lag),
          (Gauge.synced, .flag (Verdict.ofLag (absoluteLag lag) t.before.threshold).synced)] := by
  unfold readings peers? number? interval? block? lag?
  cases t.before.connection with
  | none => rfl
  | some connection => simp [Round.readings, Option.map_bind, Function.comp_def]

/-- No gauge is read twice in a tick, and none that is not a gauge of a node. -/
theorem names_readings (t : Tick) :
    (t.readings.map Prod.fst).Nodup ∧ ∀ reading ∈ t.readings, reading.1 ∈ Gauge.names := by
  have hsub : (t.readings.map Prod.fst).Sublist
      [Gauge.peers, Gauge.blockNumber, Gauge.blockTime, Gauge.blocksBehind, Gauge.synced] := by
    rw [readings_eq]
    cases t.peers? <;> cases t.number? <;> cases t.interval? <;> cases t.lag? <;> simp
    decide
  refine ⟨hsub.nodup (by decide), fun reading hreading => ?_⟩
  have hmem := hsub.subset (List.mem_map_of_mem hreading)
  revert hmem
  generalize reading.1 = name
  revert name
  decide

/-- What the tick read of a gauge. -/
def reading? (name : String) (t : Tick) : Option Reading := t.readings.lookup name

/-- The reading of each gauge is that of what the tick obtained for it. -/
theorem reading?_eq (t : Tick) :
    t.reading? Gauge.blockNumber = t.number?.map .count ∧
      t.reading? Gauge.blocksBehind = t.lag?.map .whole ∧
      t.reading? Gauge.blockTime = t.interval?.map .thousandths ∧
      t.reading? Gauge.peers = t.peers?.map .count ∧
      t.reading? Gauge.synced = t.lag?.map fun lag =>
        .flag (Verdict.ofLag (absoluteLag lag) t.before.threshold).synced := by
  unfold reading?
  rw [readings_eq]
  cases t.peers? <;> cases t.number? <;> cases t.interval? <;> cases t.lag? <;>
    exact ⟨rfl, rfl, rfl, rfl, rfl⟩

end Tick

/-- The reading that an event sets a gauge to, if it sets that gauge. -/
def Event.setting? (name : String) : Event → Option Reading
  | .set gauge _ value => if gauge = name then some value else none
  | .remove .. | .call _ | .note _ => none

/-- The readings that a gauge was set to, in order. -/
def settings (name : String) (events : List Event) : List Reading :=
  events.filterMap (Event.setting? name)

/-- Only what events do to gauges matters for what a gauge was set to. -/
theorem settings_gaugeEvents (name : String) (events : List Event) :
    settings name (gaugeEvents events) = settings name events := by
  induction events with
  | nil => rfl
  | cons e rest ih =>
    unfold settings at ih ⊢
    cases e <;> simp [Event.setting?, List.filterMap_cons, ih]

/-- A gauge that no reading is of has no reading. -/
theorem lookup_eq_none_of_notMem {name : String} {readings : List (String × Reading)}
    (h : name ∉ readings.map Prod.fst) : readings.lookup name = none := by
  rw [List.lookup_eq_none_iff]
  intro reading hreading
  apply bne_iff_ne.mpr
  intro heq
  rw [heq] at h
  exact h (List.mem_map_of_mem hreading)

/-- Of readings of different gauges each one is set once. -/
theorem settings_setAll {readings : List (String × Reading)}
    (h : (readings.map Prod.fst).Nodup) (name : String) (labels : Labels) :
    settings name (setAll labels readings) = (readings.lookup name).toList := by
  induction readings with
  | nil => rfl
  | cons reading rest ih =>
    obtain ⟨gauge, value⟩ := reading
    obtain ⟨hfirst, hrest⟩ := List.nodup_cons.mp h
    have hstep : settings name (setAll labels ((gauge, value) :: rest)) =
        (if gauge = name then some value else none).toList ++ (rest.lookup name).toList := by
      rw [← ih hrest, settings, setAll, List.map_cons, List.filterMap_cons]
      by_cases hname : gauge = name <;> simp [Event.setting?, hname, settings, setAll]
    rw [hstep, List.lookup_cons]
    by_cases hname : gauge = name
    · subst hname
      simp [lookup_eq_none_of_notMem hfirst]
    · have hne : (name == gauge) = false := beq_false_of_ne (Ne.symm hname)
      simp [hname, hne]

/-- A tick sets a gauge at most once, and then to what it read of it. -/
theorem Tick.settings_events (t : Tick) (name : String) :
    settings name t.events = (t.reading? name).toList := by
  have hsets := settings_setAll t.names_readings.1 name t.before.labels
  rw [← settings_gaugeEvents, gaugeEvents_events, settings, List.filterMap_append]
  have hremove : (if t.isLoss then [Event.remove Gauge.synced t.before.labels] else []).filterMap
      (Event.setting? name) = [] := by
    split <;> rfl
  rw [hremove, List.append_nil]
  exact hsets

end NodeWatch
