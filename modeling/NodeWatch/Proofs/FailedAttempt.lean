import NodeWatch.Proofs.Conduct
import NodeWatch.Proofs.Connection

/-!
# Failed attempts to connect

An attempt that fails changes nothing but the streak of unsupported chains, and the streak decides
nothing but the alarms about it. So failed attempts leave everything that the station shows as it
is, and a run in which there are more of them goes on as it would have gone on without them.
-/

namespace NodeWatch

/-- An attempt to connect fails: the node does not tell its chain, or it names an unsupported one,
or no explorer client can be built for the chain that it names. -/
inductive Replies.Fails (r : Replies) : Prop
  | untold {e : NodeError} (h : r.chainId = .error e)
  | unsupported {id : String} (h : r.chainId = .ok id) (hid : ∀ chain : Chain, id ≠ chain.name)
  | unbuilt {chain : Chain} {e : ExplorerError} (h : r.chainId = .ok chain.name)
    (hbuild : r.explorerFactory chain = .error e)

/-- Exactly the attempts that make no connection fail. -/
theorem Replies.fails_iff {r : Replies} : r.Fails ↔ r.connection? = none := by
  constructor
  · intro h
    cases h with
    | untold h => simp [connection?, h, Except.toOption]
    | @unsupported id h hid =>
      have hnone : Chain.ofId? id = none := by
        rw [Option.eq_none_iff_forall_ne_some]
        intro chain hchain
        exact hid chain (Chain.ofId?_eq_some_iff.mp hchain)
      simp [connection?, h, hnone, Except.toOption]
    | unbuilt h hbuild => simp [connection?, h, hbuild, Except.toOption]
  · intro h
    cases hid : r.chainId with
    | error e => exact .untold hid
    | ok id =>
      cases hchain : Chain.ofId? id with
      | none =>
        refine .unsupported hid ?_
        rintro chain rfl
        rw [Chain.ofId?_name] at hchain
        cases hchain
      | some chain =>
        obtain rfl := Chain.ofId?_eq_some_iff.mp hchain
        cases hbuild : r.explorerFactory chain with
        | error e => exact .unbuilt hid hbuild
        | ok explorer =>
          rw [connection?_eq_some_iff.mpr ⟨hid, hbuild⟩] at h
          cases h

/-! ### Alarms -/

/-- Whether an event is an alarm about an unsupported chain that is named again and again. -/
def Event.isAlarm : Event → Bool
  | .note (.unsupportedAgain _ _) => true
  | _ => false

/-- All events but the alarms. -/
def unalarmed (events : List Event) : List Event := events.filter fun e => !e.isAlarm

@[simp] theorem unalarmed_append (before after : List Event) :
    unalarmed (before ++ after) = unalarmed before ++ unalarmed after :=
  List.filter_append before after

theorem unalarmed_cons_of_alarm {e : Event} (h : e.isAlarm = true) (rest : List Event) :
    unalarmed (e :: rest) = unalarmed rest := by
  simp [unalarmed, h]

theorem unalarmed_cons_of_not_alarm {e : Event} (h : e.isAlarm = false) (rest : List Event) :
    unalarmed (e :: rest) = e :: unalarmed rest := by
  simp [unalarmed, h]

/-- An alarm does nothing to the gauges. -/
theorem gaugeEvents_unalarmed (events : List Event) :
    gaugeEvents (unalarmed events) = gaugeEvents events := by
  rw [gaugeEvents, unalarmed, List.filter_filter, gaugeEvents]
  refine List.filter_congr fun e _ => ?_
  cases e with
  | note notice => simp [Event.isGaugeEvent]
  | _ => simp [Event.isAlarm]

/-- All that a streak notes are alarms. -/
theorem Streak.unalarmed_notes (s : Streak) (id : String) : unalarmed (s.notes id) = [] := by
  unfold notes
  split
  · rfl
  · rfl

/-- The streak decides neither the result of an attempt nor what happens in it but the alarms. -/
theorem Connection.attempt_of_streak (r : Replies) (s₁ s₂ : Streak) :
    (attempt r s₁).2.1 = (attempt r s₂).2.1 ∧
      unalarmed (attempt r s₁).2.2 = unalarmed (attempt r s₂).2.2 := by
  unfold attempt
  split
  · exact ⟨rfl, rfl⟩
  · split
    · have hcall : Event.isAlarm (.call .chainId) = false := rfl
      refine ⟨rfl, ?_⟩
      simp only [unalarmed_cons_of_not_alarm hcall, Streak.unalarmed_notes]
    · split
      · exact ⟨rfl, rfl⟩
      · exact ⟨rfl, rfl⟩

namespace Gauge.Sink

/-- What the table of gauges notes is no alarm. -/
theorem isAlarm_of_mem_record (s : Sink Reading) (e : Event) :
    ∀ notice ∈ (s.record e).2, Event.isAlarm (.note notice) = false := by
  intro notice hnotice
  cases e with
  | set gauge labels value =>
    simp only [record, set] at hnotice
    split at hnotice
    · obtain rfl := List.mem_singleton.mp hnotice
      rfl
    · split at hnotice
      · cases hnotice
      · split at hnotice
        · obtain rfl := List.mem_singleton.mp hnotice
          rfl
        · cases hnotice
  | remove gauge labels =>
    simp only [record, remove] at hnotice
    split at hnotice
    · cases hnotice
    · split at hnotice
      · obtain rfl := List.mem_singleton.mp hnotice
        rfl
      · split at hnotice
        · obtain rfl := List.mem_singleton.mp hnotice
          rfl
        · cases hnotice
  | call | note => cases hnotice

/-- Recording leaves the alarms where they are, and they leave no trace in the table. -/
theorem recordAll_unalarmed (s : Sink Reading) (events : List Event) :
    s.recordAll (unalarmed events) =
      ((s.recordAll events).1, unalarmed (s.recordAll events).2) := by
  induction events generalizing s with
  | nil => rfl
  | cons e rest ih =>
    cases halarm : e.isAlarm with
    | true =>
      have hrecord : s.record e = (s, []) := by
        cases e with
        | note => rfl
        | call | set | remove => cases halarm
      rw [unalarmed_cons_of_alarm halarm, ih]
      simp only [recordAll, hrecord, List.map_nil, List.cons_append, List.nil_append,
        unalarmed_cons_of_alarm halarm]
    | false =>
      have hnotes : unalarmed ((s.record e).2.map Event.note) = (s.record e).2.map .note := by
        rw [unalarmed, List.filter_eq_self]
        intro noted hnoted
        obtain ⟨notice, hnotice, rfl⟩ := List.mem_map.mp hnoted
        rw [isAlarm_of_mem_record s e notice hnotice]
        rfl
      rw [unalarmed_cons_of_not_alarm halarm]
      simp only [recordAll, ih, List.cons_append, unalarmed_cons_of_not_alarm halarm,
        unalarmed_append, hnotes]

/-- Events that leave the gauges alone leave the table as it is. -/
theorem recordAll_of_gaugeEvents {events : List Event} (h : gaugeEvents events = [])
    (s : Sink Reading) : (s.recordAll events).1 = s := by
  induction events with
  | nil => rfl
  | cons e rest ih =>
    cases e with
    | call | note => exact ih h
    | set | remove => simp at h

end Gauge.Sink

/-! ### Runs that differ in the streak -/

/-- The same monitor with another streak. -/
def Monitor.withStreak (m : Monitor) (streak : Streak) : Monitor := { m with streak }

/-- The same station, whose monitor has another streak. -/
def Station.withStreak (s : Station) (streak : Streak) : Station :=
  { s with monitor := s.monitor.withStreak streak }

/-- A round does not look at the streak. -/
theorem Monitor.gather_withStreak (m : Monitor) (streak : Streak) (r : Replies)
    (connection : Connection) :
    (m.withStreak streak).gather r connection =
      ((m.gather r connection).1.withStreak streak, (m.gather r connection).2) := by
  have hrun : Round.run r connection.explorer (m.withStreak streak).labels
      (m.withStreak streak).threshold (m.withStreak streak).status =
        Round.run r connection.explorer m.labels m.threshold m.status := rfl
  rcases hround : Round.run r connection.explorer m.labels m.threshold m.status with
    ⟨status, report, events⟩
  unfold gather
  rw [hrun, hround]
  dsimp only
  by_cases hok : report.isOk = true
  · rw [if_pos hok, if_pos hok]
    rfl
  · rw [if_neg hok, if_neg hok]
    by_cases hdown : report.isConnectionRefused = true
    · rw [if_pos hdown, if_pos hdown]
      rfl
    · rw [if_neg hdown, if_neg hdown]
      rfl

/-- Another streak changes nothing of a tick but the streak after it and the alarms in it. -/
theorem Monitor.tick_withStreak (m : Monitor) (streak : Streak) (r : Replies) :
    (∃ streak', ((m.withStreak streak).tick r).1 = (m.tick r).1.withStreak streak') ∧
      ((m.withStreak streak).tick r).2.1 = (m.tick r).2.1 ∧
      unalarmed ((m.withStreak streak).tick r).2.2 = unalarmed (m.tick r).2.2 := by
  have hsame : (m.withStreak streak).connection = m.connection := rfl
  cases hm : m.connection with
  | none =>
    -- The attempt is the only reader of the streak, and its result does not depend on it.
    have hstreak : (m.withStreak streak).streak = streak := rfl
    obtain ⟨hresult, hevents⟩ := Connection.attempt_of_streak r streak m.streak
    rcases h₁ : Connection.attempt r streak with ⟨streak₁, result, events₁⟩
    rcases h₂ : Connection.attempt r m.streak with ⟨streak₂, result₂, events₂⟩
    rw [h₁, h₂] at hresult hevents
    obtain rfl : result = result₂ := hresult
    have hevents : unalarmed events₁ = unalarmed events₂ := hevents
    cases result with
    | ok connection =>
      simp only [tick, hsame, hm, connect, hstreak, h₁, h₂, unalarmed_append, hevents, and_true]
      exact ⟨streak₁, rfl⟩
    | error cause =>
      simp only [tick, hsame, hm, connect, hstreak, h₁, h₂, unalarmed_append, hevents, and_true]
      exact ⟨streak₁, rfl⟩
  | some connection =>
    simp only [tick, hsame, hm, gather_withStreak, and_true]
    exact ⟨streak, rfl⟩

/-- An attempt that fails changes a monitor that is not connected in its streak only, if what it has
published is its status. -/
theorem Monitor.tick_of_fails {m : Monitor} (hidle : m.connection = none)
    (hhealth : m.health = .ofStatus m.status) {r : Replies} (hr : r.Fails) :
    ∃ streak, (m.tick r).1 = m.withStreak streak := by
  have hnone := Replies.fails_iff.mp hr
  have hs := m.step r
  generalize m.tick r = result at hs ⊢
  cases hs with
  | connected idle made => simp [hnone] at made
  | @connectFailed cause streak =>
    refine ⟨streak, ?_⟩
    rw [publish, withStreak, ← hhealth]
  | round busy | disconnected busy => simp [hidle] at busy

/-- Without a connection a tick is a failed attempt exactly if the attempt fails. -/
theorem Monitor.outcome_connectFailed_iff {m : Monitor} (hidle : m.connection = none)
    (r : Replies) : (∃ cause, (m.tick r).2.1 = .connectFailed cause) ↔ r.Fails := by
  have hs := m.step r
  rw [Replies.fails_iff]
  generalize m.tick r = result at hs ⊢
  cases hs with
  | connected _ made => simp [made]
  | connectFailed _ unmade => simp [unmade]
  | round busy | disconnected busy => simp [hidle] at busy

namespace Station

variable {c : Config} {s : Station}

/-- Nothing that is shown over the web depends on the streak. -/
theorem site_withStreak (s : Station) (streak : Streak) : (s.withStreak streak).site = s.site := rfl

/-- Another streak changes nothing of a station's tick but the streak after it and the alarms in
it. -/
theorem tick_withStreak (s : Station) (streak : Streak) (r : Replies) :
    (∃ streak', ((s.withStreak streak).tick r).1 = (s.tick r).1.withStreak streak') ∧
      ((s.withStreak streak).tick r).2.1 = (s.tick r).2.1 ∧
      unalarmed ((s.withStreak streak).tick r).2.2 = unalarmed (s.tick r).2.2 := by
  obtain ⟨⟨streak', hafter⟩, houtcome, hevents⟩ := s.monitor.tick_withStreak streak r
  -- The gauges of both stations record the same events, once the alarms are left out.
  have hrecord : s.gauges.recordAll (unalarmed ((s.monitor.withStreak streak).tick r).2.2) =
      s.gauges.recordAll (unalarmed (s.monitor.tick r).2.2) := by rw [hevents]
  rw [Gauge.Sink.recordAll_unalarmed, Gauge.Sink.recordAll_unalarmed] at hrecord
  obtain ⟨hgauges, hrecorded⟩ := Prod.ext_iff.mp hrecord
  refine ⟨⟨streak', ?_⟩, houtcome, hrecorded⟩
  exact congrArg₂ Station.mk hafter hgauges

/-- Another streak at its beginning changes nothing of where a run ends but the streak. -/
theorem after_withStreak (s : Station) (streak : Streak) (script : List Replies) :
    ∃ streak', (s.withStreak streak).after script = (s.after script).withStreak streak' := by
  induction script using List.reverseRecOn with
  | nil => exact ⟨streak, rfl⟩
  | append_singleton script r ih =>
    obtain ⟨between, ih⟩ := ih
    rw [after_concat, after_concat, ih]
    exact (tick_withStreak (s.after script) between r).1

theorem after_append (s : Station) (first second : List Replies) :
    s.after (first ++ second) = (s.after first).after second :=
  List.foldl_append

/-- Between its ticks a station has published its status, and has a connection if that says so. -/
theorem coherent_after (h : new? c = some s) (script : List Replies) :
    (s.after script).monitor.connection.isSome = (s.after script).monitor.status.connected ∧
      (s.after script).monitor.health = .ofStatus (s.after script).monitor.status := by
  rw [monitor_after, monitor_of_new? h]
  exact ⟨(Monitor.coherent_after c script).status, (Monitor.coherent_after c script).health⟩

/-- A station whose status says so has no connection. -/
theorem connection_of_idle (h : new? c = some s) (script : List Replies)
    (hidle : (s.after script).monitor.status.connected = false) :
    (s.after script).monitor.connection = none := by
  rw [← Option.isNone_iff_eq_none, ← Option.isSome_eq_false_iff, (coherent_after h script).1]
  exact hidle

/-- An attempt that fails changes a station in its streak only. -/
theorem tick_of_fails (h : new? c = some s) (script : List Replies)
    (hidle : (s.after script).monitor.status.connected = false) {r : Replies} (hr : r.Fails) :
    ∃ streak, ((s.after script).tick r).1 = (s.after script).withStreak streak := by
  have hnone := connection_of_idle h script hidle
  obtain ⟨streak, hafter⟩ := Monitor.tick_of_fails hnone (coherent_after h script).2 hr
  have hquiet : gaugeEvents ((s.after script).monitor.tick r).2.2 = [] :=
    Tick.gaugeEvents_of_none (t := ⟨(s.after script).monitor, r⟩) hnone
  exact ⟨streak, congrArg₂ Station.mk hafter (Gauge.Sink.recordAll_of_gaugeEvents hquiet _)⟩

/-- Any number of attempts that fail change a station in its streak only. -/
theorem after_failures (h : new? c = some s) (past : List Replies)
    (hidle : (s.after past).monitor.status.connected = false) {failures : List Replies}
    (hfails : ∀ r ∈ failures, r.Fails) :
    ∃ streak, s.after (past ++ failures) = (s.after past).withStreak streak := by
  induction failures using List.reverseRecOn with
  | nil => exact ⟨(s.after past).monitor.streak, by rw [List.append_nil]; rfl⟩
  | append_singleton failures r ih =>
    obtain ⟨between, ih⟩ := ih fun f hf => hfails f (List.mem_append_left _ hf)
    -- The status is no part of the streak, so the last attempt finds no connection either.
    have hstill : (s.after (past ++ failures)).monitor.status.connected = false := by
      rw [ih]
      exact hidle
    have hr : r.Fails := hfails r (List.mem_append_right _ (List.mem_singleton_self r))
    obtain ⟨streak, hafter⟩ := tick_of_fails h (past ++ failures) hstill hr
    refine ⟨streak, ?_⟩
    rw [← List.append_assoc, after_concat, hafter, ih]
    rfl

/-- Attempts that fail can be inserted into a run wherever there is no connection: it ends with
another streak, if anything. -/
theorem after_inserted (h : new? c = some s) (past : List Replies)
    (hidle : (s.after past).monitor.status.connected = false) {failures : List Replies}
    (hfails : ∀ r ∈ failures, r.Fails) (later : List Replies) :
    ∃ streak, s.after (past ++ failures ++ later) =
      (s.after (past ++ later)).withStreak streak := by
  obtain ⟨between, hbetween⟩ := after_failures h past hidle hfails
  obtain ⟨streak, hstreak⟩ := after_withStreak (s.after past) between later
  refine ⟨streak, ?_⟩
  rw [after_append, hbetween, hstreak, ← after_append]

/-- Let a station be without a connection after some run. The next tick is a failed attempt to
connect exactly if the node does not tell its chain, names an unsupported one, or no explorer client
can be built for its chain; and then it leaves the gauges, every answer over the web and all that
the monitor remembers and publishes as they were, but for the streak. If attempts that fail are
inserted there, any number of them, then the run goes on as it does without them: after the same
later answers the web is answered the same, and the next tick is the same, with the same gauge calls
and all other events alike but the alarms about unsupported chains. -/
theorem failures_leave_no_trace (h : new? c = some s) (past : List Replies)
    (hidle : (s.after past).monitor.status.connected = false) :
    (∀ r : Replies,
      let before := s.after past
      let after := (before.tick r).1
      ((∃ cause, (before.tick r).2.1 = .connectFailed cause) ↔ r.Fails) ∧
      (r.Fails →
        after.monitor = { before.monitor with streak := after.monitor.streak } ∧
        after.gauges = before.gauges ∧
        ∀ method target, after.site.respond method target = before.site.respond method target)) ∧
    ∀ failures : List Replies, (∀ r ∈ failures, r.Fails) → ∀ later : List Replies,
      let plain := s.after (past ++ later)
      let delayed := s.after (past ++ failures ++ later)
      (∀ method target,
        delayed.site.respond method target = plain.site.respond method target) ∧
      ∀ r : Replies,
        (delayed.tick r).2.1 = (plain.tick r).2.1 ∧
        gaugeEvents (delayed.tick r).2.2 = gaugeEvents (plain.tick r).2.2 ∧
        unalarmed (delayed.tick r).2.2 = unalarmed (plain.tick r).2.2 := by
  refine ⟨fun r => ?_, fun failures hfails later => ?_⟩
  · intro before after
    refine ⟨Monitor.outcome_connectFailed_iff (connection_of_idle h past hidle) r, fun hr => ?_⟩
    obtain ⟨streak, hafter⟩ := tick_of_fails h past hidle hr
    have hafter : after = before.withStreak streak := hafter
    rw [hafter]
    refine ⟨rfl, rfl, fun method target => ?_⟩
    rw [site_withStreak]
  · intro plain delayed
    obtain ⟨streak, hstreak⟩ := after_inserted h past hidle hfails later
    have hdelayed : delayed = plain.withStreak streak := hstreak
    rw [hdelayed]
    refine ⟨fun method target => ?_, fun r => ?_⟩
    · rw [site_withStreak]
    · obtain ⟨-, houtcome, hevents⟩ := tick_withStreak plain streak r
      refine ⟨houtcome, ?_, hevents⟩
      rw [← gaugeEvents_unalarmed, hevents, gaugeEvents_unalarmed]

/-- A station that lost its connection is shown the same after three failed attempts, each for a
reason of its own, and makes the same connection then. -/
theorem connects_after_three_failures :
    ∃ s, new? { nodeName := "parity", endpoint := "localhost" } = some s ∧
      let past := [.healthy, .healthy, .refusing]
      let delayed := s.after (past ++
        [{ Replies.healthy with chainId := .ok "ropsten" },
          { Replies.healthy with chainId := .error (.connectionRefused "localhost") },
          { Replies.healthy with explorerFactory := fun _ => .error (.http 503) }])
      delayed.site.respond "GET" "/metrics" = (s.after past).site.respond "GET" "/metrics" ∧
        (delayed.tick .healthy).2.1 = .connected .kovan := by
  refine ⟨_, rfl, ?_⟩
  have h := (failures_leave_no_trace (c := { nodeName := "parity", endpoint := "localhost" }) rfl
    [.healthy, .healthy, .refusing] (by decide)).2
      [{ Replies.healthy with chainId := .ok "ropsten" },
        { Replies.healthy with chainId := .error (.connectionRefused "localhost") },
        { Replies.healthy with explorerFactory := fun _ => .error (.http 503) }] ?_ []
  · obtain ⟨hshown, hticks⟩ := h
    rw [List.append_nil, List.append_nil] at hshown hticks
    exact ⟨hshown "GET" "/metrics", (hticks .healthy).1.trans (by decide)⟩
  · intro r hr
    simp only [List.mem_cons, List.not_mem_nil, or_false] at hr
    rcases hr with rfl | rfl | rfl
    · exact .unsupported rfl (by rintro (_ | _) <;> decide)
    · exact .untold rfl
    · exact @Replies.Fails.unbuilt _ .kovan _ rfl rfl

end Station

end NodeWatch
