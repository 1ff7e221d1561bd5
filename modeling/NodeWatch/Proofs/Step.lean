import NodeWatch.Proofs.Round
import NodeWatch.Proofs.Run

/-!
# What a tick can do

A tick either makes a connection, fails to make one, gathers in a round, or gathers in a round that
finds the node down. `Monitor.Step` lists these four cases with all that holds in each of them, and
`Monitor.step` says that there is no other. What every tick keeps, and with it what every run keeps,
follows by looking at the cases.
-/

namespace NodeWatch

/-- An identifier names a chain exactly when it is the name of the chain. -/
theorem Chain.ofId?_eq_some_iff {id : String} {chain : Chain} :
    Chain.ofId? id = some chain ↔ id = chain.name := by
  constructor
  · intro h
    unfold Chain.ofId? at h
    split at h
    · cases h
      assumption
    · split at h
      · cases h
        assumption
      · cases h
  · rintro rfl
    exact Chain.ofId?_name chain

namespace Replies

/-- The connection that an attempt makes: the node has to name a chain that is known, and an
explorer client has to be built for it. -/
def connection? (r : Replies) : Option Connection :=
  r.chainId.toOption.bind fun id => (Chain.ofId? id).bind fun chain =>
    (r.explorerFactory chain).toOption.map fun explorer => ⟨chain, explorer⟩

/-- An attempt makes a connection exactly when the node reports the name of a chain and the factory
builds an explorer client for that chain. -/
theorem connection?_eq_some_iff {r : Replies} {chain : Chain} {explorer : ExplorerId} :
    r.connection? = some ⟨chain, explorer⟩ ↔
      r.chainId = .ok chain.name ∧ r.explorerFactory chain = .ok explorer := by
  constructor
  · intro h
    obtain ⟨id, hid, h⟩ := Option.bind_eq_some_iff.mp h
    obtain ⟨found, hfound, h⟩ := Option.bind_eq_some_iff.mp h
    obtain ⟨built, hbuilt, h⟩ := Option.map_eq_some_iff.mp h
    cases h
    cases hc : r.chainId <;> cases hf : r.explorerFactory chain <;>
      simp_all [Except.toOption, Chain.ofId?_eq_some_iff]
  · rintro ⟨hid, hbuilt⟩
    simp only [connection?, hid, hbuilt, Except.toOption, Option.bind_some, Chain.ofId?_name,
      Option.map_some]

end Replies

/-- The result of an attempt is the connection that the replies allow. -/
theorem Connection.toOption_attempt (r : Replies) (streak : Streak) :
    (Connection.attempt r streak).2.1.toOption = r.connection? := by
  cases hid : r.chainId with
  | error e => simp [attempt, Replies.connection?, hid, Except.toOption]
  | ok id =>
    cases hc : Chain.ofId? id with
    | none => simp [attempt, Replies.connection?, hid, hc, Except.toOption]
    | some chain =>
      cases hf : r.explorerFactory chain <;>
        simp [attempt, Replies.connection?, hid, hc, hf, Except.toOption]

/-- All that an attempt notes is the chain that is used, or a chain that is not supported. -/
theorem Connection.notices_attempt (r : Replies) (streak : Streak) :
    ∀ notice ∈ notices (Connection.attempt r streak).2.2,
      (∃ chain, notice = .usingChain chain) ∨ ∃ id times, notice = .unsupportedAgain id times := by
  intro notice hnotice
  unfold Connection.attempt at hnotice
  split at hnotice
  · simp at hnotice
  · split at hnotice
    · simp only [notices_call, Streak.notes] at hnotice
      split at hnotice
      · obtain rfl := List.mem_singleton.mp hnotice
        exact Or.inr ⟨_, _, rfl⟩
      · simp at hnotice
    · split at hnotice
      · simp at hnotice
      · obtain rfl := List.mem_singleton.mp hnotice
        exact Or.inl ⟨_, rfl⟩

namespace Monitor

/-- The four kinds of ticks, with what each of them leaves behind. -/
inductive Step (m : Monitor) (r : Replies) : Monitor × Outcome × List Event → Prop
  | connected {connection : Connection} {streak : Streak} {events : List Event}
      (idle : m.connection = none) (made : r.connection? = some connection)
      (attempt : Connection.attempt r m.streak = (streak, .ok connection, events)) :
      Step m r
        (publish { m with
          streak, connection := some connection, status := { m.status with connected := true } },
        .connected connection.chain, events ++ [.note .connected])
  | connectFailed {cause : ConnectError} {streak : Streak} {events : List Event}
      (idle : m.connection = none) (unmade : r.connection? = none)
      (attempt : Connection.attempt r m.streak = (streak, .error cause, events)) :
      Step m r
        (publish { m with streak }, .connectFailed cause,
        events ++ [.note (.connectFailed cause)])
  | round {connection : Connection} {status : Status} {report : Report} {events : List Event}
      (busy : m.connection = some connection)
      (run : Round.run r connection.explorer m.labels m.threshold m.status =
        (status, report, events))
      (up : report.isConnectionRefused = false) :
      Step m r
        (publish { m with status }, .round report,
        events ++ [.note (if report.isOk then .roundClean else .roundFailed report)])
  | disconnected {connection : Connection} {status : Status} {report : Report}
      {events : List Event} (busy : m.connection = some connection)
      (run : Round.run r connection.explorer m.labels m.threshold m.status =
        (status, report, events))
      (down : report.isConnectionRefused = true) :
      Step m r
        (publish { m with connection := none, status := { status with connected := false } },
        .disconnected report,
        events ++ [.note (.roundFailed report), .note .nodeDown, .remove Gauge.synced m.labels])

/-- Every tick is one of the four kinds. -/
theorem step (m : Monitor) (r : Replies) : Step m r (m.tick r) := by
  cases hm : m.connection with
  | none =>
    have hmade := Connection.toOption_attempt r m.streak
    rcases ha : Connection.attempt r m.streak with ⟨streak, result, events⟩
    rw [ha] at hmade
    cases result with
    | ok connection =>
      simp only [tick, hm, connect, ha]
      exact .connected hm hmade.symm ha
    | error cause =>
      simpa only [tick, hm, connect, ha] using Step.connectFailed hm hmade.symm ha
  | some connection =>
    rcases hr : Round.run r connection.explorer m.labels m.threshold m.status with
      ⟨status, report, events⟩
    cases hok : report.isOk with
    | true =>
      have hup := Report.isConnectionRefused_of_isOk hok
      have h := Step.round hm hr hup
      simp only [hok, if_true] at h
      simpa only [tick, hm, gather, hr, hok, if_true] using h
    | false =>
      cases hrefused : report.isConnectionRefused with
      | true =>
        simp only [tick, hm, gather, hr, hok, hrefused, if_true, Bool.false_eq_true, if_false]
        exact .disconnected hm hr hrefused
      | false =>
        have h := Step.round hm hr hrefused
        simp only [hok, Bool.false_eq_true, if_false] at h
        simpa only [tick, hm, gather, hr, hok, hrefused, Bool.false_eq_true, if_false] using h

end Monitor

/-- Every tick is one of the four kinds. -/
theorem Tick.step (t : Tick) :
    Monitor.Step t.before t.replies (t.after, t.outcome, t.events) :=
  Monitor.step t.before t.replies

/-- Whether a notice says that a gauge could not be set. -/
def Notice.isUnset : Notice → Bool
  | .gaugeUnregistered .. | .gaugeUnset .. => true
  | _ => false

/-- A monitor notes nothing about its gauges. -/
theorem Tick.isUnset_of_mem_notices (t : Tick) :
    ∀ notice ∈ notices t.events, notice.isUnset = false := by
  intro notice hnotice
  have hround (explorer : ExplorerId) (hnotice : notice ∈ notices (Round.run t.replies explorer
      t.before.labels t.before.threshold t.before.status).2.2) : notice.isUnset = false := by
    rw [Round.notices_run] at hnotice
    obtain ⟨synced, -, rfl⟩ := Option.map_eq_some_iff.mp (Option.mem_toList.mp hnotice)
    rfl
  have h := t.step
  generalize t.after = after, t.outcome = outcome, t.events = events at h hnotice
  cases h with
  | connected _ _ attempt | connectFailed _ _ attempt =>
    have hattempt := Connection.notices_attempt t.replies t.before.streak notice
    rw [attempt] at hattempt
    rw [notices_append, List.mem_append] at hnotice
    rcases hnotice with hnotice | hnotice
    · rcases hattempt hnotice with ⟨_, rfl⟩ | ⟨_, _, rfl⟩ <;> rfl
    · obtain rfl := List.mem_singleton.mp hnotice
      rfl
  | @round connection _ _ _ _ run =>
    rw [notices_append, List.mem_append] at hnotice
    rcases hnotice with hnotice | hnotice
    · exact hround connection.explorer (by rwa [run])
    · obtain rfl := List.mem_singleton.mp hnotice
      split <;> rfl
  | @disconnected connection _ _ _ _ run =>
    rw [notices_append, List.mem_append] at hnotice
    rcases hnotice with hnotice | hnotice
    · exact hround connection.explorer (by rwa [run])
    · rcases List.mem_pair.mp hnotice with rfl | rfl <;> rfl

namespace Monitor

/-- A tick changes neither the node's name nor the threshold. -/
theorem settings_tick (m : Monitor) (r : Replies) :
    (m.tick r).1.nodeName = m.nodeName ∧ (m.tick r).1.threshold = m.threshold := by
  have h := m.step r
  generalize m.tick r = result at h ⊢
  cases h <;> exact ⟨rfl, rfl⟩

/-- The settings of a monitor are those of its configuration for ever. -/
theorem settings_after (m : Monitor) (script : List Replies) :
    (m.after script).nodeName = m.nodeName ∧ (m.after script).threshold = m.threshold := by
  induction script using List.reverseRecOn with
  | nil => exact ⟨rfl, rfl⟩
  | append_singleton script r ih =>
    obtain ⟨hname, hthreshold⟩ := settings_tick (m.after script) r
    rw [after_concat, hname, hthreshold]
    exact ih

/-- Every tick of a run judges by the threshold that the run began with. -/
theorem threshold_of_mem_ticks {m : Monitor} {script : List Replies} {t : Tick}
    (h : t ∈ m.ticks script) : t.before.threshold = m.threshold := by
  obtain ⟨earlier, hearlier⟩ := exists_script_of_mem_ticks h
  rw [hearlier]
  exact (settings_after m earlier).2

end Monitor

end NodeWatch
