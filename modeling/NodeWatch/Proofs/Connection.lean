import NodeWatch.Proofs.Step

/-!
# The connection over a run

Whether a monitor is connected is recorded in its connection, in its status and in what it publishes
for the health endpoint, and it shows in the outcomes of its ticks. All of these agree after every
run. Only a refused question of a round ends a connection, and only a known chain with an explorer
client begins one.
-/

namespace NodeWatch

/-- The answers of a node that is two blocks behind its explorer. -/
def Replies.healthy : Replies where
  chainId := .ok "kovan"
  peerCount := .ok 25
  blockNumber := .ok 100
  blockByNumber number := .ok ⟨number, ⟨1500000000, 0, by decide, by decide, by decide⟩⟩
  explorerFactory _ := .ok 0
  remoteBlockNumber _ := .ok 102

/-- The same answers, but the node refuses to tell its peers. -/
def Replies.refusing : Replies :=
  { Replies.healthy with peerCount := .error (.connectionRefused "localhost") }

/-- The answers of a node that lost its last block and is on an older one. -/
def Replies.rewound : Replies :=
  { Replies.healthy with
    blockNumber := .ok 99
    blockByNumber := fun number =>
      .ok ⟨number, ⟨1499999985, 0, by decide, by decide, by decide⟩⟩ }

namespace Tick

/-- The chain of the connection that the tick made. -/
def resolvedChain? (t : Tick) : Option Chain :=
  match t.outcome with
  | .connected chain => some chain
  | _ => none

/-- A tick attempts to connect exactly when there is no connection. -/
theorem outcome_attempt_iff (t : Tick) :
    ((∃ chain, t.outcome = .connected chain) ∨ ∃ cause, t.outcome = .connectFailed cause) ↔
      t.before.connection = none := by
  have h := t.step
  generalize t.after = after, t.outcome = outcome, t.events = events at h ⊢
  cases h with
  | connected idle | connectFailed idle => simp [idle]
  | round busy | disconnected busy => simp [busy]

/-- A tick gathers exactly when there is a connection. -/
theorem outcome_round_iff (t : Tick) :
    ((∃ report, t.outcome = .round report) ∨ ∃ report, t.outcome = .disconnected report) ↔
      t.before.connection.isSome = true := by
  have h := t.step
  generalize t.after = after, t.outcome = outcome, t.events = events at h ⊢
  cases h with
  | connected idle | connectFailed idle => simp [idle]
  | round busy | disconnected busy => simp [busy]

/-- Without a connection a tick ends with the one that its attempt makes, if it makes one. -/
theorem connection_after_of_none {t : Tick} (h : t.before.connection = none) :
    t.after.connection = t.replies.connection? := by
  have hs := t.step
  generalize t.after = after, t.outcome = outcome, t.events = events at hs ⊢
  cases hs with
  | connected idle made => exact made.symm
  | connectFailed idle unmade => exact idle.trans unmade.symm
  | round busy | disconnected busy => simp [h] at busy

/-- The outcome tells which chain was connected to. -/
theorem outcome_eq_connected_iff (t : Tick) (chain : Chain) :
    t.outcome = .connected chain ↔
      t.before.connection = none ∧ t.replies.chainId = .ok chain.name ∧
        ∃ explorer, t.replies.explorerFactory chain = .ok explorer := by
  have h := t.step
  generalize t.after = after, t.outcome = outcome, t.events = events at h ⊢
  cases h with
  | @connected connection _ _ idle made =>
    obtain ⟨hid, hbuilt⟩ := Replies.connection?_eq_some_iff.mp made
    simp only [Outcome.connected.injEq, idle, true_and]
    constructor
    · rintro rfl
      exact ⟨hid, _, hbuilt⟩
    · rintro ⟨hid', explorer, hbuilt'⟩
      have he := Replies.connection?_eq_some_iff.mpr ⟨hid', hbuilt'⟩
      exact congrArg Connection.chain (Option.some.inj (made.symm.trans he))
  | connectFailed idle unmade =>
    simp only [reduceCtorEq, idle, true_and, false_iff]
    rintro ⟨hid, explorer, hbuilt⟩
    have he := Replies.connection?_eq_some_iff.mpr ⟨hid, hbuilt⟩
    rw [unmade] at he
    cases he
  | round busy | disconnected busy => simp [busy]

/-- The questions of a tick with a connection are those of its round. -/
theorem calls_of_some {t : Tick} {connection : Connection}
    (h : t.before.connection = some connection) :
    calls t.events = Round.questions t.replies connection.explorer := by
  have hs := t.step
  generalize t.after = after, t.outcome = outcome, t.events = events at hs ⊢
  cases hs with
  | connected idle | connectFailed idle => simp [h] at idle
  | round busy run | disconnected busy run =>
    obtain rfl := Option.some.inj (h.symm.trans busy)
    have hc := Round.calls_run t.replies connection.explorer t.before.labels
      t.before.threshold t.before.status
    rw [run] at hc
    simpa using hc

/-- A connection is lost in a tick exactly when one of its questions was refused. -/
theorem connection_after_eq_none_iff {t : Tick} {connection : Connection}
    (h : t.before.connection = some connection) :
    t.after.connection = none ↔ ∃ q, .call q ∈ t.events ∧ t.replies.Refuses q := by
  have hq := Round.isConnectionRefused_run_iff t.replies connection.explorer t.before.labels
    t.before.threshold t.before.status
  rw [← calls_of_some h] at hq
  simp only [mem_calls] at hq
  have hs := t.step
  generalize t.after = after, t.outcome = outcome, t.events = events at hs hq ⊢
  cases hs with
  | connected idle | connectFailed idle => simp [h] at idle
  | round busy run up =>
    obtain rfl := Option.some.inj (h.symm.trans busy)
    rw [run] at hq
    simp only [Monitor.publish, busy, reduceCtorEq, ← hq, up, Bool.false_eq_true]
  | disconnected busy run down =>
    obtain rfl := Option.some.inj (h.symm.trans busy)
    rw [run] at hq
    exact iff_of_true rfl (hq.mp down)

end Tick

namespace Monitor

/-- All that a monitor records of its connection agrees with the connection itself and with the
ticks that led to it. -/
structure Coherent (ticks : List Tick) (m : Monitor) : Prop where
  status : m.connection.isSome = m.status.connected
  health : m.health = .ofStatus m.status
  chain : m.connection.isSome = true → latest Tick.resolvedChain? ticks = m.chain?

/-- A monitor that has made no tick is coherent. -/
theorem coherent_ofConfig (c : Config) : Coherent [] (ofConfig c) where
  status := rfl
  health := rfl
  chain := by simp [ofConfig]

/-- A round does not touch the connection flag. -/
theorem connected_run {m : Monitor} {r : Replies} {explorer : ExplorerId} {status : Status}
    {report : Report} {events : List Event}
    (run : Round.run r explorer m.labels m.threshold m.status = (status, report, events)) :
    status.connected = m.status.connected := by
  have h := congrArg Status.connected
    (Round.status_run r explorer m.labels m.threshold m.status)
  rwa [run] at h

/-- Every tick keeps a monitor coherent. -/
theorem Coherent.tick {ticks : List Tick} {m : Monitor} (h : Coherent ticks m) (r : Replies) :
    Coherent (ticks ++ [⟨m, r⟩]) (m.tick r).1 := by
  have hs := Tick.step ⟨m, r⟩
  have hlatest := latest_concat Tick.resolvedChain? ticks ⟨m, r⟩
  unfold Tick.resolvedChain? at hlatest
  change Coherent _ (Tick.after ⟨m, r⟩)
  generalize Tick.after ⟨m, r⟩ = after, Tick.outcome ⟨m, r⟩ = outcome,
    Tick.events ⟨m, r⟩ = events at hs hlatest ⊢
  cases hs with
  | connected idle made =>
    exact { status := rfl, health := rfl, chain := fun _ => hlatest }
  | connectFailed idle unmade =>
    refine { status := h.status, health := rfl, chain := fun hsome => ?_ }
    simp [publish, show m.connection = none from idle] at hsome
  | round busy run up =>
    refine { status := ?_, health := rfl, chain := fun hsome => ?_ }
    · exact h.status.trans (connected_run run).symm
    · exact hlatest.trans (h.chain hsome)
  | disconnected busy run down =>
    exact { status := rfl, health := rfl, chain := fun hsome => by cases hsome }

/-- A monitor is coherent after every run. -/
theorem coherent_after (c : Config) (script : List Replies) :
    Coherent ((ofConfig c).ticks script) ((ofConfig c).after script) :=
  run_induction (coherent_ofConfig c) (fun _ _ r h => h.tick r) script

/-- After every run the connection, the connection flag, what is published and the chain agree, the
chain being the one that was connected to last. Every tick of the run attempts to connect or gathers
by whether there was a connection; it loses a connection exactly when a question of it was refused,
and gains one exactly when a known chain was reported and its explorer client built. -/
theorem connection_status_agrees (c : Config) (script : List Replies) :
    let ticks := (ofConfig c).ticks script
    let m := (ofConfig c).after script
    (m.connection.isSome = m.status.connected ∧ m.health.connected = m.status.connected ∧
      m.health.lastSynced = m.status.synced ∧
      ∀ chain, m.chain? = some chain ↔
        m.status.connected = true ∧ latest Tick.resolvedChain? ticks = some chain) ∧
    ∀ t ∈ ticks,
      ((∃ chain, t.outcome = .connected chain) ∨ (∃ cause, t.outcome = .connectFailed cause) ↔
        t.before.status.connected = false) ∧
      ((∃ report, t.outcome = .round report) ∨ (∃ report, t.outcome = .disconnected report) ↔
        t.before.status.connected = true) ∧
      (∀ chain, t.outcome = .connected chain ↔
        t.before.status.connected = false ∧ t.replies.chainId = .ok chain.name ∧
          ∃ explorer, t.replies.explorerFactory chain = .ok explorer) ∧
      (t.before.status.connected = true →
        (t.after.status.connected = false ↔
          ∃ q, .call q ∈ t.events ∧ t.replies.Refuses q)) ∧
      (t.before.status.connected = false →
        (t.after.status.connected = true ↔
          (t.replies.chainId = .ok "kovan" ∧
              ∃ explorer, t.replies.explorerFactory .kovan = .ok explorer) ∨
            (t.replies.chainId = .ok "foundation" ∧
              ∃ explorer, t.replies.explorerFactory .foundation = .ok explorer))) := by
  intro ticks m
  have hm : Coherent ticks m := coherent_after c script
  refine ⟨⟨hm.status, ?_, ?_, fun chain => ?_⟩, fun t ht => ?_⟩
  · rw [hm.health]
    rfl
  · rw [hm.health]
    rfl
  · rw [← hm.status]
    constructor
    · intro h
      have hsome : m.connection.isSome = true := by
        obtain ⟨connection, hconnection, -⟩ := Option.map_eq_some_iff.mp h
        simp only [hconnection, Option.isSome_some]
      exact ⟨hsome, (hm.chain hsome).trans h⟩
    · rintro ⟨hsome, h⟩
      exact (hm.chain hsome).symm.trans h
  obtain ⟨earlier, hearlier⟩ := exists_script_of_mem_ticks ht
  have hbefore : t.before.connection.isSome = t.before.status.connected := by
    rw [hearlier]
    exact (coherent_after c earlier).status
  have hafter : t.after.connection.isSome = t.after.status.connected := by
    have h := (coherent_after c (earlier ++ [t.replies])).status
    rwa [after_concat, ← hearlier] at h
  have hnone : t.before.connection = none ↔ t.before.status.connected = false := by
    rw [← hbefore, Option.isSome_eq_false_iff, Option.isNone_iff_eq_none]
  refine ⟨t.outcome_attempt_iff.trans hnone, ?_, fun chain => ?_, fun h => ?_, fun h => ?_⟩
  · rw [← hbefore]
    exact t.outcome_round_iff
  · rw [t.outcome_eq_connected_iff, hnone]
  · obtain ⟨connection, hconnection⟩ := Option.isSome_iff_exists.mp (hbefore.trans h)
    rw [← Tick.connection_after_eq_none_iff hconnection, ← hafter,
      Option.isSome_eq_false_iff, Option.isNone_iff_eq_none]
  · rw [← hafter, Tick.connection_after_of_none (hnone.mpr h), Option.isSome_iff_exists]
    constructor
    · rintro ⟨⟨chain, explorer⟩, hmade⟩
      obtain ⟨hid, hbuilt⟩ := Replies.connection?_eq_some_iff.mp hmade
      cases chain with
      | kovan => exact Or.inl ⟨hid, explorer, hbuilt⟩
      | foundation => exact Or.inr ⟨hid, explorer, hbuilt⟩
    · rintro (⟨hid, explorer, hbuilt⟩ | ⟨hid, explorer, hbuilt⟩)
      · exact ⟨⟨.kovan, explorer⟩, Replies.connection?_eq_some_iff.mpr ⟨hid, hbuilt⟩⟩
      · exact ⟨⟨.foundation, explorer⟩, Replies.connection?_eq_some_iff.mpr ⟨hid, hbuilt⟩⟩

/-- One refused question ends a connection although the same round obtained a lag. -/
theorem not_connected_after_refused_peerCount :
    (⟨(ofConfig { nodeName := "parity", endpoint := "localhost" }).after [.healthy],
      .refusing⟩ : Tick).after.status.connected = false := by
  have h := (connection_status_agrees { nodeName := "parity", endpoint := "localhost" }
    [.healthy, .refusing]).2 ⟨_, .refusing⟩ (List.mem_cons_of_mem _ (List.mem_singleton_self _))
  exact (h.2.2.2.1 (by decide)).mpr ⟨.peerCount, by decide, "localhost", rfl⟩

end Monitor

end NodeWatch
