import NodeWatch.Proofs.Readings

/-!
# What a tick asks

The questions of every tick of every run, in their order and whatever the answers are, and what the
tick does to the gauges. An attempt to connect asks for the chain and has an explorer client built
if the chain is known. A round goes on after every failure but that of the block number, and it asks
the explorer client that was built for the present connection.
-/

namespace NodeWatch

/-- The questions of an attempt to connect. The factory of explorer clients is asked only for the
chain that the node named. -/
def Connection.questions (r : Replies) : List Call :=
  .chainId :: ((r.chainId.toOption.bind Chain.ofId?).map Call.explorerFactory).toList

/-- An attempt to connect asks its questions whether or not a client can be built. -/
theorem Connection.calls_attempt (r : Replies) (streak : Streak) :
    calls (Connection.attempt r streak).2.2 = questions r := by
  have hnotes (s : Streak) (id : String) : calls (s.notes id) = [] := by
    unfold Streak.notes
    split <;> rfl
  cases hid : r.chainId with
  | error e => simp [attempt, questions, hid, Except.toOption]
  | ok id =>
    cases hc : Chain.ofId? id with
    | none => simp [attempt, questions, hid, hc, hnotes, Except.toOption]
    | some chain =>
      cases hf : r.explorerFactory chain <;>
        simp [attempt, questions, hid, hc, hf, Except.toOption]

/-- The factory is asked for a chain if the node named exactly that chain. -/
theorem Connection.questions_of_name {r : Replies} (chain : Chain)
    (h : r.chainId = .ok chain.name) : questions r = [.chainId, .explorerFactory chain] := by
  simp [questions, h, Except.toOption]

/-- The factory is not asked if the node named none of the chains. -/
theorem Connection.questions_of_ne {r : Replies} (h : ∀ chain : Chain, r.chainId ≠ .ok chain.name) :
    questions r = [.chainId] := by
  cases hid : r.chainId with
  | error e => simp [questions, hid, Except.toOption]
  | ok id =>
    have hnone : Chain.ofId? id = none := by
      refine Option.eq_none_iff_forall_ne_some.mpr fun chain hchain => h chain ?_
      rw [hid, Chain.ofId?_eq_some_iff.mp hchain]
    simp [questions, hid, hnone, Except.toOption]

namespace Round

/-- With a block number a round asks for that block and then the explorer. -/
theorem questions_of_ok {r : Replies} {number : UInt64} (h : r.blockNumber = .ok number)
    (explorer : ExplorerId) : questions r explorer =
      [.peerCount, .blockNumber, .blockByNumber number, .remoteBlockNumber explorer] := by
  simp [questions, h, Except.toOption]

/-- Without a block number a round asks nothing more. -/
theorem questions_of_error {r : Replies} {e : NodeError} (h : r.blockNumber = .error e)
    (explorer : ExplorerId) : questions r explorer = [.peerCount, .blockNumber] := by
  simp [questions, h, Except.toOption]

end Round

namespace Tick

/-- The explorer client that was built for the connection that the tick made. -/
def builtExplorer? (t : Tick) : Option ExplorerId :=
  t.resolvedChain?.bind fun chain => (t.replies.explorerFactory chain).toOption

/-- The questions of a tick without a connection are those of an attempt to make one. -/
theorem calls_of_none {t : Tick} (h : t.before.connection = none) :
    calls t.events = Connection.questions t.replies := by
  have hs := t.step
  generalize t.after = after, t.outcome = outcome, t.events = events at hs ⊢
  cases hs with
  | connected idle _ attempt | connectFailed idle _ attempt =>
    have hc := Connection.calls_attempt t.replies t.before.streak
    rw [attempt] at hc
    simpa using hc
  | round busy | disconnected busy => simp [h] at busy

/-- A tick without a connection leaves the gauges alone. -/
theorem gaugeEvents_of_none {t : Tick} (h : t.before.connection = none) :
    gaugeEvents t.events = [] := by
  have hup : t.isLoss = false := by
    have hs := t.step
    unfold isLoss
    generalize t.after = after, t.outcome = outcome, t.events = events at hs ⊢
    cases hs with
    | connected | connectFailed => rfl
    | round busy | disconnected busy => simp [h] at busy
  simp [gaugeEvents_events, readings, h, hup, setAll]

end Tick

namespace Monitor

/-- The explorer client of a connection is the one that was built when the connection was made. -/
theorem builtExplorer_after (c : Config) (script : List Replies) {connection : Connection}
    (h : ((ofConfig c).after script).connection = some connection) :
    latest Tick.builtExplorer? ((ofConfig c).ticks script) = some connection.explorer := by
  revert connection
  refine run_induction
    (P := fun ticks m => ∀ {connection : Connection}, m.connection = some connection →
      latest Tick.builtExplorer? ticks = some connection.explorer)
    (fun h => by cases h) (fun ticks m r ih connection h => ?_) script
  have hs := Tick.step ⟨m, r⟩
  have hlatest := latest_concat Tick.builtExplorer? ticks ⟨m, r⟩
  unfold Tick.builtExplorer? Tick.resolvedChain? at hlatest
  change (Tick.after ⟨m, r⟩).connection = some connection at h
  generalize Tick.after ⟨m, r⟩ = after, Tick.outcome ⟨m, r⟩ = outcome,
    Tick.events ⟨m, r⟩ = events at hs hlatest h
  cases hs with
  | @connected made _ _ idle hmade =>
    obtain rfl : made = connection := Option.some.inj h
    have hbuilt : r.explorerFactory made.chain = .ok made.explorer :=
      (Replies.connection?_eq_some_iff.mp hmade).2
    refine hlatest.trans ?_
    simp [hbuilt, Except.toOption]
  | connectFailed idle =>
    have hnone : m.connection = none := idle
    simp [publish, hnone] at h
  | round busy => exact hlatest.trans (ih h)
  | disconnected => cases h

/-- The next tick of every run, whatever is answered. Without a connection it asks for the chain,
then the factory for an explorer client if and only if the name of the chain is exactly one of the
two known ones, and it leaves the gauges alone. With a connection it asks for the peers, for the
block number, and if it gets that, for the block of that number and then the explorer client that
was built when the connection was made. Whatever it does to the gauges carries the label of the
node; the sync gauge is withdrawn once, after all sets, if the tick loses the connection, and
nothing else is ever withdrawn. -/
theorem conduct_of_tick (c : Config) (script : List Replies) (r : Replies) :
    let t : Tick := ⟨(ofConfig c).after script, r⟩
    (t.before.status.connected = false →
      ((r.chainId = .ok "kovan" ∧ calls t.events = [.chainId, .explorerFactory .kovan]) ∨
        (r.chainId = .ok "foundation" ∧
          calls t.events = [.chainId, .explorerFactory .foundation]) ∨
        (r.chainId ≠ .ok "kovan" ∧ r.chainId ≠ .ok "foundation" ∧
          calls t.events = [.chainId])) ∧
      gaugeEvents t.events = []) ∧
    (t.before.status.connected = true →
      ∃ explorer, latest Tick.builtExplorer? ((ofConfig c).ticks script) = some explorer ∧
        ((∃ number, r.blockNumber = .ok number ∧ calls t.events =
            [.peerCount, .blockNumber, .blockByNumber number, .remoteBlockNumber explorer]) ∨
          ∃ e, r.blockNumber = .error e ∧ calls t.events = [.peerCount, .blockNumber])) ∧
    ∃ sets, (∀ e ∈ sets, ∃ gauge value, e = .set gauge [("node", c.nodeName)] value) ∧
      gaugeEvents t.events = sets ++
        match t.outcome with
        | .disconnected _ => [.remove "synced" [("node", c.nodeName)]]
        | _ => [] := by
  intro t
  have hcoherent := (coherent_after c script).status
  have hlabels : t.before.labels = [("node", c.nodeName)] := by
    rw [labels, Gauge.nodeLabels, (settings_after (ofConfig c) script).1]
    rfl
  refine ⟨fun hconnected => ?_, fun hconnected => ?_, ?_⟩
  · have hnone : t.before.connection = none := by
      rw [← Option.isNone_iff_eq_none, ← Option.isSome_eq_false_iff]
      exact hcoherent.trans hconnected
    rw [Tick.calls_of_none hnone]
    refine ⟨?_, Tick.gaugeEvents_of_none hnone⟩
    by_cases hkovan : r.chainId = .ok "kovan"
    · exact Or.inl ⟨hkovan, Connection.questions_of_name .kovan hkovan⟩
    by_cases hfoundation : r.chainId = .ok "foundation"
    · exact Or.inr (Or.inl
        ⟨hfoundation, Connection.questions_of_name .foundation hfoundation⟩)
    · refine Or.inr (Or.inr ⟨hkovan, hfoundation, Connection.questions_of_ne fun chain => ?_⟩)
      cases chain with
      | kovan => exact hkovan
      | foundation => exact hfoundation
  · obtain ⟨connection, hconnection⟩ := Option.isSome_iff_exists.mp (hcoherent.trans hconnected)
    refine ⟨connection.explorer, builtExplorer_after c script hconnection, ?_⟩
    rw [Tick.calls_of_some hconnection]
    cases hnumber : r.blockNumber with
    | ok number => exact Or.inl ⟨number, rfl, Round.questions_of_ok hnumber _⟩
    | error e => exact Or.inr ⟨e, rfl, Round.questions_of_error hnumber _⟩
  · refine ⟨setAll t.before.labels t.readings, fun e he => ?_, ?_⟩
    · obtain ⟨reading, -, rfl⟩ := List.mem_map.mp he
      exact ⟨reading.1, reading.2, by rw [hlabels]⟩
    · rw [Tick.gaugeEvents_events, hlabels, Tick.isLoss]
      cases t.outcome <;> rfl

/-- A round goes on to the explorer although the node refused to tell its peers, and withdraws the
sync gauge at its end. -/
theorem conduct_of_refused_peerCount :
    let t : Tick :=
      ⟨(ofConfig { nodeName := "parity", endpoint := "localhost" }).after [.healthy], .refusing⟩
    calls t.events = [.peerCount, .blockNumber, .blockByNumber 100, .remoteBlockNumber 0] ∧
      ∃ sets, gaugeEvents t.events = sets ++ [.remove "synced" [("node", "parity")]] := by
  intro t
  have h := conduct_of_tick { nodeName := "parity", endpoint := "localhost" } [.healthy] .refusing
  refine ⟨?_, ?_⟩
  · obtain ⟨explorer, hbuilt, ⟨number, hnumber, hcalls⟩ | ⟨e, he, -⟩⟩ := h.2.1 (by decide)
    · obtain rfl : 0 = explorer := Option.some.inj hbuilt
      obtain rfl : 100 = number := Except.ok.inj hnumber
      exact hcalls
    · cases he
  · obtain ⟨sets, -, hsets⟩ := h.2.2
    exact ⟨sets, hsets⟩

end Monitor

end NodeWatch
