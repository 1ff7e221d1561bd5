import NodeWatch.Proofs.Connection

/-!
# What the ticks of a run obtain

A tick with a connection may obtain peers, a block number, a block and a lag; a tick without one
obtains nothing. What a monitor remembers of the node after a run is what was obtained last: the
verdict is that of the latest lag and the last block is the latest block, however long ago and
whatever failed since.
-/

namespace NodeWatch

/-- The lag between two block numbers fits into a block number. -/
theorem natAbs_blocksBehind_lt (own remote : UInt64) :
    (blocksBehind own remote).natAbs < UInt64.size := by
  have hown := own.toNat_lt_size
  have hremote := remote.toNat_lt_size
  unfold blocksBehind
  omega

/-- A lag that fits into a block number is not cut off. -/
theorem toNat_absoluteLag {behind : Int} (h : behind.natAbs < UInt64.size) :
    (absoluteLag behind).toNat = behind.natAbs := by
  simp only [absoluteLag, Quantity.saturate, h, if_true]
  exact UInt64.toNat_ofNat_of_lt' h

/-- The verdict on a lag that fits into a block number compares it with the threshold. -/
theorem Verdict.synced_ofLag {behind : Int} (h : behind.natAbs < UInt64.size)
    (threshold : UInt64) :
    (Verdict.ofLag (absoluteLag behind) threshold).synced =
      decide (behind.natAbs ≤ threshold.toNat) := by
  simp only [Verdict.ofLag, UInt64.le_iff_toNat_le, toNat_absoluteLag h]

/-- Every lag that a round obtains fits into a block number. -/
theorem Replies.natAbs_lt_of_lag? {r : Replies} {explorer : ExplorerId} {lag : Int}
    (h : r.lag? explorer = some lag) : lag.natAbs < UInt64.size := by
  obtain ⟨own, _, h⟩ := Option.bind_eq_some_iff.mp h
  obtain ⟨remote, _, rfl⟩ := Option.map_eq_some_iff.mp h
  exact natAbs_blocksBehind_lt own remote

namespace Block

/-- The times from each of some blocks to the next one, in milliseconds. -/
def intervals : List Block → List Int
  | first :: second :: rest => second.millisSince first :: intervals (second :: rest)
  | _ => []

/-- One more block makes one more interval, unless it is the first block. -/
theorem intervals_concat (blocks : List Block) (b : Block) :
    intervals (blocks ++ [b]) = intervals blocks ++ (blocks.getLast?.map b.millisSince).toList := by
  induction blocks with
  | nil => rfl
  | cons first rest ih =>
    cases rest with
    | nil => rfl
    | cons second rest =>
      simp only [List.cons_append, intervals] at ih ⊢
      rw [ih, List.getLast?_cons_cons]

end Block

namespace Tick

/-- The number of peers that the tick obtained. -/
def peers? (t : Tick) : Option UInt64 :=
  t.before.connection.bind fun _ => t.replies.peerCount.toOption

/-- The block number that the tick obtained from the node. -/
def number? (t : Tick) : Option UInt64 :=
  t.before.connection.bind fun _ => t.replies.blockNumber.toOption

/-- The block that the tick obtained. -/
def block? (t : Tick) : Option Block := t.before.connection.bind fun _ => t.replies.block?

/-- The lag that the tick obtained: the block number of the explorer that the connection is bound
to, less that of the node. -/
def lag? (t : Tick) : Option Int :=
  t.before.connection.bind fun connection => t.replies.lag? connection.explorer

/-- A tick obtains a lag if it has a connection and gets a block number from the node and one from
the explorer. -/
theorem isSome_lag?_iff (t : Tick) :
    t.lag?.isSome = true ↔ ∃ connection own remote, t.before.connection = some connection ∧
      t.replies.blockNumber = .ok own ∧
      t.replies.remoteBlockNumber connection.explorer = .ok remote := by
  unfold lag? Replies.lag?
  cases t.before.connection with
  | none => simp
  | some connection =>
    cases t.replies.blockNumber with
    | error e => simp [Except.toOption]
    | ok own =>
      cases h : t.replies.remoteBlockNumber connection.explorer <;> simp [Except.toOption, h]

theorem natAbs_lt_of_lag? {t : Tick} {lag : Int} (h : t.lag? = some lag) :
    lag.natAbs < UInt64.size := by
  obtain ⟨connection, _, h⟩ := Option.bind_eq_some_iff.mp h
  exact Replies.natAbs_lt_of_lag? h

/-- A tick changes the verdict and the last block as far as it obtains a lag and a block. -/
theorem memory_after (t : Tick) :
    t.after.status.verdict = (t.lag?.map fun lag =>
        Verdict.ofLag (absoluteLag lag) t.before.threshold).getD t.before.status.verdict ∧
      t.after.status.lastBlock = t.block?.or t.before.status.lastBlock := by
  have h := t.step
  unfold lag? block?
  generalize t.after = after, t.outcome = outcome, t.events = events at h ⊢
  cases h with
  | connected idle | connectFailed idle => simp [idle, Monitor.publish]
  | @round connection _ _ _ busy run | @disconnected connection _ _ _ busy run =>
    have hs := Round.status_run t.replies connection.explorer t.before.labels
      t.before.threshold t.before.status
    rw [run] at hs
    cases hs
    simp only [busy, Option.bind_some]
    exact ⟨rfl, rfl⟩

end Tick

namespace Monitor

/-- The verdict after a run is that on the latest lag of the run; without a lag it is that the node
is not in sync. -/
theorem synced_after (c : Config) (script : List Replies) :
    ((ofConfig c).after script).status.synced =
      (latest Tick.lag? ((ofConfig c).ticks script)).any fun lag =>
        decide (lag.natAbs ≤ c.syncThreshold.toNat) := by
  induction script using List.reverseRecOn with
  | nil => rfl
  | append_singleton script r ih =>
    rw [ticks_concat, latest_concat, after_concat]
    let t : Tick := ⟨(ofConfig c).after script, r⟩
    have hv : (t.before.tick t.replies).1.status.verdict = _ := t.memory_after.1
    have hth : t.before.threshold = c.syncThreshold := (settings_after (ofConfig c) script).2
    change (t.before.tick t.replies).1.status.verdict.synced = _
    rw [hv]
    cases hlag : t.lag? with
    | none =>
      simp only [Option.map_none, Option.getD_none, Option.none_or]
      exact ih
    | some lag =>
      simp only [Option.map_some, Option.getD_some, Option.some_or, Option.any_some, hth]
      exact Verdict.synced_ofLag (Tick.natAbs_lt_of_lag? hlag) c.syncThreshold

/-- What is published after a run says that the node is in sync exactly if there is a connection and
the latest lag of the run is within the threshold. -/
theorem isSynced_after (c : Config) (script : List Replies) :
    ((ofConfig c).after script).health.isSynced =
      (((ofConfig c).after script).connection.isSome &&
        (latest Tick.lag? ((ofConfig c).ticks script)).any fun lag =>
          decide (lag.natAbs ≤ c.syncThreshold.toNat)) := by
  have hm := coherent_after c script
  rw [hm.health, hm.status, ← synced_after]
  rfl

/-- The last block after a run is the latest one that the run obtained. -/
theorem lastBlock_after (c : Config) (script : List Replies) :
    ((ofConfig c).after script).status.lastBlock =
      latest Tick.block? ((ofConfig c).ticks script) := by
  induction script using List.reverseRecOn with
  | nil => rfl
  | append_singleton script r ih =>
    rw [ticks_concat, latest_concat, after_concat, ← ih]
    exact (Tick.memory_after ⟨_, r⟩).2

end Monitor

end NodeWatch
