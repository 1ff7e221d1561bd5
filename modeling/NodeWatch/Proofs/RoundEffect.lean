import NodeWatch.Proofs.Conduct
import NodeWatch.Proofs.Transitions

/-!
# The effect of a round

All that a round does, side by side: what it asks, what it exports, what it reports and what it
leaves in the status. Each of these follows from the replies and the status before in its own way;
here they are stated together, so that they can be compared with one another.
-/

namespace NodeWatch

/-- There is a change exactly if the values differ, and it tells the later one. -/
theorem changed?_eq_some_iff {before after v : Bool} :
    changed? before after = some v ↔ after ≠ before ∧ v = after := by
  unfold changed?
  by_cases h : after = before <;> simp [h, eq_comm]

namespace Round

variable (r : Replies) (explorer : ExplorerId) (labels : Labels) (threshold : UInt64)
  (status : Status)

/-- The failures of a round are those of the steps that it took, and without a block number it takes
no further one. -/
theorem failures_run_eq :
    (run r explorer labels threshold status).2.1.failures =
      ((errorOf? r.peerCount).map fun e => ⟨.peers, .node e⟩).toList ++
        match r.blockNumber with
        | .error e => [⟨.blockNumber, .node e⟩]
        | .ok number =>
          ((errorOf? (r.blockByNumber number)).map fun e => ⟨.block, .node e⟩).toList ++
            ((errorOf? (r.remoteBlockNumber explorer)).map fun e =>
              ⟨.explorer, .explorer e⟩).toList := by
  have hsteps (steps : List Call) :
      steps.filterMap r.failure? = steps.flatMap fun q => (r.failure? q).toList :=
    List.filterMap_eq_flatMap_toList _ _
  rw [failures_run, hsteps]
  cases hn : r.blockNumber with
  | error e => simp [questions_of_error hn, Replies.failure?, hn, errorOf?]
  | ok number => simp [questions_of_ok hn, Replies.failure?, hn, errorOf?]

/-- A failure of the block number is the last one. -/
theorem getLast?_failures_run {f : Failure}
    (h : f ∈ (run r explorer labels threshold status).2.1.failures)
    (hstep : f.step = .blockNumber) :
    (run r explorer labels threshold status).2.1.failures.getLast? = some f := by
  have hpeers : f ∉ ((errorOf? r.peerCount).map fun e =>
      (⟨.peers, .node e⟩ : Failure)).toList := by
    rintro hf
    obtain ⟨e, -, rfl⟩ := Option.map_eq_some_iff.mp (Option.mem_toList.mp hf)
    cases hstep
  rw [failures_run_eq] at h ⊢
  replace h := (List.mem_append.mp h).resolve_left hpeers
  cases hn : r.blockNumber with
  | error e =>
    rw [hn] at h
    rw [List.mem_singleton.mp h]
    exact List.getLast?_concat
  | ok number =>
    rw [hn] at h
    rcases List.mem_append.mp h with h | h
    · obtain ⟨e, -, rfl⟩ := Option.map_eq_some_iff.mp (Option.mem_toList.mp h)
      cases hstep
    · obtain ⟨e, -, rfl⟩ := Option.map_eq_some_iff.mp (Option.mem_toList.mp h)
      cases hstep

/-- A round obtains a lag exactly if it is told both block numbers. -/
theorem lag?_eq_some_iff {lag : Int} :
    r.lag? explorer = some lag ↔ ∃ own remote, r.blockNumber = .ok own ∧
      r.remoteBlockNumber explorer = .ok remote ∧ lag = (remote.toNat : Int) - own.toNat := by
  unfold Replies.lag?
  cases r.blockNumber with
  | error e => simp [Except.toOption]
  | ok own =>
    cases r.remoteBlockNumber explorer <;> simp [Except.toOption, blocksBehind, eq_comm]

/-- The verdict after a round is the one on its lag, if it obtained one. -/
theorem synced_run :
    (run r explorer labels threshold status).1.synced =
      ((r.lag? explorer).map fun lag => decide (lag.natAbs ≤ threshold.toNat)).getD
        status.synced := by
  rw [status_run]
  cases h : r.lag? explorer with
  | none => rfl
  | some lag => exact Verdict.synced_ofLag (Replies.natAbs_lt_of_lag? h) threshold

/-- A round does nothing to the gauges but to set them to what it obtained, the sync gauge to the
verdict after it. -/
theorem gaugeEvents_run_eq :
    gaugeEvents (run r explorer labels threshold status).2.2 =
      (r.peerCount.toOption.map fun n => .set "peers" labels (.count n)).toList ++
        (r.blockNumber.toOption.map fun n => .set "blockNumber" labels (.count n)).toList ++
        (r.block?.bind fun block => status.lastBlock.map fun last =>
          .set "blocktime" labels (.thousandths (block.millisSince last))).toList ++
        (r.lag? explorer).elim [] fun lag =>
          [.set "blocksbehind" labels (.whole lag),
            .set "synced" labels (.flag (run r explorer labels threshold status).1.synced)] := by
  have hset (reading : Option (String × Reading)) : setAll labels reading.toList =
      (reading.map fun reading => .set reading.1 labels reading.2).toList := by
    cases reading <;> rfl
  have happend (before after : List (String × Reading)) :
      setAll labels (before ++ after) = setAll labels before ++ setAll labels after :=
    List.map_append
  rw [gaugeEvents_run, readings, happend, happend, happend, hset, hset, hset]
  simp only [Option.map_map, Option.map_bind, Function.comp_def]
  congr 1
  cases hlag : r.lag? explorer with
  | none => rfl
  | some lag =>
    have hsynced : (run r explorer labels threshold status).1.synced =
        (Verdict.ofLag (absoluteLag lag) threshold).synced := by
      rw [status_run, hlag]
      rfl
    rw [hsynced]
    rfl

/-- All that a round does, compared with the replies to it and the status before. -/
structure Effect (after : Status) (report : Report) (events : List Event) : Prop where
  /-- It asks for the peers and the block number, and with that for the block and the explorer's own
  number, whatever else fails. -/
  calls : calls events = [.peerCount, .blockNumber] ++
    r.blockNumber.toOption.elim [] fun number =>
      [.blockByNumber number, .remoteBlockNumber explorer]
  /-- It sets these gauges in this order and does nothing else to any gauge. -/
  gauges : gaugeEvents events =
    (r.peerCount.toOption.map fun n => .set "peers" labels (.count n)).toList ++
      (r.blockNumber.toOption.map fun n => .set "blockNumber" labels (.count n)).toList ++
      (r.block?.bind fun block => status.lastBlock.map fun last =>
        .set "blocktime" labels (.thousandths (block.millisSince last))).toList ++
      report.blocksBehind.elim [] fun lag =>
        [.set "blocksbehind" labels (.whole lag), .set "synced" labels (.flag after.synced)]
  /-- It reports the steps that it took and that failed, each with its own cause. -/
  failures : report.failures =
    ((errorOf? r.peerCount).map fun e => ⟨.peers, .node e⟩).toList ++
      match r.blockNumber with
      | .error e => [⟨.blockNumber, .node e⟩]
      | .ok number =>
        ((errorOf? (r.blockByNumber number)).map fun e => ⟨.block, .node e⟩).toList ++
          ((errorOf? (r.remoteBlockNumber explorer)).map fun e =>
            ⟨.explorer, .explorer e⟩).toList
  /-- Nothing is reported after a failure of the block number. -/
  last : ∀ f ∈ report.failures, f.step = .blockNumber → report.failures.getLast? = some f
  /-- It reports the lag if it is told both block numbers. -/
  blocksBehind : ∀ lag, report.blocksBehind = some lag ↔ ∃ own remote, r.blockNumber = .ok own ∧
    r.remoteBlockNumber explorer = .ok remote ∧ lag = (remote.toNat : Int) - own.toNat
  lastBlock : after.lastBlock = (r.blockNumber.toOption.bind fun number =>
    (r.blockByNumber number).toOption).or status.lastBlock
  /-- The verdict is on the lag, if there is one. -/
  synced : after.synced = (report.blocksBehind.map fun lag =>
    decide (lag.natAbs ≤ threshold.toNat)).getD status.synced
  connected : after.connected = status.connected
  /-- It reports the verdict if it changed. -/
  transition : ∀ v, report.transition = some v ↔ after.synced ≠ status.synced ∧ v = after.synced
  /-- What it reports of the verdict is all that it notes. -/
  notices : notices events = (report.transition.map Notice.verdictChanged).toList

/-- Every round has this effect, whatever is replied and whatever the status was. -/
theorem effect_run :
    let result := run r explorer labels threshold status
    Effect r explorer labels threshold status result.1 result.2.1 result.2.2 := by
  intro result
  have hstatus : result.1 = _ := status_run r explorer labels threshold status
  have hlag : result.2.1.blocksBehind = r.lag? explorer :=
    blocksBehind_run r explorer labels threshold status
  have hsynced : result.1.synced = _ := synced_run r explorer labels threshold status
  have htransition : result.2.1.transition = _ :=
    transition_run r explorer labels threshold status
  exact
    { calls := calls_run r explorer labels threshold status
      gauges := by rw [hlag]; exact gaugeEvents_run_eq r explorer labels threshold status
      failures := failures_run_eq r explorer labels threshold status
      last := fun f => getLast?_failures_run r explorer labels threshold status
      blocksBehind := fun lag => by rw [hlag, lag?_eq_some_iff]
      lastBlock := congrArg Status.lastBlock hstatus
      synced := by rw [hlag]; exact hsynced
      connected := by rw [hstatus]
      transition := fun v => by rw [htransition, changed?_eq_some_iff]
      notices := notices_run r explorer labels threshold status }

end Round

end NodeWatch
