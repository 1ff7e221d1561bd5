import NodeWatch.Proofs.Course
import NodeWatch.Proofs.Obtained

/-!
# Changes of the verdict

A round reports and notes a change of the sync verdict exactly when it changed it. The verdict
outlives the connection, so the changes that a run reports alternate from the first one on, whatever
lies between two of them, and the verdict is always the one that was reported last.
-/

namespace NodeWatch

/-- A value, if it is not the one from before. -/
def changed? (before after : Bool) : Option Bool := if after = before then none else some after

@[simp] theorem changed?_self (b : Bool) : changed? b b = none := by simp [changed?]

/-- A change and the value from before give the value after it. -/
theorem getD_changed? (before after : Bool) : (changed? before after).getD before = after := by
  unfold changed?
  split
  · rename_i h
    exact h.symm
  · rfl

theorem ne_of_changed? {before after v : Bool} (h : changed? before after = some v) :
    v ≠ before := by
  unfold changed? at h
  split at h
  · cases h
  · rename_i hne
    obtain rfl := Option.some.inj h
    exact hne

namespace Round

variable (r : Replies) (explorer : ExplorerId) (labels : Labels) (threshold : UInt64)
  (status : Status)

theorem transition_askExplorer (number : UInt64) :
    (askExplorer r explorer labels threshold number status).2.1.transition =
      changed? status.synced (askExplorer r explorer labels threshold number status).1.synced := by
  cases h : r.remoteBlockNumber explorer with
  | error e => simp [askExplorer, h]
  | ok remote =>
    simp only [askExplorer, h, Verdict.update, Status.synced, changed?]
    by_cases hv : (Verdict.ofLag (absoluteLag (blocksBehind number remote)) threshold).synced =
        status.verdict.synced <;> simp [hv]

/-- A round reports a new verdict exactly if it changed the verdict. -/
theorem transition_run :
    (run r explorer labels threshold status).2.1.transition =
      changed? status.synced (run r explorer labels threshold status).1.synced := by
  cases h : r.blockNumber with
  | error e => simp [run, h]
  | ok number =>
    simp only [run, h, examine, transition_askExplorer]
    rw [status_askBlock]
    rfl

end Round

/-- The new verdict that a notice tells. -/
def Notice.verdict? : Notice → Option Bool
  | .verdictChanged synced => some synced
  | _ => none

namespace Tick

/-- The new verdict that the tick reports. -/
def transition? (t : Tick) : Option Bool := t.outcome.report?.bind (·.transition)

/-- A tick reports a new verdict exactly if it changed the verdict. -/
theorem transition?_eq (t : Tick) :
    t.transition? = changed? t.before.status.synced t.after.status.synced := by
  have h := t.step
  unfold transition?
  generalize t.after = after, t.outcome = outcome, t.events = events at h ⊢
  cases h with
  | connected | connectFailed => exact (changed?_self _).symm
  | @round connection _ _ _ busy run | @disconnected connection _ _ _ busy run =>
    have htransition := Round.transition_run t.replies connection.explorer t.before.labels
      t.before.threshold t.before.status
    rw [run] at htransition
    exact htransition

/-- A tick reports the verdict on its lag if that is not the verdict from before, and nothing if it
has no lag. -/
theorem transition?_eq_lag (t : Tick) :
    t.transition? = t.lag?.bind fun lag => changed? t.before.status.synced
      (decide (lag.natAbs ≤ t.before.threshold.toNat)) := by
  have hverdict : t.after.status.synced = _ := congrArg Verdict.synced t.memory_after.1
  rw [t.transition?_eq, hverdict]
  cases hlag : t.lag? with
  | none => exact changed?_self _
  | some lag =>
    rw [Option.map_some, Option.getD_some, Option.bind_some,
      Verdict.synced_ofLag (natAbs_lt_of_lag? hlag)]

/-- An attempt to connect notes no verdict. -/
theorem verdicts_attempt (r : Replies) (streak : Streak) :
    (notices (Connection.attempt r streak).2.2).filterMap Notice.verdict? = [] := by
  rw [List.filterMap_eq_nil_iff]
  intro notice hnotice
  rcases Connection.notices_attempt r streak notice hnotice with ⟨chain, rfl⟩ | ⟨id, times, rfl⟩
  · rfl
  · rfl

/-- A tick notes a new verdict exactly if it reports it, and only once. -/
theorem verdicts_events (t : Tick) :
    (notices t.events).filterMap Notice.verdict? = t.transition?.toList := by
  have h := t.step
  unfold transition?
  generalize t.after = after, t.outcome = outcome, t.events = events at h ⊢
  cases h with
  | connected _ _ attempt | connectFailed _ _ attempt =>
    have hnone := verdicts_attempt t.replies t.before.streak
    rw [attempt] at hnone
    rw [notices_append, List.filterMap_append, hnone]
    rfl
  | @round connection _ report _ busy run | @disconnected connection _ report _ busy run =>
    have hnoted := Round.notices_run t.replies connection.explorer t.before.labels
      t.before.threshold t.before.status
    rw [run] at hnoted
    rw [notices_append, hnoted, List.filterMap_append]
    simp only [Outcome.report?, Option.bind_some]
    -- what is noted at the end of the tick tells no verdict
    cases report.transition <;> cases report.isOk <;> rfl

end Tick

/-- Values that alternate from the first one on, which is true. -/
def Alternating (values : List Bool) : Prop :=
  ∀ (i : Nat) (v : Bool), values[i]? = some v → (v = true ↔ i % 2 = 0)

theorem alternating_nil : Alternating [] := by
  intro i v h
  simp at h

/-- A value other than the last one, or than false if there is none, is the one that is due at the
end of alternating values. -/
theorem Alternating.due {values : List Bool} (h : Alternating values) {v : Bool}
    (hne : v ≠ values.getLast?.getD false) : v = true ↔ values.length % 2 = 0 := by
  rcases List.eq_nil_or_concat values with rfl | ⟨earlier, last, rfl⟩
  · have hv : v = true := Bool.eq_not_of_ne hne
    simp [hv]
  · rw [List.concat_eq_append] at h hne ⊢
    have hlast := h earlier.length last List.getElem?_concat_length
    rw [List.getLast?_concat, Option.getD_some] at hne
    obtain rfl : v = !last := Bool.eq_not_of_ne hne
    rw [Bool.not_eq_true', Bool.eq_false_iff, ne_eq, hlast, List.length_append,
      List.length_singleton]
    omega

/-- Alternating values go on alternating with a value that differs from the last one. -/
theorem Alternating.concat {values : List Bool} (h : Alternating values) {v : Bool}
    (hne : v ≠ values.getLast?.getD false) : Alternating (values ++ [v]) := by
  intro i w hi
  rcases Nat.lt_trichotomy i values.length with hlt | rfl | hgt
  · rw [List.getElem?_append_left hlt] at hi
    exact h i w hi
  · rw [List.getElem?_concat_length] at hi
    obtain rfl := Option.some.inj hi
    exact h.due hne
  · have hnone : (values ++ [v])[i]? = none := by
      apply List.getElem?_eq_none
      rw [List.length_append, List.length_singleton]
      omega
    rw [hnone] at hi
    cases hi

namespace Monitor

/-- The verdict after a run is the last one that the run reported. -/
theorem synced_eq_getLast? (c : Config) (script : List Replies) :
    ((ofConfig c).after script).status.synced =
      (((ofConfig c).ticks script).filterMap Tick.transition?).getLast?.getD false := by
  induction script using List.reverseRecOn with
  | nil => rfl
  | append_singleton script r ih =>
    let t : Tick := ⟨(ofConfig c).after script, r⟩
    have hafter : t.transition?.getD t.before.status.synced = t.after.status.synced := by
      rw [t.transition?_eq]
      exact getD_changed? _ _
    rw [ticks_concat, after_concat, List.filterMap_append]
    change t.after.status.synced = (_ ++ [t].filterMap Tick.transition?).getLast?.getD false
    rw [← hafter]
    cases htransition : t.transition? with
    | none =>
      simp only [List.filterMap_cons, List.filterMap_nil, htransition, List.append_nil]
      exact ih
    | some v => simp [htransition]

/-- The changes of the verdict that a run reports alternate. -/
theorem alternating_transitions (c : Config) (script : List Replies) :
    Alternating (((ofConfig c).ticks script).filterMap Tick.transition?) := by
  induction script using List.reverseRecOn with
  | nil => exact alternating_nil
  | append_singleton script r ih =>
    let t : Tick := ⟨(ofConfig c).after script, r⟩
    rw [ticks_concat, List.filterMap_append]
    change Alternating (_ ++ [t].filterMap Tick.transition?)
    cases htransition : t.transition? with
    | none =>
      simp only [List.filterMap_cons, List.filterMap_nil, htransition, List.append_nil]
      exact ih
    | some v =>
      simp only [List.filterMap_cons, List.filterMap_nil, htransition]
      apply ih.concat
      rw [← synced_eq_getLast?]
      rw [t.transition?_eq] at htransition
      exact ne_of_changed? htransition

/-- The changes of the verdict that the rounds of a run report alternate, the first of them being
that the node is in sync, and after every run the verdict is the one that was reported last. Each
change is noted once in the round that reports it, and no other tick notes one. What a tick reports
is decided by its lag and the verdict before it alone: without a lag, be it that it had no
connection or that one of the block numbers is missing, it reports nothing. No tick changes the
verdict but by reporting it, so neither losing nor making a connection does. -/
theorem transitions_alternate (c : Config) (script : List Replies) :
    let ticks := (ofConfig c).ticks script
    let values := ticks.filterMap Tick.transition?
    Alternating values ∧
      ((ofConfig c).after script).status.synced = values.getLast?.getD false ∧
      (∀ v, (Notice.verdictChanged v).message = s!"State changed. Is synced?: {v}") ∧
      ∀ t ∈ ticks,
        (notices t.events).filterMap Notice.verdict? = t.transition?.toList ∧
          t.after.status.synced = t.transition?.getD t.before.status.synced ∧
          t.transition? = t.lag?.bind fun lag => changed? t.before.status.synced
            (decide (lag.natAbs ≤ c.syncThreshold.toNat)) := by
  intro ticks values
  refine ⟨alternating_transitions c script, synced_eq_getLast? c script, fun v => rfl, ?_⟩
  intro t ht
  refine ⟨t.verdicts_events, ?_, ?_⟩
  · rw [t.transition?_eq, getD_changed?]
  · have hthreshold : t.before.threshold = c.syncThreshold := threshold_of_mem_ticks ht
    rw [t.transition?_eq_lag, hthreshold]

/-- The verdict outlives a lost connection: making the connection again reports no change. -/
theorem no_transition_on_reconnection :
    let t : Tick := ⟨(ofConfig { nodeName := "parity", endpoint := "localhost" }).after
      [.healthy, .healthy, .refusing], .healthy⟩
    t.transition? = none ∧ t.after.status.synced = t.transition?.getD true := by
  intro t
  obtain ⟨-, -, -, h⟩ := transitions_alternate { nodeName := "parity", endpoint := "localhost" }
    [.healthy, .healthy, .refusing, .healthy]
  have hmem : t ∈ (ofConfig { nodeName := "parity", endpoint := "localhost" }).ticks
      [.healthy, .healthy, .refusing, .healthy] := List.mem_of_getElem? (i := 3) rfl
  obtain ⟨-, hsynced, hlag⟩ := h t hmem
  have hidle : t.lag? = none := rfl
  rw [hidle, Option.bind_none] at hlag
  exact ⟨hlag, hsynced⟩

end Monitor

end NodeWatch
