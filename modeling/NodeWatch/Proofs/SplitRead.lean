import NodeWatch.Proofs.Course
import NodeWatch.Proofs.Obtained

/-!
# Reading the flags while they are published

The connection flag and the verdict are stored one after the other, and a request loads them one
after the other. A request that is answered during a publication may so combine flags that were
never published together. This makes a difference in one case only: the connection flag is loaded
before the publication and the verdict after it, and the tick that is published lost the connection
in the very round that brought the verdict from bad to good. Such a request is told that the node is
in sync, which neither the health before the tick nor the health after it says.
-/

namespace NodeWatch

namespace Health

/-- What is found in the flags while one health replaces another, after so many stores: the first
store is that of the connection flag, and the second that of the verdict. -/
def during (before after : Health) (stores : Nat) : Health where
  connected := if stores = 0 then before.connected else after.connected
  lastSynced := if stores < 2 then before.lastSynced else after.lastSynced

/-- What a request is told that loads the connection flag after so many stores and the verdict after
so many. -/
def readAcross (before after : Health) (atConnected atVerdict : Nat) : Bool :=
  (during before after atConnected).connected && (during before after atVerdict).lastSynced

/-- If the verdict changes under a connection only, a request is told of a node in sync that neither
health tells of exactly if it found the old connection flag and the new verdict, the connection is
gone and the verdict has become good. -/
theorem readAcross_iff {before after : Health}
    (h : before.connected = false → after.lastSynced = before.lastSynced)
    (atConnected atVerdict : Nat) :
    (readAcross before after atConnected atVerdict = true ∧ before.isSynced = false ∧
        after.isSynced = false) ↔
      (atConnected = 0 ∧ 2 ≤ atVerdict) ∧ before.connected = true ∧ after.connected = false ∧
        before.lastSynced = false ∧ after.lastSynced = true := by
  obtain ⟨connected₁, synced₁⟩ := before
  obtain ⟨connected₂, synced₂⟩ := after
  unfold readAcross during isSynced
  dsimp only at h ⊢
  by_cases hconnected : atConnected = 0 <;> by_cases hverdict : atVerdict < 2
  · -- both loads before the publication
    simp only [hconnected, hverdict, Nat.not_le.mpr hverdict, if_true]
    cases connected₁ <;> cases synced₁ <;> simp
  · -- the old connection flag and the new verdict
    simp only [hconnected, hverdict, Nat.not_lt.mp hverdict, if_true, if_false]
    cases connected₁ <;> cases synced₂ <;> cases synced₁ <;> cases connected₂ <;> simp
  · -- the new connection flag and the old verdict: a connection was made, which keeps the verdict
    simp only [hconnected, hverdict, if_true, if_false, false_and, iff_false]
    rintro ⟨htold, hbefore, hafter⟩
    cases connected₁ with
    | true => simp_all
    | false =>
      rw [h rfl] at hafter
      rw [htold] at hafter
      cases hafter
  · -- the connection flag after its store, and the verdict after both
    simp only [hconnected, hverdict, if_false, false_and, iff_false]
    rintro ⟨htold, -, hafter⟩
    rw [htold] at hafter
    cases hafter

end Health

namespace Tick

/-- The tick lost the connection in a round that found a good verdict where there was a bad one. -/
def LostInSync (t : Tick) : Prop :=
  (∃ report, t.outcome = .disconnected report) ∧ t.before.status.synced = false ∧
    ∃ lag, t.lag? = some lag ∧ lag.natAbs ≤ t.before.threshold.toNat

/-- The verdict after a tick is that on the lag of the tick, or else the one from before. -/
theorem synced_after (t : Tick) :
    t.after.status.synced = (t.lag?.map fun lag =>
      decide (lag.natAbs ≤ t.before.threshold.toNat)).getD t.before.status.synced := by
  have hverdict : t.after.status.synced = _ := congrArg Verdict.synced t.memory_after.1
  rw [hverdict]
  cases hlag : t.lag? with
  | none => rfl
  | some lag => exact Verdict.synced_ofLag (natAbs_lt_of_lag? hlag) _

/-- An attempt to connect keeps the verdict. -/
theorem synced_after_of_none {t : Tick} (h : t.before.connection = none) :
    t.after.status.synced = t.before.status.synced := by
  rw [synced_after, lag?, h]
  rfl

/-- A bad verdict becomes good in a tick that obtains a lag within the threshold. -/
theorem synced_after_eq_true_iff {t : Tick} (h : t.before.status.synced = false) :
    t.after.status.synced = true ↔
      ∃ lag, t.lag? = some lag ∧ lag.natAbs ≤ t.before.threshold.toNat := by
  rw [synced_after, h]
  cases t.lag? <;> simp

/-- A tick that begins with a connection ends without one exactly if its outcome says so. -/
theorem isSome_connection_after_eq_false_iff {t : Tick} (h : t.before.connection.isSome = true) :
    t.after.connection.isSome = false ↔ ∃ report, t.outcome = .disconnected report := by
  have hs := t.step
  generalize t.after = after, t.outcome = outcome, t.events = events at hs ⊢
  cases hs with
  | connected idle | connectFailed idle => simp [idle] at h
  | round => simp [Monitor.publish, h]
  | disconnected => simp [Monitor.publish]

end Tick

namespace Monitor

/-- In the flags around a tick it shows whether the tick lost the connection in sync. -/
theorem lostInSync_iff (c : Config) (script : List Replies) (r : Replies) :
    let t : Tick := ⟨(ofConfig c).after script, r⟩
    t.LostInSync ↔ t.before.health.connected = true ∧ t.after.health.connected = false ∧
      t.before.health.lastSynced = false ∧ t.after.health.lastSynced = true := by
  intro t
  have hbefore : Coherent _ t.before := coherent_after c script
  have hafter : Coherent ((ofConfig c).ticks (script ++ [r])) t.after := by
    have h := coherent_after c (script ++ [r])
    rwa [after_concat] at h
  rw [hbefore.health, hafter.health]
  change _ ↔ t.before.status.connected = true ∧ t.after.status.connected = false ∧
    t.before.status.synced = false ∧ t.after.status.synced = true
  rw [← hbefore.status, ← hafter.status]
  constructor
  · rintro ⟨⟨report, houtcome⟩, hbad, hlag⟩
    have hbusy : t.before.connection.isSome = true :=
      t.outcome_round_iff.mp (Or.inr ⟨report, houtcome⟩)
    exact ⟨hbusy, (Tick.isSome_connection_after_eq_false_iff hbusy).mpr ⟨report, houtcome⟩, hbad,
      (Tick.synced_after_eq_true_iff hbad).mpr hlag⟩
  · rintro ⟨hbusy, hlost, hbad, hgood⟩
    exact ⟨(Tick.isSome_connection_after_eq_false_iff hbusy).mp hlost, hbad,
      (Tick.synced_after_eq_true_iff hbad).mp hgood⟩

/-- A verdict that changes in a tick changes under a connection. -/
theorem lastSynced_of_not_connected (c : Config) (script : List Replies) (r : Replies) :
    let t : Tick := ⟨(ofConfig c).after script, r⟩
    t.before.health.connected = false →
      t.after.health.lastSynced = t.before.health.lastSynced := by
  intro t hidle
  have hbefore : Coherent _ t.before := coherent_after c script
  rw [hbefore.health] at hidle ⊢
  have hnone : t.before.connection = none := by
    rw [← Option.isNone_iff_eq_none, ← Option.isSome_eq_false_iff, hbefore.status]
    exact hidle
  exact Tick.synced_after_of_none hnone

/-- For every tick after every run, a node that was connected before the tick and has a good verdict
after it was in sync before or is in sync after, unless the tick lost the connection in the very
round that brought the verdict from bad to good. In that case, and in no other, a request that is
answered while the tick is published can be told of a node in sync that was published neither before
nor after: namely if it loads the connection flag before both stores and the verdict after both. -/
theorem told_in_sync_iff (c : Config) (script : List Replies) (r : Replies) :
    let t : Tick := ⟨(ofConfig c).after script, r⟩
    ((t.before.health.connected = true ∧ t.after.health.lastSynced = true →
        t.before.health.isSynced = true ∨ t.after.health.isSynced = true) ↔ ¬t.LostInSync) ∧
      ∀ atConnected atVerdict,
        (t.before.health.readAcross t.after.health atConnected atVerdict = true ∧
            t.before.health.isSynced = false ∧ t.after.health.isSynced = false) ↔
          (atConnected = 0 ∧ 2 ≤ atVerdict) ∧ t.LostInSync := by
  intro t
  have hlost : t.LostInSync ↔ _ := lostInSync_iff c script r
  have hacross := Health.readAcross_iff (lastSynced_of_not_connected c script r)
  refine ⟨?_, fun atConnected atVerdict => ?_⟩
  · have hsplit := hacross 0 2
    rw [← hlost] at hsplit
    have htold : t.before.health.readAcross t.after.health 0 2 =
        (t.before.health.connected && t.after.health.lastSynced) := rfl
    rw [← not_iff_not, Classical.not_not, Classical.not_imp, not_or, Bool.not_eq_true,
      Bool.not_eq_true, ← Bool.and_eq_true, ← htold]
    exact hsplit.trans (and_iff_right ⟨rfl, Nat.le_refl 2⟩)
  · rw [hlost]
    exact hacross atConnected atVerdict

/-- A round obtains a lag of two blocks and then loses the connection, since the node refused to
tell its peers. The connection flag from before it and the verdict from after it tell of a node in
sync, which the node was neither before nor after. -/
theorem told_in_sync_around_refused_peerCount :
    let t : Tick :=
      ⟨(ofConfig { nodeName := "parity", endpoint := "localhost" }).after [.healthy], .refusing⟩
    t.before.health.connected = true ∧ t.after.health.lastSynced = true ∧
      t.before.health.isSynced = false ∧ t.after.health.isSynced = false := by
  decide

end Monitor

end NodeWatch
