import Mathlib.Data.List.Basic
import NodeWatch.Schedule

/-!
# When ticks start

Whether a tick starts late or not, the next one is due at the first multiple of the period after its
start. So a loop starts each tick as soon as the one before it has ended and that multiple is
reached: at most one tick starts between two multiples, and the ticks that were missed are never
made up for.
-/

namespace NodeWatch.Schedule

/-- When the tick after this one starts. -/
def Span.next (period : Nat) (span : Span) : Nat :=
  max span.finish ((span.start / period + 1) * period)

/-- Both rules for the next tick name the first multiple of the period after the start of this one:
a tick that is counted as on time starts in the same period as it was due. -/
theorem nextDue_eq {period due start : Nat} (hperiod : tolerance < period) (hdue : period ∣ due)
    (hle : due ≤ start) : nextDue period due start = (start / period + 1) * period := by
  obtain ⟨k, rfl⟩ := hdue
  have hstart : period * (start / period) + start % period = start := Nat.div_add_mod start period
  have hmod : start % period < period := Nat.mod_lt start (Nat.zero_lt_of_lt hperiod)
  rw [nextDue, Nat.mul_comm _ period, Nat.mul_add_one, Nat.sub_mul_mod hle]
  split
  · omega
  · have hk : start / period = k := by
      refine Nat.div_eq_of_lt_le ?_ ?_ <;> rw [Nat.mul_comm]
      · exact hle
      · rw [Nat.mul_add_one]
        omega
    rw [hk]

section Loop

variable {σ : Type} {period : Nat} (hperiod : 0 < period) (stop : Stop)
  (tick : Nat → σ → σ × Nat)

/-- A tick that may start is made, and the loop goes on after it. -/
theorem run_of_admits {now due : Nat} (h : stop.admits (max now due) = true) (state : σ) :
    run period hperiod stop tick now due state =
      let start := max now due
      let finish := start + (tick start state).2
      let due := nextDue period due start
      let rest := run period hperiod stop tick finish due (tick start state).1
      { rest with ticks := ⟨start, finish⟩ :: rest.ticks } := by
  rw [run]
  split
  · rename_i turn hturn
    obtain ⟨-, rfl⟩ := turn?_eq_some_iff.mp hturn
    rfl
  · rename_i hnone
    rw [turn?_eq_none_iff.mp hnone] at h
    cases h

/-- The loop stops when the next tick may not start any more. -/
theorem run_of_not_admits {now due : Nat} (h : stop.admits (max now due) = false) (state : σ) :
    run period hperiod stop tick now due state =
      { state, ticks := [], stoppedAt := max now stop.time } := by
  rw [run]
  split
  · rename_i turn hturn
    rw [(turn?_eq_some_iff.mp hturn).1] at h
    cases h
  · rfl

include hperiod in
/-- Induction along the loop: from what follows a tick to what begins with it. -/
theorem loop_induction {motive : Nat → Nat → σ → Prop}
    (going : ∀ now due state, stop.admits (max now due) = true →
      let begun := max now due
      let after := tick begun state
      let finish := begun + after.2
      motive finish (nextDue period due begun) after.1 → motive now due state)
    (stopping : ∀ now due state, stop.admits (max now due) = false → motive now due state)
    (now due : Nat) (state : σ) : motive now due state := by
  induction now, due, state using run.induct period hperiod stop tick with
  | case1 now due state turn hturn after finish ih =>
    obtain ⟨hadmits, rfl⟩ := turn?_eq_some_iff.mp hturn
    exact going now due state hadmits ih
  | case2 now due state hnone => exact stopping now due state (turn?_eq_none_iff.mp hnone)

/-- What holds before the first tick and is kept by every tick holds when the loop stops. -/
theorem run_induction {P : List Span → σ → Prop}
    (step : ∀ ticks state start, P ticks state →
      P (ticks ++ [⟨start, start + (tick start state).2⟩]) (tick start state).1)
    (now due : Nat) (state : σ) (earlier : List Span) (hbefore : P earlier state) :
    P (earlier ++ (run period hperiod stop tick now due state).ticks)
      (run period hperiod stop tick now due state).state := by
  induction now, due, state using loop_induction hperiod stop tick generalizing earlier with
  | going now due state h begun after finish ih =>
    rw [run_of_admits hperiod stop tick h]
    simpa using ih _ (step earlier state begun hbefore)
  | stopping now due state h =>
    rw [run_of_not_admits hperiod stop tick h]
    simpa using hbefore

/-- No tick starts before the loop is idle and its first tick is due. -/
theorem le_start_of_mem_run {now due : Nat} {state : σ} {span : Span}
    (h : span ∈ (run period hperiod stop tick now due state).ticks) : max now due ≤ span.start := by
  induction now, due, state using loop_induction hperiod stop tick with
  | going now due state hadmits begun after finish ih =>
    rw [run_of_admits hperiod stop tick hadmits] at h
    rcases List.mem_cons.mp h with rfl | h
    · exact Nat.le_refl _
    · have hlater := ih h
      have hnext : due < nextDue period due begun := lt_nextDue hperiod (Nat.le_max_right now due)
      have hfinish : begun ≤ finish := Nat.le_add_right _ _
      omega
  | stopping now due state hadmits =>
    rw [run_of_not_admits hperiod stop tick hadmits] at h
    cases h

/-- Every tick starts at a time at which it may start, and ends after that. -/
theorem admits_of_mem_run {now due : Nat} {state : σ} {span : Span}
    (h : span ∈ (run period hperiod stop tick now due state).ticks) :
    stop.admits span.start = true ∧ span.start ≤ span.finish := by
  induction now, due, state using loop_induction hperiod stop tick with
  | going now due state hadmits begun after finish ih =>
    rw [run_of_admits hperiod stop tick hadmits] at h
    rcases List.mem_cons.mp h with rfl | h
    · exact ⟨hadmits, Nat.le_add_right _ _⟩
    · exact ih h
  | stopping now due state hadmits =>
    rw [run_of_not_admits hperiod stop tick hadmits] at h
    cases h

/-- The loop stops when it is told to, or else at the end of the tick that it is then in. -/
theorem stoppedAt_run (now due : Nat) (state : σ) :
    (run period hperiod stop tick now due state).stoppedAt =
      max stop.time
        (((run period hperiod stop tick now due state).ticks.getLast?.map Span.finish).getD
          now) := by
  induction now, due, state using loop_induction hperiod stop tick with
  | going now due state hadmits begun after finish ih =>
    rw [run_of_admits hperiod stop tick hadmits]
    refine ih.trans ?_
    simp only [List.getLast?_cons, Option.map_some, Option.getD_some]
    cases (run period hperiod stop tick finish
      (nextDue period due begun) after.1).ticks.getLast? with
    | none => rfl
    | some span => rfl
  | stopping now due state hadmits =>
    rw [run_of_not_admits hperiod stop tick hadmits]
    exact Nat.max_comm _ _

variable {due : Nat} (hdue : period ∣ due) (hlong : tolerance < period)

include hdue hlong

/-- The first tick starts when the loop is idle and the tick is due, and each tick after it when the
one before it says, until a tick may not start any more. -/
theorem starts_run (now : Nat) (state : σ) :
    ((run period hperiod stop tick now due state).ticks[0]?.map Span.start =
      if stop.admits (max now due) then some (max now due) else none) ∧
    ∀ i span, (run period hperiod stop tick now due state).ticks[i]? = some span →
      (run period hperiod stop tick now due state).ticks[i + 1]?.map Span.start =
        if stop.admits (span.next period) then some (span.next period) else none := by
  induction now, due, state using loop_induction hperiod stop tick with
  | going now due state hadmits begun after finish ih =>
    rw [run_of_admits hperiod stop tick hadmits]
    have hnext : nextDue period due begun = (begun / period + 1) * period :=
      nextDue_eq hlong hdue (Nat.le_max_right now due)
    obtain ⟨hfirst, hlater⟩ := ih (hnext ▸ Nat.dvd_mul_left period _)
    refine ⟨by simp [hadmits], fun i span hspan => ?_⟩
    cases i with
    | zero =>
      obtain rfl : ⟨begun, finish⟩ = span := Option.some.inj hspan
      refine hfirst.trans ?_
      rw [hnext]
      rfl
    | succ i => exact hlater i span hspan
  | stopping now due state hadmits =>
    rw [run_of_not_admits hperiod stop tick hadmits]
    exact ⟨by simp [hadmits], fun i span hspan => by cases hspan⟩

/-- Ticks do not overlap, and no two of them start between two multiples of the period. -/
theorem pairwise_run (now : Nat) (state : σ) :
    (run period hperiod stop tick now due state).ticks.Pairwise fun a b =>
      a.finish ≤ b.start ∧ a.start / period < b.start / period := by
  induction now, due, state using loop_induction hperiod stop tick with
  | going now due state hadmits begun after finish ih =>
    rw [run_of_admits hperiod stop tick hadmits]
    have hnext : nextDue period due begun = (begun / period + 1) * period :=
      nextDue_eq hlong hdue (Nat.le_max_right now due)
    refine List.pairwise_cons.mpr ⟨fun b hb => ?_, ih (hnext ▸ Nat.dvd_mul_left period _)⟩
    have hstart := le_start_of_mem_run hperiod stop tick hb
    rw [hnext] at hstart
    obtain ⟨hfinish, hmultiple⟩ := Nat.max_le.mp hstart
    exact ⟨hfinish, (Nat.le_div_iff_mul_le hperiod).mpr hmultiple⟩
  | stopping now due state hadmits =>
    rw [run_of_not_admits hperiod stop tick hadmits]
    exact List.Pairwise.nil

end Loop

end NodeWatch.Schedule
