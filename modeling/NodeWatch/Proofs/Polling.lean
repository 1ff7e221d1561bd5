import NodeWatch.Proofs.Connection
import NodeWatch.Proofs.Schedule

/-!
# Polling until told to stop

A running station makes its ticks on schedule. Whatever the questions take and whenever it is told
to stop, a tick that has started is made to its end, with the answers that the world gives from its
start on, and only then does the station stop.
-/

namespace NodeWatch.Station

/-- All that happens in each tick of a run. -/
def eventsOf (s : Station) : List Replies → List (List Event)
  | [] => []
  | replies :: script => (s.tick replies).2.2 :: (s.tick replies).1.eventsOf script

theorem eventsOf_concat (s : Station) (script : List Replies) (replies : Replies) :
    s.eventsOf (script ++ [replies]) =
      s.eventsOf script ++ [((s.after script).tick replies).2.2] := by
  induction script generalizing s with
  | nil => rfl
  | cons first rest ih =>
    rw [List.cons_append, eventsOf, ih, eventsOf, List.cons_append]
    rfl

namespace World

variable (world : World) (asked : Nat)

/-- No question is answered before it is asked. -/
theorem le_answeredAt (question : Call) (time : Nat) :
    time ≤ world.answeredAt asked question time :=
  Nat.le_add_right _ _

/-- Stamped events are the events themselves. -/
theorem map_snd_stamp (time : Nat) (events : List Event) :
    (world.stamp asked time events).1.map Prod.snd = events := by
  induction events generalizing time with
  | nil => rfl
  | cons e rest ih => exact congrArg (e :: ·) (ih _)

/-- Events happen from the beginning on and up to the end. -/
theorem between_of_mem_stamp (time : Nat) (events : List Event) :
    time ≤ (world.stamp asked time events).2 ∧
      ∀ x ∈ (world.stamp asked time events).1,
        time ≤ x.1 ∧ x.1 ≤ (world.stamp asked time events).2 := by
  induction events generalizing time with
  | nil => exact ⟨Nat.le_refl _, fun x hx => by cases hx⟩
  | cons e rest ih =>
    have extend {next : Nat} (hnext : time ≤ next) :
        time ≤ (world.stamp asked next rest).2 ∧
          ∀ x ∈ (time, e) :: (world.stamp asked next rest).1,
            time ≤ x.1 ∧ x.1 ≤ (world.stamp asked next rest).2 := by
      obtain ⟨hfinish, hrest⟩ := ih next
      have hwhole := Nat.le_trans hnext hfinish
      refine ⟨hwhole, List.forall_mem_cons.mpr ⟨⟨Nat.le_refl _, hwhole⟩, fun x hx => ?_⟩⟩
      exact ⟨Nat.le_trans hnext (hrest x hx).1, (hrest x hx).2⟩
    cases e with
    | call question => exact extend (world.le_answeredAt asked question time)
    | set | remove | note => exact extend (Nat.le_refl time)

end World

/-- What a tick of a running station amounted to. -/
structure Record where
  span : Schedule.Span
  replies : Replies
  /-- What happened in the tick, and when. -/
  events : List (Nat × Event)

/-- The ticks were made whole: they are those of a run of the station, each with the answers that
the world gives from its start on, and all that happened in them is in the trace and lies within its
tick. -/
structure Made (world : World) (s : Station) (earlier : List (Nat × Event)) (records : List Record)
    (p : Progress) : Prop where
  station : p.station = s.after (records.map (·.replies))
  events : (records.map fun t => t.events.map Prod.snd) = s.eventsOf (records.map (·.replies))
  trace : p.trace = earlier ++ records.flatMap (·.events)
  within : ∀ t ∈ records, (∃ asked, t.replies = world.during asked t.span.start) ∧
    ∀ x ∈ t.events, t.span.start ≤ x.1 ∧ x.1 ≤ t.span.finish

/-- One more tick is made whole. -/
theorem Made.timedTick {world : World} {s : Station} {earlier : List (Nat × Event)}
    {records : List Record} {p : Progress} (h : Made world s earlier records p) (start : Nat) :
    ∃ t : Record, t.span = ⟨start, start + (timedTick world start p).2⟩ ∧
      Made world s earlier (records ++ [t]) (timedTick world start p).1 := by
  let replies := world.during p.asked start
  let stamped := world.stamp p.asked start (p.station.tick replies).2.2
  obtain ⟨hfinish, hwithin⟩ :=
    world.between_of_mem_stamp p.asked start (p.station.tick replies).2.2
  have hspan : start + (stamped.2 - start) = stamped.2 := Nat.add_sub_of_le hfinish
  refine ⟨⟨⟨start, stamped.2⟩, replies, stamped.1⟩, ?_, ?_⟩
  · exact congrArg (Schedule.Span.mk start) hspan.symm
  · refine { station := ?_, events := ?_, trace := ?_, within := fun t ht => ?_ }
    · rw [List.map_append, List.map_singleton, after_concat, ← h.station]
      rfl
    · rw [List.map_append, List.map_append, h.events, List.map_singleton, List.map_singleton,
        eventsOf_concat, ← h.station, world.map_snd_stamp]
    · rw [List.flatMap_append, List.flatMap_singleton, ← List.append_assoc, ← h.trace]
      rfl
    · rcases List.mem_append.mp ht with ht | ht
      · exact h.within t ht
      · obtain rfl := List.mem_singleton.mp ht
        exact ⟨⟨p.asked, rfl⟩, hwithin⟩

/-- All ticks of a loop are made whole, whatever was in the trace before. -/
theorem exists_made (world : World) {period : Nat} (hperiod : 0 < period) (stop : Schedule.Stop)
    (s : Station) (earlier : List (Nat × Event)) :
    let ending := Schedule.run period hperiod stop (timedTick world) 0 0
      { station := s, trace := earlier }
    ∃ records : List Record, ending.ticks = records.map (·.span) ∧
      Made world s earlier records ending.state := by
  refine Schedule.run_induction hperiod stop (timedTick world)
    (P := fun ticks p => ∃ records : List Record, ticks = records.map (·.span) ∧
      Made world s earlier records p) (fun ticks p start hbefore => ?_) 0 0 _ [] ?_
  · obtain ⟨records, hspans, hmade⟩ := hbefore
    obtain ⟨t, ht, hmade⟩ := hmade.timedTick start
    exact ⟨records ++ [t], by rw [List.map_append, List.map_singleton, ht, hspans], hmade⟩
  · refine ⟨[], rfl, ?_⟩
    exact { station := rfl, events := rfl, trace := (List.append_nil _).symm, within := by simp }

/-- A station with a period of at least one second runs its ticks by the schedule. -/
theorem run_eq (world : World) {seconds : UInt64} (hseconds : 0 < seconds.toNat * 1000)
    (stop : Nat) (s : Station) :
    run world seconds stop s =
      let ending := Schedule.run (seconds.toNat * 1000) hseconds ⟨stop, world.tickAtStop⟩
        (timedTick world) 0 0 { station := s, trace := [(0, .note (.starting seconds))] }
      { ending with
        state := { ending.state with
          trace := ending.state.trace ++ [(ending.stoppedAt, .note .shuttingDown)] } } := by
  simp only [run, hseconds, dite_true]

/-- The polling of a station with a period of at least one second, whatever its questions take and
whenever it is told to stop. The first tick starts at zero, and each of the others as soon as the
one before it has ended and the first multiple of the period after its start is reached, as long as
a tick may still start. So ticks do not overlap, and no two of them start between two multiples. No
tick starts after the stop. The station stops when it is told to, or at the end of the tick that it
is then in; every tick that has started does all that it would have done without the stop. -/
theorem run_on_schedule (world : World) (seconds : UInt64) (hseconds : 1 ≤ seconds.toNat)
    (stop : Nat) (s : Station) :
    let period := seconds.toNat * 1000
    let mayStart := (⟨stop, world.tickAtStop⟩ : Schedule.Stop).admits
    let ending := run world seconds stop s
    (ending.ticks[0]?.map (·.start) = if mayStart 0 then some 0 else none) ∧
    (∀ i span, ending.ticks[i]? = some span →
      let next := max span.finish ((span.start / period + 1) * period)
      ending.ticks[i + 1]?.map (·.start) = if mayStart next then some next else none) ∧
    (ending.ticks.Pairwise fun a b =>
      a.finish ≤ b.start ∧ a.start / period < b.start / period) ∧
    (∀ span ∈ ending.ticks, span.start ≤ span.finish ∧
      (span.start < stop ∨ span.start = stop ∧ world.tickAtStop = true)) ∧
    ending.stoppedAt = max stop ((ending.ticks.getLast?.map (·.finish)).getD 0) ∧
    ∃ records : List Record, ending.ticks = records.map (·.span) ∧
      (∀ t ∈ records, (∃ asked, t.replies = world.during asked t.span.start) ∧
        ∀ x ∈ t.events, t.span.start ≤ x.1 ∧ x.1 ≤ t.span.finish) ∧
      (records.map fun t => t.events.map Prod.snd) = s.eventsOf (records.map (·.replies)) ∧
      ending.state.station = s.after (records.map (·.replies)) ∧
      ending.state.trace = (0, .note (.starting seconds)) :: records.flatMap (·.events) ++
        [(ending.stoppedAt, .note .shuttingDown)] := by
  intro period mayStart ending
  have hperiod : 0 < period := Nat.mul_pos hseconds (by decide)
  have hlong : Schedule.tolerance < period :=
    Nat.lt_of_lt_of_le (by decide) (Nat.mul_le_mul_right 1000 hseconds)
  have hzero : period ∣ 0 := Nat.dvd_zero period
  let stopping : Schedule.Stop := ⟨stop, world.tickAtStop⟩
  let first : Progress := { station := s, trace := [(0, .note (.starting seconds))] }
  let scheduled := Schedule.run period hperiod stopping (timedTick world) 0 0 first
  have hending : ending = _ := run_eq world hperiod stop s
  have hticks : ending.ticks = scheduled.ticks := by rw [hending]
  have hstopped : ending.stoppedAt = scheduled.stoppedAt := by rw [hending]
  obtain ⟨hfirst, hnext⟩ :=
    Schedule.starts_run hperiod stopping (timedTick world) hzero hlong 0 first
  rw [hticks, hstopped]
  refine ⟨hfirst, hnext,
    Schedule.pairwise_run hperiod stopping (timedTick world) hzero hlong 0 first,
    fun span hspan => ?_,
    Schedule.stoppedAt_run hperiod stopping (timedTick world) 0 0 first, ?_⟩
  · obtain ⟨hadmits, hle⟩ :=
      Schedule.admits_of_mem_run hperiod stopping (timedTick world) hspan
    simp only [Schedule.Stop.admits, stopping, Bool.or_eq_true, decide_eq_true_eq,
      Bool.and_eq_true, beq_iff_eq] at hadmits
    exact ⟨hle, hadmits.imp_right And.symm⟩
  · obtain ⟨records, hspans, hmade⟩ :=
      exists_made world hperiod stopping s [(0, .note (.starting seconds))]
    refine ⟨records, hspans, hmade.within, hmade.events, ?_, ?_⟩
    · rw [hending]
      exact hmade.station
    · rw [hending]
      exact congrArg (· ++ [(scheduled.stoppedAt, Event.note .shuttingDown)]) hmade.trace

/-- A round that takes longer than the period and is told to stop in its middle is made to its end,
and nothing is made up for. -/
theorem stoppedAt_end_of_round :
    let world : World := { replies := fun _ => .healthy, peerDelay := fun _ => 1700 }
    let s : Station :=
      ⟨.ofConfig { nodeName := "parity", endpoint := "localhost" }, { space := "monitor" }⟩
    (run world 1 1500 s).ticks = [⟨0, 0⟩, ⟨1000, 2700⟩] ∧
      (run world 1 1500 s).stoppedAt = 2700 := by
  intro world s
  have hticks : (run world 1 1500 s).ticks = [⟨0, 0⟩, ⟨1000, 2700⟩] := by decide +kernel
  obtain ⟨-, -, -, -, hstopped, -⟩ := run_on_schedule world 1 (by decide) 1500 s
  rw [hticks] at hstopped
  exact ⟨hticks, hstopped⟩

end NodeWatch.Station
