/-!
# Schedule

Ticks are due at the multiples of a period, counted from the start. A tick that takes longer than
the period makes the next one start right after it; whatever else was missed is dropped, and the
ticks after that are again due at multiples. When the loop is told to stop it finishes the tick it
is in. All times are in milliseconds.
-/

namespace NodeWatch.Schedule

/-- How late a tick may start without being counted as missed. -/
def tolerance : Nat := 5

/-- When the tick after the one that was due at `due` and started at `start` is due. -/
def nextDue (period due start : Nat) : Nat :=
  if due + tolerance < start then start + period - (start - due) % period else due + period

theorem lt_nextDue {period due start : Nat} (hperiod : 0 < period) (hdue : due ≤ start) :
    due < nextDue period due start := by
  unfold nextDue
  split
  · have := Nat.mod_lt (start - due) hperiod
    omega
  · omega

/-- When a loop is told to stop. -/
structure Stop where
  time : Nat
  /-- Whether a tick that is due at that very moment is still made. -/
  inclusive : Bool := false
  deriving DecidableEq, Inhabited, Repr

/-- Whether a tick may start at a time. -/
def Stop.admits (s : Stop) (time : Nat) : Bool :=
  time < s.time || (s.inclusive && time == s.time)

theorem Stop.le_of_admits {s : Stop} {time : Nat} (h : s.admits time = true) : time ≤ s.time := by
  simp only [admits, Bool.or_eq_true, decide_eq_true_eq, Bool.and_eq_true, beq_iff_eq] at h
  omega

/-- A tick that is about to start. -/
structure Turn where
  start : Nat
  /-- When the tick after it is due. -/
  next : Nat
  deriving DecidableEq, Repr

/-- The next tick of a loop that is idle from `now` on, the tick being due at `due`. There is none
if the loop was told to stop before, which may not have happened yet. -/
def turn? (period : Nat) (stop : Option Stop) (now due : Nat) : Option Turn :=
  let start := max now due
  if stop.all (·.admits start) then some { start, next := nextDue period due start } else none

theorem turn?_eq_some_iff {period now due : Nat} {stop : Stop} {turn : Turn} :
    turn? period (some stop) now due = some turn ↔
      stop.admits (max now due) = true ∧
        turn = ⟨max now due, nextDue period due (max now due)⟩ := by
  simp only [turn?, Option.all_some, Option.ite_none_right_eq_some, Option.some.injEq]
  rw [eq_comm (a := turn)]

theorem turn?_eq_none_iff {period now due : Nat} {stop : Stop} :
    turn? period (some stop) now due = none ↔ stop.admits (max now due) = false := by
  simp only [turn?, Option.all_some, ite_eq_right_iff, reduceCtorEq, imp_false, Bool.not_eq_true]

/-- The time a tick took. -/
structure Span where
  start : Nat
  finish : Nat
  deriving DecidableEq, Repr

/-- How a loop ended. -/
structure Ending (σ : Type) where
  state : σ
  /-- The ticks in their order. -/
  ticks : List Span
  stoppedAt : Nat

/-- Runs ticks until the loop is told to stop. The loop is idle from `now` on and its next tick is
due at `due`; `tick` takes the time at which it starts and tells how long it takes. -/
def run {σ : Type} (period : Nat) (hperiod : 0 < period) (stop : Stop) (tick : Nat → σ → σ × Nat)
    (now due : Nat) (state : σ) : Ending σ :=
  match _h : turn? period (some stop) now due with
  | some turn =>
    let after := tick turn.start state
    let finish := turn.start + after.2
    let rest := run period hperiod stop tick finish turn.next after.1
    { rest with ticks := ⟨turn.start, finish⟩ :: rest.ticks }
  | none => { state, ticks := [], stoppedAt := max now stop.time }
termination_by stop.time + 1 - due
decreasing_by
  obtain ⟨hadmits, rfl⟩ := turn?_eq_some_iff.mp _h
  have hstart := Stop.le_of_admits hadmits
  have hnext : due < nextDue period due (max now due) :=
    lt_nextDue hperiod (Nat.le_max_right now due)
  dsimp only
  omega

end NodeWatch.Schedule
