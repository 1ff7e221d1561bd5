import Mathlib.Data.List.DropRight
import Mathlib.Data.List.Forall2
import Mathlib.Data.List.Induction
import NodeWatch.Station

/-!
# Runs of a monitor

A run is what becomes of a monitor when its collaborators answer tick after tick. It is described by
a script, the list of their answers, and every script is allowed. The ticks of a run are kept as
data, the latest last, so that a statement about what a monitor knows can be compared with what the
ticks obtained. Nothing is said here about what a tick does.
-/

namespace NodeWatch

/-- A tick of a run: the monitor before it and what the collaborators answer. -/
structure Tick where
  before : Monitor
  replies : Replies

namespace Tick

/-- The monitor after the tick. -/
def after (t : Tick) : Monitor := (t.before.tick t.replies).1

/-- What the tick was. -/
def outcome (t : Tick) : Outcome := (t.before.tick t.replies).2.1

/-- All that the monitor did in the tick, in order. -/
def events (t : Tick) : List Event := (t.before.tick t.replies).2.2

end Tick

namespace Monitor

/-- The monitor after a run in which the collaborators answer by the script. -/
def after (m : Monitor) (script : List Replies) : Monitor :=
  script.foldl (fun m replies => (m.tick replies).1) m

/-- The ticks of that run. -/
def ticks (m : Monitor) : List Replies → List Tick
  | [] => []
  | replies :: script => ⟨m, replies⟩ :: (m.tick replies).1.ticks script

@[simp] theorem after_nil (m : Monitor) : m.after [] = m := rfl

@[simp] theorem ticks_nil (m : Monitor) : m.ticks [] = [] := rfl

/-- The last answers of a script make the last step of the run. -/
theorem after_concat (m : Monitor) (script : List Replies) (replies : Replies) :
    m.after (script ++ [replies]) = ((m.after script).tick replies).1 := by
  simp only [after, List.foldl_append, List.foldl_cons, List.foldl_nil]

/-- The last tick of a run begins where the run without it ended. -/
theorem ticks_concat (m : Monitor) (script : List Replies) (replies : Replies) :
    m.ticks (script ++ [replies]) = m.ticks script ++ [⟨m.after script, replies⟩] := by
  induction script generalizing m with
  | nil => rfl
  | cons first rest ih =>
    simp only [List.cons_append, ticks, ih]
    rfl

/-- What holds before the first tick and is kept by every tick holds after every run. -/
theorem run_induction {m₀ : Monitor} {P : List Tick → Monitor → Prop} (start : P [] m₀)
    (step : ∀ ticks m replies, P ticks m →
      P (ticks ++ [⟨m, replies⟩]) (m.tick replies).1)
    (script : List Replies) : P (m₀.ticks script) (m₀.after script) := by
  induction script using List.reverseRecOn with
  | nil => exact start
  | append_singleton script replies ih =>
    rw [ticks_concat, after_concat]
    exact step _ _ _ ih

/-- What two monitors have in common before their ticks, and keep in every pair of ticks whose
answers are alike, decides what the ticks of two runs with like answers have in common. -/
theorem forall₂_ticks {alike : Replies → Replies → Prop} {before : Monitor → Monitor → Prop}
    {common : Tick → Tick → Prop}
    (step : ∀ m₁ m₂ r₁ r₂, before m₁ m₂ → alike r₁ r₂ →
      common ⟨m₁, r₁⟩ ⟨m₂, r₂⟩ ∧ before (m₁.tick r₁).1 (m₂.tick r₂).1)
    {script₁ script₂ : List Replies} (hscripts : List.Forall₂ alike script₁ script₂)
    {m₁ m₂ : Monitor} (h : before m₁ m₂) :
    List.Forall₂ common (m₁.ticks script₁) (m₂.ticks script₂) := by
  induction hscripts generalizing m₁ m₂ with
  | nil => exact .nil
  | cons hreplies _ ih =>
    obtain ⟨hcommon, hafter⟩ := step _ _ _ _ h hreplies
    exact .cons hcommon (ih hafter)

/-- A tick of a run begins in a monitor that some shorter run reaches. -/
theorem exists_script_of_mem_ticks {m₀ : Monitor} {script : List Replies} {t : Tick}
    (h : t ∈ m₀.ticks script) : ∃ earlier, t.before = m₀.after earlier := by
  induction script using List.reverseRecOn with
  | nil => simp at h
  | append_singleton script replies ih =>
    rw [ticks_concat, List.mem_append, List.mem_singleton] at h
    rcases h with h | rfl
    · exact ih h
    · exact ⟨script, rfl⟩

end Monitor

/-- What the latest of the ticks obtained that obtained anything. -/
def latest {α : Type} (obtained : Tick → Option α) (ticks : List Tick) : Option α :=
  (ticks.filterMap obtained).getLast?

section Latest

variable {α : Type} (obtained : Tick → Option α)

@[simp] theorem latest_nil : latest obtained [] = none := rfl

/-- The last tick comes first, and those before it count only if it obtained nothing. -/
theorem latest_concat (ticks : List Tick) (t : Tick) :
    latest obtained (ticks ++ [t]) = (obtained t).or (latest obtained ticks) := by
  cases h : obtained t with
  | none => simp [latest, h]
  | some a => simp [latest, h]

/-- What later ticks obtained hides what earlier ones did. -/
theorem latest_append (earlier later : List Tick) :
    latest obtained (earlier ++ later) = (latest obtained later).or (latest obtained earlier) := by
  simp only [latest, List.filterMap_append, List.getLast?_append]

/-- Something was obtained last if and only if anything was obtained. -/
theorem isSome_latest_iff {ticks : List Tick} :
    (latest obtained ticks).isSome = true ↔ ∃ t ∈ ticks, (obtained t).isSome = true := by
  rw [latest, List.getLast?_isSome, ne_eq, List.filterMap_eq_nil_iff]
  simp only [not_forall, Option.isSome_iff_ne_none, exists_prop]

@[simp] theorem latest_map {β : Type} (f : α → β) (ticks : List Tick) :
    latest (fun t => (obtained t).map f) ticks = (latest obtained ticks).map f := by
  induction ticks using List.reverseRecOn with
  | nil => rfl
  | append_singleton ticks t ih =>
    rw [latest_concat, latest_concat, ih]
    cases obtained t <;> rfl

/-- Only what is obtained in these ticks matters. -/
theorem latest_congr {obtained' : Tick → Option α} {ticks : List Tick}
    (h : ∀ t ∈ ticks, obtained t = obtained' t) :
    latest obtained ticks = latest obtained' ticks :=
  congrArg List.getLast? (List.filterMap_congr h)

end Latest

namespace Station

/-- The station after a run in which the collaborators answer by the script. -/
def after (s : Station) (script : List Replies) : Station :=
  script.foldl (fun s replies => (s.tick replies).1) s

@[simp] theorem after_nil (s : Station) : s.after [] = s := rfl

theorem after_concat (s : Station) (script : List Replies) (replies : Replies) :
    s.after (script ++ [replies]) = ((s.after script).tick replies).1 := by
  simp only [after, List.foldl_append, List.foldl_cons, List.foldl_nil]

/-- The gauges have no influence on the monitor of a station. -/
@[simp] theorem monitor_tick (s : Station) (replies : Replies) :
    (s.tick replies).1.monitor = (s.monitor.tick replies).1 := rfl

/-- The gauges record what the monitor did. -/
theorem gauges_tick (s : Station) (replies : Replies) :
    (s.tick replies).1.gauges = (s.gauges.recordAll (s.monitor.tick replies).2.2).1 := rfl

theorem monitor_after (s : Station) (script : List Replies) :
    (s.after script).monitor = s.monitor.after script := by
  induction script using List.reverseRecOn with
  | nil => rfl
  | append_singleton script replies ih =>
    rw [after_concat, Monitor.after_concat, monitor_tick, ih]

/-- The last tick of a station's run begins where the run without it ended. -/
theorem monitor_concat (s : Station) (script : List Replies) (replies : Replies) :
    (s.after (script ++ [replies])).monitor = Tick.after ⟨(s.after script).monitor, replies⟩ := by
  rw [after_concat, monitor_tick]
  rfl

theorem ticks_concat (s : Station) (script : List Replies) (replies : Replies) :
    s.monitor.ticks (script ++ [replies]) =
      s.monitor.ticks script ++ [⟨(s.after script).monitor, replies⟩] := by
  rw [Monitor.ticks_concat, ← monitor_after]

/-- A station begins with the monitor of its configuration. -/
theorem monitor_of_new? {c : Config} {s : Station} (h : Station.new? c = some s) :
    s.monitor = .ofConfig c := by
  obtain ⟨gauges, _, rfl⟩ := Option.map_eq_some_iff.mp h
  rfl

end Station

end NodeWatch
