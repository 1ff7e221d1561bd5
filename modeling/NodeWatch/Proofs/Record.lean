import NodeWatch.Proofs.Readings

/-!
# What the table of gauges shows

Recording the events of a node's monitor in its table of gauges is a fold over what the events do to
one gauge: the latest set counts, and a removal leaves nothing. Recording never fails on the way,
and all that is ever noted is that a series to be withdrawn was not there.
-/

namespace NodeWatch

namespace Event

/-- What is shown of a gauge after an event, given what was shown before. -/
def shows (name : String) (shown : Option Reading) : Event → Option Reading
  | .set gauge _ value => if gauge = name then some value else shown
  | .remove gauge _ => if gauge = name then none else shown
  | .call _ | .note _ => shown

/-- An event of a monitor of the node: it sets gauges of the node only, and it sets and withdraws
them with the labels of the node. -/
def OfNode (nodeName : String) : Event → Prop
  | .set gauge labels _ => gauge ∈ Gauge.names ∧ labels = Gauge.nodeLabels nodeName
  | .remove _ labels => labels = Gauge.nodeLabels nodeName
  | .call _ | .note _ => True

end Event

/-- What is shown of a gauge after events, given what was shown before. -/
def showing (name : String) (shown : Option Reading) (events : List Event) : Option Reading :=
  events.foldl (Event.shows name) shown

@[simp] theorem showing_nil (name : String) (shown : Option Reading) :
    showing name shown [] = shown := rfl

@[simp] theorem showing_cons (name : String) (shown : Option Reading) (e : Event)
    (rest : List Event) : showing name shown (e :: rest) = showing name (e.shows name shown) rest :=
  rfl

@[simp] theorem showing_append (name : String) (shown : Option Reading)
    (before after : List Event) :
    showing name shown (before ++ after) = showing name (showing name shown before) after :=
  List.foldl_append

/-- Only what events do to gauges matters for what is shown. -/
theorem showing_gaugeEvents (name : String) (shown : Option Reading) (events : List Event) :
    showing name shown (gaugeEvents events) = showing name shown events := by
  induction events generalizing shown with
  | nil => rfl
  | cons e rest ih => cases e <;> simp [Event.shows, ih]

/-- Of readings of different gauges each one is shown. -/
theorem showing_setAll {readings : List (String × Reading)}
    (h : (readings.map Prod.fst).Nodup) (name : String) (shown : Option Reading)
    (labels : Labels) :
    showing name shown (setAll labels readings) = (readings.lookup name).or shown := by
  induction readings generalizing shown with
  | nil => rfl
  | cons reading rest ih =>
    obtain ⟨gauge, value⟩ := reading
    obtain ⟨hfirst, hrest⟩ := List.nodup_cons.mp h
    have hshow : showing name shown (setAll labels ((gauge, value) :: rest)) =
        (rest.lookup name).or (if gauge = name then some value else shown) := ih hrest _
    rw [hshow, List.lookup_cons]
    by_cases hname : gauge = name
    · subst hname
      simp [lookup_eq_none_of_notMem hfirst]
    · have hne : (name == gauge) = false := beq_false_of_ne (Ne.symm hname)
      simp [hname, hne]

namespace Gauge.Sink

variable {nodeName : String} {s : Sink Reading}

/-- Recording an event of a monitor of the node. -/
theorem OfNode.record (h : OfNode nodeName s) {e : Event} (he : e.OfNode nodeName) :
    OfNode nodeName (s.record e).1 ∧
      (∀ name, (s.record e).1.value? nodeName name = e.shows name (s.value? nodeName name)) ∧
      ∀ notice ∈ (s.record e).2, ∃ gauge, notice = .gaugeUnremoved gauge .noSeries := by
  cases e with
  | set gauge labels value =>
    obtain ⟨hgauge, rfl⟩ := he
    obtain ⟨hheld, hvalue⟩ := h.hold hgauge (some value)
    simp only [Sink.record, h.set hgauge]
    exact ⟨hheld, hvalue, by simp⟩
  | remove gauge labels =>
    obtain rfl := he
    obtain ⟨hremove, hvalue, hnotices⟩ := h.remove gauge
    exact ⟨hremove, hvalue, fun notice hnotice => ⟨gauge, hnotices notice hnotice⟩⟩
  | call | note => exact ⟨h, fun _ => rfl, by simp [Sink.record]⟩

/-- Recording events of a monitor of the node. Nothing but the events themselves and the absence of
a series to be withdrawn is in the record. -/
theorem OfNode.recordAll (h : OfNode nodeName s) {events : List Event}
    (he : ∀ e ∈ events, e.OfNode nodeName) :
    OfNode nodeName (s.recordAll events).1 ∧
      (∀ name, (s.recordAll events).1.value? nodeName name =
        showing name (s.value? nodeName name) events) ∧
      ∀ e ∈ (s.recordAll events).2,
        e ∈ events ∨ ∃ gauge, e = .note (.gaugeUnremoved gauge .noSeries) := by
  induction events generalizing s with
  | nil => exact ⟨h, fun _ => rfl, by simp [Sink.recordAll]⟩
  | cons e rest ih =>
    obtain ⟨hfirst, hfirstValue, hfirstNotices⟩ := h.record (he e List.mem_cons_self)
    obtain ⟨hrest, hrestValue, hrestEvents⟩ :=
      ih hfirst fun e' he' => he e' (List.mem_cons_of_mem _ he')
    refine ⟨hrest, fun name => ?_, fun e' he' => ?_⟩
    · rw [showing_cons, ← hfirstValue name]
      exact hrestValue name
    · rcases List.mem_cons.mp he' with rfl | he'
      · exact Or.inl List.mem_cons_self
      rcases List.mem_append.mp he' with he' | he'
      · obtain ⟨notice, hnotice, rfl⟩ := List.mem_map.mp he'
        obtain ⟨gauge, rfl⟩ := hfirstNotices notice hnotice
        exact Or.inr ⟨gauge, rfl⟩
      · exact (hrestEvents e' he').imp_left (List.mem_cons_of_mem _)

/-- A table keeps its namespace. -/
theorem space_record (s : Sink Reading) (e : Event) : (s.record e).1.space = s.space := by
  cases e with
  | set gauge labels value => exact space_set s gauge labels value
  | remove gauge labels => exact space_remove s gauge labels
  | call | note => rfl

theorem space_recordAll (s : Sink Reading) (events : List Event) :
    (s.recordAll events).1.space = s.space := by
  induction events generalizing s with
  | nil => rfl
  | cons e rest ih => exact (ih (s.record e).1).trans (space_record s e)

end Gauge.Sink

end NodeWatch
