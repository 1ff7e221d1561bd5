import NodeWatch.Proofs.InUse
import NodeWatch.Round

/-!
# The table of gauges of one node

As long as a table is used for the gauges of one node only, each gauge has at most one series, that
of the node. Such a table is a partial function from the names of the gauges to readings: a set
defines it at one name, a removal makes it undefined there, and neither is ever refused.
-/

namespace NodeWatch

namespace Gauge

/-- The gauges of a node, in the order in which they are written out. -/
def names : List String := [blockNumber, blocksBehind, blockTime, peers, synced]

theorem pairwise_names : names.Pairwise fun a b => compare a b = .lt := by decide

/-- A gauge with at most one series, that of the node. -/
def nodeFamily {α : Type} (nodeName : String) (value : Option α) : Family α where
  labelNames := ["node"]
  series := (value.map fun v => ([nodeName], v)).toList

variable {α : Type} {nodeName : String}

@[simp] theorem find?_series_nodeFamily (value : Option α) :
    Entries.find? [nodeName] (nodeFamily nodeName value).series = value := by
  cases value with
  | none => rfl
  | some v => exact Entries.find?_cons_self _ _ _

/-- The labels of the node select its series. -/
theorem labelValues_nodeFamily (value : Option α) :
    (nodeFamily nodeName value).labelValues (nodeLabels nodeName) = .ok [nodeName] := by
  simp [Family.labelValues, nodeFamily, nodeLabels]

/-- A new gauge of a node is accepted whatever the node is called. -/
theorem create_nodeLabels {name : String} (h : name ∈ names) :
    Family.create name (nodeLabels nodeName) = .ok (nodeFamily nodeName (none : Option α)) := by
  have hname : ∀ name ∈ names, isName name = true := by decide
  have hlabel : isLabelName "node" = true := by decide
  simp [Family.create, hname name h, nodeLabels, hlabel, nodeFamily]

namespace Sink

/-- The table is in order, and all it holds are gauges of the node. -/
structure OfNode (nodeName : String) (s : Sink α) : Prop where
  consistent : s.Consistent
  sorted : Entries.Sorted s.families
  family : ∀ name f, Entries.find? name s.families = some f →
    name ∈ names ∧ ∃ value, f = nodeFamily nodeName value

/-- The value of the node's series of a gauge. -/
def value? (s : Sink α) (nodeName name : String) : Option α :=
  (Entries.find? name s.families).bind fun f => Entries.find? [nodeName] f.series

/-- A table without gauges is one of every node. -/
theorem ofNode_of_new? (nodeName : String) {space : String} {s : Sink α}
    (h : Sink.new? space = some s) :
    OfNode nodeName s ∧ s.space = space ∧ ∀ name, s.value? nodeName name = none := by
  obtain rfl := eq_of_new? h
  refine ⟨?_, rfl, fun _ => rfl⟩
  exact {
    consistent := consistent_empty space
    sorted := List.Pairwise.nil
    family := by simp }

variable {s : Sink α} {name : String}

/-- Holding a gauge of the node in its table changes what is shown of that gauge only. -/
theorem OfNode.hold (h : OfNode nodeName s) (hname : name ∈ names) (value : Option α) :
    OfNode nodeName (s.hold name (nodeFamily nodeName value)) ∧
      ∀ other, (s.hold name (nodeFamily nodeName value)).value? nodeName other =
        if name = other then value else s.value? nodeName other := by
  refine ⟨?_, fun other => ?_⟩
  · refine { consistent := h.consistent.hold _ _, sorted := h.sorted.insert _ _, family := ?_ }
    intro other f hf
    simp only [Sink.hold, Entries.find?_insert] at hf
    split at hf
    · rename_i ho
      subst ho
      exact ⟨hname, value, (Option.some.inj hf).symm⟩
    · exact h.family other f hf
  · simp only [value?, Sink.hold, Entries.find?_insert]
    by_cases ho : name = other
    · subst ho
      simp
    · simp only [ho, Ne.symm ho, if_false]

/-- A set of a gauge of the node is recorded without a notice. -/
theorem OfNode.set (h : OfNode nodeName s) (hname : name ∈ names) (v : α) :
    s.set name (nodeLabels nodeName) v =
      (s.hold name (nodeFamily nodeName (some v)), []) := by
  have hfamily : ∃ value,
      s.family name (nodeLabels nodeName) = .ok (nodeFamily nodeName value) := by
    cases hf : Entries.find? name s.families with
    | none => exact ⟨none, by simp only [Sink.family, hf, create_nodeLabels hname]⟩
    | some f =>
      obtain ⟨-, value, rfl⟩ := h.family name f hf
      exact ⟨value, by simp only [Sink.family, hf]⟩
  obtain ⟨value, hvalue⟩ := hfamily
  have hseries : Entries.insert [nodeName] v (nodeFamily nodeName value).series =
      (nodeFamily nodeName (some v)).series := by
    cases value with
    | none => rfl
    | some old => simp [nodeFamily, Entries.insert]
  rw [h.consistent.set_of_matched hvalue (labelValues_nodeFamily value), hseries]
  rfl

/-- A removal withdraws the node's series of the gauge. All that may be noted is that there was
none. -/
theorem OfNode.remove (h : OfNode nodeName s) (name : String) :
    OfNode nodeName (s.remove name (nodeLabels nodeName)).1 ∧
      (∀ other, (s.remove name (nodeLabels nodeName)).1.value? nodeName other =
        if name = other then none else s.value? nodeName other) ∧
      ∀ notice ∈ (s.remove name (nodeLabels nodeName)).2,
        notice = .gaugeUnremoved name .noSeries := by
  have unshown (hnone : s.value? nodeName name = none) (other : String) :
      s.value? nodeName other = if name = other then none else s.value? nodeName other := by
    by_cases ho : name = other
    · subst ho
      simp [hnone]
    · simp only [ho, if_false]
  cases hf : Entries.find? name s.families with
  | none =>
    have hnone : s.value? nodeName name = none := by simp only [value?, hf, Option.bind_none]
    rw [h.consistent.remove_of_none hf]
    exact ⟨h, unshown hnone, by simp⟩
  | some f =>
    obtain ⟨hname, value, rfl⟩ := h.family name f hf
    cases value with
    | none =>
      have hnone : s.value? nodeName name = none := by
        simp only [value?, hf, Option.bind_some, find?_series_nodeFamily]
      rw [h.consistent.remove_of_absent hf (labelValues_nodeFamily none)
        (find?_series_nodeFamily none)]
      exact ⟨h, unshown hnone, by simp⟩
    | some v =>
      obtain ⟨hheld, hvalue⟩ := h.hold hname (none : Option α)
      have hseries : Entries.erase [nodeName] (nodeFamily nodeName (some v)).series =
          (nodeFamily nodeName (none : Option α)).series := by
        simp [nodeFamily, Entries.erase]
      rw [h.consistent.remove_of_present hf (labelValues_nodeFamily (some v))
        (find?_series_nodeFamily (some v)), hseries]
      exact ⟨hheld, hvalue, by simp⟩

/-- What is exported of the gauges of a node is what is shown of them, in the order of their
names. -/
theorem OfNode.exported (h : OfNode nodeName s) :
    s.exported = Entries.tabulate names fun name =>
      (s.value? nodeName name).map fun v => nodeFamily nodeName (some v) := by
  have hsorted := Entries.sorted_tabulate pairwise_names fun name =>
    (s.value? nodeName name).map fun v => nodeFamily nodeName (some v)
  refine Entries.Sorted.ext (h.sorted.sublist List.filter_sublist) hsorted fun name => ?_
  rw [Entries.find?_tabulate]
  refine (Entries.find?_filter h.sorted (fun f => !f.series.isEmpty) name).trans ?_
  cases hf : Entries.find? name s.families with
  | none => simp [value?, hf]
  | some f =>
    obtain ⟨hname, value, rfl⟩ := h.family name f hf
    cases value <;> simp [value?, hf, hname, nodeFamily, Option.filter]

end Sink

end Gauge

end NodeWatch
