import NodeWatch.Gauge.Sink
import NodeWatch.Proofs.Entries

/-!
# Gauges in use

The names of the gauges in use are those of the register. A set or a removal that starts from such a
table ends with one, on each of its paths. So a gauge that is not in use yet is free to be
registered, and what a set or a removal does can be read off the register alone.
-/

namespace NodeWatch.Gauge.Sink

variable {α : Type} {s : Sink α} {name : String} {labels : Labels} {fault : Fault}
  {f : Family α} {values : List String}

/-- The gauges in use are those that are registered. -/
def Consistent (s : Sink α) : Prop :=
  ∀ name, name ∈ s.inUse ↔ (Entries.find? name s.families).isSome = true

/-- Registers a gauge, in place of another one of its name, and takes it into use. -/
def hold (s : Sink α) (name : String) (f : Family α) : Sink α :=
  { s with
    families := Entries.insert name f s.families
    inUse := if name ∈ s.inUse then s.inUse else name :: s.inUse }

/-- The gauge that a set with these labels is about: the one that is registered, or else a new
one. -/
def family (s : Sink α) (name : String) (labels : Labels) : Except Fault (Family α) :=
  match Entries.find? name s.families with
  | some f => .ok f
  | none => Family.create name labels

/-- A new table has no gauges. -/
theorem eq_of_new? {space : String} (h : Sink.new? space = some s) : s = { space } := by
  unfold Sink.new? at h
  split at h
  · cases h
  · exact (Option.some.inj h).symm

theorem consistent_empty (space : String) : Consistent ({ space } : Sink α) := by
  simp [Consistent]

/-- Holding a gauge keeps the two sets of names the same. -/
theorem Consistent.hold (h : s.Consistent) (name : String) (f : Family α) :
    (s.hold name f).Consistent := by
  intro other
  have hother := h other
  simp only [Sink.hold, Entries.find?_insert]
  by_cases ho : other = name
  · subst ho
    by_cases hin : other ∈ s.inUse <;> simp [hin]
  · by_cases hin : name ∈ s.inUse <;> simp [hin, ho, hother]

/-- A gauge in use is put back with a single change of the register. -/
theorem hold_of_mem (h : name ∈ s.inUse) (f : Family α) : s.hold name f = s.putFamily name f := by
  simp only [hold, putFamily, h, if_true]

@[simp] theorem putFamily_hold (s : Sink α) (name : String) (f g : Family α) :
    (s.hold name f).putFamily name g = s.hold name g := by
  simp only [hold, putFamily, Entries.insert_insert]

/-- The gauge of a name is the one in the register. -/
theorem Consistent.family?_eq (h : s.Consistent) (name : String) :
    s.family? name = Entries.find? name s.families := by
  unfold family?
  split
  · rfl
  · rename_i hfree
    rw [h name, Bool.not_eq_true, Option.isSome_eq_false_iff, Option.isNone_iff_eq_none] at hfree
    exact hfree.symm

/-- A gauge that is registered is in use. -/
theorem Consistent.mem_inUse (h : s.Consistent) (hf : Entries.find? name s.families = some f) :
    name ∈ s.inUse := by
  rw [h name, hf, Option.isSome_some]

/-- Nothing has to be done to use a registered gauge. -/
theorem Consistent.use_of_some (h : s.Consistent)
    (hf : Entries.find? name s.families = some f) (labels : Labels) :
    s.use name labels = .ok s := by
  simp only [use, h.mem_inUse hf, if_true]

/-- A gauge whose name is free is registered unless it cannot be created. -/
theorem Consistent.use_of_none (h : s.Consistent) (hf : Entries.find? name s.families = none)
    (labels : Labels) : s.use name labels = (Family.create name labels).map (s.hold name) := by
  have hfree : name ∉ s.inUse := by simp [h name, hf]
  cases hc : Family.create (α := α) name labels with
  | error fault => simp only [use, hfree, if_false, hc]; rfl
  | ok f =>
    have hregister : s.register name f = .ok (s.putFamily name f) := by simp only [register, hf]
    simp only [use, hfree, if_false, hc, bind, Except.bind, hregister, pure, Except.pure,
      Except.map, Sink.hold, putFamily]

/-- A set of a gauge that cannot be created changes nothing. -/
theorem Consistent.set_of_refused (h : s.Consistent) (hf : s.family name labels = .error fault)
    (v : α) : s.set name labels v = (s, [.gaugeUnregistered name fault]) := by
  unfold family at hf
  split at hf
  · cases hf
  · rename_i hnone
    simp only [Sink.set, h.use_of_none hnone, hf, Except.map]

/-- A set of a registered gauge with labels that do not fit it changes nothing. -/
theorem Consistent.set_of_unmatched (h : s.Consistent)
    (hf : Entries.find? name s.families = some f) (hl : f.labelValues labels = .error fault)
    (v : α) : s.set name labels v = (s, [.gaugeUnset name fault]) := by
  simp only [Sink.set, h.use_of_some hf, h.family?_eq, hf, hl]

/-- A set with labels that fit the gauge sets the series with these labels. -/
theorem Consistent.set_of_matched (h : s.Consistent) (hf : s.family name labels = .ok f)
    (hl : f.labelValues labels = .ok values) (v : α) :
    s.set name labels v =
      (s.hold name { f with series := Entries.insert values v f.series }, []) := by
  unfold family at hf
  split at hf
  · rename_i g hsome
    obtain rfl : g = f := Except.ok.inj hf
    simp only [Sink.set, h.use_of_some hsome, h.family?_eq, hsome, hl,
      hold_of_mem (h.mem_inUse hsome)]
  · rename_i hnone
    have hheld : (s.hold name f).family? name = some f := by
      rw [(h.hold name f).family?_eq, Sink.hold, Entries.find?_insert_self]
    simp only [Sink.set, h.use_of_none hnone, hf, Except.map, hheld, hl, putFamily_hold]

/-- A removal from a gauge that is not registered changes nothing. -/
theorem Consistent.remove_of_none (h : s.Consistent) (hf : Entries.find? name s.families = none)
    (labels : Labels) : s.remove name labels = (s, []) := by
  simp only [Sink.remove, h.family?_eq, hf]

/-- A removal with labels that do not fit the gauge changes nothing. -/
theorem Consistent.remove_of_unmatched (h : s.Consistent)
    (hf : Entries.find? name s.families = some f) (hl : f.labelValues labels = .error fault) :
    s.remove name labels = (s, [.gaugeUnremoved name fault]) := by
  simp only [Sink.remove, h.family?_eq, hf, hl]

/-- A removal of a series that is not there changes nothing. -/
theorem Consistent.remove_of_absent (h : s.Consistent)
    (hf : Entries.find? name s.families = some f) (hl : f.labelValues labels = .ok values)
    (hv : Entries.find? values f.series = none) :
    s.remove name labels = (s, [.gaugeUnremoved name .noSeries]) := by
  simp only [Sink.remove, h.family?_eq, hf, hl, hv]

/-- A removal with labels that fit the gauge withdraws the series with these labels. -/
theorem Consistent.remove_of_present (h : s.Consistent)
    (hf : Entries.find? name s.families = some f) (hl : f.labelValues labels = .ok values)
    {v : α} (hv : Entries.find? values f.series = some v) :
    s.remove name labels =
      (s.hold name { f with series := Entries.erase values f.series }, []) := by
  simp only [Sink.remove, h.family?_eq, hf, hl, hv, hold_of_mem (h.mem_inUse hf)]

/-- Taking a gauge into use keeps the namespace. -/
theorem space_use {t : Sink α} (h : s.use name labels = .ok t) : t.space = s.space := by
  unfold use at h
  split at h
  · rw [Except.ok.inj h]
  · cases hc : Family.create (α := α) name labels with
    | error fault => simp [hc, bind, Except.bind] at h
    | ok f =>
      cases hf : Entries.find? name s.families with
      | some g => simp [hc, register, hf, bind, Except.bind] at h
      | none =>
        simp only [hc, register, hf, bind, Except.bind, pure, Except.pure] at h
        exact (congrArg Sink.space (Except.ok.inj h)).symm

/-- A set keeps the namespace. -/
theorem space_set (s : Sink α) (name : String) (labels : Labels) (v : α) :
    (s.set name labels v).1.space = s.space := by
  unfold Sink.set
  split
  · rfl
  · rename_i t hused
    rw [← space_use hused]
    split
    · rfl
    · split <;> rfl

/-- A removal keeps the namespace. -/
theorem space_remove (s : Sink α) (name : String) (labels : Labels) :
    (s.remove name labels).1.space = s.space := by
  unfold Sink.remove
  split
  · rfl
  · split
    · rfl
    · split <;> rfl

end NodeWatch.Gauge.Sink
