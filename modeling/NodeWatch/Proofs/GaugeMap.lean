import NodeWatch.Gauge.Exposition
import NodeWatch.Proofs.Family
import NodeWatch.Proofs.InUse

/-!
# The table of gauges as a map

The table of gauges stands for a map from the name of a gauge and a set of labels to a value. The
first set of a gauge fixes the names of its labels, and only sets with these names are taken from
then on, also after all series of the gauge were withdrawn. Whatever is set and withdrawn, and in
whatever order, the table writes out the entries of that map, each of them once.
-/

namespace NodeWatch.Gauge

variable {α : Type}

/-- A call of the table of gauges. Its labels are a finite map from names to values. -/
inductive Change (α : Type)
  | set (name : String) (labels : { labels : Labels // Entries.Sorted labels }) (value : α)
  | remove (name : String) (labels : { labels : Labels // Entries.Sorted labels })

/-- Makes a change of the table. -/
def Sink.change (s : Sink α) : Change α → Sink α × List Notice
  | .set name labels value => s.set name labels value
  | .remove name labels => s.remove name labels

/-- Makes changes of the table one after the other. -/
def Sink.changeAll (s : Sink α) (changes : List (Change α)) : Sink α :=
  changes.foldl (fun s change => (s.change change).1) s

/-! ### The map -/

/-- A map from gauges and labels to values. -/
structure GaugeMap (α : Type) where
  /-- The names of the labels of a gauge, if they are fixed. -/
  fixed : String → Option (List String) := fun _ => none
  /-- The value of a gauge with these labels. -/
  value : String → Labels → Option α := fun _ _ => none

namespace GaugeMap

/-- Whether a gauge can be set with these labels. A gauge that was never set takes any labels, as
long as it and they have valid names. -/
def takes (m : GaugeMap α) (name : String) (labels : Labels) : Bool :=
  match m.fixed name with
  | some names => labels.map Prod.fst == names
  | none => isName name && (labels.map Prod.fst).all isLabelName

/-- Binds an entry to a value and fixes the names of the labels. -/
def set (m : GaugeMap α) (name : String) (labels : Labels) (v : α) : GaugeMap α :=
  if m.takes name labels then
    { fixed := Function.update m.fixed name (some (labels.map Prod.fst))
      value := Function.update m.value name (Function.update (m.value name) labels (some v)) }
  else m

/-- Drops an entry. -/
def remove (m : GaugeMap α) (name : String) (labels : Labels) : GaugeMap α :=
  { m with value := Function.update m.value name (Function.update (m.value name) labels none) }

/-- Makes a change of the map. -/
def change (m : GaugeMap α) : Change α → GaugeMap α
  | .set name labels value => m.set name labels value
  | .remove name labels => m.remove name labels

/-- Makes changes of the map one after the other. -/
def changeAll (m : GaugeMap α) (changes : List (Change α)) : GaugeMap α :=
  changes.foldl change m

/-- To drop an entry that is not there changes nothing. -/
theorem remove_of_none {m : GaugeMap α} {name : String} {labels : Labels}
    (h : m.value name labels = none) : m.remove name labels = m := by
  rw [remove, ← h, Function.update_eq_self, Function.update_eq_self]

/-- A list of all entries of a map by their gauges. Gauges are in the order of their names and the
entries of a gauge in the order of their label values, so that nothing is listed twice. -/
structure Lists (m : GaugeMap α) (groups : List (String × List (Labels × α))) : Prop where
  sorted : Entries.Sorted groups
  ne_nil : ∀ group ∈ groups, group.2 ≠ []
  entries_sorted : ∀ group ∈ groups,
    group.2.Pairwise fun a b => compare (a.1.map Prod.snd) (b.1.map Prod.snd) = .lt
  mem_iff : ∀ name labels v,
    (∃ entries, (name, entries) ∈ groups ∧ (labels, v) ∈ entries) ↔ m.value name labels = some v

variable {m : GaugeMap α} {groups groups' : List (String × List (Labels × α))}

/-- The entries listed for a gauge are those of the map. -/
theorem Lists.mem_entries_iff (h : m.Lists groups) {name : String} {entries : List (Labels × α)}
    (hmem : (name, entries) ∈ groups) (labels : Labels) (v : α) :
    (labels, v) ∈ entries ↔ m.value name labels = some v := by
  rw [← h.mem_iff]
  refine ⟨fun hentry => ⟨entries, hmem, hentry⟩, fun ⟨others, hothers, hentry⟩ => ?_⟩
  have hfound := (Entries.find?_eq_some_iff h.sorted).mpr hmem
  rw [(Entries.find?_eq_some_iff h.sorted).mpr hothers] at hfound
  exact Option.some.inj hfound ▸ hentry

/-- What one list holds of the entries of a map is held by every other. -/
theorem Lists.subset (h : m.Lists groups) (h' : m.Lists groups') : groups ⊆ groups' := by
  intro group hgroup
  obtain ⟨name, entries⟩ := group
  obtain ⟨⟨labels, v⟩, hentry⟩ := List.exists_mem_of_ne_nil _ (h.ne_nil _ hgroup)
  have hv := (h.mem_entries_iff hgroup labels v).mp hentry
  obtain ⟨entries', hgroup', -⟩ := (h'.mem_iff name labels v).mpr hv
  have hirrefl := Entries.irrefl_compare_lt fun entry : Labels × α => entry.1.map Prod.snd
  have hantisymm := Entries.antisymm_compare_lt fun entry : Labels × α => entry.1.map Prod.snd
  have heq : entries = entries' := by
    refine (h.entries_sorted _ hgroup).eq_of_mem_iff (h'.entries_sorted _ hgroup') ?_
    rintro ⟨labels, v⟩
    rw [h.mem_entries_iff hgroup, h'.mem_entries_iff hgroup']
  rw [heq]
  exact hgroup'

/-- There is only one list of the entries of a map. -/
theorem Lists.unique (h : m.Lists groups) (h' : m.Lists groups') : groups = groups' := by
  refine h.sorted.ext h'.sorted fun name => Option.ext fun entries => ?_
  rw [Entries.find?_eq_some_iff h.sorted, Entries.find?_eq_some_iff h'.sorted]
  exact ⟨fun hmem => h.subset h' hmem, fun hmem => h'.subset h hmem⟩

end GaugeMap

/-- The line of an entry. -/
def entryText (text : α → String) (name : String) (entry : Labels × α) : String :=
  name ++ String.ofList (labelsText entry.1) ++ " " ++ text entry.2 ++ "\n"

/-- The lines of all entries of a gauge, after the comment on it. -/
def groupText (text : α → String) (space : String) (group : String × List (Labels × α)) : String :=
  let name := space ++ "_" ++ group.1
  s!"# HELP {name} Node monitor gauge {group.1}\n# TYPE {name} gauge\n" ++
    String.join (group.2.map (entryText text name))

namespace Sink

variable {s : Sink α} {m : GaugeMap α} {name : String} {labels : Labels} {f : Family α}

/-- A table stands for a map: the gauges in use are those that are registered, and the map has the
label names and the values of these. -/
structure Represents (s : Sink α) (m : GaugeMap α) : Prop where
  consistent : s.Consistent
  sorted : Entries.Sorted s.families
  wellFormed : ∀ name f, Entries.find? name s.families = some f → f.WellFormed
  fixed : ∀ name, m.fixed name = (Entries.find? name s.families).map Family.labelNames
  value : ∀ name labels,
    m.value name labels = (Entries.find? name s.families).bind fun f => f.value? labels

/-- A table without gauges stands for the empty map. -/
theorem represents_empty (space : String) : Represents ({ space } : Sink α) {} where
  consistent := consistent_empty space
  sorted := List.Pairwise.nil
  wellFormed := by simp
  fixed _ := rfl
  value _ _ := rfl

/-- To hold a gauge changes the map at the name of the gauge only. -/
theorem Represents.hold (h : Represents s m) (name : String) (hf : f.WellFormed) :
    Represents (s.hold name f)
      { fixed := Function.update m.fixed name (some f.labelNames)
        value := Function.update m.value name f.value? } where
  consistent := h.consistent.hold name f
  sorted := h.sorted.insert _ _
  wellFormed other g hg := by
    simp only [Sink.hold, Entries.find?_insert] at hg
    split at hg
    · exact Option.some.inj hg ▸ hf
    · exact h.wellFormed other g hg
  fixed other := by
    simp only [Sink.hold, Entries.find?_insert, Function.update_apply]
    split
    · rfl
    · exact h.fixed other
  value other labels := by
    simp only [Sink.hold, Entries.find?_insert, Function.update_apply]
    split
    · rfl
    · exact h.value other labels

/-- The gauge that a set is about if the map takes it. -/
theorem Represents.family_of_takes (h : Represents s m) (hsorted : Entries.Sorted labels)
    (ht : m.takes name labels = true) :
    ∃ f, s.family name labels = .ok f ∧ f.WellFormed ∧ labels.map Prod.fst = f.labelNames ∧
      m.value name = f.value? := by
  have hfixed := h.fixed name
  have hvalue : m.value name =
      fun labels => (Entries.find? name s.families).bind fun f => f.value? labels :=
    funext (h.value name)
  unfold GaugeMap.takes at ht
  cases hf : Entries.find? name s.families with
  | none =>
    rw [hf] at hfixed hvalue
    rw [hfixed, Option.map_none, Bool.and_eq_true] at ht
    refine ⟨_, ?_, Family.wellFormed_of_create hsorted, rfl, ?_⟩
    · simp only [family, hf, Family.create_of_valid ht.1 ht.2]
    · rw [hvalue, Family.value?_new]
      rfl
  | some f =>
    rw [hf] at hfixed hvalue
    rw [hfixed, Option.map_some, beq_iff_eq] at ht
    exact ⟨f, by simp only [family, hf], h.wellFormed name f hf, ht, hvalue⟩

/-- A set that the map does not take changes nothing, and what is noted is not that the gauge is
registered already. -/
theorem Represents.set_of_not_takes (h : Represents s m) (hsorted : Entries.Sorted labels)
    (ht : m.takes name labels = false) (v : α) :
    ∃ notice, s.set name labels v = (s, [notice]) ∧
      ∀ other, notice ≠ .gaugeUnregistered other .alreadyRegistered := by
  have hfixed := h.fixed name
  unfold GaugeMap.takes at ht
  cases hf : Entries.find? name s.families with
  | none =>
    rw [hfixed, hf, Option.map_none] at ht
    obtain ⟨fault, hcreate, hfault⟩ := Family.create_of_invalid (α := α) ht
    have hfamily : s.family name labels = .error fault := by simp only [family, hf, hcreate]
    exact ⟨_, h.consistent.set_of_refused hfamily v, fun _ heq => by cases heq; exact hfault rfl⟩
  | some f =>
    rw [hfixed, hf, Option.map_some, beq_eq_false_iff_ne] at ht
    obtain ⟨fault, hvalues⟩ := Family.labelValues_of_names_ne (h.wellFormed name f hf) hsorted ht
    exact ⟨_, h.consistent.set_of_unmatched hf hvalues v, fun _ heq => by cases heq⟩

/-- A set of the table is a set of the map. -/
theorem Represents.set (h : Represents s m) (hsorted : Entries.Sorted labels) (v : α) :
    Represents (s.set name labels v).1 (m.set name labels v) := by
  cases ht : m.takes name labels with
  | false =>
    obtain ⟨notice, hset, -⟩ := h.set_of_not_takes hsorted ht v
    simp only [hset, GaugeMap.set, ht]
    exact h
  | true =>
    obtain ⟨f, hfamily, hf, hnames, hvalue⟩ := h.family_of_takes hsorted ht
    have hvalues := Family.labelValues_of_names hsorted hnames
    have hheld := h.hold name (hf.insert hnames v)
    rw [Family.value?_insert hnames, ← hvalue] at hheld
    rw [h.consistent.set_of_matched hfamily hvalues]
    simp only [GaugeMap.set, ht, if_true, hnames]
    exact hheld

/-- A removal from the table is a removal from the map. -/
theorem Represents.remove (h : Represents s m) (hsorted : Entries.Sorted labels) :
    Represents (s.remove name labels).1 (m.remove name labels) := by
  have hvalue := h.value name
  cases hf : Entries.find? name s.families with
  | none =>
    have hnone : m.value name labels = none := by rw [hvalue, hf, Option.bind_none]
    rw [h.consistent.remove_of_none hf, GaugeMap.remove_of_none hnone]
    exact h
  | some f =>
    have hwf := h.wellFormed name f hf
    simp only [hf, Option.bind_some] at hvalue
    by_cases hnames : labels.map Prod.fst = f.labelNames
    · have hvalues := Family.labelValues_of_names hsorted hnames
      cases hv : Entries.find? (labels.map Prod.snd) f.series with
      | none =>
        have hnone : m.value name labels = none := by
          rw [hvalue, Family.value?, if_pos hnames, hv]
        rw [h.consistent.remove_of_absent hf hvalues hv, GaugeMap.remove_of_none hnone]
        exact h
      | some v =>
        -- The gauge stays registered, so its label names are still fixed.
        have hfixed : Function.update m.fixed name (some f.labelNames) = m.fixed := by
          rw [← Option.map_some, ← hf, ← h.fixed name, Function.update_eq_self]
        have hheld := h.hold name (hwf.erase (labels.map Prod.snd))
        rw [Family.value?_erase hnames, ← funext hvalue, hfixed] at hheld
        rw [h.consistent.remove_of_present hf hvalues hv]
        exact hheld
    · obtain ⟨fault, hvalues⟩ := Family.labelValues_of_names_ne hwf hsorted hnames
      have hnone : m.value name labels = none := by rw [hvalue, Family.value?, if_neg hnames]
      rw [h.consistent.remove_of_unmatched hf hvalues, GaugeMap.remove_of_none hnone]
      exact h

/-- A change of the table is a change of the map. -/
theorem Represents.change (h : Represents s m) (change : Change α) :
    Represents (s.change change).1 (m.change change) := by
  cases change with
  | set name labels value => exact h.set labels.2 value
  | remove name labels => exact h.remove labels.2

/-- After any changes the table stands for the map that they make. -/
theorem Represents.changeAll (h : Represents s m) (changes : List (Change α)) :
    Represents (s.changeAll changes) (m.changeAll changes) := by
  induction changes generalizing s m with
  | nil => exact h
  | cons change rest ih => exact ih (h.change change)

/-- No change of the table fails because a gauge is registered already. -/
theorem Represents.not_alreadyRegistered (h : Represents s m) (change : Change α) (name : String) :
    .gaugeUnregistered name .alreadyRegistered ∉ (s.change change).2 := by
  cases change with
  | set gauge labels value =>
    simp only [Sink.change]
    cases ht : m.takes gauge labels with
    | false =>
      obtain ⟨notice, hset, hnotice⟩ := h.set_of_not_takes labels.2 ht value
      rw [hset]
      exact fun hmem => hnotice name (List.mem_singleton.mp hmem).symm
    | true =>
      obtain ⟨f, hfamily, -, hnames, -⟩ := h.family_of_takes labels.2 ht
      rw [h.consistent.set_of_matched hfamily (Family.labelValues_of_names labels.2 hnames)]
      exact List.not_mem_nil
  | remove gauge labels =>
    simp only [Sink.change, Sink.remove]
    split
    · simp
    · split
      · simp
      · split <;> simp

/-- Changes keep the namespace. -/
theorem space_changeAll (s : Sink α) (changes : List (Change α)) :
    (s.changeAll changes).space = s.space := by
  induction changes generalizing s with
  | nil => rfl
  | cons change rest ih =>
    refine (ih (s.change change).1).trans ?_
    cases change with
    | set name labels value => exact space_set s name labels value
    | remove name labels => exact space_remove s name labels

/-! ### What is written out -/

/-- The entries of the exported gauges, with their labels. -/
def groups (s : Sink α) : List (String × List (Labels × α)) :=
  s.exported.map fun (name, f) => (name, f.series.map fun (values, v) =>
    (f.labelNames.zip values, v))

/-- A gauge that is exported is registered and has a series. -/
theorem Represents.of_mem_exported (h : Represents s m) (hmem : (name, f) ∈ s.exported) :
    Entries.find? name s.families = some f ∧ f.WellFormed ∧ f.series ≠ [] := by
  obtain ⟨hregistered, hseries⟩ := List.mem_filter.mp hmem
  have hf := (Entries.find?_eq_some_iff h.sorted).mpr hregistered
  exact ⟨hf, h.wellFormed name f hf, by simpa using hseries⟩

/-- The entries of the exported gauges are those of the map. -/
theorem Represents.lists (h : Represents s m) : m.Lists s.groups where
  sorted := List.pairwise_map.mpr (h.sorted.sublist List.filter_sublist)
  ne_nil group hgroup := by
    obtain ⟨⟨name, f⟩, hmem, rfl⟩ := List.mem_map.mp hgroup
    obtain ⟨-, -, hseries⟩ := h.of_mem_exported hmem
    simpa using hseries
  entries_sorted group hgroup := by
    obtain ⟨⟨name, f⟩, hmem, rfl⟩ := List.mem_map.mp hgroup
    obtain ⟨-, hf, -⟩ := h.of_mem_exported hmem
    refine List.pairwise_map.mpr (hf.sorted.imp_of_mem fun ha hb hlt => ?_)
    simpa only [List.map_snd_zip (hf.lengths _ ha).le, List.map_snd_zip (hf.lengths _ hb).le]
      using hlt
  mem_iff name labels v := by
    rw [h.value name labels]
    constructor
    · rintro ⟨entries, hentries, hentry⟩
      obtain ⟨⟨gauge, f⟩, hmem, heq⟩ := List.mem_map.mp hentries
      cases heq
      obtain ⟨hf, hwf, -⟩ := h.of_mem_exported hmem
      obtain ⟨series, hseries, heq⟩ := List.mem_map.mp hentry
      rw [hf, Option.bind_some, ← Family.mem_series_iff hwf]
      exact ⟨series, hseries, congrArg Prod.fst heq, congrArg Prod.snd heq⟩
    · intro hv
      obtain ⟨f, hf, hv⟩ := Option.bind_eq_some_iff.mp hv
      have hwf := h.wellFormed name f hf
      obtain ⟨series, hseries, rfl, rfl⟩ := (Family.mem_series_iff hwf v).mpr hv
      have hexported : (name, f) ∈ s.exported := by
        refine List.mem_filter.mpr ⟨Entries.mem_of_find? hf, ?_⟩
        simpa using List.ne_nil_of_mem hseries
      exact ⟨_, List.mem_map.mpr ⟨_, hexported, rfl⟩, List.mem_map.mpr ⟨_, hseries, rfl⟩⟩

/-- The line of a series is that of its entry. -/
theorem toList_entryText (text : α → String) (name : String) (labelNames : List String)
    (series : List String × α) :
    (entryText text name (labelNames.zip series.1, series.2)).toList =
      seriesText text name labelNames series := by
  have hline : "\n".toList = ['\n'] := by decide
  have hspace : " ".toList = [' '] := by decide
  simp only [entryText, seriesText, String.toList_append, String.toList_ofList, hline, hspace,
    List.append_assoc, List.cons_append, List.nil_append]

/-- The text of a gauge is that of its entries. -/
theorem toList_groupText (text : α → String) (space name : String) (f : Family α) :
    (groupText text space (name, f.series.map fun (values, v) =>
      (f.labelNames.zip values, v))).toList = familyText text space (name, f) := by
  simp only [groupText, familyText, List.map_map, String.toList_append, String.toList_join,
    List.flatMap_map, Function.comp_def, toList_entryText]

/-- The text of a table is that of the entries of its gauges. -/
theorem render_eq (s : Sink α) (text : α → String) :
    s.render text = String.join (s.groups.map (groupText text s.space)) := by
  rw [render, ← String.toList_inj, String.toList_ofList, String.toList_join, groups,
    List.map_map, List.flatMap_map]
  refine List.flatMap_congr fun ⟨name, f⟩ _ => ?_
  exact (toList_groupText text s.space name f).symm

/-- After any changes of a new table its text is that of the entries of the map, each of them
written once. The label names of the registered gauges are those that are fixed in the map, the
gauges in use are those that are registered, and so no change fails because a gauge is registered
already. -/
theorem render_changeAll {space : String} {fresh : Sink α} (h : Sink.new? space = some fresh)
    (changes : List (Change α)) :
    let s := fresh.changeAll changes
    let m := GaugeMap.changeAll {} changes
    (∃ groups, m.Lists groups) ∧
      (∀ groups, m.Lists groups →
        ∀ text, s.render text = String.join (groups.map (groupText text space))) ∧
      (∀ name, m.fixed name = (Entries.find? name s.families).map Family.labelNames) ∧
      (∀ name, name ∈ s.inUse ↔ name ∈ s.families.map Prod.fst) ∧
      ∀ change name, .gaugeUnregistered name .alreadyRegistered ∉ (s.change change).2 := by
  intro s m
  obtain rfl := eq_of_new? h
  have hs : Represents s m := (represents_empty space).changeAll changes
  have hspace : s.space = space := space_changeAll _ changes
  refine ⟨⟨s.groups, hs.lists⟩, fun groups hgroups text => ?_, hs.fixed, fun name => ?_,
    hs.not_alreadyRegistered⟩
  · rw [render_eq, hs.lists.unique hgroups, hspace]
  · rw [hs.consistent name, Option.isSome_iff_exists]
    constructor
    · rintro ⟨f, hf⟩
      exact List.mem_map.mpr ⟨(name, f), Entries.mem_of_find? hf, rfl⟩
    · intro hname
      obtain ⟨⟨_, f⟩, hmem, rfl⟩ := List.mem_map.mp hname
      exact ⟨f, (Entries.find?_eq_some_iff hs.sorted).mpr hmem⟩

/-- The only series of a gauge is set and withdrawn, then the gauge is set without labels. -/
def relabelling : List (Change Nat) :=
  [.set "synced" ⟨[("node", "parity")], List.pairwise_singleton _ _⟩ 1,
    .remove "synced" ⟨[("node", "parity")], List.pairwise_singleton _ _⟩,
    .set "synced" ⟨[], List.Pairwise.nil⟩ 0]

/-- The label names of a gauge stay fixed when it has no series any more, so that a set without
labels is not taken and nothing is written out. -/
theorem label_names_fixed_after_remove :
    ∃ fresh, Sink.new? "pool" = some fresh ∧
      (∀ text, (fresh.changeAll relabelling).render text = "") ∧
      (Entries.find? "synced" (fresh.changeAll relabelling).families).map Family.labelNames =
        some ["node"] := by
  have hnew : Sink.new? (α := Nat) "pool" = some { space := "pool" } := rfl
  obtain ⟨-, hrender, hfixed, -⟩ := render_changeAll hnew relabelling
  have hlabels : GaugeMap.fixed (GaugeMap.changeAll {} relabelling) "synced" = some ["node"] := by
    decide
  have hvalue (name : String) (labels : Labels) :
      GaugeMap.value (GaugeMap.changeAll {} relabelling) name labels = none := by
    have hname : isName "synced" = true := by decide
    have hlabel : isLabelName "node" = true := by decide
    by_cases h : name = "synced" <;> by_cases hl : labels = [("node", "parity")] <;>
      simp [GaugeMap.changeAll, relabelling, GaugeMap.change, GaugeMap.set, GaugeMap.takes,
        GaugeMap.remove, hname, hlabel, h, hl]
  have hlists : (GaugeMap.changeAll {} relabelling).Lists [] :=
    ⟨List.Pairwise.nil, by simp, by simp, fun name labels v => by simp [hvalue]⟩
  exact ⟨_, hnew, hrender [] hlists, (hfixed "synced").symm.trans hlabels⟩

end Sink

end NodeWatch.Gauge
