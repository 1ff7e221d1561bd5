import Mathlib.Logic.Function.Basic
import NodeWatch.Gauge.Sink
import NodeWatch.Proofs.Entries

/-!
# The series of a gauge

A series is kept by its label values alone. In a gauge that has only seen labels in the order of
their names, these values still stand for the labels: no others have the names of the gauge and the
same values. So a gauge is a partial function from labels to values, and labels with other names
than those of the gauge select nothing in it.
-/

namespace NodeWatch.Gauge.Family

variable {α : Type} {f : Family α} {name : String} {labels : Labels}

/-- The label names are in order and each series has as many label values as there are names. -/
structure WellFormed (f : Family α) : Prop where
  names : f.labelNames.Pairwise fun a b => compare a b = .lt
  sorted : Entries.Sorted f.series
  lengths : ∀ entry ∈ f.series, entry.1.length = f.labelNames.length

/-- The value of the series with these labels. -/
def value? (f : Family α) (labels : Labels) : Option α :=
  if labels.map Prod.fst = f.labelNames then Entries.find? (labels.map Prod.snd) f.series else none

/-! ### Label values -/

/-- Values that are found for all labels are found for the list of them. -/
theorem mapM_names {get : String → Except Fault String}
    (h : ∀ label ∈ labels, get label.1 = .ok label.2) :
    (labels.map Prod.fst).mapM get = .ok (labels.map Prod.snd) := by
  induction labels with
  | nil => rfl
  | cons label rest ih =>
    rw [List.map_cons, List.mapM_cons, h label List.mem_cons_self,
      ih fun other hother => h other (List.mem_cons_of_mem _ hother)]
    rfl

/-- Values that are found for a list of names are found for each of them. -/
theorem exists_of_mapM_eq_ok {get : String → Except Fault String} {names values : List String}
    (h : names.mapM get = .ok values) {name : String} (hname : name ∈ names) :
    ∃ value, get name = .ok value := by
  induction names generalizing values with
  | nil => cases hname
  | cons first rest ih =>
    rw [List.mapM_cons] at h
    cases hfirst : get first with
    | error fault => simp [hfirst, bind, Except.bind] at h
    | ok value =>
      cases hrest : rest.mapM get with
      | error fault => simp [hfirst, hrest, bind, Except.bind] at h
      | ok others =>
        rcases List.mem_cons.mp hname with rfl | hname
        · exact ⟨value, hfirst⟩
        · exact ih hrest hname

/-- Labels in order select the series with their values in a gauge with their names. -/
theorem labelValues_of_names (hsorted : Entries.Sorted labels)
    (h : labels.map Prod.fst = f.labelNames) :
    f.labelValues labels = .ok (labels.map Prod.snd) := by
  have hlength : labels.length = f.labelNames.length := by rw [← h, List.length_map]
  simp only [labelValues, hlength, ne_eq, not_true, if_false, ← h]
  refine mapM_names fun label hlabel => ?_
  rw [(Entries.find?_eq_some_iff hsorted).mpr hlabel]

/-- Labels in order with other names than the gauge has are refused. -/
theorem labelValues_of_names_ne (hf : f.WellFormed) (hsorted : Entries.Sorted labels)
    (h : labels.map Prod.fst ≠ f.labelNames) : ∃ fault, f.labelValues labels = .error fault := by
  cases hvalues : f.labelValues labels with
  | error fault => exact ⟨fault, rfl⟩
  | ok values =>
    refine absurd ?_ h
    unfold labelValues at hvalues
    split at hvalues
    · cases hvalues
    rename_i hlength
    have hnames : (labels.map Prod.fst).Pairwise fun a b => compare a b = .lt :=
      List.pairwise_map.mpr hsorted
    have hantisymm := Entries.antisymm_compare_lt fun name : String => name
    have hnodup : f.labelNames.Nodup := hf.names.imp Entries.ne_of_compare_lt
    have hgiven : f.labelNames ⊆ labels.map Prod.fst := by
      intro name hname
      obtain ⟨value, hvalue⟩ := exists_of_mapM_eq_ok hvalues hname
      split at hvalue
      · rename_i given hfound
        exact List.mem_map.mpr ⟨(name, given), Entries.mem_of_find? hfound, rfl⟩
      · cases hvalue
    -- As many different names as there are labels, and all of them given, are all the names.
    have hperm : f.labelNames.Perm (labels.map Prod.fst) := by
      refine (List.subperm_of_subset hnodup hgiven).perm_of_length_le ?_
      rw [List.length_map, not_ne_iff.mp hlength]
    exact hperm.symm.eq_of_pairwise' hnames hf.names

/-! ### New gauges -/

/-- A gauge is created if its name and those of the labels are valid. -/
theorem create_of_valid (hname : isName name = true)
    (hlabels : (labels.map Prod.fst).all isLabelName = true) :
    create (α := α) name labels = .ok { labelNames := labels.map Prod.fst } := by
  have hnone : (labels.find? fun label => !isLabelName label.1) = none := by
    simpa using hlabels
  simp only [create, hname, Bool.not_true, Bool.false_eq_true, if_false, hnone]

/-- Otherwise it is refused, and not because another one has its name. -/
theorem create_of_invalid
    (h : (isName name && (labels.map Prod.fst).all isLabelName) = false) :
    ∃ fault, create (α := α) name labels = .error fault ∧ fault ≠ .alreadyRegistered := by
  cases hname : isName name with
  | false => exact ⟨.invalidName name, by simp only [create, hname]; rfl, by simp⟩
  | true =>
    cases hfind : labels.find? fun label => !isLabelName label.1 with
    | some label => exact ⟨.invalidLabel label.1, by simp only [create, hname, hfind]; rfl, by simp⟩
    | none =>
      have hall : (labels.map Prod.fst).all isLabelName = true := by simpa using hfind
      simp [hname, hall] at h

/-- A new gauge is in order. -/
theorem wellFormed_of_create (hsorted : Entries.Sorted labels) :
    WellFormed ({ labelNames := labels.map Prod.fst } : Family α) where
  names := List.pairwise_map.mpr hsorted
  sorted := List.Pairwise.nil
  lengths := by simp

/-- A new gauge has no series. -/
@[simp] theorem value?_new (names : List String) :
    value? ({ labelNames := names } : Family α) = fun _ => none := by
  funext labels
  simp [value?]

/-! ### Changes of a series -/

/-- A series can be set in a gauge with the names of the labels. -/
theorem WellFormed.insert (hf : f.WellFormed) (h : labels.map Prod.fst = f.labelNames) (v : α) :
    WellFormed { f with series := Entries.insert (labels.map Prod.snd) v f.series } where
  names := hf.names
  sorted := hf.sorted.insert _ _
  lengths entry hentry := by
    rcases Entries.mem_insert hentry with rfl | hentry
    · rw [← h, List.length_map, List.length_map]
    · exact hf.lengths entry hentry

theorem WellFormed.erase (hf : f.WellFormed) (values : List String) :
    WellFormed { f with series := Entries.erase values f.series } where
  names := hf.names
  sorted := hf.sorted.erase values
  lengths entry hentry := hf.lengths entry ((Entries.erase_sublist values f.series).mem hentry)

/-- Labels with the same names differ in their values. -/
theorem values_eq_iff {other : Labels} (h : labels.map Prod.fst = other.map Prod.fst) :
    labels.map Prod.snd = other.map Prod.snd ↔ labels = other := by
  refine ⟨fun hvalues => ?_, fun heq => by rw [heq]⟩
  rw [List.zip_of_prod h hvalues]
  exact (List.zip_of_prod rfl rfl).symm

/-- To set a series changes its own value only. -/
theorem value?_insert (h : labels.map Prod.fst = f.labelNames) (v : α) :
    value? { f with series := Entries.insert (labels.map Prod.snd) v f.series } =
      Function.update f.value? labels (some v) := by
  funext other
  rw [Function.update_apply]
  simp only [value?]
  by_cases hother : other.map Prod.fst = f.labelNames
  · simp only [hother, if_true, Entries.find?_insert, values_eq_iff (hother.trans h.symm)]
  · have hne : other ≠ labels := fun heq => hother (heq ▸ h)
    simp only [hother, hne, if_false]

/-- To withdraw a series changes its own value only. -/
theorem value?_erase (h : labels.map Prod.fst = f.labelNames) :
    value? { f with series := Entries.erase (labels.map Prod.snd) f.series } =
      Function.update f.value? labels none := by
  funext other
  rw [Function.update_apply]
  simp only [value?]
  by_cases hother : other.map Prod.fst = f.labelNames
  · simp only [hother, if_true, Entries.find?_erase, values_eq_iff (hother.trans h.symm)]
  · have hne : other ≠ labels := fun heq => hother (heq ▸ h)
    simp only [hother, hne, if_false]

/-- The labels of a series have the names of the gauge and the values of the series. -/
theorem mem_series_iff (hf : f.WellFormed) (v : α) :
    (∃ entry ∈ f.series, f.labelNames.zip entry.1 = labels ∧ entry.2 = v) ↔
      f.value? labels = some v := by
  unfold value?
  constructor
  · rintro ⟨⟨values, v⟩, hmem, rfl, rfl⟩
    have hlength := hf.lengths _ hmem
    rw [if_pos (List.map_fst_zip hlength.ge), List.map_snd_zip hlength.le]
    exact (Entries.find?_eq_some_iff hf.sorted).mpr hmem
  · intro h
    split at h
    · rename_i hnames
      refine ⟨_, Entries.mem_of_find? h, ?_, rfl⟩
      rw [← hnames]
      exact (List.zip_of_prod rfl rfl).symm
    · cases h

end NodeWatch.Gauge.Family
