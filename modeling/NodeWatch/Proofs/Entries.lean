import Mathlib.Data.List.Sort
import NodeWatch.Entries

/-!
# Maps as entries in key order

Entries in increasing order of their keys are determined by what they bind, and every operation
keeps them in order. So a map given by entries can be compared with any other description of it key
by key. What is bound after an insertion or an erasure needs no order at all.
-/

namespace NodeWatch.Entries

variable {κ υ : Type} [Ord κ]

/-- The keys are in strictly increasing order. -/
def Sorted (entries : List (κ × υ)) : Prop :=
  entries.Pairwise fun a b => compare a.1 b.1 = .lt

@[simp] theorem find?_nil (k : κ) : find? k ([] : List (κ × υ)) = none := rfl

/-- An insertion adds no other entry than its own. -/
theorem mem_insert {k : κ} {v : υ} {entries : List (κ × υ)} {entry : κ × υ}
    (h : entry ∈ insert k v entries) : entry = (k, v) ∨ entry ∈ entries := by
  induction entries with
  | nil => exact Or.inl (List.mem_singleton.mp h)
  | cons first rest ih =>
    obtain ⟨k', v'⟩ := first
    simp only [insert] at h
    split at h
    · exact List.mem_cons.mp h
    · exact (List.mem_cons.mp h).imp_right (List.mem_cons_of_mem _)
    · rcases List.mem_cons.mp h with rfl | h
      · exact Or.inr List.mem_cons_self
      · exact (ih h).imp_right (List.mem_cons_of_mem _)

/-- Insertions one after the other. -/
def insertAll (bindings entries : List (κ × υ)) : List (κ × υ) :=
  bindings.foldl (fun entries binding => insert binding.1 binding.2 entries) entries

/-- Insertions add no other entries than their own. -/
theorem mem_insertAll {bindings entries : List (κ × υ)} {entry : κ × υ}
    (h : entry ∈ insertAll bindings entries) : entry ∈ entries ∨ entry ∈ bindings := by
  induction bindings generalizing entries with
  | nil => exact Or.inl h
  | cons binding bindings ih =>
    rcases ih h with h | h
    · rcases mem_insert h with rfl | h
      · exact Or.inr List.mem_cons_self
      · exact Or.inl h
    · exact Or.inr (List.mem_cons_of_mem _ h)

/-- An erasure only leaves entries out. -/
theorem erase_sublist (k : κ) (entries : List (κ × υ)) : (erase k entries).Sublist entries := by
  induction entries with
  | nil => exact List.Sublist.refl []
  | cons first rest ih =>
    obtain ⟨k', v'⟩ := first
    simp only [erase]
    split
    · exact ih.cons _
    · exact ih.cons_cons _

/-- Erasure keeps the order. -/
theorem Sorted.erase {entries : List (κ × υ)} (h : Sorted entries) (k : κ) :
    Sorted (erase k entries) :=
  h.sublist (erase_sublist k entries)

section Lookup

variable [Std.LawfulEqOrd κ]

theorem ne_of_compare_ne_eq {k k' : κ} (h : compare k k' ≠ .eq) : k ≠ k' :=
  fun heq => h (Std.LawfulEqOrd.compare_eq_iff_eq.mpr heq)

theorem ne_of_compare_lt {k k' : κ} (h : compare k k' = .lt) : k ≠ k' :=
  ne_of_compare_ne_eq (by simp [h])

/-- Keys in strictly increasing order are never equal. -/
theorem irrefl_compare_lt {ι : Type} (key : ι → κ) :
    Std.Irrefl fun a b => compare (key a) (key b) = .lt :=
  ⟨fun _ h => ne_of_compare_lt h rfl⟩

/-- An insertion binds its key and keeps those that were bound. -/
theorem mem_keys_insert {k k' : κ} {v : υ} {entries : List (κ × υ)} :
    k' ∈ (insert k v entries).map Prod.fst ↔ k' = k ∨ k' ∈ entries.map Prod.fst := by
  induction entries with
  | nil => simp [insert]
  | cons first rest ih =>
    obtain ⟨k'', v''⟩ := first
    simp only [insert]
    split
    · simp
    · rename_i heq
      obtain rfl := Std.LawfulEqOrd.eq_of_compare heq
      simp
    · simp only [List.map_cons, List.mem_cons, ih]
      exact or_left_comm

/-- Insertions bind their keys and keep those that were bound. -/
theorem mem_keys_insertAll {bindings entries : List (κ × υ)} {k : κ} :
    k ∈ (insertAll bindings entries).map Prod.fst ↔
      k ∈ entries.map Prod.fst ∨ k ∈ bindings.map Prod.fst := by
  induction bindings generalizing entries with
  | nil => simp [insertAll]
  | cons binding bindings ih =>
    rw [insertAll, List.foldl_cons, ← insertAll, ih, mem_keys_insert, List.map_cons,
      List.mem_cons, or_assoc, or_left_comm]

@[simp] theorem find?_cons_self (k : κ) (v : υ) (rest : List (κ × υ)) :
    find? k ((k, v) :: rest) = some v := by
  simp only [find?, Std.ReflOrd.compare_self]

theorem find?_cons_of_ne {k k' : κ} (h : k ≠ k') (v : υ) (rest : List (κ × υ)) :
    find? k ((k', v) :: rest) = find? k rest := by
  simp only [find?]
  split
  · rename_i heq
    exact absurd (Std.LawfulEqOrd.eq_of_compare heq) h
  · rfl

@[simp] theorem find?_insert_self (k : κ) (v : υ) (entries : List (κ × υ)) :
    find? k (insert k v entries) = some v := by
  induction entries with
  | nil => exact find?_cons_self k v []
  | cons entry rest ih =>
    obtain ⟨k', v'⟩ := entry
    simp only [insert]
    split
    · exact find?_cons_self k v _
    · exact find?_cons_self k v _
    · rename_i hgt
      have hne : k ≠ k' := ne_of_compare_ne_eq (by simp [hgt])
      rw [find?_cons_of_ne hne, ih]

theorem find?_insert_of_ne {k k' : κ} (h : k ≠ k') (v : υ) (entries : List (κ × υ)) :
    find? k (insert k' v entries) = find? k entries := by
  induction entries with
  | nil => exact find?_cons_of_ne h v []
  | cons entry rest ih =>
    obtain ⟨k'', v''⟩ := entry
    simp only [insert]
    split
    · exact find?_cons_of_ne h v _
    · rename_i heq
      obtain rfl := Std.LawfulEqOrd.eq_of_compare heq
      rw [find?_cons_of_ne h, find?_cons_of_ne h]
    · by_cases hk : k = k''
      · subst hk
        rw [find?_cons_self, find?_cons_self]
      · rw [find?_cons_of_ne hk, find?_cons_of_ne hk, ih]

/-- An insertion changes what is bound at its own key only. -/
theorem find?_insert [DecidableEq κ] (k k' : κ) (v : υ) (entries : List (κ × υ)) :
    find? k (insert k' v entries) = if k = k' then some v else find? k entries := by
  by_cases h : k = k'
  · subst h
    simp
  · rw [find?_insert_of_ne h, if_neg h]

/-- Of two insertions at one key the later one counts. -/
@[simp] theorem insert_insert (k : κ) (v v' : υ) (entries : List (κ × υ)) :
    insert k v (insert k v' entries) = insert k v entries := by
  induction entries with
  | nil => simp only [insert, Std.ReflOrd.compare_self]
  | cons entry rest ih =>
    obtain ⟨k', v''⟩ := entry
    cases hc : compare k k' with
    | lt => simp only [insert, hc, Std.ReflOrd.compare_self]
    | eq => simp only [insert, hc, Std.ReflOrd.compare_self]
    | gt => simp only [insert, hc, ih]

@[simp] theorem find?_erase_self (k : κ) (entries : List (κ × υ)) :
    find? k (erase k entries) = none := by
  induction entries with
  | nil => rfl
  | cons entry rest ih =>
    obtain ⟨k', v'⟩ := entry
    simp only [erase]
    split
    · exact ih
    · rename_i hne
      rw [find?_cons_of_ne (ne_of_compare_ne_eq hne), ih]

theorem find?_erase_of_ne {k k' : κ} (h : k ≠ k') (entries : List (κ × υ)) :
    find? k (erase k' entries) = find? k entries := by
  induction entries with
  | nil => rfl
  | cons entry rest ih =>
    obtain ⟨k'', v''⟩ := entry
    simp only [erase]
    split
    · rename_i heq
      obtain rfl := Std.LawfulEqOrd.eq_of_compare heq
      rw [find?_cons_of_ne h, ih]
    · by_cases hk : k = k''
      · subst hk
        rw [find?_cons_self, find?_cons_self]
      · rw [find?_cons_of_ne hk, find?_cons_of_ne hk, ih]

/-- An erasure changes what is bound at its own key only. -/
theorem find?_erase [DecidableEq κ] (k k' : κ) (entries : List (κ × υ)) :
    find? k (erase k' entries) = if k = k' then none else find? k entries := by
  by_cases h : k = k'
  · subst h
    simp
  · rw [find?_erase_of_ne h, if_neg h]

/-- What is bound is among the entries. -/
theorem mem_of_find? {k : κ} {v : υ} {entries : List (κ × υ)} (h : find? k entries = some v) :
    (k, v) ∈ entries := by
  induction entries with
  | nil => cases h
  | cons entry rest ih =>
    obtain ⟨k', v'⟩ := entry
    by_cases hk : k = k'
    · subst hk
      rw [find?_cons_self] at h
      obtain rfl := Option.some.inj h
      exact List.mem_cons_self
    · rw [find?_cons_of_ne hk] at h
      exact List.mem_cons_of_mem _ (ih h)

/-- In entries in order nothing hides an entry. -/
theorem find?_eq_some_iff {entries : List (κ × υ)} (h : Sorted entries) {k : κ} {v : υ} :
    find? k entries = some v ↔ (k, v) ∈ entries := by
  refine ⟨mem_of_find?, fun hmem => ?_⟩
  induction entries with
  | nil => cases hmem
  | cons entry rest ih =>
    obtain ⟨k', v'⟩ := entry
    obtain ⟨hfirst, hrest⟩ := List.pairwise_cons.mp h
    rcases List.mem_cons.mp hmem with heq | hmem
    · cases heq
      exact find?_cons_self k v rest
    · have hne : k ≠ k' := (ne_of_compare_lt (hfirst _ hmem)).symm
      rw [find?_cons_of_ne hne]
      exact ih hrest hmem

/-- In entries in order no key comes twice. -/
theorem find?_of_sorted_cons {k : κ} {v : υ} {rest : List (κ × υ)} (h : Sorted ((k, v) :: rest)) :
    find? k rest = none := by
  rw [Option.eq_none_iff_forall_ne_some]
  intro v' hfind
  exact ne_of_compare_lt ((List.pairwise_cons.mp h).1 _ (mem_of_find? hfind)) rfl

/-- Leaving out entries by their values leaves out what they bind. -/
theorem find?_filter {entries : List (κ × υ)} (h : Sorted entries) (p : υ → Bool) (k : κ) :
    find? k (entries.filter fun e => p e.2) = (find? k entries).filter p := by
  have hf : Sorted (entries.filter fun e => p e.2) := h.sublist List.filter_sublist
  ext v
  rw [find?_eq_some_iff hf, List.mem_filter, Option.filter_eq_some_iff, find?_eq_some_iff h]

end Lookup

/-- Keys are never in strictly increasing order both ways. -/
theorem antisymm_compare_lt [Std.TransOrd κ] {ι : Type} (key : ι → κ) :
    Std.Antisymm fun a b => compare (key a) (key b) = .lt :=
  ⟨fun _ _ hab hba => absurd hba (Std.OrientedCmp.not_lt_of_lt hab)⟩

section Order

variable [Std.TransOrd κ] [Std.LawfulEqOrd κ]

/-- Entries in order that bind the same are the same. -/
theorem Sorted.ext {left right : List (κ × υ)} (hl : Sorted left) (hr : Sorted right)
    (h : ∀ k, find? k left = find? k right) : left = right := by
  have hirrefl := irrefl_compare_lt (Prod.fst : κ × υ → κ)
  have hantisymm := antisymm_compare_lt (Prod.fst : κ × υ → κ)
  refine hl.eq_of_mem_iff hr fun entry => ?_
  obtain ⟨k, v⟩ := entry
  rw [← find?_eq_some_iff hl, ← find?_eq_some_iff hr, h]

/-- Insertion keeps the order. -/
theorem Sorted.insert {entries : List (κ × υ)} (h : Sorted entries) (k : κ) (v : υ) :
    Sorted (insert k v entries) := by
  induction entries with
  | nil => exact List.pairwise_singleton _ _
  | cons first rest ih =>
    obtain ⟨k', v'⟩ := first
    obtain ⟨hfirst, hrest⟩ := List.pairwise_cons.mp h
    simp only [Entries.insert]
    split
    · rename_i hlt
      refine List.pairwise_cons.mpr ⟨fun entry hentry => ?_, h⟩
      rcases List.mem_cons.mp hentry with rfl | hentry
      · exact hlt
      · exact Std.TransCmp.lt_trans hlt (hfirst entry hentry)
    · rename_i heq
      obtain rfl := Std.LawfulEqOrd.eq_of_compare heq
      exact List.pairwise_cons.mpr ⟨hfirst, hrest⟩
    · rename_i hgt
      refine List.pairwise_cons.mpr ⟨fun entry hentry => ?_, ih hrest⟩
      rcases mem_insert hentry with rfl | hentry
      · exact Std.OrientedCmp.lt_of_gt hgt
      · exact hfirst entry hentry

/-- A map that was made by binding is in order. -/
theorem sorted_ofList (bindings : List (κ × υ)) : Sorted (ofList bindings) := by
  -- The map that is built on grows, so the induction is over every map to build on.
  suffices hfold : ∀ entries : List (κ × υ), Sorted entries →
      Sorted (bindings.foldl (fun entries b => Entries.insert b.1 b.2 entries) entries) from
    hfold [] List.Pairwise.nil
  induction bindings with
  | nil => exact fun _ h => h
  | cons b bindings ih => exact fun entries h => ih _ (h.insert b.1 b.2)

end Order

/-- The entries of a function at some keys. -/
def tabulate (keys : List κ) (value : κ → Option υ) : List (κ × υ) :=
  keys.filterMap fun k => (value k).map fun v => (k, v)

/-- A table binds what the function gives at its keys. -/
theorem find?_tabulate [DecidableEq κ] [Std.LawfulEqOrd κ] (keys : List κ)
    (value : κ → Option υ) (k : κ) :
    find? k (tabulate keys value) = if k ∈ keys then value k else none := by
  induction keys with
  | nil => rfl
  | cons first rest ih =>
    simp only [tabulate] at ih
    by_cases hk : k = first
    · subst hk
      cases hv : value k with
      | none => simp [tabulate, hv, ih]
      | some v => simp [tabulate, hv]
    · cases hv : value first with
      | none => simp [tabulate, hv, ih, hk]
      | some v => simp [tabulate, hv, find?_cons_of_ne hk, ih, hk]

/-- A table is in order if its keys are. -/
theorem sorted_tabulate {keys : List κ} (h : keys.Pairwise fun a b => compare a b = .lt)
    (value : κ → Option υ) : Sorted (tabulate keys value) := by
  refine List.pairwise_filterMap.mpr (h.imp fun hlt entry hentry entry' hentry' => ?_)
  obtain ⟨v, _, rfl⟩ := Option.map_eq_some_iff.mp hentry
  obtain ⟨v', _, rfl⟩ := Option.map_eq_some_iff.mp hentry'
  exact hlt

end NodeWatch.Entries
