import NodeWatch.Config.Validation

/-!
# What validation demands

A configuration is accepted if it meets five demands. Otherwise the field of the first demand that
it does not meet is named, whatever is demanded after that. A text that is demanded has to hold a
character that is not white space; white space is given here by its code points.
-/

namespace NodeWatch

namespace Text

/-- The code points with the property `White_Space`. -/
def whiteSpace : List Nat :=
  [0x09, 0x0A, 0x0B, 0x0C, 0x0D, 0x20, 0x85, 0xA0, 0x1680, 0x2000, 0x2001, 0x2002, 0x2003, 0x2004,
    0x2005, 0x2006, 0x2007, 0x2008, 0x2009, 0x200A, 0x2028, 0x2029, 0x202F, 0x205F, 0x3000]

/-- A text is legible if it has a character that is not white space. -/
def IsLegible (s : String) : Prop := ∃ c ∈ s.toList, c.toNat ∉ whiteSpace

/-- The ranges and points of the test are those of the list. -/
theorem isBlankChar_iff {c : Char} : isBlankChar c = true ↔ c.toNat ∈ whiteSpace := by
  simp only [isBlankChar, whiteSpace, List.mem_cons, List.not_mem_nil, Bool.or_eq_true,
    Bool.and_eq_true, decide_eq_true_eq, beq_iff_eq, or_false]
  omega

/-- The blank texts are those that are not legible. -/
theorem not_isBlank_iff {s : String} : ¬isBlank s = true ↔ IsLegible s := by
  simp only [isBlank, IsLegible, List.all_eq_true, isBlankChar_iff, Classical.not_forall,
    exists_prop]

end Text

namespace Config

/-- A check that refuses what satisfies a test is passed by what does not and passes the rest. -/
theorem refuse_eq_ok_iff {p : Prop} [Decidable p] {defect : Defect} {rest : Except Defect Unit} :
    (if p then .error defect else rest) = .ok () ↔ ¬p ∧ rest = .ok () := by
  by_cases hp : p <;> simp [hp]

/-- A configuration is accepted if it has none of the defects. -/
theorem validate_eq_ok_iff {c : Config} :
    c.validate = .ok () ↔
      ¬Text.isBlank c.nodeName ∧ ¬Text.isBlank c.endpoint ∧ ¬c.pollInterval = 0 ∧
        ¬(Ip.parse? c.bindAddr).isNone ∧ ¬c.consul.any (·.maxAttempts = 0) := by
  simp only [validate, refuse_eq_ok_iff, and_true]

/-- What is demanded of the values of a configuration, each under the name of the field, in the
order in which the fields are looked at. -/
def demands (c : Config) : List (String × Prop) :=
  [("node_name", Text.IsLegible c.nodeName),
    ("endpoint", Text.IsLegible c.endpoint),
    ("poll_interval_seconds", 1 ≤ c.pollInterval.toNat),
    ("bind_addr", (Ip.parse? c.bindAddr).isSome = true),
    ("consul.max_attempts", ∀ consul ∈ c.consul, 1 ≤ consul.maxAttempts.toNat)]

/-- The first of the demands that is not met is the one on this field. -/
inductive FirstUnmet (field : String) : List (String × Prop) → Prop
  | here {demand : Prop} {rest : List (String × Prop)} (unmet : ¬demand) :
    FirstUnmet field ((field, demand) :: rest)
  | later {other : String} {demand : Prop} {rest : List (String × Prop)} (met : demand)
    (first : FirstUnmet field rest) : FirstUnmet field ((other, demand) :: rest)

/-- What a check names as a defect: nothing is named without a defect. -/
def Names (result : Except Defect Unit) (field : String) : Prop :=
  ∃ defect, result = .error defect ∧ defect.field = field

theorem not_names_ok {field : String} : ¬Names (.ok ()) field := by
  rintro ⟨defect, h, -⟩
  cases h

/-- No demand is left unmet if there is none. -/
theorem not_firstUnmet_nil {field : String} : ¬FirstUnmet field [] := by
  rintro ⟨⟩

/-- A check that refuses what violates a demand names the field of the demand if it is not met, and
else what the rest of the checks names. -/
theorem names_refuse_iff {p demand : Prop} [Decidable p] {defect : Defect}
    {rest : Except Defect Unit} {others : List (String × Prop)} {field : String}
    (hdemand : ¬p ↔ demand) (hrest : Names rest field ↔ FirstUnmet field others) :
    Names (if p then .error defect else rest) field ↔
      FirstUnmet field ((defect.field, demand) :: others) := by
  by_cases hp : p
  · rw [if_pos hp]
    have hunmet : ¬demand := fun h => hdemand.mpr h hp
    constructor
    · rintro ⟨_, hdefect, rfl⟩
      obtain rfl := Except.error.inj hdefect
      exact .here hunmet
    · intro h
      cases h with
      | here => exact ⟨defect, rfl, rfl⟩
      | later met => exact absurd met hunmet
  · rw [if_neg hp, hrest]
    have hmet : demand := hdemand.mp hp
    constructor
    · intro h
      exact .later hmet h
    · intro h
      cases h with
      | here unmet => exact absurd hmet unmet
      | later _ first => exact first

variable (c : Config)

theorem pollInterval_ne_zero_iff : ¬c.pollInterval = 0 ↔ 1 ≤ c.pollInterval.toNat := by
  rw [Nat.one_le_iff_ne_zero, ← UInt64.toNat_inj]
  rfl

theorem not_isNone_parse?_iff {s : String} :
    ¬(Ip.parse? s).isNone = true ↔ (Ip.parse? s).isSome = true := by
  cases Ip.parse? s <;> simp

theorem maxAttempts_ne_zero_iff :
    ¬c.consul.any (·.maxAttempts = 0) = true ↔
      ∀ consul ∈ c.consul, 1 ≤ consul.maxAttempts.toNat := by
  cases c.consul with
  | none => simp
  | some consul =>
    have hzero : ¬consul.maxAttempts = 0 ↔ 1 ≤ consul.maxAttempts.toNat := by
      rw [Nat.one_le_iff_ne_zero, ← UInt32.toNat_inj]
      rfl
    simpa using hzero

/-- A configuration is accepted if it meets all demands. -/
theorem validate_eq_ok_iff_demands : c.validate = .ok () ↔ ∀ demand ∈ c.demands, demand.2 := by
  rw [validate_eq_ok_iff, Text.not_isBlank_iff, Text.not_isBlank_iff, pollInterval_ne_zero_iff,
    not_isNone_parse?_iff, maxAttempts_ne_zero_iff]
  simp only [demands, List.forall_mem_cons, List.not_mem_nil, false_implies, implies_true, and_true]

/-- A configuration that is refused is so for the first demand that it does not meet. -/
theorem names_validate_iff (field : String) :
    Names c.validate field ↔ FirstUnmet field c.demands := by
  refine names_refuse_iff Text.not_isBlank_iff ?_
  refine names_refuse_iff Text.not_isBlank_iff ?_
  refine names_refuse_iff c.pollInterval_ne_zero_iff ?_
  refine names_refuse_iff not_isNone_parse?_iff ?_
  refine names_refuse_iff c.maxAttempts_ne_zero_iff ?_
  exact iff_of_false not_names_ok not_firstUnmet_nil

end Config

end NodeWatch
