import NodeWatch.Config.Decode
import NodeWatch.Proofs.Document

/-!
# Fields of a configuration

Every field of a configuration and of its registry section holds values of one kind, and reading a
field changes that field of the draft and no other. `ConsulConfig.Reading` and `Config.Reading` list
all that reading a field can do. What reading several fields does to a draft follows by looking at
the cases, and reading fails only for a value that is not of the kind of its field.
-/

namespace NodeWatch

namespace Document

/-! ### Reading field after field -/

section Fields

variable {α δ : Type} {read : String → α → δ → Except Fault δ}

@[simp] theorem readFields_nil (d : δ) : readFields read d [] = .ok d := rfl

/-- What holds of a draft before anything is read, and is kept for what has been read so far, holds
for everything in the end. -/
theorem readFields_induction {P : List (String × α) → δ → Prop} {d d' : δ}
    {entries : List (String × α)} (h : readFields read d entries = .ok d') (start : P [] d)
    (step : ∀ before name value d d', P before d → (name, value) ∈ entries →
      read name value d = .ok d' → P (before ++ [(name, value)]) d') : P entries d' := by
  -- What has been read before grows, so the induction is over every beginning.
  suffices hfrom : ∀ (rest before : List (String × α)) (d : δ), (∀ e ∈ rest, e ∈ entries) →
      P before d → readFields read d rest = .ok d' → P (before ++ rest) d' by
    simpa using hfrom entries [] d (fun _ he => he) start h
  intro rest
  induction rest with
  | nil =>
    intro before d _ hbefore hd
    obtain rfl := Except.ok.inj hd
    rwa [List.append_nil]
  | cons entry rest ih =>
    intro before d hrest hbefore hd
    obtain ⟨name, value⟩ := entry
    obtain ⟨next, hnext, hd⟩ := readFields_cons_eq_ok_iff.mp hd
    obtain ⟨hentry, hrest⟩ := List.forall_mem_cons.mp hrest
    have := ih (before ++ [(name, value)]) next hrest
      (step before name value d next hbefore hentry hnext) hd
    rwa [List.append_assoc] at this

/-- If a field can be read into every draft or into none, fields can be read exactly if each of them
can be. -/
theorem exists_readFields_iff {P : String → α → Prop}
    (hread : ∀ name value (d : δ), (∃ d', read name value d = .ok d') ↔ P name value) (d : δ)
    (entries : List (String × α)) :
    (∃ d', readFields read d entries = .ok d') ↔ ∀ e ∈ entries, P e.1 e.2 := by
  induction entries generalizing d with
  | nil => simp
  | cons entry rest ih =>
    obtain ⟨name, value⟩ := entry
    rw [List.forall_mem_cons, ← hread name value d]
    simp only [readFields_cons_eq_ok_iff]
    constructor
    · rintro ⟨d', next, hnext, hd'⟩
      exact ⟨⟨next, hnext⟩, (ih next).mp ⟨d', hd'⟩⟩
    · rintro ⟨⟨next, hnext⟩, hrest⟩
      obtain ⟨d', hd'⟩ := (ih next).mpr hrest
      exact ⟨d', next, hnext, hd'⟩

/-- If every reading takes one field over from elsewhere, together they take over all of them. -/
theorem readFields_of_take {take : List String → δ → δ} (nil : ∀ d, take [] d = d)
    (cons : ∀ name names d, take names (take [name] d) = take (name :: names) d)
    {entries : List (String × α)} (h : ∀ e ∈ entries, ∀ d, read e.1 e.2 d = .ok (take [e.1] d))
    (d : δ) : readFields read d entries = .ok (take (entries.map Prod.fst) d) := by
  induction entries generalizing d with
  | nil => rw [readFields_nil, List.map_nil, nil]
  | cons entry rest ih =>
    obtain ⟨hentry, hrest⟩ := List.forall_mem_cons.mp h
    rw [List.map_cons, ← cons, readFields_cons_eq_ok_iff]
    exact ⟨take [entry.1] d, hentry d, ih hrest _⟩

/-- A reading whose result is only put into its place succeeds if it does. -/
theorem exists_bind_pure_iff {β γ : Type} {x : Except Fault β} {put : β → γ} :
    (∃ c, (x >>= fun b => pure (put b)) = .ok c) ↔ ∃ b, x = .ok b := by
  simp only [bind_eq_ok_iff, pure, Except.pure, Except.ok.injEq]
  constructor
  · rintro ⟨c, b, hb, -⟩
    exact ⟨b, hb⟩
  · rintro ⟨b, hb⟩
    exact ⟨put b, b, hb, rfl⟩

end Fields

variable {α : Type} [Document α] {a : α}

/-! ### Readers -/

/-- A natural number is read where there is an integer that is none too big. -/
theorem natural_eq_ok_iff {bound : Nat} {expected : String} {n : Nat} :
    natural bound expected a = .ok n ↔ n < bound ∧ view a = .integer n := by
  unfold natural
  split
  · rename_i found hview
    rw [hview, View.integer.injEq]
    by_cases hrange : 0 ≤ found ∧ found < bound
    · rw [if_pos hrange, Except.ok.injEq]
      omega
    · rw [if_neg hrange]
      refine iff_of_false (fun h => ?_) (by omega)
      split at h <;> cases h
  · rename_i hother
    exact iff_of_false (fun h => by cases h) fun h => hother n h.2

/-- A number of some bits is read where there is an integer that it stands for. -/
theorem word_eq_ok_iff {W : Type} {ofNat : Nat → W} {toNat : W → Nat} {bound : Nat}
    (hof : ∀ n < bound, toNat (ofNat n) = n) (hto : ∀ w, ofNat (toNat w) = w)
    (hlt : ∀ w, toNat w < bound) {expected : String} {w : W} :
    (natural bound expected a).map ofNat = .ok w ↔ view a = .integer (toNat w) := by
  constructor
  · intro h
    cases hn : natural bound expected a with
    | error fault => simp [hn, Except.map] at h
    | ok n =>
      obtain ⟨hbound, hview⟩ := natural_eq_ok_iff.mp hn
      obtain rfl : ofNat n = w := by simpa [hn, Except.map] using h
      rw [hof n hbound, hview]
  · intro h
    rw [natural_eq_ok_iff.mpr ⟨hlt w, h⟩, Except.map, hto]

theorem word16_eq_ok_iff {w : UInt16} : word16 a = .ok w ↔ view a = .integer w.toNat :=
  word_eq_ok_iff (fun _ => UInt16.toNat_ofNat_of_lt') (fun _ => UInt16.ofNat_toNat)
    UInt16.toNat_lt

theorem word32_eq_ok_iff {w : UInt32} : word32 a = .ok w ↔ view a = .integer w.toNat :=
  word_eq_ok_iff (fun _ => UInt32.toNat_ofNat_of_lt') (fun _ => UInt32.ofNat_toNat)
    UInt32.toNat_lt

theorem word64_eq_ok_iff {w : UInt64} : word64 a = .ok w ↔ view a = .integer w.toNat :=
  word_eq_ok_iff (fun _ => UInt64.toNat_ofNat_of_lt') (fun _ => UInt64.ofNat_toNat)
    UInt64.toNat_lt

/-- Items are read one after the other. -/
theorem mapM_eq_ok_iff {β γ : Type} {read : β → Except Fault γ} {items : List β}
    {values : List γ} : items.mapM read = .ok values ↔ items.map read = values.map .ok := by
  induction items generalizing values with
  | nil => simp [pure, Except.pure, eq_comm]
  | cons item items ih =>
    simp only [List.mapM_cons, bind_eq_ok_iff, ih, pure, Except.pure, Except.ok.injEq,
      List.map_cons]
    constructor
    · rintro ⟨value, hvalue, values, hvalues, rfl⟩
      rw [hvalue, hvalues, List.map_cons]
    · intro h
      obtain ⟨value, values, rfl, hvalue, hvalues⟩ := List.map_eq_cons_iff.mp h.symm
      exact ⟨value, hvalue.symm, values, hvalues.symm, rfl⟩

/-- Items can be read if each of them can. -/
theorem exists_mapM_iff {β γ : Type} {read : β → Except Fault γ} {items : List β} :
    (∃ values, items.mapM read = .ok values) ↔ ∀ item ∈ items, ∃ value, read item = .ok value := by
  simp only [mapM_eq_ok_iff]
  induction items with
  | nil => simp
  | cons item items ih =>
    rw [List.forall_mem_cons, ← ih]
    constructor
    · rintro ⟨_, h⟩
      obtain ⟨value, values, rfl, hvalue, hvalues⟩ := List.map_eq_cons_iff.mp h.symm
      exact ⟨⟨value, hvalue.symm⟩, values, hvalues.symm⟩
    · rintro ⟨⟨value, hvalue⟩, values, hvalues⟩
      exact ⟨value :: values, by rw [List.map_cons, List.map_cons, hvalue, hvalues]⟩

theorem exists_ignore_iff : (∃ done, ignore a = .ok done) ↔ defect? a = none := by
  unfold ignore
  cases defect? a <;> simp

/-! ### Kinds -/

/-- The kinds of values that a field may hold. -/
inductive Kind
  | text
  /-- A natural number below the bound. -/
  | number (bound : Nat)
  /-- An array of texts. -/
  | texts
  deriving DecidableEq, Repr

/-- Whether a value is of a kind. -/
def Kind.Holds : Kind → α → Prop
  | text, a => ∃ s, view a = .text s
  | number bound, a => ∃ n : Nat, n < bound ∧ view a = .integer n
  | texts, a => ∃ items refusesSurplus, view a = .list items refusesSurplus ∧
      ∀ item ∈ items, ∃ s, view item = .text s

/-- Whether a field of a record holds a value of its kind. A field that the record does not have may
hold whatever can be read. -/
def Typed (kinds : List (String × Kind)) (name : String) (a : α) : Prop :=
  match kinds.lookup name with
  | some kind => kind.Holds a
  | none => defect? a = none

theorem typed_iff_of_lookup {kinds : List (String × Kind)} {name : String} {kind : Kind}
    (h : kinds.lookup name = some kind) : Typed kinds name a ↔ kind.Holds a := by
  rw [Typed, h]

theorem typed_iff_of_unknown {kinds : List (String × Kind)} {name : String}
    (h : kinds.lookup name = none) : Typed kinds name a ↔ defect? a = none := by
  rw [Typed, h]

theorem exists_text_iff : (∃ s, text a = .ok s) ↔ Kind.text.Holds a := by
  simp only [text_eq_ok_iff_view, Kind.Holds]

theorem exists_word_iff {W : Type} {ofNat : Nat → W} {bound : Nat} {expected : String} :
    (∃ w, (natural bound expected a).map ofNat = .ok w) ↔ (Kind.number bound).Holds a := by
  simp only [Kind.Holds, ← @natural_eq_ok_iff α _ a bound expected]
  cases natural bound expected a with
  | ok n => simp [Except.map]
  | error fault => simp [Except.map]

theorem exists_texts_iff : (∃ ss, texts a = .ok ss) ↔ Kind.texts.Holds a := by
  unfold texts Kind.Holds
  split
  · rename_i items refusesSurplus hview
    simp [exists_mapM_iff, text_eq_ok_iff_view, hview]
  · rename_i hother
    refine iff_of_false ?_ ?_
    · rintro ⟨_, h⟩
      cases h
    · rintro ⟨items, refusesSurplus, hview, -⟩
      exact hother items refusesSurplus hview

/-! ### Records -/

/-- The fields that a value gives for a record. -/
def fields (names : List String) (a : α) : List (String × α) :=
  match view a with
  | .table entries => entries
  | .list items _ => names.zip items
  | _ => []

/-- Whether a value has the form of a record: it is a table, or an array that is not refused for its
length. -/
def IsRecord (names : List String) (a : α) : Prop :=
  match view a with
  | .table _ => True
  | .list items refusesSurplus => refusesSurplus = true → items.length ≤ names.length
  | _ => False

end Document

open Document

variable {α : Type} [Document α] {value : α} {name : String}

/-! ### The registry section -/

namespace ConsulConfig

/-- The kinds of the fields of a registry section. -/
def kinds : List (String × Kind) :=
  [("address", .text), ("service_name", .text), ("tags", .texts),
    ("service_port", .number UInt16.size), ("check_interval", .text), ("check_timeout", .text),
    ("max_attempts", .number UInt32.size), ("retry_backoff_seconds", .number UInt64.size)]

/-- All that reading a field can do to a registry section. -/
inductive Reading (value : α) (c : ConsulConfig) : String → ConsulConfig → Prop
  | address {s : String} (h : text value = .ok s) :
    Reading value c "address" { c with address := s }
  | serviceName {s : String} (h : text value = .ok s) :
    Reading value c "service_name" { c with serviceName := s }
  | tags {ss : List String} (h : texts value = .ok ss) :
    Reading value c "tags" { c with tags := ss }
  | servicePort {w : UInt16} (h : word16 value = .ok w) :
    Reading value c "service_port" { c with servicePort := w }
  | checkInterval {s : String} (h : text value = .ok s) :
    Reading value c "check_interval" { c with checkInterval := s }
  | checkTimeout {s : String} (h : text value = .ok s) :
    Reading value c "check_timeout" { c with checkTimeout := s }
  | maxAttempts {w : UInt32} (h : word32 value = .ok w) :
    Reading value c "max_attempts" { c with maxAttempts := w }
  | retryBackoff {w : UInt64} (h : word64 value = .ok w) :
    Reading value c "retry_backoff_seconds" { c with retryBackoff := w }
  | unknown {name : String} (hname : name ∉ fieldNames) (h : ignore value = .ok ()) :
    Reading value c name c

/-- Reading a field of a registry section does nothing else. -/
theorem readField_eq_ok_iff {c c' : ConsulConfig} :
    readField name value c = .ok c' ↔ Reading value c name c' := by
  constructor
  · intro h
    unfold readField at h
    split at h
    all_goals obtain ⟨read, hread, h⟩ := bind_eq_ok_iff.mp h
    all_goals obtain rfl := Except.ok.inj h
    · exact .address hread
    · exact .serviceName hread
    · exact .tags hread
    · exact .servicePort hread
    · exact .checkInterval hread
    · exact .checkTimeout hread
    · exact .maxAttempts hread
    · exact .retryBackoff hread
    · refine .unknown ?_ hread
      simp only [fieldNames, List.mem_cons, List.not_mem_nil, or_false, not_or]
      and_intros <;> assumption
  · intro h
    cases h with
    | unknown hname h =>
      unfold readField
      split
      case h_9 => exact bind_eq_ok_iff.mpr ⟨(), h, rfl⟩
      all_goals exact absurd (by decide) hname
    | _ h => exact bind_eq_ok_iff.mpr ⟨_, h, rfl⟩

/-- A field of a registry section can be read if it holds a value of its kind. -/
theorem exists_readField_iff (name : String) (value : α) (c : ConsulConfig) :
    (∃ c', readField name value c = .ok c') ↔ Typed kinds name value := by
  unfold readField
  split
  all_goals rw [exists_bind_pure_iff]
  · exact exists_text_iff.trans (typed_iff_of_lookup rfl).symm
  · exact exists_text_iff.trans (typed_iff_of_lookup rfl).symm
  · exact exists_texts_iff.trans (typed_iff_of_lookup rfl).symm
  · exact exists_word_iff.trans (typed_iff_of_lookup rfl).symm
  · exact exists_text_iff.trans (typed_iff_of_lookup rfl).symm
  · exact exists_text_iff.trans (typed_iff_of_lookup rfl).symm
  · exact exists_word_iff.trans (typed_iff_of_lookup rfl).symm
  · exact exists_word_iff.trans (typed_iff_of_lookup rfl).symm
  · refine exists_ignore_iff.trans (typed_iff_of_unknown ?_).symm
    simp only [kinds, List.lookup_eq_none_iff, List.forall_mem_cons, List.not_mem_nil,
      bne_iff_ne, false_implies, implies_true, and_true]
    and_intros <;> assumption

/-- A registry section is read from the fields of a record. -/
theorem decode_eq_ok_iff {c : ConsulConfig} :
    decode value = .ok c ↔
      IsRecord fieldNames value ∧ readFields readField {} (fields fieldNames value) = .ok c := by
  unfold decode IsRecord fields
  cases hview : view value with
  | table entries => simp only [true_and]
  | list items refusesSurplus =>
    simp only [bind_eq_ok_iff]
    by_cases hsurplus : refusesSurplus = true ∧ fieldNames.length < items.length
    · simp [hsurplus, Nat.not_le.mpr hsurplus.2]
    · simp only [if_neg hsurplus, pure, Except.pure, Except.ok.injEq, exists_eq_right]
      refine (and_iff_right fun hrefuses => ?_).symm
      exact Nat.le_of_not_lt fun hlength => hsurplus ⟨hrefuses, hlength⟩
  | _ => simp

/-- Whether a value is a registry section: a record whose fields hold values of their kinds. -/
def IsSection (value : α) : Prop :=
  IsRecord fieldNames value ∧ ∀ e ∈ fields fieldNames value, Typed kinds e.1 e.2

/-- Exactly the registry sections can be read as such. -/
theorem exists_decode_iff : (∃ c, decode value = .ok c) ↔ IsSection value := by
  simp only [decode_eq_ok_iff, IsSection, exists_and_left,
    exists_readFields_iff exists_readField_iff]

end ConsulConfig

/-! ### The configuration -/

namespace Config

/-- The kinds of the fields of a configuration, but for the registry section. -/
def kinds : List (String × Kind) :=
  [("node_name", .text), ("endpoint", .text), ("poll_interval_seconds", .number UInt64.size),
    ("rpc_timeout_seconds", .number UInt64.size), ("sync_threshold", .number UInt64.size),
    ("bind_addr", .text), ("bind_port", .number UInt16.size), ("metrics_namespace", .text)]

/-- Whether a field of a configuration holds a value of its kind. The registry section may be
null. -/
def FieldTyped (name : String) (value : α) : Prop :=
  if name = "consul" then view value = .null ∨ ConsulConfig.IsSection value
  else Typed kinds name value

theorem fieldTyped_of_lookup {kind : Kind} (h : kinds.lookup name = some kind) :
    FieldTyped name value ↔ kind.Holds value := by
  have hconsul : name ≠ "consul" := by
    rintro rfl
    cases h
  rw [FieldTyped, if_neg hconsul, typed_iff_of_lookup h]

/-- All that reading a field can do to a draft. -/
inductive Reading (value : α) (d : Draft) : String → Draft → Prop
  | nodeName {s : String} (h : text value = .ok s) :
    Reading value d "node_name" { d with config := { d.config with nodeName := s } }
  | endpoint {s : String} (h : text value = .ok s) :
    Reading value d "endpoint" { d with endpoint := some s }
  | pollInterval {w : UInt64} (h : word64 value = .ok w) :
    Reading value d "poll_interval_seconds" { d with config := { d.config with pollInterval := w } }
  | rpcTimeout {w : UInt64} (h : word64 value = .ok w) :
    Reading value d "rpc_timeout_seconds" { d with config := { d.config with rpcTimeout := w } }
  | syncThreshold {w : UInt64} (h : word64 value = .ok w) :
    Reading value d "sync_threshold" { d with config := { d.config with syncThreshold := w } }
  | bindAddr {s : String} (h : text value = .ok s) :
    Reading value d "bind_addr" { d with config := { d.config with bindAddr := s } }
  | bindPort {w : UInt16} (h : word16 value = .ok w) :
    Reading value d "bind_port" { d with config := { d.config with bindPort := w } }
  | metricsNamespace {s : String} (h : text value = .ok s) :
    Reading value d "metrics_namespace" { d with config := { d.config with metricsNamespace := s } }
  | consul {c : Option ConsulConfig} (h : decodeConsul value = .ok c) :
    Reading value d "consul" { d with config := { d.config with consul := c } }
  | unknown {name : String} (hname : name ∉ fieldNames) (h : ignore value = .ok ()) :
    Reading value d name d

/-- Reading a field of a configuration does nothing else. -/
theorem readField_eq_ok_iff {d d' : Draft} :
    readField name value d = .ok d' ↔ Reading value d name d' := by
  constructor
  · intro h
    unfold readField at h
    split at h
    all_goals obtain ⟨read, hread, h⟩ := bind_eq_ok_iff.mp h
    all_goals obtain rfl := Except.ok.inj h
    · exact .nodeName hread
    · exact .endpoint hread
    · exact .pollInterval hread
    · exact .rpcTimeout hread
    · exact .syncThreshold hread
    · exact .bindAddr hread
    · exact .bindPort hread
    · exact .metricsNamespace hread
    · exact .consul hread
    · refine .unknown ?_ hread
      simp only [fieldNames, List.mem_cons, List.not_mem_nil, or_false, not_or]
      and_intros <;> assumption
  · intro h
    cases h with
    | unknown hname h =>
      unfold readField
      split
      case h_10 => exact bind_eq_ok_iff.mpr ⟨(), h, rfl⟩
      all_goals exact absurd (by decide) hname
    | _ h => exact bind_eq_ok_iff.mpr ⟨_, h, rfl⟩

theorem exists_decodeConsul_iff :
    (∃ c, decodeConsul value = .ok c) ↔ view value = .null ∨ ConsulConfig.IsSection value := by
  unfold decodeConsul
  split
  · rename_i hview
    simp [hview]
  · rename_i hother
    rw [← ConsulConfig.exists_decode_iff, or_iff_right hother]
    cases ConsulConfig.decode value <;> simp [Except.map]

/-- A field of a configuration can be read if it holds a value of its kind. -/
theorem exists_readField_iff (name : String) (value : α) (d : Draft) :
    (∃ d', readField name value d = .ok d') ↔ FieldTyped name value := by
  unfold readField
  split
  all_goals rw [exists_bind_pure_iff]
  · exact exists_text_iff.trans (fieldTyped_of_lookup rfl).symm
  · exact exists_text_iff.trans (fieldTyped_of_lookup rfl).symm
  · exact exists_word_iff.trans (fieldTyped_of_lookup rfl).symm
  · exact exists_word_iff.trans (fieldTyped_of_lookup rfl).symm
  · exact exists_word_iff.trans (fieldTyped_of_lookup rfl).symm
  · exact exists_text_iff.trans (fieldTyped_of_lookup rfl).symm
  · exact exists_word_iff.trans (fieldTyped_of_lookup rfl).symm
  · exact exists_text_iff.trans (fieldTyped_of_lookup rfl).symm
  · exact exists_decodeConsul_iff.trans (iff_of_eq (if_pos rfl)).symm
  · rename_i hconsul
    rw [FieldTyped, if_neg hconsul]
    refine exists_ignore_iff.trans (typed_iff_of_unknown ?_).symm
    simp only [kinds, List.lookup_eq_none_iff, List.forall_mem_cons, List.not_mem_nil,
      bne_iff_ne, false_implies, implies_true, and_true]
    and_intros <;> assumption

/-- A table is read field by field. -/
theorem decode_of_table {a : α} {entries : List (String × α)} (h : view a = .table entries)
    (hostname : Option String) :
    decode hostname a = readFields readField (.initial hostname) entries >>= Draft.finish := by
  rw [decode, h]

end Config

end NodeWatch
