import NodeWatch.Proofs.Entries
import NodeWatch.Proofs.Fields

/-!
# Writing a configuration and reading it back

A configuration is written as an object with a member for each field. It is read back as it was,
also if members are left out whose values are the defaults, and if members are added that no field
has the name of. Only the endpoint must not be left out.
-/

namespace NodeWatch

open Document

/-- What is chosen for some names, and otherwise for one more, is chosen for all of them. -/
theorem ite_mem_ite {β : Type} (field name : String) (names : List String) (x y : β) :
    (if field ∈ names then x else if field ∈ [name] then x else y) =
      if field ∈ name :: names then x else y := by
  by_cases hrest : field ∈ names
  · rw [if_pos hrest, if_pos (List.mem_cons_of_mem _ hrest)]
  · rw [if_neg hrest]
    refine if_congr ?_ rfl rfl
    rw [List.mem_singleton, List.mem_cons, or_iff_left hrest]

/-- A name that is none of some names is different from each of them. -/
theorem notMem_singleton_of_notMem {name : String} {names : List String} (h : name ∉ names) :
    ∀ field ∈ names, field ∉ [name] := by
  intro field hfield hmem
  obtain rfl := List.mem_singleton.mp hmem
  exact h hfield

/-- A choice between equals does not matter. -/
theorem ite_eq_of {β : Type} {p : Prop} [Decidable p] {x y : β} (h : ¬p → x = y) :
    (if p then x else y) = x :=
  ite_eq_left_iff.mpr fun hp => (h hp).symm

namespace Json

theorem nat_inj {m n : Nat} : nat m = nat n ↔ m = n := by
  rw [nat, nat, int, int, number.injEq, Number.integer.injEq, Int.ofNat_inj]

theorem texts_inj {ss ss' : List String} :
    array (ss.map text) = array (ss'.map text) ↔ ss = ss' := by
  rw [array.injEq, List.map_inj_right fun _ _ h => text.inj h]

/-! ### Changes to an object -/

/-- A change to an object: some members are left out, and then some are added. -/
structure Edit where
  omits : String → Bool := fun _ => false
  added : List (String × Json) := []

namespace Edit

/-- The members of an object after the change. -/
def members (e : Edit) (before : List (String × Json)) : List (String × Json) :=
  Entries.insertAll e.added (before.filter fun m => !e.omits m.1)

/-- The object after the change. -/
def apply (e : Edit) : Json → Json
  | .object before => .object (e.members before)
  | json => json

/-- A change leaves a record readable if every member it leaves out is a default, and none that it
adds has the name of a field. -/
structure Harmless (e : Edit) (names : List String) (before defaults : List (String × Json)) :
    Prop where
  omitted : ∀ m ∈ before, e.omits m.1 = true → m ∈ defaults
  added : ∀ m ∈ e.added, m.1 ∉ names

variable {e : Edit} {names : List String} {before defaults : List (String × Json)}

/-- After a harmless change there are only members that were there, and such as are passed over. -/
theorem Harmless.mem_members (h : e.Harmless names before defaults) {m : String × Json}
    (hm : m ∈ e.members (Entries.ofList before)) : m ∈ before ∨ m.1 ∉ names := by
  rcases Entries.mem_insertAll hm with hm | hm
  · rcases Entries.mem_insertAll (List.mem_filter.mp hm).1 with hm | hm
    · cases hm
    · exact Or.inl hm
  · exact Or.inr (h.added m hm)

/-- A member whose name is gone after a harmless change is a default. -/
theorem Harmless.mem_defaults (h : e.Harmless names before defaults) {m : String × Json}
    (hm : m ∈ before) (hgone : m.1 ∉ (e.members (Entries.ofList before)).map Prod.fst) :
    m ∈ defaults := by
  refine h.omitted m hm ?_
  by_contra homits
  refine hgone (Entries.mem_keys_insertAll.mpr (Or.inl ?_))
  have hkey : m.1 ∈ (Entries.ofList before).map Prod.fst :=
    Entries.mem_keys_insertAll.mpr (Or.inr (List.mem_map_of_mem hm))
  obtain ⟨kept, hkept, hname⟩ := List.mem_map.mp hkey
  refine List.mem_map.mpr ⟨kept, List.mem_filter.mpr ⟨hkept, ?_⟩, hname⟩
  rw [hname]
  simpa using homits

/-- If every member that was there is read as one field that is taken over, and members of unknown
names are passed over, then after a harmless change all fields are taken over that are left. -/
theorem Harmless.readFields {δ : Type} {read : String → Json → δ → Except Fault δ}
    {take : List String → δ → δ} (nil : ∀ d, take [] d = d)
    (cons : ∀ name rest d, take rest (take [name] d) = take (name :: rest) d)
    (known : ∀ m ∈ before, ∀ d, read m.1 m.2 d = .ok (take [m.1] d))
    (unknown : ∀ m : String × Json, m.1 ∉ names → ∀ d, read m.1 m.2 d = .ok (take [m.1] d))
    (h : e.Harmless names before defaults) (d : δ) :
    Document.readFields read d (e.members (Entries.ofList before)) =
      .ok (take ((e.members (Entries.ofList before)).map Prod.fst) d) := by
  refine readFields_of_take nil cons (fun m hm => ?_) d
  rcases h.mem_members hm with hm | hm
  · exact known m hm
  · exact unknown m hm

end Edit

end Json

/-! ### Registry sections -/

/-- Texts that are written as an array are read from it. -/
theorem texts_array (ss : List String) : texts (Json.array (ss.map .text)) = .ok ss := by
  refine mapM_eq_ok_iff.mpr ?_
  rw [List.map_map]
  rfl

namespace ConsulConfig

/-- A registry section as an object with a member for each field. -/
def members (c : ConsulConfig) : List (String × Json) :=
  [("address", .text c.address), ("service_name", .text c.serviceName),
    ("tags", .array (c.tags.map .text)), ("service_port", .nat c.servicePort.toNat),
    ("check_interval", .text c.checkInterval), ("check_timeout", .text c.checkTimeout),
    ("max_attempts", .nat c.maxAttempts.toNat),
    ("retry_backoff_seconds", .nat c.retryBackoff.toNat)]

/-- A registry section as it is written. -/
def toJson (c : ConsulConfig) : Json := .ofMembers c.members

/-- The members that may be left out. -/
def defaults : List (String × Json) :=
  [("address", .text "127.0.0.1:8500"), ("service_name", .text "parity"), ("tags", .array []),
    ("service_port", .nat 8545), ("check_interval", .text "1s"), ("check_timeout", .text "5s"),
    ("max_attempts", .nat 5), ("retry_backoff_seconds", .nat 60)]

/-- What a section is that has not been read yet is what the members say that may be left out. -/
theorem members_default : members {} = defaults := rfl

/-- The section in which the fields of these names are taken over from another one. -/
def taking (c : ConsulConfig) (names : List String) (d : ConsulConfig) : ConsulConfig where
  address := if "address" ∈ names then c.address else d.address
  serviceName := if "service_name" ∈ names then c.serviceName else d.serviceName
  tags := if "tags" ∈ names then c.tags else d.tags
  servicePort := if "service_port" ∈ names then c.servicePort else d.servicePort
  checkInterval := if "check_interval" ∈ names then c.checkInterval else d.checkInterval
  checkTimeout := if "check_timeout" ∈ names then c.checkTimeout else d.checkTimeout
  maxAttempts := if "max_attempts" ∈ names then c.maxAttempts else d.maxAttempts
  retryBackoff := if "retry_backoff_seconds" ∈ names then c.retryBackoff else d.retryBackoff

variable {c d : ConsulConfig} {names : List String} {m : String × Json}

@[simp] theorem taking_nil : c.taking [] d = d := rfl

theorem taking_cons (name : String) :
    c.taking names (c.taking [name] d) = c.taking (name :: names) d := by
  simp only [taking, ite_mem_ite]

/-- Every member is read as the field that it was written for. -/
theorem readField_of_mem (h : m ∈ c.members) (d : ConsulConfig) :
    readField m.1 m.2 d = .ok (c.taking [m.1] d) := by
  rw [readField_eq_ok_iff]
  simp only [members, List.mem_cons, List.not_mem_nil, or_false] at h
  rcases h with rfl | rfl | rfl | rfl | rfl | rfl | rfl | rfl
  · exact .address rfl
  · exact .serviceName rfl
  · exact .tags (texts_array c.tags)
  · exact .servicePort (word16_eq_ok_iff.mpr rfl)
  · exact .checkInterval rfl
  · exact .checkTimeout rfl
  · exact .maxAttempts (word32_eq_ok_iff.mpr rfl)
  · exact .retryBackoff (word64_eq_ok_iff.mpr rfl)

/-- A field of an unknown name takes nothing over. -/
theorem taking_of_unknown {name : String} (h : name ∉ fieldNames) : c.taking [name] d = d := by
  have hne := notMem_singleton_of_notMem h
  simp only [fieldNames, List.forall_mem_cons] at hne
  simp only [taking, hne, if_false]

/-- All fields are taken over if those that are not were the same before. -/
theorem taking_eq (h : ∀ m ∈ c.members, m.1 ∉ names → m ∈ d.members) : c.taking names d = c := by
  -- For each field: if it is not taken over, its value was there before.
  simp only [members, List.forall_mem_cons] at h
  simp only [List.mem_cons, Prod.mk.injEq, String.reduceEq, Json.text.injEq, Json.nat_inj,
    Json.texts_inj, UInt16.toNat_inj, UInt32.toNat_inj, UInt64.toNat_inj, false_and, true_and,
    false_or, or_false, List.not_mem_nil] at h
  obtain ⟨h₁, h₂, h₃, h₄, h₅, h₆, h₇, h₈, -⟩ := h
  simp only [taking, ite_eq_of h₁, ite_eq_of h₂, ite_eq_of h₃, ite_eq_of h₄, ite_eq_of h₅,
    ite_eq_of h₆, ite_eq_of h₇, ite_eq_of h₈]

/-- A member of an unknown name is passed over. -/
theorem readField_of_unknown (m : String × Json) (h : m.1 ∉ fieldNames) (d : ConsulConfig) :
    readField m.1 m.2 d = .ok (c.taking [m.1] d) := by
  rw [taking_of_unknown h, readField_eq_ok_iff]
  exact .unknown h rfl

/-- A section that is written is read as it was, after a harmless change as well. -/
theorem decode_toJson {change : Json.Edit}
    (h : change.Harmless fieldNames c.members defaults) :
    decode (change.apply c.toJson) = .ok c := by
  have hread := h.readFields (fun _ => taking_nil) (fun name _ _ => taking_cons name)
    (fun _ => readField_of_mem) readField_of_unknown {}
  refine decode_eq_ok_iff.mpr ⟨trivial, hread.trans (congrArg Except.ok ?_)⟩
  refine taking_eq fun m hm hgone => ?_
  rw [members_default]
  exact h.mem_defaults hm hgone

end ConsulConfig

/-! ### Configurations -/

namespace Config

/-- A configuration as an object with a member for each field, given how a registry section is
written. -/
def members (c : Config) (write : ConsulConfig → Json := ConsulConfig.toJson) :
    List (String × Json) :=
  [("node_name", .text c.nodeName), ("endpoint", .text c.endpoint),
    ("poll_interval_seconds", .nat c.pollInterval.toNat),
    ("rpc_timeout_seconds", .nat c.rpcTimeout.toNat),
    ("sync_threshold", .nat c.syncThreshold.toNat),
    ("bind_addr", .text c.bindAddr), ("bind_port", .nat c.bindPort.toNat),
    ("metrics_namespace", .text c.metricsNamespace),
    ("consul", c.consul.elim .null write)]

/-- A configuration as it is written. -/
def toJson (c : Config) (write : ConsulConfig → Json := ConsulConfig.toJson) : Json :=
  .ofMembers (c.members write)

/-- The members that may be left out, on a host of that name. -/
def defaults (hostname : Option String) : List (String × Json) :=
  [("node_name", .text (defaultNodeName hostname)), ("poll_interval_seconds", .nat 5),
    ("rpc_timeout_seconds", .nat 10), ("sync_threshold", .nat 5), ("bind_addr", .text "127.0.0.1"),
    ("bind_port", .nat 4647), ("metrics_namespace", .text "parity_pool"), ("consul", .null)]

/-- What a draft is before it is read is what the members say that may be left out. -/
theorem members_initial (hostname : Option String) :
    (Draft.initial hostname).config.members.filter (fun m => m.1 != "endpoint") =
      defaults hostname := rfl

/-- The draft in which the fields of these names are taken over from a configuration. -/
def taking (c : Config) (names : List String) (d : Draft) : Draft where
  endpoint := if "endpoint" ∈ names then some c.endpoint else d.endpoint
  config :=
    { nodeName := if "node_name" ∈ names then c.nodeName else d.config.nodeName
      endpoint := d.config.endpoint
      pollInterval :=
        if "poll_interval_seconds" ∈ names then c.pollInterval else d.config.pollInterval
      rpcTimeout := if "rpc_timeout_seconds" ∈ names then c.rpcTimeout else d.config.rpcTimeout
      syncThreshold := if "sync_threshold" ∈ names then c.syncThreshold else d.config.syncThreshold
      bindAddr := if "bind_addr" ∈ names then c.bindAddr else d.config.bindAddr
      bindPort := if "bind_port" ∈ names then c.bindPort else d.config.bindPort
      metricsNamespace :=
        if "metrics_namespace" ∈ names then c.metricsNamespace else d.config.metricsNamespace
      consul := if "consul" ∈ names then c.consul else d.config.consul }

variable {c : Config} {d : Draft} {names : List String} {m : String × Json}
  {write : ConsulConfig → Json}

@[simp] theorem taking_nil : c.taking [] d = d := rfl

theorem taking_cons (name : String) :
    c.taking names (c.taking [name] d) = c.taking (name :: names) d := by
  simp only [taking, ite_mem_ite]

/-- What can be read as a registry section is not null. -/
theorem view_ne_null {json : Json} {consul : ConsulConfig}
    (h : ConsulConfig.decode json = .ok consul) : view json ≠ .null := by
  intro hview
  rw [ConsulConfig.decode, hview] at h
  cases h

/-- If registry sections can be read as they were written, so can the one of the configuration. -/
theorem decodeConsul_of_write
    (hwrite : ∀ consul ∈ c.consul, ConsulConfig.decode (write consul) = .ok consul) :
    decodeConsul (c.consul.elim .null write) = .ok c.consul := by
  cases hc : c.consul with
  | none => rfl
  | some consul =>
    have hdecode : ConsulConfig.decode (write consul) = .ok consul := hwrite consul hc
    rw [Option.elim_some]
    unfold decodeConsul
    split
    · rename_i hview
      exact absurd hview (view_ne_null hdecode)
    · rw [hdecode]
      rfl

/-- Every member is read as the field that it was written for. -/
theorem readField_of_mem
    (hwrite : ∀ consul ∈ c.consul, ConsulConfig.decode (write consul) = .ok consul)
    (h : m ∈ c.members write) (d : Draft) : readField m.1 m.2 d = .ok (c.taking [m.1] d) := by
  rw [readField_eq_ok_iff]
  simp only [members, List.mem_cons, List.not_mem_nil, or_false] at h
  rcases h with rfl | rfl | rfl | rfl | rfl | rfl | rfl | rfl | rfl
  · exact .nodeName rfl
  · exact .endpoint rfl
  · exact .pollInterval (word64_eq_ok_iff.mpr rfl)
  · exact .rpcTimeout (word64_eq_ok_iff.mpr rfl)
  · exact .syncThreshold (word64_eq_ok_iff.mpr rfl)
  · exact .bindAddr rfl
  · exact .bindPort (word16_eq_ok_iff.mpr rfl)
  · exact .metricsNamespace rfl
  · exact .consul (decodeConsul_of_write hwrite)

/-- A field of an unknown name takes nothing over. -/
theorem taking_of_unknown {name : String} (h : name ∉ fieldNames) : c.taking [name] d = d := by
  have hne := notMem_singleton_of_notMem h
  simp only [fieldNames, List.forall_mem_cons] at hne
  simp only [taking, hne, if_false]

/-- All fields are taken over if the endpoint is, and if those that are not were the same before. -/
theorem finish_taking (hd : d.config.consul = none)
    (hwrite : ∀ consul ∈ c.consul, ConsulConfig.decode (write consul) = .ok consul)
    (h : ∀ m ∈ c.members write, m.1 ∉ names →
      m ∈ d.config.members.filter fun m => m.1 != "endpoint") :
    (c.taking names d).finish = .ok c := by
  have hnone (hnull : c.consul.elim .null write = .null) : c.consul = none := by
    cases hc : c.consul with
    | none => rfl
    | some consul =>
      rw [hc, Option.elim_some] at hnull
      exact absurd (congrArg view hnull) (view_ne_null (hwrite consul hc))
  -- For each field: if it is not read, what the draft had before is the value itself. For the
  -- endpoint nothing could have been, so it is read.
  simp only [members, List.forall_mem_cons] at h
  simp only [List.mem_filter, List.mem_cons, Prod.mk.injEq, String.reduceEq, Json.text.injEq,
    Json.nat_inj, UInt16.toNat_inj, UInt64.toNat_inj, hd, Option.elim_none, false_and, true_and,
    false_or, or_false, List.not_mem_nil, bne_self_eq_false, Bool.false_eq_true, and_false,
    String.reduceBNe, and_true] at h
  obtain ⟨h₁, h₂, h₃, h₄, h₅, h₆, h₇, h₈, h₉, -⟩ := h
  have hendpoint : "endpoint" ∈ names := Classical.not_not.mp h₂
  have hconsul : "consul" ∉ names → c.consul = d.config.consul := by
    intro hgone
    rw [hd, hnone (h₉ hgone)]
  simp only [Draft.finish, taking, if_pos hendpoint, ite_eq_of h₁, ite_eq_of h₃, ite_eq_of h₄,
    ite_eq_of h₅, ite_eq_of h₆, ite_eq_of h₇, ite_eq_of h₈, ite_eq_of hconsul]

/-- A member of an unknown name is passed over. -/
theorem readField_of_unknown (m : String × Json) (h : m.1 ∉ fieldNames) (d : Draft) :
    readField m.1 m.2 d = .ok (c.taking [m.1] d) := by
  rw [taking_of_unknown h, readField_eq_ok_iff]
  exact .unknown h rfl

/-- A configuration that is written is read as it was, after a harmless change as well. -/
theorem decode_toJson {change : Json.Edit} {hostname : Option String}
    (hwrite : ∀ consul ∈ c.consul, ConsulConfig.decode (write consul) = .ok consul)
    (h : change.Harmless fieldNames (c.members write) (defaults hostname)) :
    decode hostname (change.apply (c.toJson write)) = .ok c := by
  have hread := h.readFields (fun _ => taking_nil) (fun name _ _ => taking_cons name)
    (fun _ => readField_of_mem hwrite) readField_of_unknown
  rw [decode_of_table rfl hostname, hread]
  refine finish_taking rfl hwrite fun m hm hgone => ?_
  rw [members_initial]
  exact h.mem_defaults hm hgone

/-- Without an endpoint fields of the right kinds make no configuration. -/
theorem decode_of_no_endpoint {α : Type} [Document α] {a : α} {entries : List (String × α)}
    (hview : view a = .table entries) (hendpoint : "endpoint" ∉ entries.map Prod.fst)
    (htyped : ∀ e ∈ entries, FieldTyped e.1 e.2) (hostname : Option String) :
    decode hostname a = .error (.missingField "endpoint") := by
  obtain ⟨d, hd⟩ := (exists_readFields_iff exists_readField_iff (.initial hostname) entries).mpr
    htyped
  have hnone : d.endpoint = none := by
    refine readFields_induction (P := fun _ d => d.endpoint = none) hd rfl ?_
    intro before name value d d' hd hmem hread
    cases readField_eq_ok_iff.mp hread with
    | endpoint => exact absurd (List.mem_map_of_mem hmem) hendpoint
    | _ => exact hd
  rw [decode_of_table hview, hd]
  simp only [bind, Except.bind, Draft.finish, hnone]

/-- Every configuration is read back from what is written of it, on every host and whatever is
changed harmlessly in the object and in the registry section inside it: members may be left out
whose values are the defaults, among them that of the registry section if there is none, and members
of unknown names may be added. And without an endpoint, if every field that is there holds a value
of its kind, the missing endpoint is what is complained about. -/
theorem decode_inverts_toJson (hostname : Option String) :
    (∀ (c : Config) (outer inner : Json.Edit),
      let write := fun consul : ConsulConfig => inner.apply consul.toJson
      outer.Harmless fieldNames (c.members write) (defaults hostname) →
      (∀ consul ∈ c.consul,
        inner.Harmless ConsulConfig.fieldNames consul.members ConsulConfig.defaults) →
      decode hostname (outer.apply (c.toJson write)) = .ok c) ∧
    ∀ entries : List (String × Json), "endpoint" ∉ entries.map Prod.fst →
      (∀ e ∈ entries, FieldTyped e.1 e.2) →
      decode hostname (Json.object entries) = .error (.missingField "endpoint") := by
  constructor
  · intro c outer inner write houter hinner
    exact decode_toJson (fun consul hc => ConsulConfig.decode_toJson (hinner consul hc)) houter
  · intro entries hendpoint htyped
    exact decode_of_no_endpoint rfl hendpoint htyped hostname

/-- A node that is called by its host's name, with a registry section in which only the tags are
given, and a document that tells a name and no endpoint. -/
theorem decode_toJson_of_host :
    let c : Config :=
      { nodeName := "eu-1", endpoint := "localhost", syncThreshold := 7,
        consul := some { tags := ["mainnet", "eu"] } }
    let outer : Json.Edit :=
      { omits := (· ∈ ["node_name", "bind_addr", "bind_port"]), added := [("comment", .null)] }
    let inner : Json.Edit := { omits := (· ≠ "tags"), added := [("tag", .text "eu")] }
    decode (some "eu-1") (outer.apply (c.toJson fun consul => inner.apply consul.toJson)) = .ok c ∧
    decode none (Json.object [("consul", .null), ("node_name", .text "eu-1")]) =
      .error (.missingField "endpoint") := by
  intro c outer inner
  constructor
  · refine (decode_inverts_toJson (some "eu-1")).1 c outer inner ⟨?_, ?_⟩ ?_
    · simp [c, outer, members, defaults, defaultNodeName]
    · simp [outer, fieldNames]
    · rintro _ ⟨⟩
      refine ⟨?_, ?_⟩
      · simp [inner, ConsulConfig.members, ConsulConfig.defaults]
      · simp [inner, ConsulConfig.fieldNames]
  · refine (decode_inverts_toJson none).2 _ (by decide) ?_
    intro e he
    rcases List.mem_pair.mp he with rfl | rfl
    · exact Or.inl rfl
    · exact (fieldTyped_of_lookup rfl).mpr (exists_text_iff.mp ⟨"eu-1", rfl⟩)

end Config

end NodeWatch
