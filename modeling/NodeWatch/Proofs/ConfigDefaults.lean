import NodeWatch.Proofs.Fields
import NodeWatch.Proofs.Loading

/-!
# Defaults and validation

The validation accepts every default but one: a node without a name is called by its host's name,
which is taken if it is not empty, while a name that is demanded must not be blank either. On a host
with a blank name a document without a node's name is refused for a value that it does not have.
With that exception whatever is left out of a document does not keep it from being read.
-/

namespace NodeWatch

open Document

/-- Every document is a table. -/
theorem Toml.exists_table_of_parse? {text : String} {document : Toml}
    (h : Toml.parse? text = some document) : ∃ entries, document = .table entries := by
  simp only [parse?] at h
  split at h
  · obtain ⟨statements, -, h⟩ := Option.bind_eq_some_iff.mp h
    obtain ⟨draft, -, rfl⟩ := Option.map_eq_some_iff.mp h
    exact ⟨closeEntries draft.root, rfl⟩
  · cases h

namespace Config

/-! ### The name of the node -/

/-- The host has a name, and the name is blank but not empty. -/
def BlankHost (hostname : Option String) : Prop :=
  ∃ name, hostname = some name ∧ name ≠ "" ∧ ¬Text.IsLegible name

/-- The default name of a node is legible but on a host with a blank name. -/
theorem isLegible_defaultNodeName_iff {hostname : Option String} :
    Text.IsLegible (defaultNodeName hostname) ↔ ¬BlankHost hostname := by
  have hparity : Text.IsLegible "parity" := Text.not_isBlank_iff.mp (by decide)
  cases hostname with
  | none => exact iff_of_true hparity (by rintro ⟨name, h, -⟩; cases h)
  | some name =>
    rw [defaultNodeName]
    by_cases hempty : name = ""
    · rw [if_pos hempty]
      refine iff_of_true hparity ?_
      rintro ⟨_, ⟨⟩, hne, -⟩
      exact hne hempty
    · rw [if_neg hempty]
      constructor
      · rintro hlegible ⟨_, ⟨⟩, -, hblank⟩
        exact hblank hlegible
      · intro h
        by_contra hblank
        exact h ⟨name, rfl, hempty, hblank⟩

/-- The first demand that is not met is one of the demands. -/
theorem FirstUnmet.mem {field : String} {demands : List (String × Prop)}
    (h : FirstUnmet field demands) : field ∈ demands.map Prod.fst := by
  induction h with
  | here => exact List.mem_cons_self
  | later _ _ ih => exact List.mem_cons_of_mem _ ih

/-- The name of the node is named as a defect if it is not legible. -/
theorem names_nodeName_iff {c : Config} :
    Names c.validate "node_name" ↔ ¬Text.IsLegible c.nodeName := by
  rw [names_validate_iff]
  constructor
  · intro h
    cases h with
    | here unmet => exact unmet
    | later _ first => exact absurd first.mem (by simp)
  · exact .here

/-- A node whose name is not legible is refused for that. -/
theorem validate_of_not_legible {c : Config} (h : ¬Text.IsLegible c.nodeName) :
    c.validate = .error .blankNodeName :=
  if_pos (Classical.not_not.mp fun hblank => h (Text.not_isBlank_iff.mp hblank))

/-! ### Fields with values that are accepted -/

variable {α : Type} [Document α]

/-- A field holds a value of its kind that the validation accepts. -/
structure Fits (name : String) (value : α) : Prop where
  typed : FieldTyped name value
  legible : name = "node_name" ∨ name = "endpoint" →
    ∀ s, view value = .text s → Text.IsLegible s
  pollInterval : name = "poll_interval_seconds" → ∀ n : Int, view value = .integer n → 1 ≤ n
  bindAddr : name = "bind_addr" → ∀ s, view value = .text s → (Ip.parse? s).isSome = true
  maxAttempts : name = "consul" → ∀ e ∈ fields ConsulConfig.fieldNames value,
    e.1 = "max_attempts" → ∀ n : Int, view e.2 = .integer n → 1 ≤ n

/-- A draft of which fields of these names have been read, all with values that are accepted. -/
structure Draft.Sound (names : List String) (d : Draft) : Prop where
  nodeName : "node_name" ∈ names → Text.IsLegible d.config.nodeName
  endpoint : "endpoint" ∈ names → ∃ s, d.endpoint = some s ∧ Text.IsLegible s
  pollInterval : 1 ≤ d.config.pollInterval.toNat
  bindAddr : (Ip.parse? d.config.bindAddr).isSome = true
  maxAttempts : ∀ consul ∈ d.config.consul, 1 ≤ consul.maxAttempts.toNat

/-- All defaults are accepted that do not depend on the host. -/
theorem Draft.sound_initial (hostname : Option String) : (Draft.initial hostname).Sound [] where
  nodeName h := by cases h
  endpoint h := by cases h
  pollInterval := show 1 ≤ (5 : UInt64).toNat by decide
  bindAddr := show (Ip.parse? "127.0.0.1").isSome = true by decide
  maxAttempts _ h := by cases h

theorem decode_of_decodeConsul {value : α} {consul : ConsulConfig}
    (h : decodeConsul value = .ok (some consul)) : ConsulConfig.decode value = .ok consul := by
  unfold decodeConsul at h
  split at h
  · cases h
  · cases hdecode : ConsulConfig.decode value with
    | error fault => simp [hdecode, Except.map] at h
    | ok found =>
      rw [hdecode] at h
      cases h
      rfl

/-- A registry section allows an attempt if it does not tell how many, or tells that it does. -/
theorem maxAttempts_of_decode {value : α} {consul : ConsulConfig}
    (h : ConsulConfig.decode value = .ok consul)
    (hgiven : ∀ e ∈ fields ConsulConfig.fieldNames value,
      e.1 = "max_attempts" → ∀ n : Int, view e.2 = .integer n → 1 ≤ n) :
    1 ≤ consul.maxAttempts.toNat := by
  have hread := (ConsulConfig.decode_eq_ok_iff.mp h).2
  refine readFields_induction (P := fun _ c => 1 ≤ c.maxAttempts.toNat) hread (by decide) ?_
  intro before name value c c' hc hmem hread
  cases ConsulConfig.readField_eq_ok_iff.mp hread with
  | maxAttempts hword =>
    have hpositive := hgiven _ hmem rfl _ (word32_eq_ok_iff.mp hword)
    exact Int.ofNat_le.mp hpositive
  | _ => exact hc

/-- A name that is not the last one is among those before it. -/
theorem mem_before {field name : String} {names : List String} (hne : field ≠ name)
    (h : field ∈ names ++ [name]) : field ∈ names := by
  rcases List.mem_append.mp h with h | h
  · exact h
  · exact absurd (List.mem_singleton.mp h) hne

/-- A draft is as sound after a field has been read that changes nothing of what is demanded. -/
theorem Draft.Sound.append {names : List String} {d : Draft} (h : d.Sound names) {name : String}
    (hname : "node_name" ≠ name) (hendpoint : "endpoint" ≠ name) : d.Sound (names ++ [name]) :=
  { h with
    nodeName := fun hmem => h.nodeName (mem_before hname hmem)
    endpoint := fun hmem => h.endpoint (mem_before hendpoint hmem) }

/-- Reading a field with a value that is accepted keeps a draft sound. -/
theorem Draft.Sound.read {names : List String} {d d' : Draft} {name : String} {value : α}
    (h : d.Sound names) (hfits : Fits name value) (hread : Reading value d name d') :
    d'.Sound (names ++ [name]) := by
  cases hread with
  | nodeName hs =>
    have hlegible := hfits.legible (Or.inl rfl) _ (text_eq_ok_iff_view.mp hs)
    exact { h with
      nodeName := fun _ => hlegible
      endpoint := fun hmem => h.endpoint (mem_before (by decide) hmem) }
  | endpoint hs =>
    have hlegible := hfits.legible (Or.inr rfl) _ (text_eq_ok_iff_view.mp hs)
    exact { h with
      nodeName := fun hmem => h.nodeName (mem_before (by decide) hmem)
      endpoint := fun _ => ⟨_, rfl, hlegible⟩ }
  | pollInterval hw =>
    have hpositive := hfits.pollInterval rfl _ (word64_eq_ok_iff.mp hw)
    exact { h.append (by decide) (by decide) with pollInterval := Int.ofNat_le.mp hpositive }
  | bindAddr hs =>
    have haddress := hfits.bindAddr rfl _ (text_eq_ok_iff_view.mp hs)
    exact { h.append (by decide) (by decide) with bindAddr := haddress }
  | consul hc =>
    refine { h.append (by decide) (by decide) with maxAttempts := ?_ }
    rintro consul ⟨⟩
    exact maxAttempts_of_decode (decode_of_decodeConsul hc) (hfits.maxAttempts rfl)
  | unknown hname =>
    refine h.append ?_ ?_
    · rintro rfl
      exact hname (by decide)
    · rintro rfl
      exact hname (by decide)
  | rpcTimeout | syncThreshold | bindPort | metricsNamespace =>
    exact { h.append (by decide) (by decide) with }

/-- A name that the document does not tell stays as it was. -/
theorem nodeName_of_unmentioned {d d' : Draft} {entries : List (String × α)}
    (h : readFields readField d entries = .ok d') (hgone : "node_name" ∉ entries.map Prod.fst) :
    d'.config.nodeName = d.config.nodeName := by
  refine readFields_induction (P := fun _ next => next.config.nodeName = d.config.nodeName) h rfl ?_
  intro before name value next next' hnext hmem hread
  cases readField_eq_ok_iff.mp hread with
  | nodeName => exact absurd (List.mem_map_of_mem hmem) hgone
  | _ => exact hnext

/-! ### Documents -/

section Documents

variable {a : α} {entries : List (String × α)} {c : Config}

/-- What is read from a table is the draft of its fields with the endpoint that they tell. -/
theorem decode_eq_ok_iff (hview : view a = .table entries) (hostname : Option String) :
    decode hostname a = .ok c ↔
      ∃ d endpoint, readFields readField (.initial hostname) entries = .ok d ∧
        d.endpoint = some endpoint ∧ c = { d.config with endpoint } := by
  rw [decode_of_table hview, bind_eq_ok_iff]
  refine exists_congr fun d => ?_
  rw [exists_and_left]
  refine and_congr_right fun _ => ?_
  cases hd : d.endpoint <;> simp [Draft.finish, hd, eq_comm]

/-- A node without a name in the document has the default name. -/
theorem nodeName_of_decode {hostname : Option String} (hview : view a = .table entries)
    (hgone : "node_name" ∉ entries.map Prod.fst) (h : decode hostname a = .ok c) :
    c.nodeName = defaultNodeName hostname := by
  obtain ⟨d, endpoint, hread, -, rfl⟩ := (decode_eq_ok_iff hview hostname).mp h
  exact nodeName_of_unmentioned hread hgone

/-- A document with an endpoint in which all values are accepted is a configuration, in which
nothing can be wrong but the name of a node that the document does not tell. -/
theorem exists_decode_of_fits (hview : view a = .table entries)
    (hfits : ∀ e ∈ entries, Fits e.1 e.2) (hendpoint : "endpoint" ∈ entries.map Prod.fst)
    (hostname : Option String) :
    ∃ c, decode hostname a = .ok c ∧
      ("node_name" ∈ entries.map Prod.fst → Text.IsLegible c.nodeName) ∧
      (Text.IsLegible c.nodeName → c.validate = .ok ()) := by
  obtain ⟨d, hd⟩ := (exists_readFields_iff exists_readField_iff (.initial hostname) entries).mpr
    fun e he => (hfits e he).typed
  -- The draft was sound before, and every field that is read keeps it so.
  have hsound : d.Sound (entries.map Prod.fst) := by
    refine readFields_induction (P := fun before d => d.Sound (before.map Prod.fst)) hd
      (Draft.sound_initial hostname) ?_
    intro before name value d d' hd hmem hread
    rw [List.map_append]
    exact hd.read (hfits _ hmem) (readField_eq_ok_iff.mp hread)
  obtain ⟨endpoint, hsome, hlegible⟩ := hsound.endpoint hendpoint
  refine ⟨{ d.config with endpoint }, ?_, hsound.nodeName, fun hname => ?_⟩
  · exact (decode_eq_ok_iff hview hostname).mpr ⟨d, endpoint, hd, hsome, rfl⟩
  · rw [validate_eq_ok_iff_demands]
    simp only [demands, List.forall_mem_cons, List.not_mem_nil, false_implies, implies_true,
      and_true]
    exact ⟨hname, hlegible, hsound.pollInterval, hsound.bindAddr, hsound.maxAttempts⟩

end Documents

/-- A document that does not mention the name of the node and is a configuration is refused for that
name exactly on a host whose name is blank but not empty. And a document with an endpoint, in which
every field that is there holds a value that is accepted, is read whatever it leaves to the
defaults, unless it leaves the name of the node to such a host: then it is refused for it. -/
theorem parse_of_fits (hostname : Option String) {text : String} {document : Toml}
    (h : Toml.parse? text = some document) :
    ∃ entries, document = .table entries ∧
      ("node_name" ∉ entries.map Prod.fst → ∀ c, decode hostname document = .ok c →
        ((∃ defect, c.validate = .error defect ∧ defect.field = "node_name") ↔
          BlankHost hostname)) ∧
      ((∀ e ∈ entries, Fits e.1 e.2) → "endpoint" ∈ entries.map Prod.fst →
        ("node_name" ∈ entries.map Prod.fst ∨ ¬BlankHost hostname →
          ∃ c, parse hostname text = .ok c) ∧
        ("node_name" ∉ entries.map Prod.fst → BlankHost hostname →
          parse hostname text = .error (.invalidValue "node_name" "must not be empty"))) := by
  obtain ⟨entries, rfl⟩ := Toml.exists_table_of_parse? h
  have hview : view (Toml.table entries) = .table entries := rfl
  refine ⟨entries, rfl, fun hgone c hc => ?_, fun hfits hendpoint => ?_⟩
  · rw [← Names, names_nodeName_iff, nodeName_of_decode hview hgone hc,
      isLegible_defaultNodeName_iff, Classical.not_not]
  · obtain ⟨c, hc, hnamed, hvalid⟩ := exists_decode_of_fits hview hfits hendpoint hostname
    have hdescribes : Describes hostname text c := ⟨_, h, hc⟩
    constructor
    · intro hname
      have hlegible : Text.IsLegible c.nodeName := by
        by_cases hmentioned : "node_name" ∈ entries.map Prod.fst
        · exact hnamed hmentioned
        · rw [nodeName_of_decode hview hmentioned hc, isLegible_defaultNodeName_iff]
          exact hname.resolve_left hmentioned
      exact ⟨c, parse_eq_ok_iff.mpr ⟨hdescribes, hvalid hlegible⟩⟩
    · intro hgone hblank
      have hillegible : ¬Text.IsLegible c.nodeName := by
        rw [nodeName_of_decode hview hgone hc, isLegible_defaultNodeName_iff]
        exact fun hno => hno hblank
      rw [parse_of_describes hdescribes, accept_of_defect (validate_of_not_legible hillegible)]
      rfl

theorem fits_endpoint : Fits "endpoint" (Toml.text "localhost") where
  typed := (fieldTyped_of_lookup rfl).mpr (exists_text_iff.mp ⟨"localhost", rfl⟩)
  legible _ := by
    rintro _ ⟨⟩
    exact Text.not_isBlank_iff.mp (by decide)
  pollInterval h := absurd h (by decide)
  bindAddr h := absurd h (by decide)
  maxAttempts h := absurd h (by decide)

theorem fits_consul : Fits "consul" (Toml.table []) where
  typed := Or.inr ⟨trivial, by rintro _ ⟨⟩⟩
  legible h := by simp at h
  pollInterval h := absurd h (by decide)
  bindAddr h := absurd h (by decide)
  maxAttempts _ := by rintro _ ⟨⟩

/-- With an endpoint and a registry section of defaults all is left to the defaults. That is enough
on a host without a name, and too little on one whose name is a tab. -/
theorem parse_endpoint_and_section :
    (∃ c, parse (some "") "endpoint = \"localhost\"\n[consul]" = .ok c) ∧
      parse (some "\t") "endpoint = \"localhost\"\n[consul]" =
        .error (.invalidValue "node_name" "must not be empty") := by
  have hdocument : Toml.parse? "endpoint = \"localhost\"\n[consul]" =
      some (.table [("consul", .table []), ("endpoint", .text "localhost")]) :=
    Toml.parse?_eq_of_isSame (by decide +kernel)
  have hfits : ∀ e ∈ [("consul", Toml.table []), ("endpoint", Toml.text "localhost")],
      Fits e.1 e.2 := by
    intro e he
    rcases List.mem_pair.mp he with rfl | rfl
    · exact fits_consul
    · exact fits_endpoint
  constructor
  · obtain ⟨_, ⟨⟩, -, h⟩ := parse_of_fits (some "") hdocument
    refine (h hfits (by decide)).1 (Or.inr ?_)
    rintro ⟨_, ⟨⟩, hne, -⟩
    exact hne rfl
  · obtain ⟨_, ⟨⟩, -, h⟩ := parse_of_fits (some "\t") hdocument
    refine (h hfits (by decide)).2 (by decide) ⟨"\t", rfl, by decide, ?_⟩
    rw [← Text.not_isBlank_iff, Classical.not_not]
    decide

/-- A default is what makes a document invalid in which all that is given would be accepted. -/
theorem blank_default_refused :
    ∃ entries, Toml.parse? "endpoint = \"localhost\"" = some (.table entries) ∧
      (∀ e ∈ entries, Fits e.1 e.2) ∧ "endpoint" ∈ entries.map Prod.fst ∧
      "node_name" ∉ entries.map Prod.fst ∧
      (∃ c, decode (some " ") (Toml.table entries) = .ok c ∧ c.validate = .error .blankNodeName) ∧
      parse (some " ") "endpoint = \"localhost\"" =
        .error (.invalidValue "node_name" "must not be empty") := by
  have hdocument : Toml.parse? "endpoint = \"localhost\"" =
      some (.table [("endpoint", .text "localhost")]) :=
    Toml.parse?_eq_of_isSame (by decide +kernel)
  let c : Config := { nodeName := " ", endpoint := "localhost" }
  have hdecode : decode (some " ") (Toml.table [("endpoint", .text "localhost")]) = .ok c := rfl
  have hdefect : c.validate = .error .blankNodeName := by decide
  refine ⟨[("endpoint", .text "localhost")], hdocument, ?_, by decide, by decide,
    ⟨c, hdecode, hdefect⟩, ?_⟩
  · intro e he
    obtain rfl := List.mem_singleton.mp he
    exact fits_endpoint
  · rw [parse_of_describes ⟨_, hdocument, hdecode⟩, accept_of_defect hdefect]
    rfl

end Config

end NodeWatch
