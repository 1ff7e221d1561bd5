import NodeWatch.Config.Load
import NodeWatch.Proofs.Polling
import NodeWatch.Proofs.Registration
import NodeWatch.Proofs.Validation

/-!
# Loading through validation

Whatever configuration is read from a document has passed validation, and a document that describes
none is refused as such before any of its values is looked at. With a configuration that was read
the polling makes its first tick at once, and a registration its first attempt.
-/

namespace NodeWatch

/-! ### What a given text is read as -/

namespace Toml

mutual

/-- Whether two values are the same, nothing but texts and tables being in them. -/
def isSame : Toml → Toml → Bool
  | .text s, .text t => s == t
  | .table entries, .table others => areSame entries others
  | _, _ => false

/-- Whether the entries of two tables are the same in this way. -/
def areSame : List (String × Toml) → List (String × Toml) → Bool
  | [], [] => true
  | (key, v) :: rest, (key', v') :: rest' => key == key' && isSame v v' && areSame rest rest'
  | _, _ => false

end

theorem eq_of_isSame {v w : Toml} : v.isSame w = true → v = w := by
  refine isSame.induct (fun v w => v.isSame w = true → v = w)
    (fun entries others => areSame entries others = true → entries = others) ?text ?table ?other
    ?nil ?cons ?length v w
  case text =>
    intro s t h
    rw [isSame, beq_iff_eq] at h
    rw [h]
  case table =>
    intro entries others ih h
    rw [isSame] at h
    rw [ih h]
  case nil => exact fun _ => rfl
  case cons =>
    intro key v rest key' v' rest' ih ihrest h
    simp only [areSame, Bool.and_eq_true, beq_iff_eq] at h
    obtain ⟨⟨rfl, hv⟩, hrest⟩ := h
    rw [ih hv, ihrest hrest]
  case other =>
    intro v w htext htable h
    rw [isSame] at h
    · cases h
    · exact htext
    · exact htable
  case length =>
    intro entries others hnil hcons h
    rw [areSame] at h
    · cases h
    · exact hnil
    · exact hcons

/-- A text is read as a value of texts and tables if what it is read as is the same. -/
theorem parse?_eq_of_isSame {text : String} {document : Toml}
    (h : (parse? text).any (·.isSame document) = true) : parse? text = some document := by
  obtain ⟨found, hfound, hsame⟩ := (Option.any_eq_true _ _).mp h
  rw [hfound, eq_of_isSame hsame]

end Toml

/-! ### Loading -/

/-- With a period of at least one second the first tick is made at once, unless the station is told
to stop at once. -/
theorem Station.start_run (world : World) {seconds : UInt64} (h : 1 ≤ seconds.toNat) {stop : Nat}
    (hstop : 0 < stop) (s : Station) :
    (run world seconds stop s).ticks[0]?.map (·.start) = some 0 := by
  have hperiod : 0 < seconds.toNat * 1000 := Nat.mul_pos h (by decide)
  have hlong : Schedule.tolerance < seconds.toNat * 1000 :=
    Nat.lt_of_lt_of_le (by decide) (Nat.mul_le_mul_right 1000 h)
  have hadmits : Schedule.Stop.admits ⟨stop, world.tickAtStop⟩ 0 = true := by
    simp [Schedule.Stop.admits, hstop]
  rw [run_eq world hperiod]
  refine (Schedule.starts_run hperiod ⟨stop, world.tickAtStop⟩ (timedTick world)
    (Nat.dvd_zero _) hlong 0 _).1.trans ?_
  exact if_pos hadmits

namespace Config

/-- The text is a document that is decoded to the configuration, valid or not. -/
def Describes (hostname : Option String) (text : String) (c : Config) : Prop :=
  ∃ document, Toml.parse? text = some document ∧ decode hostname document = .ok c

variable {hostname : Option String} {text : String} {c : Config}

/-- From a text that describes a configuration that one is read, if it is valid. -/
theorem parse_of_describes (h : Describes hostname text c) : parse hostname text = c.accept := by
  obtain ⟨document, hdocument, hdecode⟩ := h
  simp only [parse, hdocument, ofDocument, hdecode]

/-- A text that describes no configuration is refused as such. -/
theorem parse_of_not_describes (h : ∀ c, ¬Describes hostname text c) :
    ∃ stage reason, parse hostname text = .error (.parseFailed stage reason) := by
  cases hdocument : Toml.parse? text with
  | none =>
    refine ⟨.form, "not a TOML document", ?_⟩
    simp only [parse, hdocument]
  | some document =>
    cases hdecode : decode hostname document with
    | ok c => exact absurd ⟨document, hdocument, hdecode⟩ (h c)
    | error fault =>
      refine ⟨.content, fault.message, ?_⟩
      simp only [parse, hdocument, ofDocument, hdecode]

theorem accept_of_validate (h : c.validate = .ok ()) : c.accept = .ok c := by
  simp only [accept, h]

theorem accept_of_defect {defect : Defect} (h : c.validate = .error defect) :
    c.accept = .error (.invalidValue defect.field defect.reason) := by
  simp only [accept, h]

/-- Only a valid configuration is accepted, and as it is. -/
theorem accept_eq_ok_iff {c' : Config} : c.accept = .ok c' ↔ c.validate = .ok () ∧ c' = c := by
  cases h : c.validate with
  | ok => rw [accept_of_validate h]; simp [eq_comm]
  | error defect => rw [accept_of_defect h]; simp

/-- What is read from a text is described by it and valid. -/
theorem parse_eq_ok_iff :
    parse hostname text = .ok c ↔ Describes hostname text c ∧ c.validate = .ok () := by
  constructor
  · intro h
    by_cases hnone : ∀ c', ¬Describes hostname text c'
    · obtain ⟨stage, reason, herror⟩ := parse_of_not_describes hnone
      rw [herror] at h
      cases h
    · obtain ⟨c', hc'⟩ := not_forall_not.mp hnone
      rw [parse_of_describes hc'] at h
      obtain ⟨hvalid, rfl⟩ := accept_eq_ok_iff.mp h
      exact ⟨hc', hvalid⟩
  · rintro ⟨h, hvalid⟩
    rw [parse_of_describes h, accept_of_validate hvalid]

/-- A text is refused as describing no configuration exactly if it describes none. -/
theorem parse_eq_parseFailed_iff :
    (∃ stage reason, parse hostname text = .error (.parseFailed stage reason)) ↔
      ∀ c, ¬Describes hostname text c := by
  refine ⟨?_, parse_of_not_describes⟩
  rintro ⟨stage, reason, herror⟩ c h
  rw [parse_of_describes h] at herror
  cases hvalid : c.validate with
  | ok => rw [accept_of_validate hvalid] at herror; cases herror
  | error defect => rw [accept_of_defect hvalid] at herror; cases herror

/-- What is loaded is read from the text of a file. -/
theorem load_eq_ok_iff {directory : String} {found : Except FileFault (List UInt8)} :
    load hostname directory found = .ok c ↔
      ∃ bytes text, found = .ok bytes ∧ Utf8.decode? bytes = some text ∧
        parse hostname text = .ok c := by
  unfold load
  cases found with
  | error fault => simp
  | ok bytes => cases hdecode : Utf8.decode? bytes <;> simp [hdecode]

/-- Every configuration is accepted if it meets all demands, and otherwise the field of the first
demand that it does not meet is named. From every text exactly that configuration is read which the
text describes, if it is valid; if it is not, its defect is told, and a text that describes none is
refused as such; and what is loaded from a file is what is read from its text. So the station of a
configuration that was read makes a tick at once, unless it is told to stop at once, and its
registration an attempt. -/
theorem parse_validated (hostname : Option String) :
    (∀ c : Config,
      (c.validate = .ok () ↔ ∀ demand ∈ c.demands, demand.2) ∧
        ∀ field, (∃ defect, c.validate = .error defect ∧ defect.field = field) ↔
          FirstUnmet field c.demands) ∧
    (∀ directory found c, load hostname directory found = .ok c ↔
      ∃ bytes text, found = .ok bytes ∧ Utf8.decode? bytes = some text ∧
        parse hostname text = .ok c) ∧
    ∀ text,
      (∀ c, parse hostname text = .ok c ↔ Describes hostname text c ∧ c.validate = .ok ()) ∧
      (∀ c defect, Describes hostname text c → c.validate = .error defect →
        parse hostname text = .error (.invalidValue defect.field defect.reason)) ∧
      ((∃ stage reason, parse hostname text = .error (.parseFailed stage reason)) ↔
        ∀ c, ¬Describes hostname text c) ∧
      ∀ c, parse hostname text = .ok c →
        1 ≤ c.pollInterval.toNat ∧
        (∀ world stop s, 0 < stop →
          (Station.run world c.pollInterval stop s).ticks[0]?.map (·.start) = some 0) ∧
        ∀ consul replies, c.consul = some consul →
          ∃ rest, ((Registry.Supervisor.ofConfig c consul).run replies).trace =
            (0, .submit (.ofConfig c consul)) :: rest := by
  refine ⟨fun c => ⟨c.validate_eq_ok_iff_demands, c.names_validate_iff⟩,
    fun _ _ _ => load_eq_ok_iff, fun text => ?_⟩
  refine ⟨fun c => parse_eq_ok_iff, fun c defect hc hdefect => ?_, parse_eq_parseFailed_iff,
    fun c hc => ?_⟩
  · rw [parse_of_describes hc, accept_of_defect hdefect]
  · obtain ⟨-, hvalid⟩ := parse_eq_ok_iff.mp hc
    have hdemands := c.validate_eq_ok_iff_demands.mp hvalid
    have hpoll : 1 ≤ c.pollInterval.toNat :=
      hdemands ("poll_interval_seconds", _) (by simp [demands])
    have hattempts : ∀ consul ∈ c.consul, 1 ≤ consul.maxAttempts.toNat :=
      hdemands ("consul.max_attempts", _) (by simp [demands])
    refine ⟨hpoll, fun world stop s hstop => Station.start_run world hpoll hstop s, ?_⟩
    intro consul replies hconsul
    exact Registry.Supervisor.trace_run_eq_cons replies (hattempts consul hconsul)

/-- Of a blank endpoint and an address that is none the endpoint is named. A document with a
registry section is read, and the first tick and the first attempt to register are made at once. -/
theorem first_defect_and_first_attempt :
    parse (some "parity") "endpoint = \"\\t\"\nbind_addr = \"localhost\"" =
        .error (.invalidValue "endpoint" "must not be empty") ∧
      ∃ c consul, parse none "endpoint = \"localhost\"\n[consul]" = .ok c ∧
        (∀ world s, (Station.run world c.pollInterval 1 s).ticks[0]?.map (·.start) = some 0) ∧
        c.consul = some consul ∧
        ∀ replies, ∃ rest, ((Registry.Supervisor.ofConfig c consul).run replies).trace =
          (0, .submit (.ofConfig c consul)) :: rest := by
  have hblank : Describes (some "parity") "endpoint = \"\\t\"\nbind_addr = \"localhost\""
      { nodeName := "parity", endpoint := "\t", bindAddr := "localhost" } :=
    ⟨.table [("bind_addr", .text "localhost"), ("endpoint", .text "\t")],
      Toml.parse?_eq_of_isSame (by decide +kernel), rfl⟩
  have hsection : Describes none "endpoint = \"localhost\"\n[consul]"
      { nodeName := "parity", endpoint := "localhost", consul := some {} } :=
    ⟨.table [("consul", .table []), ("endpoint", .text "localhost")],
      Toml.parse?_eq_of_isSame (by decide +kernel), rfl⟩
  have hread := parse_eq_ok_iff.mpr ⟨hsection, by decide⟩
  obtain ⟨-, htick, hattempt⟩ := ((parse_validated none).2.2 _).2.2.2 _ hread
  refine ⟨((parse_validated (some "parity")).2.2 _).2.1 _ .blankEndpoint hblank (by decide), ?_⟩
  refine ⟨_, {}, hread, fun world s => htick world 1 s Nat.one_pos, rfl, fun replies => ?_⟩
  exact hattempt {} replies rfl

end Config

end NodeWatch
