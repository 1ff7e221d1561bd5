import NodeWatch.Proofs.Json.RoundTrip
import NodeWatch.Registry.Client

/-!
# What the registry is told

The text in which a service is submitted is read back to an object that has what the service has and
nothing else. So the text keeps every part of the service apart from the others, whatever characters
are in it, and no two services are submitted in the same text.
-/

namespace NodeWatch

/-- Texts are read as they were written. -/
theorem Json.normalItems_map_text (texts : List String) :
    normalItems (texts.map .text) = texts.map .text := by
  induction texts with
  | nil => rfl
  | cons s texts ih =>
    rw [List.map_cons, normalItems, ih]
    rfl

namespace Registry

/-- The document that the way to ask for the health is read back as. -/
def HealthCheck.document (c : HealthCheck) : Json :=
  .object [("HTTP", .text c.http), ("Interval", .text c.interval), ("Timeout", .text c.timeout)]

namespace Service

variable (s : Service)

/-- The document that a service is read back as: its members are in the order of their names. -/
def document : Json :=
  .object [("Check", s.check.document), ("ID", .text s.id), ("Name", .text s.name),
    ("Port", .nat s.port.toNat), ("Tags", .array (s.tags.map .text))]

/-- A service can be read back, whatever its texts are. -/
theorem readable_toJson : Json.Readable Json.maxDepth s.toJson := by
  have hport : Json.fits s.port.toNat = true := by
    have hlt := s.port.toNat_lt
    rw [Json.fits_iff]
    omega
  refine .object ?_
  simp only [List.forall_mem_cons, List.not_mem_nil, false_implies, implies_true, and_true]
  refine ⟨.text _, .text _, .array ?_, .integer hport, .object ?_⟩
  · rw [List.forall_mem_map]
    exact fun tag _ => .text tag
  · simp only [List.forall_mem_cons, List.not_mem_nil, false_implies, implies_true, and_true]
    exact ⟨.text _, .text _, .text _⟩

theorem normal_toJson : s.toJson.normal = s.document := by
  have hport : (Json.nat s.port.toNat).normal = .nat s.port.toNat := rfl
  -- Each member is put among those before it, so its name is compared with theirs in their order.
  have hnames : compare "Name" "ID" = .gt ∧ compare "Tags" "ID" = .gt ∧
      compare "Tags" "Name" = .gt ∧ compare "Port" "ID" = .gt ∧ compare "Port" "Name" = .gt ∧
      compare "Port" "Tags" = .lt ∧ compare "Check" "ID" = .lt := by decide
  have hcheck : compare "Interval" "HTTP" = .gt ∧ compare "Timeout" "HTTP" = .gt ∧
      compare "Timeout" "Interval" = .gt := by decide
  simp only [toJson, document, HealthCheck.document, Json.normal, Json.normalMembers,
    Json.ofMembers, Json.normalItems_map_text, Entries.ofList, List.foldl_cons, List.foldl_nil,
    Entries.insert, hport, hnames, hcheck]

/-- The text of a service is read back as its document. -/
theorem parse?_render : Json.parse? s.render = some s.document := by
  rw [render, Json.parse?_render s.readable_toJson, s.normal_toJson]

/-- Two services with the same document are the same. -/
theorem document_injective : Function.Injective document := by
  rintro ⟨id, name, tags, port, check⟩ ⟨id', name', tags', port', check'⟩ h
  obtain ⟨http, interval, timeout⟩ := check
  obtain ⟨http', interval', timeout'⟩ := check'
  simp only [document, HealthCheck.document, Json.object.injEq, List.cons.injEq,
    Prod.mk.injEq, Json.text.injEq, Json.array.injEq, Json.nat, Json.int, Json.number.injEq,
    Json.Number.integer.injEq, true_and, and_true] at h
  obtain ⟨⟨rfl, rfl, rfl⟩, rfl, rfl, hport, htags⟩ := h
  obtain rfl := UInt16.toNat_inj.mp (Int.ofNat.inj hport)
  obtain rfl := (List.map_inj_right fun _ _ => Json.text.inj).mp htags
  rfl

end Service

/-- The text that is submitted for a service, at whatever address, is read back to an object that
has exactly these members, with the tags in their order. No two services are submitted in the same
text. For the service of a configuration the members are the settings that they are named for. -/
theorem submission_lossless (address : String) :
    (∀ s : Service, ∃ text, (order address s).json = some text ∧
      Json.parse? text = some (.object
        [("Check", .object [("HTTP", .text s.check.http), ("Interval", .text s.check.interval),
            ("Timeout", .text s.check.timeout)]),
          ("ID", .text s.id), ("Name", .text s.name), ("Port", .nat s.port.toNat),
          ("Tags", .array (s.tags.map .text))])) ∧
    (Function.Injective fun s => (order address s).json) ∧
    ∀ (config : Config) (consul : ConsulConfig), ∃ text json check,
      (order address (.ofConfig config consul)).json = some text ∧
      Json.parse? text = some json ∧
      json.member? "ID" = some (.text config.nodeName) ∧
      json.member? "Name" = some (.text consul.serviceName) ∧
      json.member? "Tags" = some (.array (consul.tags.map .text)) ∧
      json.member? "Port" = some (.nat consul.servicePort.toNat) ∧
      json.member? "Check" = some check ∧
      check.member? "HTTP" = some (.text config.healthCheckUrl) ∧
      check.member? "Interval" = some (.text consul.checkInterval) ∧
      check.member? "Timeout" = some (.text consul.checkTimeout) := by
  refine ⟨fun s => ⟨s.render, rfl, s.parse?_render⟩, ?_, fun config consul => ?_⟩
  · intro s s' h
    have hread := congrArg Json.parse? (Option.some.inj h)
    rw [s.parse?_render, s'.parse?_render] at hread
    exact Service.document_injective (Option.some.inj hread)
  · let s := Service.ofConfig config consul
    refine ⟨s.render, s.document, s.check.document, rfl, s.parse?_render, ?_⟩
    exact ⟨rfl, rfl, rfl, rfl, rfl, rfl, rfl, rfl⟩

end Registry

end NodeWatch
