import NodeWatch.Config.Validation
import NodeWatch.Proofs.Json.Scanning
import NodeWatch.Proofs.Metrics
import NodeWatch.Startup

/-!
# The namespace of the gauges

A gauge is exported under its name in the namespace that is configured. Validation takes any
namespace. Without one the monitor does not start, and if it is not a proper name itself, no gauge
is exported under a proper name. In any other namespace all names are proper, and the gauges that
the text of the metrics declares are those that are exported.
-/

namespace NodeWatch

namespace Gauge

/-! ### Names in a namespace -/

/-- The name under which a gauge is exported. -/
def exportedName (space gauge : String) : String := space ++ "_" ++ gauge

/-- The names of the gauges that are exported. -/
def Sink.exportedNames {α : Type} (s : Sink α) : List String :=
  s.exported.map fun family => exportedName s.space family.1

/-- What is put after a text that is not empty is held against the rules for the inside of a name.
-/
theorem isName_append {start : String} (h : start ≠ "") (rest : String) :
    isName (start ++ rest) =
      (isName start && rest.toList.all fun c => isNameStart c || c.isDigit) := by
  have hcs : start.toList ≠ [] := fun hnil => h (String.toList_eq_nil_iff.mp hnil)
  unfold isName
  rw [String.toList_append]
  cases hstart : start.toList with
  | nil => exact absurd hstart hcs
  | cons c cs => simp only [List.cons_append, List.all_append, Bool.and_assoc]

/-- Whether a gauge of a node is exported under a proper name is decided by the namespace alone. -/
theorem isName_exportedName {space gauge : String} (h : space ≠ "") (hgauge : gauge ∈ names) :
    isName (exportedName space gauge) = isName space := by
  have hinside : ∀ gauge ∈ names,
      ("_" ++ gauge).toList.all (fun c => isNameStart c || c.isDigit) = true := by decide
  rw [exportedName, String.append_assoc, isName_append h, hinside gauge hgauge, Bool.and_true]

/-- All characters of a name are letters, digits, underscores or colons. -/
theorem inside_of_mem_name {name : String} (h : isName name = true) {c : Char}
    (hc : c ∈ name.toList) : (isNameStart c || c.isDigit) = true := by
  unfold isName at h
  cases hname : name.toList with
  | nil => simp [hname] at hc
  | cons first rest =>
    rw [hname] at h hc
    obtain ⟨hfirst, hrest⟩ := Bool.and_eq_true_iff.mp h
    rcases List.mem_cons.mp hc with rfl | hc
    · rw [hfirst, Bool.true_or]
    · exact List.all_eq_true.mp hrest c hc

/-! ### Lines of the text -/

/-- The gauge that a line of the text of the metrics declares: the word after the mark of such a
line. -/
def declared? (line : List Char) : Option String :=
  if "# TYPE ".toList.isPrefixOf line then
    some (String.ofList ((line.drop "# TYPE ".toList.length).takeWhile (· != ' ')))
  else none

/-- The gauges that a text of metrics declares, line by line. -/
def declaredNames (text : String) : List String :=
  (text.toList.splitOn '\n').filterMap declared?

/-- A text of ended lines is split into these lines, and nothing after the last one. -/
theorem splitOn_flatMap_ended {lines : List (List Char)} (h : ∀ line ∈ lines, '\n' ∉ line) :
    (lines.flatMap (· ++ ['\n'])).splitOn '\n' = lines ++ [[]] := by
  induction lines with
  | nil => rfl
  | cons line rest ih =>
    have hrest := ih fun other hother => h other (List.mem_cons_of_mem _ hother)
    rw [List.flatMap_cons, List.append_assoc, List.singleton_append,
      List.splitOn_append_cons_self_of_not_mem (h line List.mem_cons_self), hrest,
      List.cons_append]

/-- A label value is written on one line. -/
theorem newline_notMem_escaped (value : String) : '\n' ∉ (escaped value).toList := by
  have hescape (c : Char) : '\n' ∉ escape c := by
    unfold escape
    split
    · decide
    · decide
    · decide
    · rename_i hne
      exact fun hmem => hne (List.mem_singleton.mp hmem).symm
  rw [escaped, String.toList_ofList, List.mem_flatMap]
  rintro ⟨c, -, hmem⟩
  exact hescape c hmem

/-- The positional digits of a decimal are digits, perhaps with zeros and a point. -/
theorem mem_positionalText {d : Decimal} {c : Char} (h : c ∈ Decimal.positionalText false d) :
    c ∈ ['0', '.'] ∨ c ∈ Nat.toDigits 10 d.digits := by
  unfold Decimal.positionalText at h
  split at h
  · simp only [Bool.false_eq_true, if_false, List.append_nil, List.mem_append,
      List.mem_replicate] at h
    rcases h with h | ⟨-, rfl⟩
    · exact Or.inr h
    · exact Or.inl List.mem_cons_self
  dsimp only at h
  split at h
  · simp only [List.mem_append, List.mem_cons] at h
    rcases h with h | rfl | h
    · exact Or.inr (List.mem_of_mem_take h)
    · exact Or.inl (by decide)
    · exact Or.inr (List.mem_of_mem_drop h)
  · simp only [List.cons_append, List.mem_append, List.mem_cons, List.mem_replicate] at h
    rcases h with rfl | rfl | ⟨-, rfl⟩ | h
    · exact Or.inl (by decide)
    · exact Or.inl (by decide)
    · exact Or.inl (by decide)
    · exact Or.inr h

/-- The value of a gauge is written on one line. -/
theorem newline_notMem_valueText (x : Float) : '\n' ∉ (valueText x).toList := by
  have hsize (bits : UInt64) : '\n' ∉ Decimal.sizeText .gauge bits := by
    unfold Decimal.sizeText
    dsimp only
    split
    · decide
    · intro hmem
      rcases mem_positionalText hmem with hmem | hmem
      · revert hmem
        decide
      · have hdigit := Json.between_of_mem_toDigits hmem
        revert hdigit
        decide
  unfold valueText Decimal.text
  dsimp only
  split
  · split
    · split <;> decide
    · decide
  · rw [String.toList_ofList, List.mem_append]
    rintro (hsign | hmem)
    · split at hsign <;> revert hsign <;> decide
    · exact hsize _ hmem

/-- The lines of the text of a gauge of a node. -/
def nodeLines (space nodeName gauge : String) (value : Reading) : List (List Char) :=
  [s!"# HELP {exportedName space gauge} Node monitor gauge {gauge}".toList,
    s!"# TYPE {exportedName space gauge} gauge".toList,
    s!"{exportedName space gauge}\x7bnode=\"{escaped nodeName}\"\x7d {readingText value}".toList]

/-- The text of a gauge of a node is made of its lines. -/
theorem toList_nodeText (space nodeName gauge : String) (value : Reading) :
    (nodeText space nodeName gauge value).toList =
      (nodeLines space nodeName gauge value).flatMap (· ++ ['\n']) := by
  have hclose : " gauge\n".toList = " gauge".toList ++ ['\n'] := by decide
  have hhelp : "\n# TYPE ".toList = ['\n'] ++ "# TYPE ".toList := by decide
  have hline : "\n".toList = ['\n'] := by decide
  unfold nodeText nodeLines exportedName
  simp only [toString, String.toList_append, hclose, hhelp, hline]
  simp only [List.flatMap_cons, List.flatMap_nil, List.append_assoc, List.append_nil]

variable {space gauge : String}

/-- In a proper namespace none of the lines holds a line end. -/
theorem newline_notMem_nodeLines (hname : isName (exportedName space gauge) = true)
    (hgauge : gauge ∈ names) (nodeName : String) (value : Reading) :
    ∀ line ∈ nodeLines space nodeName gauge value, '\n' ∉ line := by
  have hexported : '\n' ∉ (exportedName space gauge).toList := fun hmem =>
    absurd (inside_of_mem_name hname hmem) (by decide)
  have hplain : ∀ gauge ∈ names, '\n' ∉ gauge.toList := by decide
  have hlabel := newline_notMem_escaped nodeName
  have hvalue := newline_notMem_valueText value.toFloat
  intro line hline
  simp only [nodeLines, List.mem_cons, List.not_mem_nil, or_false] at hline
  rcases hline with rfl | rfl | rfl
  · simp [toString, hexported, hplain gauge hgauge]
  · simp [toString, hexported]
  · simp [toString, hexported, hlabel, readingText, hvalue]

/-- In a proper namespace the lines of a gauge declare this gauge and nothing else. -/
theorem filterMap_declared?_nodeLines (hname : isName (exportedName space gauge) = true)
    (nodeName : String) (value : Reading) :
    (nodeLines space nodeName gauge value).filterMap declared? = [exportedName space gauge] := by
  have hword : ∀ c ∈ (exportedName space gauge).toList, (c != ' ') = true := by
    intro c hc
    rw [bne_iff_ne]
    rintro rfl
    exact absurd (inside_of_mem_name hname hc) (by decide)
  have hhelp : declared? s!"# HELP {exportedName space gauge} Node monitor gauge {gauge}".toList =
      none := by
    simp only [toString, String.toList_append, declared?]
    rfl
  have htype : declared? s!"# TYPE {exportedName space gauge} gauge".toList =
      some (exportedName space gauge) := by
    have hrest : " gauge".toList.takeWhile (· != ' ') = [] := by decide
    simp only [toString, String.toList_append, List.append_assoc, declared?]
    rw [if_pos (List.isPrefixOf_iff_prefix.mpr (List.prefix_append _ _)), List.drop_left,
      List.takeWhile_append_of_pos hword, hrest, List.append_nil, String.ofList_toList]
  have hseries : declared?
      s!"{exportedName space gauge}\x7bnode=\"{escaped nodeName}\"\x7d {readingText value}".toList =
        none := by
    have hmark : '#' ∉ (exportedName space gauge).toList := fun hmem =>
      absurd (inside_of_mem_name hname hmem) (by decide)
    simp only [toString, String.toList_append, List.append_assoc, declared?]
    cases hcs : (exportedName space gauge).toList with
    | nil => simp [isName, hcs] at hname
    | cons c cs =>
      have hne : ('#' == c) = false := by
        refine beq_false_of_ne fun heq => hmark ?_
        rw [hcs, heq]
        exact List.mem_cons_self
      have hmarked : "# TYPE ".toList = '#' :: " TYPE ".toList := by decide
      rw [hmarked, List.cons_append, List.isPrefixOf_cons_cons, hne, Bool.false_and]
      rfl
  unfold nodeLines
  rw [List.filterMap_cons_none hhelp, List.filterMap_cons_some htype,
    List.filterMap_cons_none hseries, List.filterMap_nil]

/-- In a proper namespace the text of gauges of a node declares these gauges. -/
theorem declaredNames_join {space : String} (h : isName space = true) (nodeName : String)
    {shown : List (String × Reading)} (hshown : ∀ entry ∈ shown, entry.1 ∈ names) :
    declaredNames (String.join (shown.map fun (gauge, v) => nodeText space nodeName gauge v)) =
      shown.map fun (gauge, _) => exportedName space gauge := by
  have hne : space ≠ "" := by
    rintro rfl
    cases h
  have hname (entry : String × Reading) (hentry : entry ∈ shown) :
      isName (exportedName space entry.1) = true := by
    rw [isName_exportedName hne (hshown entry hentry), h]
  -- the text is that of the lines of all gauges, and no line holds a line end
  have hlines : (String.join (shown.map fun (gauge, v) => nodeText space nodeName gauge v)).toList =
      (shown.flatMap fun (gauge, v) => nodeLines space nodeName gauge v).flatMap (· ++ ['\n']) := by
    simp only [String.toList_join, List.flatMap_map, toList_nodeText, List.flatMap_assoc]
  have hended : ∀ line ∈ shown.flatMap fun (gauge, v) => nodeLines space nodeName gauge v,
      '\n' ∉ line := by
    intro line hline
    obtain ⟨entry, hentry, hline⟩ := List.mem_flatMap.mp hline
    exact newline_notMem_nodeLines (hname entry hentry) (hshown entry hentry) _ _ line hline
  have hempty : [([] : List Char)].filterMap declared? = [] := rfl
  rw [declaredNames, hlines, splitOn_flatMap_ended hended, List.filterMap_append, hempty,
    List.append_nil, List.filterMap_flatMap, ← List.flatMap_pure_eq_map]
  exact List.flatMap_congr fun entry hentry =>
    filterMap_declared?_nodeLines (hname entry hentry) nodeName entry.2

end Gauge

namespace Tick

/-- A tick that obtained neither the peers nor the block number of the node read nothing. -/
theorem readings_eq_nil {t : Tick} (hpeers : t.peers? = none) (hnumber : t.number? = none) :
    t.readings = [] := by
  have hnothing : t.block? = none ∧ t.lag? = none := by
    unfold number? at hnumber
    unfold block? lag? Replies.block? Replies.lag?
    cases hconnection : t.before.connection with
    | none => exact ⟨rfl, rfl⟩
    | some connection =>
      rw [hconnection, Option.bind_some] at hnumber
      rw [Option.bind_some, Option.bind_some, hnumber]
      exact ⟨rfl, rfl⟩
  rw [readings_eq, hpeers, hnumber, interval?, hnothing.1, hnothing.2]
  rfl

end Tick

namespace Station

variable {c : Config} {s : Station}

/-- A station needs a namespace and nothing else. -/
theorem new?_eq_none_iff : new? c = none ↔ c.metricsNamespace = "" := by
  rw [new?, Option.map_eq_none_iff, Gauge.Sink.new?]
  by_cases hempty : c.metricsNamespace = "" <;> simp [hempty]

/-- The names that are exported after a run. -/
theorem exportedNames_after (h : new? c = some s) (script : List Replies) :
    (s.after script).gauges.exportedNames =
      ((s.after script).gauges.shown c.nodeName).map fun (gauge, _) =>
        Gauge.exportedName c.metricsNamespace gauge := by
  obtain ⟨gauges, hgauges, rfl⟩ := Option.map_eq_some_iff.mp h
  obtain ⟨-, hspace, -⟩ := Gauge.Sink.ofNode_of_new? c.nodeName hgauges
  rw [Gauge.Sink.exportedNames, (ofNode_after h script).exported_eq_map, List.map_map, space_after,
    ← hspace]
  rfl

/-- A gauge is shown after a run exactly if some tick of it obtained the peers or the block number
of the node. -/
theorem exists_mem_shown_iff (h : new? c = some s) (script : List Replies) :
    (∃ entry, entry ∈ (s.after script).gauges.shown c.nodeName) ↔
      ∃ t ∈ s.monitor.ticks script, t.peers?.isSome = true ∨ t.number?.isSome = true := by
  constructor
  · rintro ⟨⟨gauge, v⟩, hmem⟩
    obtain ⟨-, hvalue⟩ := Gauge.Sink.mem_shown.mp hmem
    -- what is shown was read in some tick
    have hread : ∃ t ∈ s.monitor.ticks script, (t.reading? gauge).isSome = true := by
      have hshows := shows_after h script
      rw [← nodeName_after h script] at hvalue
      by_cases hsynced : gauge = Gauge.synced
      · rw [hsynced, hshows.synced] at hvalue
        split at hvalue
        · obtain ⟨t, ht, hsome⟩ := (isSome_latest_iff _).mp (Option.isSome_of_eq_some hvalue)
          exact ⟨t, sinceConnected_subset _ ht, hsynced ▸ hsome⟩
        · cases hvalue
      · rw [hshows.reading gauge hsynced] at hvalue
        exact (isSome_latest_iff _).mp (Option.isSome_of_eq_some hvalue)
    obtain ⟨t, ht, hsome⟩ := hread
    refine ⟨t, ht, ?_⟩
    by_contra hnone
    rw [not_or, Bool.not_eq_true, Bool.not_eq_true, Option.isSome_eq_false_iff,
      Option.isSome_eq_false_iff, Option.isNone_iff_eq_none, Option.isNone_iff_eq_none] at hnone
    rw [Tick.reading?, Tick.readings_eq_nil hnone.1 hnone.2] at hsome
    cases hsome
  · rintro ⟨t, ht, hobtained⟩
    have hshown {name : String} {obtained : Tick → Option UInt64} (hname : name ∈ Gauge.names)
        (hne : name ≠ Gauge.synced) (hreading : ∀ t, t.reading? name = (obtained t).map .count)
        (hsome : (obtained t).isSome = true) :
        ∃ entry, entry ∈ (s.after script).gauges.shown c.nodeName := by
      obtain ⟨n, hn⟩ := Option.isSome_iff_exists.mp ((isSome_latest_iff _).mpr ⟨t, ht, hsome⟩)
      have hvalue := value?_eq_map_latest h script hne hreading
      rw [hn] at hvalue
      exact ⟨_, Gauge.Sink.mem_shown.mpr ⟨hname, hvalue⟩⟩
    rcases hobtained with hpeers | hnumber
    · exact hshown (by decide) (by decide) (fun t => t.reading?_eq.2.2.2.1) hpeers
    · exact hshown (by decide) (by decide) (fun t => t.reading?_eq.1) hnumber

/-- After a run some gauge is exported under an improper name exactly if the namespace is improper
and something was obtained from the node. -/
theorem exists_not_isName_iff (h : new? c = some s) (script : List Replies) :
    (∃ name ∈ (s.after script).gauges.exportedNames, Gauge.isName name = false) ↔
      Gauge.isName c.metricsNamespace = false ∧
        ∃ t ∈ s.monitor.ticks script, t.peers?.isSome = true ∨ t.number?.isSome = true := by
  have hspace : c.metricsNamespace ≠ "" := fun hempty => by
    rw [new?_eq_none_iff.mpr hempty] at h
    cases h
  rw [← exists_mem_shown_iff h, exportedNames_after h]
  constructor
  · rintro ⟨name, hmem, hname⟩
    obtain ⟨entry, hentry, rfl⟩ := List.mem_map.mp hmem
    rw [Gauge.isName_exportedName hspace (Gauge.Sink.mem_shown.mp hentry).1] at hname
    exact ⟨hname, entry, hentry⟩
  · rintro ⟨hname, entry, hentry⟩
    refine ⟨_, List.mem_map_of_mem hentry, ?_⟩
    rw [Gauge.isName_exportedName hspace (Gauge.Sink.mem_shown.mp hentry).1]
    exact hname

/-- A configuration is accepted or refused whatever its namespace is. The monitor ends before its
first tick exactly if there is no namespace. With a namespace, and after any run, some gauge is
exported under an improper name exactly if the namespace is improper and some tick of the run
obtained the peers or the block number of the node. In a proper namespace the gauges that the text
of the metrics declares are those that are exported. -/
theorem namespace_not_validated (c : Config) (space : String) :
    let configured : Config := { c with metricsNamespace := space }
    configured.validate = c.validate ∧
      (start (.ok configured) = .error .noNamespace ↔ space = "") ∧
      ∀ s, new? configured = some s → ∀ script,
        ((∃ name ∈ (s.after script).gauges.exportedNames, Gauge.isName name = false) ↔
            Gauge.isName space = false ∧
              ∃ t ∈ s.monitor.ticks script, t.peers?.isSome = true ∨ t.number?.isSome = true) ∧
          (Gauge.isName space = true →
            Gauge.declaredNames ((s.after script).site.respond "GET" "/metrics").body =
              (s.after script).gauges.exportedNames) := by
  intro configured
  refine ⟨rfl, ?_, fun s h script => ⟨exists_not_isName_iff h script, fun hspace => ?_⟩⟩
  · have hnone : new? configured = none ↔ space = "" := new?_eq_none_iff
    rw [← hnone, start]
    cases hnew : new? configured <;> simp [Except.mapError, bind, Except.bind, hnew]
  · rw [respond_metrics h, exportedNames_after h]
    exact Gauge.declaredNames_join hspace _ fun entry hentry => (Gauge.Sink.mem_shown.mp hentry).1

/-- With one configuration in three namespaces: what is exported in the default one is declared in
the text, a dash is in every name after two healthy ticks, and without a namespace there is no
start. -/
theorem namespaces_of_one_config :
    let config : Config := { nodeName := "parity", endpoint := "localhost" }
    let dashed : Config := { config with metricsNamespace := "parity-pool" }
    let unnamed : Config := { config with metricsNamespace := "" }
    (∃ s, new? config = some s ∧
        Gauge.declaredNames ((s.after [.healthy, .healthy]).site.respond "GET" "/metrics").body =
          (s.after [.healthy, .healthy]).gauges.exportedNames) ∧
      (dashed.validate = config.validate ∧ ∃ s, new? dashed = some s ∧
        ∃ name ∈ (s.after [.healthy, .healthy]).gauges.exportedNames, Gauge.isName name = false) ∧
      unnamed.validate = config.validate ∧ start (.ok unnamed) = .error .noNamespace := by
  intro config dashed unnamed
  obtain ⟨-, -, hdefault⟩ := namespace_not_validated config "parity_pool"
  obtain ⟨hdashed, -, hexported⟩ := namespace_not_validated config "parity-pool"
  obtain ⟨hunnamed, hstart, -⟩ := namespace_not_validated config ""
  refine ⟨⟨_, rfl, (hdefault _ rfl [.healthy, .healthy]).2 (by decide)⟩, ⟨hdashed, _, rfl, ?_⟩,
    hunnamed, hstart.mpr rfl⟩
  exact (hexported _ rfl [.healthy, .healthy]).1.mpr ⟨by decide, by decide⟩

/-- A configuration with a dash in its namespace is accepted, and what its second tick exports has
an improper name. One without a namespace is accepted too, and makes no station. -/
theorem improper_namespaces_accepted :
    let dashed : Config :=
      { nodeName := "parity", endpoint := "localhost", metricsNamespace := "parity-pool" }
    let unnamed : Config := { dashed with metricsNamespace := "" }
    (dashed.validate = .ok () ∧ ∃ s, new? dashed = some s ∧
        ∃ name ∈ (s.after [.healthy, .healthy]).gauges.exportedNames, Gauge.isName name = false) ∧
      unnamed.validate = .ok () ∧ new? unnamed = none := by
  intro dashed unnamed
  refine ⟨⟨by decide, _, rfl, ?_⟩, by decide, new?_eq_none_iff.mpr rfl⟩
  refine (exists_not_isName_iff (c := dashed) rfl [.healthy, .healthy]).mpr ⟨by decide, ?_⟩
  decide

end Station

end NodeWatch
