import NodeWatch.Proofs.Conduct
import NodeWatch.Proofs.Course
import NodeWatch.Proofs.Metrics

/-!
# Recovery

Two ticks in which everything is answered are enough to recover from any past. The first of them
makes the connection if there is none and keeps it if there is one, and what the second one obtains
decides all that the station shows of the node, but for the time between the last two blocks.
-/

namespace NodeWatch

/-- Whatever the tick may ask is answered: the node is on a known chain, an explorer client can be
built for that chain, and the node and the explorer that is asked tell these values. -/
structure Tick.Healthy (t : Tick) (peers number : UInt64) (block : Block) (remote : UInt64) :
    Prop where
  chain : ∃ chain explorer, t.replies.chainId = .ok (Chain.name chain) ∧
    t.replies.explorerFactory chain = .ok explorer
  peerCount : t.replies.peerCount = .ok peers
  blockNumber : t.replies.blockNumber = .ok number
  blockByNumber : t.replies.blockByNumber number = .ok block
  remoteBlockNumber : ∀ connection, t.before.connection = some connection →
    t.replies.remoteBlockNumber connection.explorer = .ok remote

namespace Tick.Healthy

variable {t : Tick} {peers number remote : UInt64} {block : Block} {connection : Connection}

/-- The node is not down in a healthy tick. -/
theorem isDown (h : t.Healthy peers number block remote) : t.replies.isDown = false := by
  simp [Replies.isDown, h.peerCount, h.blockNumber, h.blockByNumber, errorOf?, Except.toOption]

/-- A healthy tick ends with a connection. -/
theorem isSome_connection_after (h : t.Healthy peers number block remote) :
    t.after.connection.isSome = true := by
  rw [t.connection_after, h.isDown]
  cases t.before.connection with
  | none =>
    obtain ⟨chain, explorer, hid, hbuilt⟩ := h.chain
    rw [Option.elim_none, Replies.connection?_eq_some_iff.mpr ⟨hid, hbuilt⟩, Option.isSome_some]
  | some connection => rfl

/-- With a connection a healthy tick obtains everything. -/
theorem obtained (h : t.Healthy peers number block remote)
    (hc : t.before.connection = some connection) :
    t.peers? = some peers ∧ t.number? = some number ∧ t.block? = some block ∧
      t.lag? = some (blocksBehind number remote) := by
  have hremote := h.remoteBlockNumber connection hc
  simp only [peers?, number?, block?, lag?, Replies.block?, Replies.lag?, hc, h.peerCount,
    h.blockNumber, h.blockByNumber, hremote, Except.toOption, Option.bind_some, Option.map_some,
    and_self]

/-- With a connection a healthy tick is a round without failures. -/
theorem exists_report (h : t.Healthy peers number block remote)
    (hc : t.before.connection = some connection) :
    ∃ report, t.outcome = .round report ∧ report.failures = [] := by
  have hkind := t.kind_outcome
  have hreport := report?_outcome hc
  rw [hc, Option.elim_some, h.isDown] at hkind
  cases houtcome : t.outcome with
  | connected | connectFailed | disconnected => simp [houtcome, Outcome.kind] at hkind
  | round report =>
    refine ⟨report, rfl, ?_⟩
    rw [houtcome] at hreport
    rw [Option.some.inj hreport, Round.failures_run, Round.questions_of_ok h.blockNumber,
      List.filterMap_eq_nil_iff]
    intro q hq
    simp only [List.mem_cons, List.not_mem_nil, or_false] at hq
    rcases hq with rfl | rfl | rfl | rfl
    · simp [Replies.failure?, h.peerCount, errorOf?]
    · simp [Replies.failure?, h.blockNumber, errorOf?]
    · simp [Replies.failure?, h.blockByNumber, errorOf?]
    · simp [Replies.failure?, h.remoteBlockNumber connection hc, errorOf?]

end Tick.Healthy

/-- While there is a connection no unsupported chain is in sight. -/
theorem Monitor.streak_of_connected (c : Config) (script : List Replies)
    (h : ((ofConfig c).after script).connection.isSome = true) :
    ((ofConfig c).after script).streak = .clear := by
  induction script using List.reverseRecOn with
  | nil => cases h
  | append_singleton script r ih =>
    let t : Tick := ⟨(ofConfig c).after script, r⟩
    rw [after_concat] at h ⊢
    change t.after.streak = .clear
    replace h : t.after.connection.isSome = true := h
    rw [t.streak_after]
    rw [t.connection_after] at h
    cases hc : t.before.connection with
    | some connection => exact ih (by rw [hc, Option.isSome_some])
    | none =>
      rw [hc, Option.elim_none] at h
      obtain ⟨⟨chain, explorer⟩, hmade⟩ := Option.isSome_iff_exists.mp h
      have hid := (Replies.connection?_eq_some_iff.mp hmade).1
      simp [Streak.heard, hid]

namespace Station

/-- What a station shows of its node, but for the time between the last two blocks. -/
@[ext]
structure View where
  connected : Bool
  lastBlock : Option Block
  /-- How often in a row the node has named the same unsupported chain. -/
  times : UInt32
  /-- The status of the answer to a request for the sync page. -/
  syncedStatus : Nat
  /-- The series of all gauges but that of the time between blocks. -/
  series : List (String × Labels × Reading)

/-- What the station shows of its node. -/
def view (s : Station) : View where
  connected := s.monitor.status.connected
  lastBlock := s.monitor.status.lastBlock
  times := s.monitor.streak.times
  syncedStatus := (s.site.respond "GET" "/synced").status
  series := s.gauges.series.filter fun series => series.1 ≠ "blocktime"

variable {c : Config} {s : Station} {script : List Replies} {r : Replies}
  {peers number remote : UInt64} {block : Block} {connection : Connection}

/-- A healthy tick with a connection has its own verdict scraped. -/
theorem scrapedVerdict_concat (h : new? c = some s)
    (hc : (s.after script).monitor.connection = some connection)
    (hr : Tick.Healthy ⟨(s.after script).monitor, r⟩ peers number block remote) :
    s.scrapedVerdict (script ++ [r]) =
      some (decide ((blocksBehind number remote).natAbs ≤ c.syncThreshold.toNat)) := by
  have hresolved : Tick.resolvedChain? ⟨(s.after script).monitor, r⟩ = none := by
    obtain ⟨report, houtcome, -⟩ := hr.exists_report hc
    simp only [Tick.resolvedChain?, houtcome]
  have hlag := (hr.obtained hc).2.2.2
  have hthreshold : s.monitor.threshold = c.syncThreshold := by
    rw [monitor_of_new? h]
    rfl
  rw [scrapedVerdict, monitor_concat, hr.isSome_connection_after, if_pos rfl, ticks_concat,
    sinceConnected_concat, hresolved, Option.isNone_none, if_pos rfl, latest_concat, hlag,
    hthreshold]
  rfl

/-- After a healthy tick with a connection every gauge but that of the time between blocks shows
what the tick obtained. -/
theorem series_concat (h : new? c = some s)
    (hc : (s.after script).monitor.connection = some connection)
    (hr : Tick.Healthy ⟨(s.after script).monitor, r⟩ peers number block remote) :
    (s.after (script ++ [r])).view.series =
      [("blockNumber", .count number), ("blocksbehind", .whole (blocksBehind number remote)),
        ("peers", .count peers),
        ("synced", .flag (decide
          ((blocksBehind number remote).natAbs ≤ c.syncThreshold.toNat)))].map
        fun (gauge, v) => (gauge, [("node", c.nodeName)], v) := by
  obtain ⟨hpeers, hnumber, -, hlag⟩ := hr.obtained hc
  rw [view, (ofNode_after h _).series_eq, shown_after h, scrapedVerdict_concat h hc hr,
    ticks_concat]
  simp only [lastKnown, latest_concat, hpeers, hnumber, hlag, Option.some_or, Option.map_some]
  -- the only series that the past may have left behind is left out of the view
  generalize (Block.intervals _).getLast? = interval
  cases interval <;> simp

/-- One healthy tick with a connection decides what the station shows. -/
theorem view_concat (h : new? c = some s)
    (hc : (s.after script).monitor.connection = some connection)
    (hr : Tick.Healthy ⟨(s.after script).monitor, r⟩ peers number block remote) :
    let inSync := decide ((blocksBehind number remote).natAbs ≤ c.syncThreshold.toNat)
    (s.after (script ++ [r])).view =
      { connected := true
        lastBlock := some block
        times := 0
        syncedStatus := if inSync then 200 else 503
        series := [("blockNumber", .count number),
          ("blocksbehind", .whole (blocksBehind number remote)), ("peers", .count peers),
          ("synced", .flag inSync)].map fun (gauge, v) => (gauge, [("node", c.nodeName)], v) } := by
  intro inSync
  let t : Tick := ⟨(s.after script).monitor, r⟩
  have hafter : (s.after (script ++ [r])).monitor = t.after := monitor_concat s script r
  have hmonitor : t.after = (Monitor.ofConfig c).after (script ++ [r]) := by
    rw [← hafter, monitor_after, monitor_of_new? h]
  have hsome := hr.isSome_connection_after
  have hconnected : t.after.status.connected = true := by
    have hcoherent := (Monitor.coherent_after c (script ++ [r])).status
    rw [← hmonitor] at hcoherent
    exact hcoherent.symm.trans hsome
  have hlast : t.after.status.lastBlock = some block := by
    rw [t.memory_after.2, (hr.obtained hc).2.2.1, Option.some_or]
  have hstreak : t.after.streak = .clear := by
    rw [hmonitor]
    exact Monitor.streak_of_connected c _ (by rw [← hmonitor]; exact hsome)
  have hstatus : ((s.after (script ++ [r])).site.respond "GET" "/synced").status =
      if inSync then 200 else 503 := by
    have hsynced := isSynced_of_scrapedVerdict h (scrapedVerdict_concat h hc hr)
    rw [Web.Site.respond_get .synced (by decide)]
    exact congrArg (fun b => if b = true then 200 else 503) hsynced
  rw [← hafter] at hconnected hlast hstreak
  exact View.ext hconnected hlast (congrArg Streak.times hstreak) hstatus (series_concat h hc hr)

/-- Two ticks in which everything is answered are enough to recover from whatever happened before.
The second one is a round without failures, and after it the station is connected, its last block is
the one just obtained, no unsupported chain is in sight, the sync page is answered by the lag just
obtained, and the series of the peers, the block number, the lag and the verdict are those of what
was just obtained. Since nothing here depends on the past, two stations with the same configuration
and different pasts show the same. -/
theorem view_after_healthy (h : new? c = some s) (past : List Replies) {first second : Replies}
    {peers₁ number₁ remote₁ peers₂ number₂ remote₂ : UInt64} {block₁ block₂ : Block}
    (hfirst : Tick.Healthy ⟨(s.after past).monitor, first⟩ peers₁ number₁ block₁ remote₁)
    (hsecond : Tick.Healthy ⟨(s.after (past ++ [first])).monitor, second⟩ peers₂ number₂ block₂
      remote₂) :
    let lag : Int := (remote₂.toNat : Int) - number₂.toNat
    let inSync := decide (lag.natAbs ≤ c.syncThreshold.toNat)
    (∃ report, ((s.after (past ++ [first])).tick second).2.1 = .round report ∧
        report.failures = []) ∧
      (s.after (past ++ [first, second])).view =
        { connected := true
          lastBlock := some block₂
          times := 0
          syncedStatus := if inSync then 200 else 503
          series := [("blockNumber", .count number₂), ("blocksbehind", .whole lag),
            ("peers", .count peers₂), ("synced", .flag inSync)].map
              fun (gauge, v) => (gauge, [("node", c.nodeName)], v) } := by
  have hconnected : (s.after (past ++ [first])).monitor.connection.isSome = true := by
    rw [monitor_concat]
    exact hfirst.isSome_connection_after
  obtain ⟨connection, hc⟩ := Option.isSome_iff_exists.mp hconnected
  have hpast : past ++ [first, second] = (past ++ [first]) ++ [second] := by
    rw [List.append_assoc]
    rfl
  rw [hpast]
  exact ⟨hsecond.exists_report hc, view_concat h hc hsecond⟩

/-- A node that is two blocks behind its explorer answers everything. -/
theorem healthy_replies (m : Monitor) :
    Tick.Healthy ⟨m, .healthy⟩ 25 100
      ⟨100, ⟨1500000000, 0, by decide, by decide, by decide⟩⟩ 102 where
  chain := ⟨.kovan, 0, rfl, rfl⟩
  peerCount := rfl
  blockNumber := rfl
  blockByNumber := rfl
  remoteBlockNumber _ _ := rfl

/-- A station that lost its connection and then found an unsupported chain is in sync again after
two healthy ticks. -/
theorem view_after_unsupported :
    ∃ s, new? { nodeName := "parity", endpoint := "localhost" } = some s ∧
      (s.after [.healthy, .healthy, .refusing, { Replies.healthy with chainId := .ok "ropsten" },
        .healthy, .healthy]).view.syncedStatus = 200 := by
  refine ⟨_, rfl, ?_⟩
  have h := view_after_healthy (c := { nodeName := "parity", endpoint := "localhost" }) rfl
    [.healthy, .healthy, .refusing, { Replies.healthy with chainId := .ok "ropsten" }]
    (healthy_replies _) (healthy_replies _)
  exact (congrArg View.syncedStatus h.2).trans (by decide)

end Station

end NodeWatch
