import NodeWatch.Proofs.Conduct
import NodeWatch.Proofs.Course

/-!
# The node's side of a run

What a monitor learns about the node it learns from the node alone. Two runs in which the node
answers the same, and in which an explorer client can be built at the same ticks, make and lose
their connections together, ask the node the same questions and export the same about it, whatever
the explorers answer.
-/

namespace NodeWatch

/-- The node answers the same, and explorer clients can be built for the same chains. What the
explorers answer, and why a client cannot be built, may differ. -/
structure Replies.SameNode (r₁ r₂ : Replies) : Prop where
  chainId : r₁.chainId = r₂.chainId
  peerCount : r₁.peerCount = r₂.peerCount
  blockNumber : r₁.blockNumber = r₂.blockNumber
  blockByNumber : r₁.blockByNumber = r₂.blockByNumber
  factory : ∀ chain, (r₁.explorerFactory chain).toOption.isSome =
    (r₂.explorerFactory chain).toOption.isSome

/-- Whether a question is asked of the node. -/
def Call.isOfNode : Call → Bool
  | .chainId | .peerCount | .blockNumber | .blockByNumber _ => true
  | .explorerFactory _ | .remoteBlockNumber _ => false

/-- The questions that were asked of the node, in order. -/
def nodeCalls (events : List Event) : List Call := (calls events).filter Call.isOfNode

/-- The two ticks have all that concerns the node in common. -/
structure Tick.SameSide (t₁ t₂ : Tick) : Prop where
  kind : t₁.outcome.kind = t₂.outcome.kind
  connected : t₁.after.status.connected = t₂.after.status.connected
  chain : t₁.after.chain? = t₂.after.chain?
  times : t₁.after.streak.times = t₂.after.streak.times
  lastBlock : t₁.after.status.lastBlock = t₂.after.status.lastBlock
  calls : nodeCalls t₁.events = nodeCalls t₂.events
  settings : ∀ gauge ∈ ["peers", "blockNumber", "blocktime"],
    settings gauge t₁.events = settings gauge t₂.events

/-- The two monitors know the same of the node. -/
structure Monitor.SameSide (m₁ m₂ : Monitor) : Prop where
  connected : m₁.status.connected = m₂.status.connected
  chain : m₁.chain? = m₂.chain?
  lastBlock : m₁.status.lastBlock = m₂.status.lastBlock
  streak : m₁.streak = m₂.streak

/-- The chain of the connection that an attempt makes: the one that the node names, if a client can
be built for it. -/
theorem Replies.chain_connection? (r : Replies) :
    r.connection?.map (·.chain) = (r.chainId.toOption.bind Chain.ofId?).filter
      fun chain => (r.explorerFactory chain).toOption.isSome := by
  unfold connection?
  cases r.chainId.toOption with
  | none => rfl
  | some id =>
    simp only [Option.bind_some]
    cases Chain.ofId? id with
    | none => rfl
    | some chain => cases hf : (r.explorerFactory chain).toOption <;> simp [hf, Option.filter]

namespace Replies.SameNode

variable {r₁ r₂ : Replies}

/-- The attempts connect to the same chain, or to none. -/
theorem chain_connection (h : SameNode r₁ r₂) :
    r₁.connection?.map (·.chain) = r₂.connection?.map (·.chain) := by
  rw [chain_connection?, chain_connection?, h.chainId, funext h.factory]

theorem isSome_connection (h : SameNode r₁ r₂) :
    r₁.connection?.isSome = r₂.connection?.isSome := by
  have hchain := congrArg Option.isSome h.chain_connection
  rwa [Option.isSome_map, Option.isSome_map] at hchain

/-- Rounds find the node down together. -/
theorem isDown (h : SameNode r₁ r₂) : r₁.isDown = r₂.isDown := by
  simp only [Replies.isDown, h.peerCount, h.blockNumber, h.blockByNumber]

/-- Rounds obtain the same block. -/
theorem block? (h : SameNode r₁ r₂) : r₁.block? = r₂.block? := by
  simp only [Replies.block?, h.blockNumber, h.blockByNumber]

end Replies.SameNode

/-- An attempt to connect asks the node for its chain only. -/
theorem Connection.node_questions (r : Replies) :
    (questions r).filter Call.isOfNode = [.chainId] := by
  unfold questions
  cases r.chainId.toOption.bind Chain.ofId? <;> rfl

/-- The questions of a round that are asked of the node do not depend on the explorer client. -/
theorem Round.node_questions (r : Replies) (explorer : ExplorerId) :
    (questions r explorer).filter Call.isOfNode =
      [.peerCount, .blockNumber] ++ r.blockNumber.toOption.elim [] fun n => [.blockByNumber n] := by
  unfold questions
  cases r.blockNumber.toOption <;> rfl

namespace Monitor.SameSide

variable {m₁ m₂ : Monitor} {r₁ r₂ : Replies}

/-- Both monitors have a connection, or neither has one. -/
theorem isSome_connection (h : SameSide m₁ m₂) :
    m₁.connection.isSome = m₂.connection.isSome := by
  have hchain := congrArg Option.isSome h.chain
  unfold chain? at hchain
  rwa [Option.isSome_map, Option.isSome_map] at hchain

/-- What is taken from the node's answers in a tick is taken from both alike. -/
theorem bind_connection {α : Type} (h : SameSide m₁ m₂) (obtained : Option α) :
    (m₁.connection.bind fun _ => obtained) = m₂.connection.bind fun _ => obtained := by
  have hsome := h.isSome_connection
  cases h₁ : m₁.connection <;> cases h₂ : m₂.connection <;> simp_all

/-- A tick makes of the connection the same in both monitors. -/
theorem elim_connection {α : Type} (h : SameSide m₁ m₂) (idle busy : α) :
    (m₁.connection.elim idle fun _ => busy) = m₂.connection.elim idle fun _ => busy := by
  have hsome := h.isSome_connection
  cases h₁ : m₁.connection <;> cases h₂ : m₂.connection <;> simp_all

/-- After ticks with like answers the chain is the same. -/
theorem chain_tick (h : SameSide m₁ m₂) (hr : r₁.SameNode r₂) :
    (m₁.tick r₁).1.chain? = (m₂.tick r₂).1.chain? := by
  have hchain := h.chain
  have h₁ : (m₁.tick r₁).1.connection = _ := Tick.connection_after ⟨m₁, r₁⟩
  have h₂ : (m₂.tick r₂).1.connection = _ := Tick.connection_after ⟨m₂, r₂⟩
  unfold chain? at hchain ⊢
  rw [h₁, h₂]
  cases hc₁ : m₁.connection <;> cases hc₂ : m₂.connection
  · simpa [hc₁, hc₂] using hr.chain_connection
  · simp [hc₁, hc₂] at hchain
  · simp [hc₁, hc₂] at hchain
  · rw [hc₁, hc₂] at hchain
    rw [Option.elim_some, Option.elim_some, hr.isDown]
    split
    · rfl
    · exact hchain

/-- Ticks with like answers leave monitors behind that know the same of the node. -/
theorem tick (h : SameSide m₁ m₂) (hr : r₁.SameNode r₂) :
    SameSide (m₁.tick r₁).1 (m₂.tick r₂).1 := by
  refine { connected := ?_, chain := h.chain_tick hr, lastBlock := ?_, streak := ?_ }
  · have h₁ : (m₁.tick r₁).1.status.connected = _ := Tick.connected_after ⟨m₁, r₁⟩
    have h₂ : (m₂.tick r₂).1.status.connected = _ := Tick.connected_after ⟨m₂, r₂⟩
    rw [h₁, h₂, h.connected, hr.isSome_connection, hr.isDown]
    exact h.elim_connection _ _
  · have h₁ : (m₁.tick r₁).1.status.lastBlock = _ := (Tick.memory_after ⟨m₁, r₁⟩).2
    have h₂ : (m₂.tick r₂).1.status.lastBlock = _ := (Tick.memory_after ⟨m₂, r₂⟩).2
    rw [h₁, h₂, Tick.block?, Tick.block?, h.lastBlock, hr.block?, h.bind_connection]
  · have h₁ : (m₁.tick r₁).1.streak = _ := Tick.streak_after ⟨m₁, r₁⟩
    have h₂ : (m₂.tick r₂).1.streak = _ := Tick.streak_after ⟨m₂, r₂⟩
    rw [h₁, h₂, h.streak, hr.chainId]
    exact h.elim_connection _ _

/-- Ticks with like answers ask the node the same. -/
theorem nodeCalls_tick (h : SameSide m₁ m₂) (hr : r₁.SameNode r₂) :
    nodeCalls (Tick.events ⟨m₁, r₁⟩) = nodeCalls (Tick.events ⟨m₂, r₂⟩) := by
  have hsome := h.isSome_connection
  unfold nodeCalls
  cases hc₁ : m₁.connection <;> cases hc₂ : m₂.connection
  · rw [Tick.calls_of_none hc₁, Tick.calls_of_none hc₂, Connection.node_questions,
      Connection.node_questions]
  · simp [hc₁, hc₂] at hsome
  · simp [hc₁, hc₂] at hsome
  · rw [Tick.calls_of_some hc₁, Tick.calls_of_some hc₂, Round.node_questions,
      Round.node_questions, hr.blockNumber]

/-- Ticks with like answers read the same of the gauges that are about the node. -/
theorem settings_tick (h : SameSide m₁ m₂) (hr : r₁.SameNode r₂) :
    ∀ gauge ∈ ["peers", "blockNumber", "blocktime"],
      settings gauge (Tick.events ⟨m₁, r₁⟩) = settings gauge (Tick.events ⟨m₂, r₂⟩) := by
  have hpeers : Tick.peers? ⟨m₁, r₁⟩ = Tick.peers? ⟨m₂, r₂⟩ := by
    rw [Tick.peers?, Tick.peers?, hr.peerCount]
    exact h.bind_connection _
  have hnumber : Tick.number? ⟨m₁, r₁⟩ = Tick.number? ⟨m₂, r₂⟩ := by
    rw [Tick.number?, Tick.number?, hr.blockNumber]
    exact h.bind_connection _
  have hinterval : Tick.interval? ⟨m₁, r₁⟩ = Tick.interval? ⟨m₂, r₂⟩ := by
    rw [Tick.interval?, Tick.interval?, Tick.block?, Tick.block?, hr.block?, h.lastBlock,
      h.bind_connection]
  obtain ⟨hnumber₁, -, htime₁, hpeers₁, -⟩ := Tick.reading?_eq ⟨m₁, r₁⟩
  obtain ⟨hnumber₂, -, htime₂, hpeers₂, -⟩ := Tick.reading?_eq ⟨m₂, r₂⟩
  intro gauge hgauge
  rw [Tick.settings_events, Tick.settings_events]
  apply congrArg Option.toList
  simp only [List.mem_cons, List.not_mem_nil, or_false] at hgauge
  rcases hgauge with rfl | rfl | rfl
  · exact hpeers₁.trans (hpeers ▸ hpeers₂.symm)
  · exact hnumber₁.trans (hnumber ▸ hnumber₂.symm)
  · exact htime₁.trans (hinterval ▸ htime₂.symm)

/-- Ticks with like answers have all that concerns the node in common. -/
theorem sameSide_ticks (h : SameSide m₁ m₂) (hr : r₁.SameNode r₂) :
    Tick.SameSide ⟨m₁, r₁⟩ ⟨m₂, r₂⟩ where
  kind := by
    rw [Tick.kind_outcome, Tick.kind_outcome, hr.isSome_connection, hr.isDown]
    exact h.elim_connection _ _
  connected := (h.tick hr).connected
  chain := (h.tick hr).chain
  times := congrArg Streak.times (h.tick hr).streak
  lastBlock := (h.tick hr).lastBlock
  calls := h.nodeCalls_tick hr
  settings := h.settings_tick hr

end Monitor.SameSide

namespace Monitor

/-- The explorers have no influence on the node's side of a run: if the node answers the same in two
runs, and explorer clients can be built for the same chains at the same ticks, then every two ticks
of the same number are of the same kind, end with the same connection flag, chain, streak and last
block, ask the node the same questions in the same order, and set the gauges of the peers, the block
number and the time between blocks to the same values. -/
theorem sameSide_runs (c : Config) {script₁ script₂ : List Replies}
    (h : List.Forall₂ Replies.SameNode script₁ script₂) :
    List.Forall₂ Tick.SameSide ((ofConfig c).ticks script₁) ((ofConfig c).ticks script₂) := by
  have hstart : SameSide (ofConfig c) (ofConfig c) :=
    { connected := rfl, chain := rfl, lastBlock := rfl, streak := rfl }
  exact forall₂_ticks
    (fun _ _ _ _ hm hr => ⟨SameSide.sameSide_ticks hm hr, SameSide.tick hm hr⟩) h hstart

end Monitor

/-- The same answers of the node, but the explorer refuses the connection. -/
def Replies.unexplored : Replies :=
  { Replies.healthy with
    remoteBlockNumber := fun _ => .error (.transport "kovan.etherscan.io" "connection refused") }

namespace Monitor

/-- An explorer that refuses the connection does not end the one to the node. -/
theorem sameSide_of_refused_explorer :
    let m := ofConfig { nodeName := "parity", endpoint := "localhost" }
    List.Forall₂ Replies.SameNode [.healthy, .healthy] [.healthy, .unexplored] ∧
      (Tick.outcome ⟨m.after [.healthy], .unexplored⟩).kind = .round := by
  intro m
  have hnode (r : Replies) (hr : r = .healthy ∨ r = .unexplored) : Replies.healthy.SameNode r := by
    rcases hr with rfl | rfl
    · exact ⟨rfl, rfl, rfl, rfl, fun _ => rfl⟩
    · exact ⟨rfl, rfl, rfl, rfl, fun _ => rfl⟩
  have hscripts : List.Forall₂ Replies.SameNode [.healthy, .healthy] [.healthy, .unexplored] :=
    .cons (hnode _ (Or.inl rfl)) (.cons (hnode _ (Or.inr rfl)) .nil)
  refine ⟨hscripts, ?_⟩
  obtain _ | ⟨-, _ | ⟨hsecond, -⟩⟩ :=
    sameSide_runs { nodeName := "parity", endpoint := "localhost" } hscripts
  exact hsecond.kind.symm

end Monitor

end NodeWatch
