import Mathlib.Algebra.Ring.Int.Defs
import NodeWatch.Proofs.Conduct

/-!
# The times between blocks

The blocks that the node returned in a run are counted across all its rounds, however far apart
these are and whatever failed or was lost between them. Each block but the first sets the gauge of
the time between blocks once, in the very tick that obtained it, to the time since the block before
it. So no time between two blocks is left out or counted twice.
-/

namespace NodeWatch

section Neighbours

variable {α β : Type}

/-- One more element makes one more pair of neighbours, unless it is the first element. -/
theorem zipWith_tail_concat (f : α → α → β) (l : List α) (a : α) :
    List.zipWith f (l ++ [a]) (l ++ [a]).tail =
      List.zipWith f l l.tail ++ (l.getLast?.map fun last => f last a).toList := by
  induction l with
  | nil => rfl
  | cons first rest ih =>
    cases rest with
    | nil => rfl
    | cons second rest =>
      simp only [List.cons_append, List.tail_cons, List.zipWith_cons_cons] at ih ⊢
      rw [ih, List.getLast?_cons_cons]

/-- The differences between neighbours add up to the difference between the ends. -/
theorem sum_differences (f : α → Int) {l : List α} {first last : α} (hfirst : l.head? = some first)
    (hlast : l.getLast? = some last) :
    (List.zipWith (fun a b => f b - f a) l l.tail).sum = f last - f first := by
  induction l generalizing first with
  | nil => cases hfirst
  | cons a rest ih =>
    obtain rfl : a = first := Option.some.inj hfirst
    cases rest with
    | nil =>
      obtain rfl : a = last := Option.some.inj hlast
      simp
    | cons b rest =>
      rw [List.getLast?_cons_cons] at hlast
      have hrest := @ih b rfl hlast
      simp only [List.tail_cons, List.zipWith_cons_cons, List.sum_cons] at hrest ⊢
      omega

end Neighbours

/-- Between instants at whole seconds there is a whole number of seconds. -/
theorem Block.millisSince_of_whole {b earlier : Block} (hb : b.time.nanos = 0)
    (hearlier : earlier.time.nanos = 0) :
    b.millisSince earlier = 1000 * (b.time.seconds - earlier.time.seconds) := by
  have hnanos : b.time.sinceEpoch - earlier.time.sinceEpoch =
      1000000 * (1000 * (b.time.seconds - earlier.time.seconds)) := by
    simp only [Instant.sinceEpoch, hb, hearlier]
    omega
  rw [millisSince, Instant.millisSince, hnanos]
  exact Int.mul_tdiv_cancel_left _ (by decide)

/-- The block that a question was answered with, if it asked for one. -/
def Replies.returnedBlock? (r : Replies) : Call → Option Block
  | .blockByNumber number => (r.blockByNumber number).toOption
  | .chainId | .peerCount | .blockNumber | .explorerFactory _ | .remoteBlockNumber _ => none

namespace Tick

/-- The blocks that the questions of the tick were answered with. -/
def blocks (t : Tick) : List Block := (calls t.events).filterMap t.replies.returnedBlock?

/-- A tick is given at most one block, which is the one that it obtains. -/
theorem blocks_eq (t : Tick) : t.blocks = t.block?.toList := by
  unfold blocks block? Replies.block?
  cases hc : t.before.connection with
  | none =>
    rw [calls_of_none hc, Connection.questions]
    cases t.replies.chainId.toOption.bind Chain.ofId? <;> rfl
  | some connection =>
    rw [calls_of_some hc]
    cases hn : t.replies.blockNumber with
    | error e => simp [Round.questions, hn, Except.toOption, Replies.returnedBlock?]
    | ok number =>
      rw [Round.questions_of_ok hn]
      cases hb : t.replies.blockByNumber number <;>
        simp [List.filterMap_cons, hb, Except.toOption, Replies.returnedBlock?]

/-- A tick sets the gauge of the time between blocks if it obtains a block and knows an earlier
one. -/
theorem settings_blockTime (t : Tick) :
    settings Gauge.blockTime t.events = (t.interval?.map .thousandths).toList := by
  rw [t.settings_events, t.reading?_eq.2.2.1]

end Tick

/-- What each of the ticks gives, beside the number of the tick. -/
def numbered {α : Type} (given : Tick → List α) (ticks : List Tick) : List (Nat × α) :=
  ticks.zipIdx.flatMap fun (t, i) => (given t).map fun a => (i, a)

section Numbered

variable {α : Type} (given : Tick → List α)

theorem numbered_concat (ticks : List Tick) (t : Tick) :
    numbered given (ticks ++ [t]) =
      numbered given ticks ++ (given t).map fun a => (ticks.length, a) := by
  simp [numbered, List.zipIdx_append]

/-- Without the numbers all that the ticks give is left, in order. -/
theorem map_snd_numbered (ticks : List Tick) :
    (numbered given ticks).map Prod.snd = ticks.flatMap given := by
  induction ticks using List.reverseRecOn with
  | nil => rfl
  | append_singleton ticks t ih =>
    rw [numbered_concat, List.map_append, ih, List.flatMap_append]
    simp [Function.comp_def]

end Numbered

namespace Monitor

variable (c : Config) (script : List Replies)

/-- The last block after a run is the one that the node returned last. -/
theorem lastBlock_eq_getLast? :
    ((ofConfig c).after script).status.lastBlock =
      (numbered Tick.blocks ((ofConfig c).ticks script)).getLast?.map Prod.snd := by
  have hblocks (ticks : List Tick) : ticks.flatMap Tick.blocks = ticks.filterMap Tick.block? := by
    rw [List.filterMap_eq_flatMap_toList]
    exact congrArg (ticks.flatMap ·) (funext Tick.blocks_eq)
  rw [lastBlock_after, ← List.getLast?_map, map_snd_numbered, hblocks]
  rfl

/-- The times that a run exports are those between neighbours among the blocks it was given. -/
theorem numbered_settings_blockTime :
    let blocks := numbered Tick.blocks ((ofConfig c).ticks script)
    numbered (fun t => settings Gauge.blockTime t.events) ((ofConfig c).ticks script) =
      List.zipWith
        (fun earlier later => (later.1, .thousandths (later.2.millisSince earlier.2)))
        blocks blocks.tail := by
  induction script using List.reverseRecOn with
  | nil => rfl
  | append_singleton script r ih =>
    let t : Tick := ⟨(ofConfig c).after script, r⟩
    have hlast : t.before.status.lastBlock = _ := lastBlock_eq_getLast? c script
    simp only [ticks_concat, numbered_concat] at ih ⊢
    rw [ih]
    change _ ++ (settings Gauge.blockTime t.events).map _ = List.zipWith _
      (_ ++ t.blocks.map _) (_ ++ t.blocks.map _).tail
    rw [t.settings_blockTime, t.blocks_eq, Tick.interval?, hlast]
    -- a tick is given one block or none, and only a block makes a new pair
    cases t.block? with
    | none => simp
    | some block =>
      simp only [Option.toList_some, List.map_cons, List.map_nil, zipWith_tail_concat,
        Option.bind_some, Option.map_map]
      cases (numbered Tick.blocks ((ofConfig c).ticks script)).getLast? <;> rfl

/-- The blocks that the node returned in a run, each beside the number of the tick that obtained it,
decide when the gauge of the time between blocks is set and to what. It is set once for each block
but the first, in the tick that obtained the block, to the signed time since the block before it in
whole milliseconds. The last block after the run is the last one that was returned. If all these
blocks are dated in whole seconds, the times that are exported are whole seconds too and add up to
the time from the first block to the last. -/
theorem blockTimes_after :
    let blocks := numbered Tick.blocks ((ofConfig c).ticks script)
    let times := numbered (fun t => settings "blocktime" t.events) ((ofConfig c).ticks script)
    times.length = blocks.length - 1 ∧
      times = List.zipWith
        (fun earlier later => (later.1, .thousandths (later.2.millisSince earlier.2)))
        blocks blocks.tail ∧
      ((ofConfig c).after script).status.lastBlock = blocks.getLast?.map Prod.snd ∧
      ((∀ b ∈ blocks, b.2.time.nanos = 0) →
        ∃ seconds : List Int,
          times.map Prod.snd = seconds.map (fun n => .thousandths (1000 * n)) ∧
            ∀ first last, blocks.head? = some first → blocks.getLast? = some last →
              seconds.sum = last.2.time.seconds - first.2.time.seconds) := by
  intro blocks times
  have htimes : times = _ := numbered_settings_blockTime c script
  refine ⟨?_, htimes, lastBlock_eq_getLast? c script, fun hwhole => ?_⟩
  · rw [htimes, List.length_zipWith, List.length_tail]
    exact Nat.min_eq_right (Nat.sub_le _ _)
  · refine ⟨List.zipWith (fun a b => b.2.time.seconds - a.2.time.seconds) blocks blocks.tail,
      ?_, fun first last hfirst hlast => ?_⟩
    · rw [htimes, ← List.map_uncurry_zip_eq_zipWith, ← List.map_uncurry_zip_eq_zipWith,
        List.map_map, List.map_map]
      apply List.map_congr_left
      intro pair hpair
      obtain ⟨hearlier, hlater⟩ := List.of_mem_zip hpair
      have hmillis := Block.millisSince_of_whole (hwhole pair.2 (List.mem_of_mem_tail hlater))
        (hwhole pair.1 hearlier)
      exact congrArg Reading.thousandths hmillis
    · exact sum_differences (fun b => b.2.time.seconds) hfirst hlast

/-- A node that came back with an older block has the time to it exported without being asked for
the block that was known before the connection was lost. -/
theorem blockTimes_after_rewound :
    let ticks := (ofConfig { nodeName := "parity", endpoint := "localhost" }).ticks
      [.healthy, .healthy, .refusing, .healthy, .rewound]
    ∃ seconds : List Int,
      (numbered (fun t => settings "blocktime" t.events) ticks).map Prod.snd =
        seconds.map (fun n => .thousandths (1000 * n)) ∧ seconds.sum = -15 := by
  intro ticks
  obtain ⟨-, -, -, h⟩ := blockTimes_after { nodeName := "parity", endpoint := "localhost" }
    [.healthy, .healthy, .refusing, .healthy, .rewound]
  obtain ⟨seconds, hseconds, hsum⟩ := h (by decide)
  exact ⟨seconds, hseconds, hsum _ _ rfl rfl⟩

end Monitor

end NodeWatch
