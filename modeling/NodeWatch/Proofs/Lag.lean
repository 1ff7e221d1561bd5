import NodeWatch.Proofs.RoundEffect

/-!
# The lag in machine words

A lag is taken between two 64-bit numbers in 128-bit words and brought back to 64 bits without its
sign. Nothing is lost on the way: the words are wide enough for every difference, and every
difference without its sign fits into 64 bits again. So the verdict of a round compares the distance
of the two block numbers with the threshold. Which of the two is ahead has no part in it, and a
greater distance never mends it.
-/

namespace NodeWatch

/-! ### Words -/

/-- A block number as a word with a sign. -/
def signedWord (n : UInt64) : BitVec 128 := n.toBitVec.setWidth 128

/-- The signed lag as it comes out of words. -/
def wordLag (own remote : UInt64) : BitVec 128 := signedWord remote - signedWord own

/-- A block number is not negative as a word. -/
theorem toInt_signedWord (n : UInt64) : (signedWord n).toInt = n.toNat := by
  have hlt := n.toNat_lt
  have hvalue : (signedWord n).toNat = n.toNat := by
    rw [signedWord, BitVec.toNat_setWidth, UInt64.toNat_toBitVec]
    omega
  rw [BitVec.toInt_eq_toNat_of_lt (by omega), hvalue]

/-- No difference of block numbers overflows. -/
theorem ssubOverflow_signedWord (own remote : UInt64) :
    BitVec.ssubOverflow (signedWord remote) (signedWord own) = false := by
  have hown := own.toNat_lt
  have hremote := remote.toNat_lt
  simp only [BitVec.ssubOverflow, toInt_signedWord, Bool.or_eq_false_iff, decide_eq_false_iff_not]
  constructor
  · omega
  · omega

/-- The lag comes out of words as it is. -/
theorem toInt_wordLag (own remote : UInt64) :
    (wordLag own remote).toInt = blocksBehind own remote := by
  have hfits : ¬BitVec.ssubOverflow (signedWord remote) (signedWord own) = true := by
    rw [ssubOverflow_signedWord]
    exact Bool.false_ne_true
  rw [wordLag, BitVec.toInt_sub_of_not_ssubOverflow hfits, toInt_signedWord, toInt_signedWord,
    blocksBehind]

/-- The sign of a word is left off without loss, also that of the least one. -/
theorem toNat_abs_eq_natAbs {width : Nat} (word : BitVec width) :
    word.abs.toNat = word.toInt.natAbs := by
  have hlt := word.isLt
  rw [BitVec.toNat_abs, BitVec.toInt_eq_msb_cond]
  split
  · omega
  · omega

/-! ### Distances -/

/-- The lag changes its sign when the numbers change places. -/
theorem blocksBehind_comm (own remote : UInt64) :
    blocksBehind remote own = -blocksBehind own remote := by
  unfold blocksBehind
  omega

/-- One number lies on the way to another. -/
def Beyond (own remote farther : UInt64) : Prop :=
  own ≤ remote ∧ remote ≤ farther ∨ farther ≤ remote ∧ remote ≤ own

/-- What lies beyond is no nearer. -/
theorem Beyond.natAbs_le {own remote farther : UInt64} (h : Beyond own remote farther) :
    (blocksBehind own remote).natAbs ≤ (blocksBehind own farther).natAbs := by
  simp only [Beyond, UInt64.le_iff_toNat_le] at h
  unfold blocksBehind
  omega

/-! ### Rounds -/

/-- A round is told these two block numbers, by the node and by the explorer. -/
structure Replies.Tells (r : Replies) (explorer : ExplorerId) (own remote : UInt64) : Prop where
  own : r.blockNumber = .ok own
  remote : r.remoteBlockNumber explorer = .ok remote

namespace Replies.Tells

variable {r : Replies} {explorer : ExplorerId} {own remote : UInt64}
  (h : r.Tells explorer own remote) (labels : Labels) (threshold : UInt64) (status : Status)

include h

theorem lag?_eq : r.lag? explorer = some (blocksBehind own remote) :=
  (Round.lag?_eq_some_iff r explorer).mpr ⟨own, remote, h.own, h.remote, rfl⟩

/-- The verdict of the round is on the distance of the two numbers. -/
theorem synced_run : (Round.run r explorer labels threshold status).1.synced =
    decide ((blocksBehind own remote).natAbs ≤ threshold.toNat) := by
  rw [Round.synced_run, h.lag?_eq]
  rfl

/-- The round hands the tracker of the verdict the lag without its sign. -/
theorem update_eq : status.verdict.update (absoluteLag (blocksBehind own remote)) threshold =
    ((Round.run r explorer labels threshold status).1.verdict,
      (Round.run r explorer labels threshold status).2.1.transition.isSome) := by
  rw [Round.transition_run, Round.status_run, h.lag?_eq]
  simp only [Verdict.update, changed?, Status.synced, Option.map_some, Option.getD_some]
  by_cases hv : (Verdict.ofLag (absoluteLag (blocksBehind own remote)) threshold).synced =
      status.verdict.synced <;> simp [hv]

end Replies.Tells

namespace Round

/-- What a round makes of the two block numbers that it is told. -/
structure Judges (own remote threshold : UInt64) (status after : Status) (report : Report) :
    Prop where
  /-- It reports their exact difference. -/
  behind : report.blocksBehind = some ((remote.toNat : Int) - own.toNat)
  /-- The difference does not overflow in words and comes out of them as it is. -/
  no_overflow : BitVec.ssubOverflow (signedWord remote) (signedWord own) = false
  toInt_word : (wordLag own remote).toInt = (remote.toNat : Int) - own.toNat
  /-- Without its sign it is the distance, which 64 bits are enough for: nothing is cut off. -/
  toNat_abs_word : (wordLag own remote).abs.toNat = ((remote.toNat : Int) - own.toNat).natAbs
  fits : ((remote.toNat : Int) - own.toNat).natAbs < UInt64.size
  /-- The tracker of the verdict is handed the distance. -/
  update : ∃ lag : UInt64, lag.toNat = ((remote.toNat : Int) - own.toNat).natAbs ∧
    lag = absoluteLag (blocksBehind own remote) ∧
    status.verdict.update lag threshold = (after.verdict, report.transition.isSome)
  /-- The verdict is good exactly if the distance is at most the threshold. -/
  synced : after.synced = true ↔ ((remote.toNat : Int) - own.toNat).natAbs ≤ threshold.toNat
  /-- With the greatest threshold it is always good. -/
  lenient : threshold.toNat = UInt64.size - 1 → after.synced = true

theorem judges_run {r : Replies} {explorer : ExplorerId} {own remote : UInt64}
    (h : r.Tells explorer own remote) (labels : Labels) (threshold : UInt64) (status : Status) :
    Judges own remote threshold status (run r explorer labels threshold status).1
      (run r explorer labels threshold status).2.1 := by
  have hlt : (blocksBehind own remote).natAbs < UInt64.size := natAbs_blocksBehind_lt own remote
  have hverdict : (run r explorer labels threshold status).1.synced = true ↔
      (blocksBehind own remote).natAbs ≤ threshold.toNat := by
    rw [h.synced_run, decide_eq_true_eq]
  exact
    { behind := by rw [blocksBehind_run, h.lag?_eq, blocksBehind]
      no_overflow := ssubOverflow_signedWord own remote
      toInt_word := toInt_wordLag own remote
      toNat_abs_word := by rw [toNat_abs_eq_natAbs, toInt_wordLag, blocksBehind]
      fits := hlt
      update := ⟨_, toNat_absoluteLag hlt, rfl, h.update_eq labels threshold status⟩
      synced := hverdict
      lenient := fun hthreshold => hverdict.mpr (by omega) }

/-- A round that is told both block numbers, whatever they are, judges them by their exact distance.
A round that is told the numbers in each other's place reports the lag with the other sign and comes
to the same verdict. A bad verdict stays bad if the explorer is farther off on the same side. -/
theorem lag_exact {r : Replies} {explorer : ExplorerId} {own remote : UInt64}
    (h : r.Tells explorer own remote) (labels : Labels) (threshold : UInt64) (status : Status) :
    let after := (run r explorer labels threshold status).1
    let report := (run r explorer labels threshold status).2.1
    Judges own remote threshold status after report ∧
    (∀ r' explorer' labels' status', Replies.Tells r' explorer' remote own →
      let swapped := run r' explorer' labels' threshold status'
      swapped.2.1.blocksBehind = report.blocksBehind.map (-·) ∧
      swapped.1.synced = after.synced) ∧
    ∀ r' explorer' labels' status' farther, Replies.Tells r' explorer' own farther →
      Beyond own remote farther → after.synced = false →
      (run r' explorer' labels' threshold status').1.synced = false := by
  intro after report
  refine ⟨judges_run h labels threshold status, ?_, ?_⟩
  · intro r' explorer' labels' status' h' swapped
    have hlag : swapped.2.1.blocksBehind = some (blocksBehind remote own) := by
      rw [blocksBehind_run, h'.lag?_eq]
    have hreport : report.blocksBehind = some (blocksBehind own remote) := by
      rw [blocksBehind_run, h.lag?_eq]
    constructor
    · rw [hlag, hreport, Option.map_some, blocksBehind_comm]
    · rw [h'.synced_run, h.synced_run, blocksBehind_comm, Int.natAbs_neg]
  · intro r' explorer' labels' status' farther h' hbeyond hbad
    have hle := hbeyond.natAbs_le
    rw [h.synced_run, decide_eq_false_iff_not] at hbad
    rw [h'.synced_run, decide_eq_false_iff_not]
    omega

/-- A node at the last of all block numbers, and an explorer at the first. -/
def extremes : Replies :=
  { Replies.healthy with
    blockNumber := .ok 0xFFFFFFFFFFFFFFFF
    remoteBlockNumber := fun _ => .ok 0 }

/-- At the two ends of the range the lag is still exact, and too great by one block for the
threshold below the greatest. -/
theorem lag_of_extremes :
    extremes.Tells 0 0xFFFFFFFFFFFFFFFF 0 ∧
      (run extremes 0 [] 0xFFFFFFFFFFFFFFFE {}).2.1.blocksBehind = some (-18446744073709551615) ∧
      ¬(run extremes 0 [] 0xFFFFFFFFFFFFFFFE {}).1.synced = true := by
  have htells : extremes.Tells 0 0xFFFFFFFFFFFFFFFF 0 := ⟨rfl, rfl⟩
  obtain ⟨hjudges, -, -⟩ := lag_exact htells [] 0xFFFFFFFFFFFFFFFE {}
  refine ⟨htells, hjudges.behind, ?_⟩
  rw [hjudges.synced]
  decide

end Round

end NodeWatch
