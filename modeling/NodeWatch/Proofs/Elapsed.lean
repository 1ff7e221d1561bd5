import NodeWatch.Proofs.BlockTimes

/-!
# The time between two blocks

The time between two instants is a pair of seconds and of nanoseconds that are never negative, so a
second is borrowed when the nanoseconds go backwards. Its milliseconds are counted from the two
parts after the borrowed second has been given back where the whole is negative. The count is the
exact time cut off towards zero, for all instants of the calendar and without leaving 64 bits.
-/

namespace NodeWatch

/-! ### Cutting off -/

/-- A count of milliseconds that a number of nanoseconds is cut off to, towards zero. -/
structure CutOff (nanos count : Int) : Prop where
  of_nonneg : 0 ≤ nanos → count * 1000000 ≤ nanos ∧ nanos < (count + 1) * 1000000
  of_nonpos : nanos ≤ 0 → (count - 1) * 1000000 < nanos ∧ nanos ≤ count * 1000000

theorem cutOff_tdiv (nanos : Int) : CutOff nanos (nanos.tdiv 1000000) where
  of_nonneg h := by
    rw [Int.tdiv_eq_ediv_of_nonneg h]
    omega
  of_nonpos h := by
    obtain ⟨size, rfl⟩ : ∃ size, nanos = -size := ⟨-nanos, by omega⟩
    rw [Int.neg_tdiv, Int.tdiv_eq_ediv_of_nonneg (show 0 ≤ size by omega)]
    omega

/-- There is one such count. -/
theorem CutOff.eq_tdiv {nanos count : Int} (h : CutOff nanos count) :
    count = nanos.tdiv 1000000 := by
  have htdiv := cutOff_tdiv nanos
  rcases Int.le_total 0 nanos with hnanos | hnanos
  · have hcount := h.of_nonneg hnanos
    have hcount' := htdiv.of_nonneg hnanos
    omega
  · have hcount := h.of_nonpos hnanos
    have hcount' := htdiv.of_nonpos hnanos
    omega

/-! ### Spans -/

/-- A length of time, which may be negative. -/
structure Span where
  seconds : Int
  /-- Nanoseconds that are added to the seconds. -/
  nanos : Nat
  nanos_lt : nanos < 1000000000 := by omega

namespace Span

/-- The time from `earlier` to `t`. -/
def between (t earlier : Instant) : Span :=
  have := t.nanos_lt
  if h : earlier.nanos ≤ t.nanos then
    { seconds := t.seconds - earlier.seconds, nanos := t.nanos - earlier.nanos }
  else
    { seconds := t.seconds - earlier.seconds - 1, nanos := t.nanos + 1000000000 - earlier.nanos }

/-- All nanoseconds of the time. -/
def toNanos (s : Span) : Int := s.seconds * 1000000000 + s.nanos

/-- The seconds of the time, cut off towards zero. -/
def wholeSeconds (s : Span) : Int :=
  if s.seconds < 0 ∧ 0 < s.nanos then s.seconds + 1 else s.seconds

/-- The nanoseconds that are left beside the whole seconds. -/
def restNanos (s : Span) : Int :=
  if s.seconds < 0 ∧ 0 < s.nanos then (s.nanos : Int) - 1000000000 else s.nanos

/-- The milliseconds of the time, counted part by part. -/
def millis (s : Span) : Int := s.wholeSeconds * 1000 + s.restNanos.tdiv 1000000

/-- The time between two instants is exact to the nanosecond. -/
theorem toNanos_between (t earlier : Instant) :
    (between t earlier).toNanos = t.sinceEpoch - earlier.sinceEpoch := by
  have ht := t.nanos_lt
  have hearlier := earlier.nanos_lt
  unfold toNanos between Instant.sinceEpoch
  split
  · dsimp only
    omega
  · dsimp only
    omega

/-- The two parts make the whole. -/
theorem wholeSeconds_add_restNanos (s : Span) :
    s.wholeSeconds * 1000000000 + s.restNanos = s.toNanos := by
  unfold wholeSeconds restNanos toNanos
  split
  · omega
  · rfl

/-- The two parts never differ in sign, and the second one is less than a second. -/
theorem restNanos_bounds (s : Span) :
    0 ≤ s.wholeSeconds ∧ 0 ≤ s.restNanos ∧ s.restNanos < 1000000000 ∨
      s.wholeSeconds ≤ 0 ∧ -1000000000 < s.restNanos ∧ s.restNanos ≤ 0 := by
  have hlt := s.nanos_lt
  unfold wholeSeconds restNanos
  split
  · omega
  · omega

/-- Counting part by part cuts off the whole towards zero. -/
theorem cutOff_millis (s : Span) : CutOff s.toNanos s.millis := by
  have hrest := cutOff_tdiv s.restNanos
  rw [← s.wholeSeconds_add_restNanos, millis]
  rcases s.restNanos_bounds with ⟨hseconds, hnonneg, -⟩ | ⟨hseconds, -, hnonpos⟩
  · have hcut := hrest.of_nonneg hnonneg
    constructor
    · intro _
      omega
    · intro _
      omega
  · have hcut := hrest.of_nonpos hnonpos
    constructor
    · intro _
      omega
    · intro _
      omega

/-- Two instants of the calendar are no farther apart than its two ends. -/
theorem seconds_between_bounds (t earlier : Instant) :
    -16544868105600 ≤ (between t earlier).seconds ∧
      (between t earlier).seconds ≤ 16544868105599 := by
  have ht := t.earliest_le
  have ht' := t.le_latest
  have hearlier := earlier.earliest_le
  have hearlier' := earlier.le_latest
  unfold between
  split
  · dsimp only
    omega
  · dsimp only
    omega

/-- The milliseconds of a time are less than a second beside those in its whole seconds. -/
theorem millis_bounds (s : Span) :
    s.seconds ≤ s.wholeSeconds ∧ s.wholeSeconds ≤ s.seconds + 1 ∧
      s.wholeSeconds * 1000 - 1000 < s.millis ∧ s.millis < s.wholeSeconds * 1000 + 1000 := by
  have hrest := cutOff_tdiv s.restNanos
  have hwhole : s.seconds ≤ s.wholeSeconds ∧ s.wholeSeconds ≤ s.seconds + 1 := by
    unfold wholeSeconds
    split
    · omega
    · omega
  unfold millis
  rcases s.restNanos_bounds with ⟨-, hnonneg, hlt⟩ | ⟨-, hlt, hnonpos⟩
  · have hcut := hrest.of_nonneg hnonneg
    omega
  · have hcut := hrest.of_nonpos hnonpos
    omega

end Span

/-! ### Blocks -/

namespace Instant

/-- One instant is not after another: by the seconds, and within a second by the nanoseconds. -/
def NotAfter (t later : Instant) : Prop :=
  t.seconds < later.seconds ∨ t.seconds = later.seconds ∧ t.nanos ≤ later.nanos

theorem NotAfter.sinceEpoch_le {t later : Instant} (h : t.NotAfter later) :
    t.sinceEpoch ≤ later.sinceEpoch := by
  have ht := t.nanos_lt
  unfold NotAfter at h
  unfold sinceEpoch
  omega

end Instant

namespace Block

section Since

variable (b earlier : Block)

theorem cutOff_millisSince :
    CutOff (b.time.sinceEpoch - earlier.time.sinceEpoch) (b.millisSince earlier) :=
  cutOff_tdiv _

/-- The milliseconds that are counted part by part are those between the blocks. -/
theorem millis_between : (Span.between b.time earlier.time).millis = b.millisSince earlier := by
  have hspan := (Span.between b.time earlier.time).cutOff_millis.eq_tdiv
  rw [Span.toNanos_between] at hspan
  exact hspan

theorem millisSince_comm : earlier.millisSince b = -(b.millisSince earlier) := by
  unfold millisSince Instant.millisSince
  rw [← Int.neg_tdiv, Int.neg_sub]

theorem millisSince_mono {later : Block} (h : b.time.NotAfter later.time) :
    b.millisSince earlier ≤ later.millisSince earlier := by
  have hle := h.sinceEpoch_le
  exact Int.tdiv_le_tdiv (by decide) (Int.sub_le_sub_right hle _)

end Since

/-- The milliseconds between two blocks, whatever their instants are. They are counted from the
seconds and the nanoseconds between the two, the nanoseconds being never negative, and neither the
seconds nor the milliseconds in them nor the count itself leave 64 bits. The count is the exact time
cut off towards zero. It changes its sign when the blocks change places, does not fall when the
later block is later, and has nothing to do with the numbers of the blocks. Between whole seconds it
is exact. A round that is given the one block and remembers the other one exports it as thousandths
of a second. -/
theorem millisSince_exact (b earlier : Block) :
    let span := Span.between b.time earlier.time
    let count := b.millisSince earlier
    count = span.millis ∧
    (∀ n ∈ [span.seconds, span.wholeSeconds * 1000, count], -2 ^ 63 ≤ n ∧ n < 2 ^ 63) ∧
    CutOff ((b.time.seconds - earlier.time.seconds) * 1000000000 +
      ((b.time.nanos : Int) - earlier.time.nanos)) count ∧
    earlier.millisSince b = -count ∧
    (∀ later : Block, b.time.NotAfter later.time → count ≤ later.millisSince earlier) ∧
    (∀ n m, millisSince { b with number := n } { earlier with number := m } = count) ∧
    (b.time.nanos = 0 → earlier.time.nanos = 0 →
      count = 1000 * (b.time.seconds - earlier.time.seconds)) ∧
    ∀ r labels number status, r.blockByNumber number = .ok b → status.lastBlock = some earlier →
      .set "blocktime" labels (.thousandths count) ∈
        (Round.askBlock r labels number status).2.1 := by
  intro span count
  have hspan : span.millis = count := b.millis_between earlier
  refine ⟨hspan.symm, ?_, ?_, b.millisSince_comm earlier, ?_, fun _ _ => rfl, ?_, ?_⟩
  · have hseconds : -16544868105600 ≤ span.seconds ∧ span.seconds ≤ 16544868105599 :=
      Span.seconds_between_bounds b.time earlier.time
    have hmillis := span.millis_bounds
    rw [hspan] at hmillis
    simp only [List.forall_mem_cons, List.not_mem_nil, false_implies, implies_true, and_true]
    omega
  · have hnanos : b.time.sinceEpoch - earlier.time.sinceEpoch =
        (b.time.seconds - earlier.time.seconds) * 1000000000 +
          ((b.time.nanos : Int) - earlier.time.nanos) := by
      unfold Instant.sinceEpoch
      omega
    rw [← hnanos]
    exact b.cutOff_millisSince earlier
  · intro later hlater
    exact b.millisSince_mono earlier hlater
  · intro hb hearlier
    exact millisSince_of_whole hb hearlier
  · intro r labels number status hblock hlast
    simp [Round.askBlock, hblock, hlast, count, Gauge.blockTime]

/-- A block less than a millisecond before another one, on the other side of a second. -/
theorem millisSince_across_second :
    let b : Block := { number := 1, time := ⟨-1, 999000001, by decide, by decide, by decide⟩ }
    let earlier : Block := { number := 2, time := ⟨0, 0, by decide, by decide, by decide⟩ }
    b.millisSince earlier = 0 := by
  intro b earlier
  obtain ⟨-, -, hcut, -⟩ := b.millisSince_exact earlier
  have hbounds := hcut.of_nonpos (by decide)
  have hnanos : (b.time.seconds - earlier.time.seconds) * 1000000000 +
      ((b.time.nanos : Int) - earlier.time.nanos) = -999999 := by decide
  omega

end Block

end NodeWatch
