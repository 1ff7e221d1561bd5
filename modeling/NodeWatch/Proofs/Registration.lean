import NodeWatch.Proofs.Round
import NodeWatch.Registry.Supervisor

/-!
# The attempts to register

Attempts go on until one succeeds or all have failed. How many are made, when each of them is made
and what is noted follows from the replies alone: as long as attempts fail, each starts one pause
after the end of the one before it, and the last thing noted tells how it all ended.
-/

namespace NodeWatch.Registry

/-- The service that an event submits, if it submits one. -/
def Event.service? : Event → Option Service
  | .submit service => some service
  | .note _ => none

/-- The services that were submitted, one for each attempt. -/
def Attempts.submissions (a : Attempts) : List Service :=
  a.trace.filterMap fun (_, e) => e.service?

namespace Supervisor

variable (s : Supervisor) (replies : Nat → Reply)

/-- When an attempt starts, counted from zero, if all before it failed. -/
def startOf : Nat → Nat
  | 0 => 0
  | i + 1 => startOf i + (replies i).duration + s.backoff

/-- When that attempt ends. -/
def finishOf (i : Nat) : Nat := s.startOf replies i + (replies i).duration

/-- When the last of some attempts ends, or the time zero if there are none. -/
def exhaustedAt : Nat → Nat
  | 0 => 0
  | i + 1 => s.finishOf replies i

/-- What happens in an attempt that fails. -/
def failed (i : Nat) : List (Nat × Event) :=
  (s.startOf replies i, .submit s.service) ::
    ((errorOf? (replies i).result).map fun e =>
      (s.finishOf replies i, .note (.registrationFailed (i + 1) s.maxAttempts.toNat e))).toList

/-- What happens in an attempt that succeeds. -/
def succeeded (i : Nat) : List (Nat × Event) :=
  [(s.startOf replies i, .submit s.service),
    (s.finishOf replies i, .note (.registered s.service.name s.service.id))]

/-- What attempts come to that go on after something has happened: `made` have failed, and the next
one starts when the pause is over. -/
def continued (made : Nat) (earlier : List (Nat × Event)) (left : Nat) : Outcome × Progress :=
  ((s.attempt (.ofReplies replies) made left).run ⟨s.startOf replies made, earlier⟩).run

/-- An attempt that succeeds is the last one. -/
theorem continued_of_ok {made : Nat} (h : (replies made).result = .ok ())
    (earlier : List (Nat × Event)) (left : Nat) :
    s.continued replies made earlier (left + 1) =
      (.registered (made + 1),
        ⟨s.finishOf replies made, earlier ++ s.succeeded replies made⟩) := by
  simp [continued, attempt, World.ofReplies, h, succeeded, finishOf]

/-- If the last attempt fails, all is given up at once. -/
theorem continued_of_last_error {made : Nat} {e : RegistryError}
    (h : (replies made).result = .error e) (earlier : List (Nat × Event)) :
    s.continued replies made earlier 1 =
      (.gaveUp s.maxAttempts.toNat,
        ⟨s.finishOf replies made, earlier ++ s.failed replies made ++
          [(s.finishOf replies made, .note (.registrationGivenUp s.maxAttempts.toNat))]⟩) := by
  simp [continued, attempt, World.ofReplies, h, failed, finishOf, errorOf?]

/-- An attempt that fails and is not the last one is followed by a pause and the next attempt. -/
theorem continued_of_error {made left : Nat} {e : RegistryError}
    (h : (replies made).result = .error e) (hleft : 0 < left) (earlier : List (Nat × Event)) :
    s.continued replies made earlier (left + 1) =
      s.continued replies (made + 1) (earlier ++ s.failed replies made) left := by
  have hne : left ≠ 0 := Nat.ne_of_gt hleft
  simp [continued, attempt, World.ofReplies, h, hne, failed, finishOf, startOf, errorOf?]

/-- As long as attempts fail and others are left, the next one is made after a pause. -/
theorem continued_of_errors {count left : Nat} (hleft : 0 < left)
    (hfail : ∀ i < count, ∃ e, (replies i).result = .error e) :
    s.continued replies 0 [] (count + left) =
      s.continued replies count ((List.range count).flatMap (s.failed replies)) left := by
  induction count generalizing left with
  | zero => simp
  | succ count ih =>
    obtain ⟨e, he⟩ := hfail count (Nat.lt_succ_self count)
    have hcount : count + 1 + left = count + (left + 1) := by omega
    rw [hcount, ih (Nat.succ_pos left) fun i hi => hfail i (Nat.lt_succ_of_lt hi),
      s.continued_of_error replies he hleft, List.range_succ, List.flatMap_append,
      List.flatMap_singleton]

/-- A run is what attempts come to that go on after nothing. -/
theorem run_eq_continued :
    s.run replies =
      let (outcome, progress) := s.continued replies 0 [] s.maxAttempts.toNat
      { outcome, trace := progress.trace, endedAt := progress.now } := rfl

/-- The first success ends the attempts. -/
theorem run_of_success {k : Nat} (hk : k < s.maxAttempts.toNat)
    (hfail : ∀ i < k, ∃ e, (replies i).result = .error e) (hok : (replies k).result = .ok ()) :
    s.run replies =
      { outcome := .registered (k + 1)
        trace := (List.range k).flatMap (s.failed replies) ++ s.succeeded replies k
        endedAt := s.finishOf replies k } := by
  obtain ⟨left, hleft⟩ := Nat.exists_eq_add_of_lt hk
  rw [run_eq_continued, hleft, Nat.add_assoc,
    s.continued_of_errors replies (Nat.succ_pos left) hfail, s.continued_of_ok replies hok]

/-- Without a success all attempts are made. -/
theorem run_of_errors (hfail : ∀ i < s.maxAttempts.toNat, ∃ e, (replies i).result = .error e) :
    s.run replies =
      { outcome := .gaveUp s.maxAttempts.toNat
        trace := (List.range s.maxAttempts.toNat).flatMap (s.failed replies) ++
          [(s.exhaustedAt replies s.maxAttempts.toNat,
            .note (.registrationGivenUp s.maxAttempts.toNat))]
        endedAt := s.exhaustedAt replies s.maxAttempts.toNat } := by
  cases hmax : s.maxAttempts.toNat with
  | zero => simp [run, runIn, attempt, hmax, World.ofReplies, exhaustedAt]
  | succ count =>
    rw [hmax] at hfail
    obtain ⟨e, he⟩ := hfail count (Nat.lt_succ_self count)
    rw [run_eq_continued, hmax, s.continued_of_errors replies Nat.one_pos
      (fun i hi => hfail i (Nat.lt_succ_of_lt hi)), s.continued_of_last_error replies he, hmax,
      List.range_succ, List.flatMap_append, List.flatMap_singleton]
    rfl

/-- There is a first success, or no attempt succeeds. -/
theorem first_success_or_errors (count : Nat) :
    (∃ k < count, (∀ i < k, ∃ e, (replies i).result = .error e) ∧ (replies k).result = .ok ()) ∨
      ∀ i < count, ∃ e, (replies i).result = .error e := by
  induction count with
  | zero => exact .inr fun i hi => absurd hi (Nat.not_lt_zero i)
  | succ count ih =>
    rcases ih with ⟨k, hk, h⟩ | hfail
    · exact .inl ⟨k, Nat.lt_succ_of_lt hk, h⟩
    · cases hreply : (replies count).result with
      | ok _ => exact .inl ⟨count, Nat.lt_succ_self count, hfail, hreply⟩
      | error e =>
        refine .inr fun i hi => ?_
        rcases Nat.lt_succ_iff_lt_or_eq.mp hi with hi | rfl
        · exact hfail i hi
        · exact ⟨e, hreply⟩

/-- If an attempt is allowed, the service is submitted at once. -/
theorem trace_run_eq_cons {s : Supervisor} (h : 1 ≤ s.maxAttempts.toNat) :
    ∃ rest, (s.run replies).trace = (0, .submit s.service) :: rest := by
  have hfirst (count : Nat) (hcount : 1 ≤ count) :
      ∃ rest, (List.range count).flatMap (s.failed replies) = (0, .submit s.service) :: rest := by
    obtain ⟨later, rfl⟩ := Nat.exists_eq_add_of_le' hcount
    rw [List.range_succ_eq_map, List.flatMap_cons]
    exact ⟨_, rfl⟩
  rcases first_success_or_errors replies s.maxAttempts.toNat with ⟨k, hk, hfail, hok⟩ | hfail
  · rw [s.run_of_success replies hk hfail hok]
    cases k with
    | zero => exact ⟨_, rfl⟩
    | succ k =>
      obtain ⟨rest, hrest⟩ := hfirst (k + 1) (Nat.succ_pos k)
      exact ⟨rest ++ s.succeeded replies (k + 1), by rw [hrest, List.cons_append]⟩
  · obtain ⟨rest, hrest⟩ := hfirst _ h
    rw [s.run_of_errors replies hfail, hrest]
    exact ⟨_, rfl⟩

/-- The warnings of attempts that failed bear the number of the attempt and of those allowed. -/
theorem mem_failed {count time number limit : Nat} {e : RegistryError}
    (h : (time, .note (.registrationFailed number limit e)) ∈
      (List.range count).flatMap (s.failed replies)) :
    limit = s.maxAttempts.toNat ∧ 1 ≤ number ∧ number ≤ count := by
  obtain ⟨i, hi, hmem⟩ := List.mem_flatMap.mp h
  have hi : i < count := List.mem_range.mp hi
  simp only [failed, List.mem_cons, Option.mem_toList, Option.map_eq_some_iff] at hmem
  obtain hmem | ⟨_, _, hmem⟩ := hmem
  · cases hmem
  · cases hmem
    exact ⟨rfl, Nat.succ_pos i, hi⟩

/-- A counter as wide as the limit gives the number to an attempt. -/
def IsNumber (number : Nat) : Prop :=
  ∃ counter : UInt32, 1 ≤ counter ∧ counter ≤ s.maxAttempts ∧ counter.toNat = number

theorem isNumber_iff {number : Nat} :
    s.IsNumber number ↔ 1 ≤ number ∧ number ≤ s.maxAttempts.toNat := by
  constructor
  · rintro ⟨counter, hone, hmost, rfl⟩
    exact ⟨UInt32.le_iff_toNat_le.mp hone, UInt32.le_iff_toNat_le.mp hmost⟩
  · rintro ⟨hone, hmost⟩
    have hwidth : number < UInt32.size := Nat.lt_of_le_of_lt hmost s.maxAttempts.toNat_lt_size
    have hnumber : (UInt32.ofNat number).toNat = number := UInt32.toNat_ofNat_of_lt' hwidth
    refine ⟨.ofNat number, UInt32.le_iff_toNat_le.mpr ?_, UInt32.le_iff_toNat_le.mpr ?_, hnumber⟩
    · rw [hnumber]
      exact hone
    · rw [hnumber]
      exact hmost

/-- All warnings of a run bear the number of an attempt and of those allowed. -/
theorem mem_trace_run {time number limit : Nat} {e : RegistryError}
    (h : (time, .note (.registrationFailed number limit e)) ∈ (s.run replies).trace) :
    limit = s.maxAttempts.toNat ∧ s.IsNumber number := by
  obtain ⟨count, hcount, hmem⟩ : ∃ count ≤ s.maxAttempts.toNat,
      (time, .note (.registrationFailed number limit e)) ∈
        (List.range count).flatMap (s.failed replies) := by
    rcases first_success_or_errors replies s.maxAttempts.toNat with ⟨k, hk, hfail, hok⟩ | hfail
    · rw [s.run_of_success replies hk hfail hok, List.mem_append] at h
      exact ⟨k, Nat.le_of_lt hk, h.resolve_right (by simp [succeeded])⟩
    · rw [s.run_of_errors replies hfail, List.mem_append] at h
      exact ⟨_, Nat.le_refl _, h.resolve_right (by simp)⟩
  obtain ⟨hlimit, hone, hnumber⟩ := s.mem_failed replies hmem
  exact ⟨hlimit, s.isNumber_iff.mpr ⟨hone, Nat.le_trans hnumber hcount⟩⟩

/-- The number that a success is told with is that of an attempt. -/
theorem isNumber_of_registered {number : Nat} (h : (s.run replies).outcome = .registered number) :
    s.IsNumber number := by
  rcases first_success_or_errors replies s.maxAttempts.toNat with ⟨k, hk, hfail, hok⟩ | hfail
  · rw [s.run_of_success replies hk hfail hok] at h
    cases h
    exact s.isNumber_iff.mpr ⟨Nat.succ_pos k, hk⟩
  · rw [s.run_of_errors replies hfail] at h
    cases h

/-- In some attempts that fail the service is submitted once each. -/
theorem services_failed (attempts : List Nat) :
    (attempts.flatMap (s.failed replies)).filterMap (fun (_, e) => e.service?) =
      List.replicate attempts.length s.service := by
  induction attempts with
  | nil => rfl
  | cons i rest ih =>
    rw [List.flatMap_cons, List.filterMap_append, ih, List.length_cons, List.replicate_succ, failed]
    cases errorOf? (replies i).result <;> rfl

/-- The attempts to register a service, for every number of attempts that are allowed, every pause
and all replies. If an attempt succeeds, the first such attempt is the last one and the outcome
gives its number; otherwise all that are allowed are made. Each attempt submits the service of the
supervisor. In the trace each attempt that failed leaves its submission and one warning with its
number, and starts one pause after the end of the one before it; at the end of the last attempt
there is one more line, of the success or of the giving up. Whatever the replies, every number of an
attempt that is noted or told is one that a counter as wide as the limit reaches. -/
theorem run_outcome (s : Supervisor) (replies : Nat → Reply) :
    let a := s.run replies
    let most := s.maxAttempts.toNat
    (∀ k < most, (∀ i < k, ∃ e, (replies i).result = .error e) → (replies k).result = .ok () →
      a.outcome = .registered (k + 1) ∧
      a.submissions = List.replicate (k + 1) s.service ∧
      a.trace = (List.range k).flatMap (s.failed replies) ++
        [(s.startOf replies k, .submit s.service),
          (s.finishOf replies k, .note (.registered s.service.name s.service.id))] ∧
      a.endedAt = s.finishOf replies k) ∧
    ((∀ i < most, ∃ e, (replies i).result = .error e) →
      a.outcome = .gaveUp most ∧
      a.submissions = List.replicate most s.service ∧
      a.trace = (List.range most).flatMap (s.failed replies) ++
        [(s.exhaustedAt replies most, .note (.registrationGivenUp most))] ∧
      a.endedAt = s.exhaustedAt replies most) ∧
    (∀ time number limit e, (time, .note (.registrationFailed number limit e)) ∈ a.trace →
      limit = most ∧ s.IsNumber number) ∧
    (∀ number, a.outcome = .registered number → s.IsNumber number) ∧
    ∀ config consul, s = ofConfig config consul → s.service = .ofConfig config consul := by
  intro a most
  refine ⟨fun k hk hfail hok => ?_, fun hfail => ?_, fun time number limit e => ?_,
    fun number => ?_, fun config consul h => ?_⟩
  · have h : a = _ := s.run_of_success replies hk hfail hok
    refine ⟨by rw [h], ?_, by rw [h]; rfl, by rw [h]⟩
    rw [Attempts.submissions, h, List.filterMap_append, services_failed, List.length_range,
      List.replicate_succ']
    rfl
  · have h : a = _ := s.run_of_errors replies hfail
    refine ⟨by rw [h], ?_, by rw [h], by rw [h]⟩
    rw [Attempts.submissions, h, List.filterMap_append, services_failed, List.length_range]
    exact List.append_nil _
  · exact s.mem_trace_run replies
  · exact s.isNumber_of_registered replies
  · rw [h]
    rfl

/-- A success in the last of three attempts is no giving up; the second of them failed at 60020. -/
theorem registered_in_last_attempt :
    let config : Config := { nodeName := "parity", endpoint := "localhost" }
    let s := ofConfig config { maxAttempts := 3, retryBackoff := 60 }
    let a := s.run fun i =>
      if i < 2 then ⟨.error (.transport "consul" "refused"), 10⟩ else ⟨.ok (), 20⟩
    a.outcome = .registered 3 ∧ a.submissions.length = 3 ∧ a.endedAt = 120040 ∧
      (60020, .note (.registrationFailed 2 3 (.transport "consul" "refused"))) ∈ a.trace ∧
      s.IsNumber 2 := by
  intro config s a
  obtain ⟨hsuccess, _, hnumber, _⟩ := run_outcome s fun i =>
    if i < 2 then ⟨.error (.transport "consul" "refused"), 10⟩ else ⟨.ok (), 20⟩
  obtain ⟨houtcome, hsubmissions, _, hended⟩ := hsuccess 2 (by decide)
    (fun i hi => ⟨.transport "consul" "refused", by simp [hi]⟩) rfl
  have hfailed :
      (60020, .note (.registrationFailed 2 3 (.transport "consul" "refused"))) ∈ a.trace := by
    decide
  refine ⟨houtcome, ?_, hended.trans (by decide), hfailed, (hnumber _ _ _ _ hfailed).2⟩
  rw [hsubmissions, List.length_replicate]

end Supervisor

end NodeWatch.Registry
