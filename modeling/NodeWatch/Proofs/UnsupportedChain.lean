import Mathlib.Algebra.Group.Nat.Defs
import Mathlib.Order.Bounds.Defs
import NodeWatch.Proofs.Course

/-!
# Unsupported chains

The streak says how often in a row the node has named one and the same unsupported chain, and every
tenth time is noted as an error. Both are decided by the attempts to connect alone: after any
attempts the counter is the length of the longest run of like answers at their end. The rounds of a
monitor are no attempts, so its streak is that of its attempts.
-/

namespace NodeWatch

/-- What is noted as an error. -/
def errorNotes (events : List Event) : List Notice := (notices events).filter (·.level = .error)

@[simp] theorem errorNotes_append (before after : List Event) :
    errorNotes (before ++ after) = errorNotes before ++ errorNotes after := by
  rw [errorNotes, notices_append, List.filter_append]
  rfl

namespace Replies

/-- The unsupported chain that the node names when it is asked for its chain. -/
def unsupported? (r : Replies) : Option String :=
  r.chainId.toOption.filter fun id => (Chain.ofId? id).isNone

/-- Attempts in which the node named one and the same unsupported chain. -/
def SameUnsupported (attempts : List Replies) : Prop :=
  ∃ id, ∀ r ∈ attempts, r.unsupported? = some id

/-- The lengths of the ends of attempts in which the node named one unsupported chain. -/
def unsupportedEnds (attempts : List Replies) : Set Nat :=
  {n | ∃ last, last <:+ attempts ∧ SameUnsupported last ∧ last.length = n}

/-- No attempts are always such an end. -/
theorem zero_mem_unsupportedEnds (attempts : List Replies) : 0 ∈ unsupportedEnds attempts :=
  ⟨[], List.nil_suffix, ⟨"", by simp⟩, rfl⟩

/-- The chain that was named at the end of attempts is the one that was named last. -/
theorem getLast?_of_suffix {attempts last : List Replies} {id : String} (h : last <:+ attempts)
    (hid : ∀ r ∈ last, r.unsupported? = some id) (hne : last ≠ []) :
    attempts.getLast?.bind unsupported? = some id := by
  obtain ⟨earlier, rfl⟩ := h
  rw [List.getLast?_append_of_ne_nil earlier hne, List.getLast?_eq_some_getLast hne,
    Option.bind_some]
  exact hid _ (List.getLast_mem hne)

end Replies

namespace Connection

/-- An unsupported chain is recorded, and any other answer clears the streak. -/
theorem streak_attempt_eq (r : Replies) (s : Streak) :
    (attempt r s).1 = r.unsupported?.elim .clear s.record := by
  rw [streak_attempt, Replies.unsupported?]
  cases r.chainId with
  | error e => rfl
  | ok id => cases h : Chain.ofId? id <;> simp [Streak.heard, Except.toOption, Option.filter, h]

/-- Only an unsupported chain may be noted as an error. -/
theorem errorNotes_attempt (r : Replies) (s : Streak) :
    errorNotes (attempt r s).2.2 =
      r.unsupported?.elim [] fun id => errorNotes ((s.record id).notes id) := by
  rw [Replies.unsupported?]
  cases hid : r.chainId with
  | error e => simp [attempt, hid, errorNotes, Except.toOption]
  | ok id =>
    cases hc : Chain.ofId? id with
    | none => simp [attempt, hid, hc, errorNotes, Except.toOption, Option.filter]
    | some chain =>
      cases hf : r.explorerFactory chain <;>
        simp [attempt, hid, hc, hf, errorNotes, Except.toOption, Option.filter, Notice.level]

end Connection

namespace Streak

/-- The streak after attempts that are made one after the other. -/
def after (s : Streak) (attempts : List Replies) : Streak :=
  attempts.foldl (fun s r => (Connection.attempt r s).1) s

/-- What attempts note as errors when they are made one after the other. -/
def errors (s : Streak) : List Replies → List Notice
  | [] => []
  | r :: rest => errorNotes (Connection.attempt r s).2.2 ++ errors (Connection.attempt r s).1 rest

@[simp] theorem after_nil (s : Streak) : s.after [] = s := rfl

theorem after_concat (s : Streak) (attempts : List Replies) (r : Replies) :
    s.after (attempts ++ [r]) = (Connection.attempt r (s.after attempts)).1 := by
  simp only [after, List.foldl_append, List.foldl_cons, List.foldl_nil]

theorem errors_concat (s : Streak) (attempts : List Replies) (r : Replies) :
    s.errors (attempts ++ [r]) =
      s.errors attempts ++ errorNotes (Connection.attempt r (s.after attempts)).2.2 := by
  induction attempts generalizing s with
  | nil => simp [errors]
  | cons first rest ih =>
    rw [List.cons_append, errors, ih, errors, List.append_assoc]
    rfl

/-- The streak tells how the attempts end. -/
structure Counts (attempts : List Replies) (s : Streak) : Prop where
  lastId : s.lastId = attempts.getLast?.bind Replies.unsupported?
  times : IsGreatest (Replies.unsupportedEnds attempts) s.times.toNat

/-- Before the first attempt the streak is clear. -/
theorem counts_clear : Counts [] clear where
  lastId := rfl
  times := by
    refine ⟨Replies.zero_mem_unsupportedEnds [], ?_⟩
    rintro n ⟨last, hlast, -, rfl⟩
    exact hlast.length_le

namespace Counts

variable {attempts : List Replies} {s : Streak} {r : Replies} {id : String}

/-- The streak never counts more attempts than there were. -/
theorem times_le (h : Counts attempts s) : s.times.toNat ≤ attempts.length := by
  obtain ⟨last, hlast, -, heq⟩ := h.times.1
  rw [← heq]
  exact hlast.length_le

/-- An attempt without an unsupported chain ends every run. -/
theorem concat_of_none (hr : r.unsupported? = none) : Counts (attempts ++ [r]) clear where
  lastId := by rw [List.getLast?_concat, Option.bind_some, hr]; rfl
  times := by
    refine ⟨Replies.zero_mem_unsupportedEnds _, ?_⟩
    rintro n ⟨last, hlast, ⟨id, hid⟩, rfl⟩
    rcases List.suffix_concat_iff.mp hlast with rfl | ⟨front, rfl, -⟩
    · exact Nat.le_refl 0
    · have hnamed := hid r (List.mem_append_right _ (List.mem_singleton_self r))
      rw [hr] at hnamed
      cases hnamed

/-- One more attempt with the same unsupported chain makes the run longer by one. -/
theorem concat_of_same (h : Counts attempts s) (hlength : attempts.length + 1 < 2 ^ 32)
    (hr : r.unsupported? = some id) (hlast : s.lastId = some id) :
    Counts (attempts ++ [r]) { s with times := s.times + 1 } where
  lastId := by rw [List.getLast?_concat, Option.bind_some, hr]; exact hlast
  times := by
    have hadd : (s.times + 1).toNat = s.times.toNat + 1 := by
      have hle := h.times_le
      rw [UInt32.toNat_add]
      exact Nat.mod_eq_of_lt (by change s.times.toNat + 1 < 2 ^ 32; omega)
    change IsGreatest _ (s.times + 1).toNat
    rw [hadd]
    constructor
    · obtain ⟨last, hsuffix, ⟨named, hnamed⟩, hcount⟩ := h.times.1
      refine ⟨last ++ [r], List.suffix_concat_iff.mpr (Or.inr ⟨last, rfl, hsuffix⟩), ⟨id, ?_⟩, ?_⟩
      · intro x hx
        rcases List.mem_append.mp hx with hx | hx
        · have hsame := Replies.getLast?_of_suffix hsuffix hnamed (List.ne_nil_of_mem hx)
          rw [← h.lastId, hlast] at hsame
          rw [hsame]
          exact hnamed x hx
        · rw [List.mem_singleton.mp hx, hr]
      · rw [List.length_append, hcount, List.length_singleton]
    · rintro n ⟨last, hsuffix, ⟨named, hnamed⟩, rfl⟩
      rcases List.suffix_concat_iff.mp hsuffix with rfl | ⟨front, rfl, hfront⟩
      · exact Nat.zero_le _
      · have hle : front.length ≤ s.times.toNat :=
          h.times.2 ⟨front, hfront, ⟨named, fun x hx => hnamed x (List.mem_append_left _ hx)⟩, rfl⟩
        rw [List.length_append, List.length_singleton]
        omega

/-- Another unsupported chain begins a run. -/
theorem concat_of_other (h : Counts attempts s) (hr : r.unsupported? = some id)
    (hlast : s.lastId ≠ some id) :
    Counts (attempts ++ [r]) { times := 1, lastId := some id } where
  lastId := by rw [List.getLast?_concat, Option.bind_some, hr]
  times := by
    constructor
    · refine ⟨[r], List.suffix_append attempts [r], ⟨id, fun x hx => ?_⟩, rfl⟩
      rw [List.mem_singleton.mp hx, hr]
    · rintro n ⟨last, hsuffix, ⟨named, hnamed⟩, rfl⟩
      rcases List.suffix_concat_iff.mp hsuffix with rfl | ⟨front, rfl, hfront⟩
      · exact Nat.zero_le _
      · have hid : named = id := by
          have hr' := hnamed r (List.mem_append_right _ (List.mem_singleton_self r))
          exact Option.some.inj (hr'.symm.trans hr)
        have hnil : front = [] := by
          by_contra hne
          have hsame := Replies.getLast?_of_suffix hfront
            (fun x hx => hnamed x (List.mem_append_left _ hx)) hne
          exact hlast (h.lastId.trans (hid ▸ hsame))
        rw [hnil]
        exact Nat.le_refl 1

/-- Every attempt keeps the count. -/
theorem concat (h : Counts attempts s) (hlength : attempts.length + 1 < 2 ^ 32) (r : Replies) :
    Counts (attempts ++ [r]) (Connection.attempt r s).1 := by
  rw [Connection.streak_attempt_eq]
  cases hr : r.unsupported? with
  | none => exact concat_of_none hr
  | some id =>
    rw [Option.elim_some, Streak.record]
    split
    · exact h.concat_of_same hlength hr ‹_›
    · exact h.concat_of_other hr ‹_›

end Counts

/-- The streak after attempts tells how they end. -/
theorem counts_after {attempts : List Replies} (h : attempts.length < 2 ^ 32) :
    Counts attempts (clear.after attempts) := by
  induction attempts using List.reverseRecOn with
  | nil => exact counts_clear
  | append_singleton attempts r ih =>
    rw [List.length_append, List.length_singleton] at h
    rw [after_concat]
    exact (ih (by omega)).concat h r

/-- A streak notes an error if it is at a multiple of ten. -/
theorem errorNotes_notes (s : Streak) (id : String) :
    errorNotes (s.notes id) =
      if 10 ∣ s.times.toNat then [.unsupportedAgain id s.times] else [] := by
  have hmod : s.times % 10 = 0 ↔ 10 ∣ s.times.toNat := by
    rw [← UInt32.toNat_inj, UInt32.toNat_mod]
    exact (Nat.dvd_iff_mod_eq_zero).symm
  unfold notes
  simp only [hmod]
  split <;> rfl

/-- The attempt after some others notes an error exactly if the streak is then at a multiple of ten
other than zero, and the error names the chain and the count. -/
theorem errorNotes_after {attempts : List Replies} {r : Replies}
    (h : (attempts ++ [r]).length < 2 ^ 32) :
    errorNotes (Connection.attempt r (clear.after attempts)).2.2 =
      let times := (clear.after (attempts ++ [r])).times
      if 0 < times.toNat ∧ 10 ∣ times.toNat then
        (r.unsupported?.map fun id => .unsupportedAgain id times).toList
      else [] := by
  have hcounts := counts_after h
  rw [after_concat, Connection.streak_attempt_eq] at hcounts ⊢
  rw [Connection.errorNotes_attempt]
  cases hr : r.unsupported? with
  | none => rfl
  | some id =>
    rw [hr, Option.elim_some] at hcounts
    have hpos : 0 < ((clear.after attempts).record id).times.toNat :=
      hcounts.times.2 ⟨[r], List.suffix_append attempts [r],
        ⟨id, fun x hx => by rw [List.mem_singleton.mp hx, hr]⟩, rfl⟩
    simp only [Option.elim_some, errorNotes_notes, hpos, true_and, Option.map_some,
      Option.toList_some]

section Block

variable {s : Streak} {id : String} {block : List Replies}

/-- While the node names an unsupported chain that is new, the streak counts how often it did. -/
theorem after_block (hs : s.lastId ≠ some id) (hblock : ∀ r ∈ block, r.unsupported? = some id)
    (hne : block ≠ []) : s.after block = { times := .ofNat block.length, lastId := some id } := by
  induction block using List.reverseRecOn with
  | nil => exact absurd rfl hne
  | append_singleton block r ih =>
    have hr := hblock r (List.mem_append_right _ (List.mem_singleton_self r))
    rw [after_concat, Connection.streak_attempt_eq, hr, Option.elim_some, List.length_append,
      List.length_singleton]
    by_cases hnil : block = []
    · rw [hnil, after_nil, record, if_neg hs]
      rfl
    · rw [ih (fun x hx => hblock x (List.mem_append_left _ hx)) hnil, record, if_pos rfl,
        UInt32.ofNat_add]
      rfl

/-- While the node names an unsupported chain that is new, every tenth attempt notes it. -/
theorem errors_block (hs : s.lastId ≠ some id) (hblock : ∀ r ∈ block, r.unsupported? = some id)
    (hlength : block.length < 2 ^ 32) :
    s.errors block = (List.range (block.length / 10)).map fun k =>
      .unsupportedAgain id (.ofNat (10 * (k + 1))) := by
  induction block using List.reverseRecOn with
  | nil => rfl
  | append_singleton block r ih =>
    have hr := hblock r (List.mem_append_right _ (List.mem_singleton_self r))
    have hafter := after_block hs hblock (by simp)
    rw [after_concat, Connection.streak_attempt_eq, hr, Option.elim_some] at hafter
    have htimes : (UInt32.ofNat (block ++ [r]).length).toNat = block.length + 1 := by
      rw [UInt32.toNat_ofNat_of_lt' hlength, List.length_append, List.length_singleton]
    rw [List.length_append, List.length_singleton] at hlength
    rw [errors_concat, ih (fun x hx => hblock x (List.mem_append_left _ hx)) (by omega),
      Connection.errorNotes_attempt, hr, Option.elim_some, hafter, errorNotes_notes, htimes,
      List.length_append, List.length_singleton]
    by_cases hten : 10 ∣ block.length + 1
    · have hdiv : (block.length + 1) / 10 = block.length / 10 + 1 := by omega
      have hcount : 10 * (block.length / 10 + 1) = block.length + 1 := by omega
      rw [if_pos hten, hdiv, List.range_succ, List.map_append, List.map_singleton, hcount]
    · have hdiv : (block.length + 1) / 10 = block.length / 10 := by omega
      rw [if_neg hten, hdiv, List.append_nil]

end Block

end Streak

namespace Tick

/-- The answers to the attempts to connect among some ticks. -/
def attempts (ticks : List Tick) : List Replies :=
  (ticks.filter fun t => t.before.connection.isNone).map (·.replies)

theorem attempts_concat (ticks : List Tick) (t : Tick) :
    attempts (ticks ++ [t]) =
      attempts ticks ++ t.before.connection.elim [t.replies] fun _ => [] := by
  rw [attempts, List.filter_append, List.map_append]
  cases h : t.before.connection <;> simp [attempts, h]

/-- A tick notes an error only in an attempt to connect. -/
theorem errorNotes_events (t : Tick) :
    errorNotes t.events = t.before.connection.elim
      (errorNotes (Connection.attempt t.replies t.before.streak).2.2) fun _ => [] := by
  have hround (explorer : ExplorerId) : errorNotes (Round.run t.replies explorer t.before.labels
      t.before.threshold t.before.status).2.2 = [] := by
    rw [errorNotes, Round.notices_run, List.filter_eq_nil_iff]
    intro notice hnotice
    obtain ⟨synced, -, rfl⟩ := Option.map_eq_some_iff.mp (Option.mem_toList.mp hnotice)
    simp [Notice.level]
  have h := t.step
  generalize t.after = after, t.outcome = outcome, t.events = events at h ⊢
  cases h with
  | connected idle _ attempt | connectFailed idle _ attempt =>
    rw [idle, attempt, errorNotes_append]
    exact List.append_nil _
  | @round connection _ report _ busy run =>
    have hnone := hround connection.explorer
    rw [run] at hnone
    rw [busy, errorNotes_append, hnone]
    -- a round without failures ends with another note than one with failures
    cases report.isOk <;> rfl
  | @disconnected connection _ _ _ busy run =>
    have hnone := hround connection.explorer
    rw [run] at hnone
    rw [busy, errorNotes_append, hnone]
    rfl

end Tick

namespace Monitor

/-- The streak of a monitor is that of its attempts to connect. -/
theorem streak_after_eq (c : Config) (script : List Replies) :
    ((ofConfig c).after script).streak =
      Streak.clear.after (Tick.attempts ((ofConfig c).ticks script)) := by
  induction script using List.reverseRecOn with
  | nil => rfl
  | append_singleton script r ih =>
    let t : Tick := ⟨(ofConfig c).after script, r⟩
    have hstreak : t.after.streak = _ := t.streak_after
    rw [ticks_concat, after_concat, Tick.attempts_concat]
    change t.after.streak = Streak.clear.after (_ ++ t.before.connection.elim [t.replies] _)
    rw [hstreak]
    cases t.before.connection with
    | none =>
      rw [Option.elim_none, Option.elim_none, Streak.after_concat, Connection.streak_attempt, ← ih]
    | some connection => rw [Option.elim_some, Option.elim_some, List.append_nil, ← ih]

/-- What the ticks of a run note as errors is what its attempts to connect do. -/
theorem errorNotes_ticks (c : Config) (script : List Replies) :
    ((ofConfig c).ticks script).flatMap (fun t => errorNotes t.events) =
      Streak.clear.errors (Tick.attempts ((ofConfig c).ticks script)) := by
  induction script using List.reverseRecOn with
  | nil => rfl
  | append_singleton script r ih =>
    let t : Tick := ⟨(ofConfig c).after script, r⟩
    have hstreak : t.before.streak = _ := streak_after_eq c script
    rw [ticks_concat, Tick.attempts_concat, List.flatMap_append, ih, List.flatMap_singleton]
    change _ ++ errorNotes t.events = Streak.errors _ (_ ++ t.before.connection.elim [t.replies] _)
    rw [Tick.errorNotes_events, hstreak]
    cases t.before.connection with
    | none => rw [Option.elim_none, Option.elim_none, Streak.errors_concat]
    | some connection => rw [Option.elim_some, Option.elim_some, List.append_nil, List.append_nil]

/-- The streak after any attempts, of which there are fewer than can be counted, is the length of
the longest run at their end in which the node named one and the same unsupported chain; after any
other answer it is zero. An attempt notes an error exactly if the streak is then at a positive
multiple of ten, and the error names the chain and the count. So while the node keeps naming a chain
that it did not name just before, every tenth attempt notes an error. The attempts of a monitor are
its ticks without a connection: they alone decide its streak and note all its errors. -/
theorem streak_counts_unsupported {attempts : List Replies} (h : attempts.length < 2 ^ 32) :
    let streak := Streak.clear.after attempts
    IsGreatest
        {n | ∃ last, last <:+ attempts ∧ (∃ id, ∀ r ∈ last, r.unsupported? = some id) ∧
          last.length = n}
        streak.times.toNat ∧
      (∀ earlier r, attempts = earlier ++ [r] →
        (r.unsupported? = none → streak.times = 0) ∧
        errorNotes (Connection.attempt r (Streak.clear.after earlier)).2.2 =
          if 0 < streak.times.toNat ∧ 10 ∣ streak.times.toNat then
            (r.unsupported?.map fun id => .unsupportedAgain id streak.times).toList
          else []) ∧
      (∀ earlier block later id, attempts = earlier ++ block ++ later →
        (∀ r ∈ block, r.unsupported? = some id) →
        earlier.getLast?.bind Replies.unsupported? ≠ some id →
        (Streak.clear.after earlier).errors block = (List.range (block.length / 10)).map fun k =>
          .unsupportedAgain id (.ofNat (10 * (k + 1)))) ∧
      ∀ c script, attempts = Tick.attempts ((ofConfig c).ticks script) →
        ((ofConfig c).after script).streak = streak ∧
        ((ofConfig c).ticks script).flatMap (fun t => errorNotes t.events) =
          Streak.clear.errors attempts ∧
        ∀ t ∈ (ofConfig c).ticks script, t.before.connection.isSome = true →
          t.after.streak = t.before.streak ∧ errorNotes t.events = [] := by
  intro streak
  refine ⟨(Streak.counts_after h).times, ?_, ?_, ?_⟩
  · rintro earlier r rfl
    refine ⟨fun hr => ?_, Streak.errorNotes_after h⟩
    change (Streak.clear.after (earlier ++ [r])).times = 0
    rw [Streak.after_concat, Connection.streak_attempt_eq, hr]
    rfl
  · rintro earlier block later id rfl hblock hlast
    rw [List.length_append, List.length_append] at h
    have hcounts : Streak.Counts earlier (Streak.clear.after earlier) :=
      Streak.counts_after (by omega)
    exact Streak.errors_block (hcounts.lastId ▸ hlast) hblock (by omega)
  · rintro c script rfl
    refine ⟨streak_after_eq c script, errorNotes_ticks c script, fun t _ hsome => ?_⟩
    obtain ⟨connection, hconnection⟩ := Option.isSome_iff_exists.mp hsome
    rw [t.streak_after, t.errorNotes_events, hconnection]
    exact ⟨rfl, rfl⟩

end Monitor

/-- The answers of a node on a chain that has no known explorer. -/
def Replies.misplaced : Replies := { Replies.healthy with chainId := .ok "ropsten" }

/-- The answers of a node for whose chain no explorer client can be built. -/
def Replies.unbuilt : Replies :=
  { Replies.healthy with explorerFactory := fun _ => .error (.http 503) }

namespace Monitor

/-- Nine attempts with an unsupported chain and ten more note a single error, if an attempt with a
known chain lies between them, though no explorer client could be built in it. -/
theorem single_error_around_unbuilt :
    let earlier := List.replicate 9 Replies.misplaced ++ [Replies.unbuilt]
    let later := List.replicate 10 Replies.misplaced
    (earlier ++ later ++ []).length < 2 ^ 32 ∧
      (Streak.clear.after earlier).errors later = [.unsupportedAgain "ropsten" 10] := by
  intro earlier later
  have hlength : (earlier ++ later ++ []).length < 2 ^ 32 := by decide
  obtain ⟨-, -, hblock, -⟩ := streak_counts_unsupported hlength
  have hlater : ∀ r ∈ later, r.unsupported? = some "ropsten" := by
    intro r hr
    rw [List.eq_of_mem_replicate hr]
    rfl
  have herrors := hblock earlier later [] "ropsten" rfl hlater (by decide)
  exact ⟨hlength, herrors.trans (by decide)⟩

end Monitor

end NodeWatch
