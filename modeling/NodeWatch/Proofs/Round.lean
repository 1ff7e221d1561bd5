import NodeWatch.Round

/-!
# What a round obtains and what it does

A round is described by what the collaborators tell it: the block and the lag that it obtains decide
the status after it, and the questions that it asks decide its report. Every fact about rounds that
is used elsewhere is one of these descriptions; the steps of a round are not opened again.
-/

namespace NodeWatch

/-- The error of a reply that is one. -/
def errorOf? {ε α : Type} : Except ε α → Option ε
  | .ok _ => none
  | .error e => some e

/-- The question that an event asks, if it asks one. -/
def Event.call? : Event → Option Call
  | .call question => some question
  | _ => none

/-- The questions that were asked, in order. -/
def calls (events : List Event) : List Call := events.filterMap Event.call?

@[simp] theorem calls_nil : calls [] = [] := rfl

@[simp] theorem calls_append (before after : List Event) :
    calls (before ++ after) = calls before ++ calls after := List.filterMap_append

@[simp] theorem calls_call (q : Call) (rest : List Event) :
    calls (.call q :: rest) = q :: calls rest := rfl

@[simp] theorem calls_set (gauge : String) (labels : Labels) (value : Reading)
    (rest : List Event) : calls (.set gauge labels value :: rest) = calls rest := rfl

@[simp] theorem calls_remove (gauge : String) (labels : Labels) (rest : List Event) :
    calls (.remove gauge labels :: rest) = calls rest := rfl

@[simp] theorem calls_note (notice : Notice) (rest : List Event) :
    calls (.note notice :: rest) = calls rest := rfl

theorem mem_calls {q : Call} {events : List Event} : q ∈ calls events ↔ .call q ∈ events := by
  simp only [calls, List.mem_filterMap]
  constructor
  · rintro ⟨e, he, hq⟩
    cases e with
    | call question =>
      obtain rfl : question = q := Option.some.inj hq
      exact he
    | _ => cases hq
  · intro h
    exact ⟨_, h, rfl⟩

/-- The notice of an event, if it is one. -/
def Event.notice? : Event → Option Notice
  | .note notice => some notice
  | _ => none

/-- What was noted, in order. -/
def notices (events : List Event) : List Notice := events.filterMap Event.notice?

@[simp] theorem notices_nil : notices [] = [] := rfl

@[simp] theorem notices_append (before after : List Event) :
    notices (before ++ after) = notices before ++ notices after := List.filterMap_append

@[simp] theorem notices_call (q : Call) (rest : List Event) :
    notices (.call q :: rest) = notices rest := rfl

@[simp] theorem notices_set (gauge : String) (labels : Labels) (value : Reading)
    (rest : List Event) : notices (.set gauge labels value :: rest) = notices rest := rfl

@[simp] theorem notices_remove (gauge : String) (labels : Labels) (rest : List Event) :
    notices (.remove gauge labels :: rest) = notices rest := rfl

@[simp] theorem notices_note (notice : Notice) (rest : List Event) :
    notices (.note notice :: rest) = notice :: notices rest := rfl

theorem mem_notices {notice : Notice} {events : List Event} :
    notice ∈ notices events ↔ .note notice ∈ events := by
  simp only [notices, List.mem_filterMap]
  constructor
  · rintro ⟨e, he, hnote⟩
    cases e with
    | note found =>
      obtain rfl : found = notice := Option.some.inj hnote
      exact he
    | _ => cases hnote
  · intro h
    exact ⟨_, h, rfl⟩

namespace Replies

/-- The block that a round obtains: it needs a block number to ask for. -/
def block? (r : Replies) : Option Block :=
  r.blockNumber.toOption.bind fun number => (r.blockByNumber number).toOption

/-- The signed lag that a round obtains: it needs both block numbers. -/
def lag? (r : Replies) (explorer : ExplorerId) : Option Int :=
  r.blockNumber.toOption.bind fun own =>
    (r.remoteBlockNumber explorer).toOption.map (blocksBehind own)

/-- How the node fails to answer a question, if it does. The explorer is not the node. -/
def nodeError? (r : Replies) : Call → Option NodeError
  | .chainId => errorOf? r.chainId
  | .peerCount => errorOf? r.peerCount
  | .blockNumber => errorOf? r.blockNumber
  | .blockByNumber number => errorOf? (r.blockByNumber number)
  | .explorerFactory _ | .remoteBlockNumber _ => none

/-- The node refuses the connection when it is asked the question. -/
def Refuses (r : Replies) (q : Call) : Prop :=
  ∃ endpoint, r.nodeError? q = some (.connectionRefused endpoint)

/-- What a round reports of a question that it asks, if it is not answered. -/
def failure? (r : Replies) : Call → Option Failure
  | .peerCount => (errorOf? r.peerCount).map fun e => ⟨.peers, .node e⟩
  | .blockNumber => (errorOf? r.blockNumber).map fun e => ⟨.blockNumber, .node e⟩
  | .blockByNumber number =>
    (errorOf? (r.blockByNumber number)).map fun e => ⟨.block, .node e⟩
  | .remoteBlockNumber explorer =>
    (errorOf? (r.remoteBlockNumber explorer)).map fun e => ⟨.explorer, .explorer e⟩
  | .chainId | .explorerFactory _ => none

end Replies

namespace Round

variable (r : Replies) (explorer : ExplorerId) (labels : Labels) (threshold : UInt64)
  (status : Status)

/-- The questions of a round: without a block number there are only two of them. -/
def questions : List Call :=
  [.peerCount, .blockNumber] ++
    r.blockNumber.toOption.elim [] fun number =>
      [.blockByNumber number, .remoteBlockNumber explorer]

theorem status_askBlock (number : UInt64) :
    (askBlock r labels number status).1 =
      { status with lastBlock := (r.blockByNumber number).toOption.or status.lastBlock } := by
  cases h : r.blockByNumber number <;> simp [askBlock, h, Except.toOption]

theorem status_askExplorer (number : UInt64) :
    (askExplorer r explorer labels threshold number status).1 =
      { status with
        verdict := ((r.remoteBlockNumber explorer).toOption.map fun remote =>
          Verdict.ofLag (absoluteLag (blocksBehind number remote)) threshold).getD
            status.verdict } := by
  cases h : r.remoteBlockNumber explorer <;>
    simp [askExplorer, h, Except.toOption, Verdict.update]

/-- A round changes nothing of the status but the verdict and the last block, and these only as far
as it obtains a lag and a block. -/
theorem status_run :
    (run r explorer labels threshold status).1 =
      { status with
        verdict := ((r.lag? explorer).map fun lag =>
          Verdict.ofLag (absoluteLag lag) threshold).getD status.verdict
        lastBlock := r.block?.or status.lastBlock } := by
  cases h : r.blockNumber with
  | error e => simp [run, h, Replies.lag?, Replies.block?, Except.toOption]
  | ok number =>
    simp only [run, h, examine, status_askExplorer, status_askBlock, Replies.lag?,
      Replies.block?, Except.toOption, Option.bind_some, Option.map_map]
    rfl

theorem calls_askPeers : calls (askPeers r labels).1 = [.peerCount] := by
  cases h : r.peerCount <;> simp [askPeers, h]

theorem calls_askBlock (number : UInt64) :
    calls (askBlock r labels number status).2.1 = [.blockByNumber number] := by
  cases h : r.blockByNumber number with
  | error e => simp [askBlock, h]
  | ok block => cases hl : status.lastBlock <;> simp [askBlock, h, hl]

theorem calls_askExplorer (number : UInt64) :
    calls (askExplorer r explorer labels threshold number status).2.2 =
      [.remoteBlockNumber explorer] := by
  cases h : r.remoteBlockNumber explorer with
  | error e => simp [askExplorer, h]
  | ok remote =>
    simp only [askExplorer, h]
    split <;> simp

/-- A round asks its questions in a fixed order, whatever the answers are. -/
theorem calls_run :
    calls (run r explorer labels threshold status).2.2 = questions r explorer := by
  cases h : r.blockNumber <;>
    simp [run, h, examine, questions, Except.toOption, calls_askPeers, calls_askBlock,
      calls_askExplorer]

theorem notices_askPeers : notices (askPeers r labels).1 = [] := by
  cases h : r.peerCount <;> simp [askPeers, h]

theorem notices_askBlock (number : UInt64) :
    notices (askBlock r labels number status).2.1 = [] := by
  cases h : r.blockByNumber number with
  | error e => simp [askBlock, h]
  | ok block => cases hl : status.lastBlock <;> simp [askBlock, h, hl]

theorem notices_askExplorer (number : UInt64) :
    notices (askExplorer r explorer labels threshold number status).2.2 =
      ((askExplorer r explorer labels threshold number status).2.1.transition.map
        Notice.verdictChanged).toList := by
  cases h : r.remoteBlockNumber explorer with
  | error e => simp [askExplorer, h]
  | ok remote =>
    simp only [askExplorer, h]
    split <;> simp

/-- All that a round notes is the new verdict, if the verdict changed. -/
theorem notices_run :
    notices (run r explorer labels threshold status).2.2 =
      ((run r explorer labels threshold status).2.1.transition.map
        Notice.verdictChanged).toList := by
  cases h : r.blockNumber <;>
    simp [run, h, examine, notices_askPeers, notices_askBlock, notices_askExplorer]

theorem failures_askPeers :
    (askPeers r labels).2 = [Call.peerCount].filterMap r.failure? := by
  cases h : r.peerCount <;> simp [askPeers, h, Replies.failure?, errorOf?]

theorem failures_askBlock (number : UInt64) :
    (askBlock r labels number status).2.2 =
      [Call.blockByNumber number].filterMap r.failure? := by
  cases h : r.blockByNumber number <;> simp [askBlock, h, Replies.failure?, errorOf?]

theorem failures_askExplorer (number : UInt64) :
    (askExplorer r explorer labels threshold number status).2.1.failures =
      [Call.remoteBlockNumber explorer].filterMap r.failure? := by
  cases h : r.remoteBlockNumber explorer <;>
    simp [askExplorer, h, Replies.failure?, errorOf?]

/-- The report lists exactly the questions that were not answered, in the order in which they were
asked and each with its own cause. -/
theorem failures_run :
    (run r explorer labels threshold status).2.1.failures =
      (questions r explorer).filterMap r.failure? := by
  cases h : r.blockNumber with
  | error e =>
    have hn : r.failure? .blockNumber = some ⟨.blockNumber, .node e⟩ := by
      simp only [Replies.failure?, h, errorOf?, Option.map_some]
    cases hp : r.failure? .peerCount <;>
      simp [run, h, failures_askPeers, questions, Except.toOption, hn, hp]
  | ok number =>
    have hn : r.failure? .blockNumber = none := by
      simp only [Replies.failure?, h, errorOf?, Option.map_none]
    cases hp : r.failure? .peerCount <;> cases hb : r.failure? (.blockByNumber number) <;>
      simp [run, h, examine, failures_askPeers, failures_askBlock, failures_askExplorer,
        questions, Except.toOption, hn, hp, hb, List.filterMap_cons]

/-- The lag of the report is the lag that the round obtained. -/
theorem blocksBehind_run :
    (run r explorer labels threshold status).2.1.blocksBehind = r.lag? explorer := by
  cases h : r.blockNumber with
  | error e => simp [run, h, Replies.lag?, Except.toOption]
  | ok number =>
    cases he : r.remoteBlockNumber explorer <;>
      simp [run, h, examine, askExplorer, he, Replies.lag?, Except.toOption]

/-- A failure that is reported of a question means that the node is down exactly when the node
refused to be asked. -/
theorem isConnectionRefused_failure?_iff {q : Call} (hq : q ≠ .chainId) :
    (∃ f, r.failure? q = some f ∧ f.cause.isConnectionRefused = true) ↔ r.Refuses q := by
  have node (step : Step) (e : Option NodeError) :
      (∃ f, (e.map fun e => (⟨step, .node e⟩ : Failure)) = some f ∧
        f.cause.isConnectionRefused = true) ↔
      ∃ endpoint, e = some (.connectionRefused endpoint) := by
    cases e with
    | none => simp
    | some e => cases e <;> simp [Cause.isConnectionRefused, NodeError.isConnectionRefused]
  cases q with
  | chainId => exact absurd rfl hq
  | peerCount | blockNumber | blockByNumber => exact node _ _
  | explorerFactory => simp [Replies.failure?, Replies.Refuses, Replies.nodeError?]
  | remoteBlockNumber explorer =>
    simp only [Replies.failure?, Replies.Refuses, Replies.nodeError?, reduceCtorEq, exists_false,
      iff_false]
    cases errorOf? (r.remoteBlockNumber explorer) <;> simp [Cause.isConnectionRefused]

theorem chainId_notMem_questions : Call.chainId ∉ questions r explorer := by
  cases h : r.blockNumber <;> simp [questions, h, Except.toOption]

/-- A round finds the node down exactly when one of its questions was refused. -/
theorem isConnectionRefused_run_iff :
    (run r explorer labels threshold status).2.1.isConnectionRefused = true ↔
      ∃ q ∈ questions r explorer, r.Refuses q := by
  simp only [Report.isConnectionRefused, failures_run, List.any_eq_true, List.mem_filterMap]
  constructor
  · rintro ⟨f, ⟨q, hq, hf⟩, hrefused⟩
    have hne : q ≠ .chainId := fun h => chainId_notMem_questions r explorer (h ▸ hq)
    exact ⟨q, hq, (isConnectionRefused_failure?_iff r hne).mp ⟨f, hf, hrefused⟩⟩
  · rintro ⟨q, hq, hrefuses⟩
    have hne : q ≠ .chainId := fun h => chainId_notMem_questions r explorer (h ▸ hq)
    obtain ⟨f, hf, hrefused⟩ := (isConnectionRefused_failure?_iff r hne).mpr hrefuses
    exact ⟨f, ⟨q, hq, hf⟩, hrefused⟩

end Round

/-- A report without failures does not say that the node is down. -/
theorem Report.isConnectionRefused_of_isOk {report : Report} (h : report.isOk = true) :
    report.isConnectionRefused = false := by
  have hnil : report.failures = [] := List.isEmpty_iff.mp h
  simp only [isConnectionRefused, hnil, List.any_nil]

end NodeWatch
