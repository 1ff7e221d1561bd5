import NodeWatch.Proofs.NodeForms
import NodeWatch.Proofs.Quantity

/-!
# What an answer of the node means

The status of an answer decides first, then whether its body is a reply, then an error of the node's
own, and only then the result. Each of the four queries is decided by what the answer carries.
-/

namespace NodeWatch

/-- The instants without nanoseconds that the calendar covers after the epoch. -/
theorem Instant.of?_eq_some_iff {seconds : Nat} {time : Instant} :
    Instant.of? seconds 0 = some time ↔
      seconds ≤ 8210266876799 ∧ time.seconds = seconds ∧ time.nanos = 0 := by
  unfold Instant.of?
  split
  · rename_i h
    obtain ⟨s, n, hlow, hhigh, hnanos⟩ := time
    simp only [Option.some.injEq, Instant.mk.injEq]
    constructor
    · rintro ⟨rfl, rfl⟩
      exact ⟨by omega, rfl, rfl⟩
    · rintro ⟨-, rfl, rfl⟩
      exact ⟨rfl, rfl⟩
  · rename_i h
    simp only [reduceCtorEq, false_iff]
    rintro ⟨hle, -⟩
    exact h ⟨by omega, by omega, by decide⟩

namespace Node

/-! ### Results -/

section Result

variable {answer : Answer} {value : Json}

/-- A status that tells of a failure decides, whatever the body is. -/
theorem result_of_status (h : ¬answer.isSuccess) (q : Query) :
    result q answer = .error (.http answer.status q.method) := by
  simp [result, h]

theorem result_of_not_carries (h : answer.isSuccess) (hnone : ∀ reply, ¬Carries answer reply)
    (q : Query) : result q answer = .error (.invalidResponse q.method undecodableBody) := by
  have hread := Option.eq_none_iff_forall_ne_some.mpr fun reply hreply =>
    hnone reply (carries_iff.mpr hreply)
  simp [result, h, hread]

/-- An error decides, whatever the result is. -/
theorem result_of_error (h : answer.isSuccess) {e : RpcError}
    (hreply : Carries answer ⟨value, some e⟩) (q : Query) :
    result q answer = .error (.rpc e.code e.message) := by
  simp [result, h, carries_iff.mp hreply]

theorem result_of_carries (h : answer.isSuccess) (hreply : Carries answer ⟨value, none⟩)
    (q : Query) : result q answer = .ok value := by
  simp [result, h, carries_iff.mp hreply]

end Result

/-! ### Queries -/

/-- All four queries fail, each with an error of its own. -/
structure AllFail (endpoint : String) (number : UInt64) (delivery : Delivery)
    (error : Query → NodeError) : Prop where
  chainId : Node.chainId endpoint delivery = .error (error .chainId)
  peerCount : Node.peerCount endpoint delivery = .error (error .peerCount)
  blockNumber : Node.blockNumber endpoint delivery = .error (error .blockNumber)
  blockByNumber : Node.blockByNumber endpoint number delivery = .error (error (.block number))

/-- The outcome of a query is what the answer means; if it means nothing, the outcome is the
complaint that the response is invalid. -/
structure Decides {α : Type} (q : Query) (outcome : Except NodeError α) (Means : α → Prop) :
    Prop where
  ok_iff : ∀ a, outcome = .ok a ↔ Means a
  invalid_of_error : ∀ e, outcome = .error e → ∃ reason, e = .invalidResponse q.method reason

namespace Decides

variable {α β : Type} {q : Query}

/-- A fault that is worded as the complaint. -/
theorem of_mapError (x : Except Fault α) :
    Decides q (x.mapError fun fault => .invalidResponse q.method fault.message)
      fun a => x = .ok a where
  ok_iff _ := mapError_eq_ok_iff
  invalid_of_error _ h := by
    obtain ⟨fault, -, rfl⟩ := mapError_eq_error_iff.mp h
    exact ⟨_, rfl⟩

/-- What is there or else complained about. -/
theorem of_elim (x : Option α) (f : α → β) (reason : String) :
    Decides q (x.elim (.error (.invalidResponse q.method reason)) fun a => .ok (f a))
      fun b => ∃ a, x = some a ∧ f a = b where
  ok_iff b := by cases x <;> simp
  invalid_of_error e h := by
    cases x with
    | none => exact ⟨reason, (Except.error.inj h).symm⟩
    | some a => cases h

/-- One step after another. -/
theorem bind {x : Except NodeError α} {f : α → Except NodeError β} {Means : α → Prop}
    {MeansThen : α → β → Prop} (hx : Decides q x Means)
    (hf : ∀ a, Means a → Decides q (f a) (MeansThen a)) :
    Decides q (x >>= f) fun b => ∃ a, Means a ∧ MeansThen a b where
  ok_iff b := by
    simp only [bind_eq_ok_iff, hx.ok_iff]
    exact exists_congr fun a => and_congr_right fun ha => (hf a ha).ok_iff b
  invalid_of_error e h := by
    rcases bind_eq_error_iff.mp h with h | ⟨a, ha, h⟩
    · exact hx.invalid_of_error e h
    · exact (hf a ((hx.ok_iff a).mp ha)).invalid_of_error e h

theorem congr {outcome : Except NodeError α} {Means Means' : α → Prop}
    (h : Decides q outcome Means) (hmeans : ∀ a, Means a ↔ Means' a) :
    Decides q outcome Means' where
  ok_iff a := (h.ok_iff a).trans (hmeans a)
  invalid_of_error := h.invalid_of_error

end Decides

/-- An answer from an address of the web is read as it is. -/
theorem ask_answered {α : Type} {endpoint : String}
    (hweb : (Url.parse? endpoint).any (·.isWeb) = true) (q : Query)
    (read : Answer → Except NodeError α) (answer : Answer) :
    ask endpoint q read (.answered answer) = read answer := by
  have hurl : (q.order endpoint "").url = endpoint := rfl
  have hsend : (q.order endpoint "").send (.answered answer) = .ok answer := by
    apply Order.send_answered
    rwa [hurl]
  rw [ask, hsend]
  rfl

/-- Without a result all four queries fail. -/
theorem allFail_of_result {endpoint : String} (hweb : (Url.parse? endpoint).any (·.isWeb) = true)
    (number : UInt64) {answer : Answer} {error : Query → NodeError}
    (h : ∀ q, result q answer = .error (error q)) :
    AllFail endpoint number (.answered answer) error where
  chainId := by rw [Node.chainId, ask_answered hweb, textResult, h]; rfl
  peerCount := by rw [Node.peerCount, ask_answered hweb, quantityResult, textResult, h]; rfl
  blockNumber := by rw [Node.blockNumber, ask_answered hweb, quantityResult, textResult, h]; rfl
  blockByNumber := by rw [Node.blockByNumber, ask_answered hweb, blockResult, h]; rfl

section Reading

variable {q : Query} {answer : Answer} {value : Json}

/-- A result that is to be a text is the text that it is. -/
theorem decides_textResult (h : result q answer = .ok value) :
    Decides q (textResult q answer) fun s => value = .text s := by
  have hread : textResult q answer =
      (Document.text value).mapError fun fault => .invalidResponse q.method fault.message := by
    rw [textResult, h]
    rfl
  rw [hread]
  exact (Decides.of_mapError _).congr fun s => Document.text_eq_ok_iff

theorem decides_quantity (q : Query) (raw : String) :
    Decides q (quantity q raw) fun n => Quantity.parse raw = .ok n where
  ok_iff _ := mapError_eq_ok_iff
  invalid_of_error _ h := by
    obtain ⟨fault, -, rfl⟩ := mapError_eq_error_iff.mp h
    exact ⟨_, rfl⟩

/-- A result that is to be a quantity is the value of the text that it is. -/
theorem decides_quantityResult (h : result q answer = .ok value) :
    Decides q (quantityResult q answer) fun n =>
      ∃ raw, value = .text raw ∧ Quantity.parse raw = .ok n :=
  (decides_textResult h).bind fun raw _ => decides_quantity q raw

/-- A raw block is the block with the numbers that its texts write, if the calendar covers the
time. -/
theorem decides_blockOfRaw (q : Query) (raw : RawBlock) :
    Decides q (blockOfRaw q raw) fun b =>
      Quantity.parse raw.number = .ok b.number ∧ ∃ seconds : UInt64,
        Quantity.parse raw.timestamp = .ok seconds ∧ seconds.toNat ≤ 8210266876799 ∧
        b.time.seconds = seconds.toNat ∧ b.time.nanos = 0 := by
  have hread : blockOfRaw q raw = quantity q raw.number >>= fun number =>
      quantity q raw.timestamp >>= fun seconds =>
        (Instant.of? seconds.toNat 0).elim
          (.error (.invalidResponse q.method s!"timestamp {seconds} out of range"))
          fun time => .ok { number, time } := by
    refine bind_congr fun number => bind_congr fun seconds => ?_
    cases Instant.of? seconds.toNat 0 <;> rfl
  rw [hread]
  refine (decides_quantity q raw.number).bind (fun number _ =>
    (decides_quantity q raw.timestamp).bind fun seconds _ => .of_elim _ _ _) |>.congr fun b => ?_
  constructor
  · rintro ⟨number, hnumber, seconds, htimestamp, time, htime, rfl⟩
    exact ⟨hnumber, seconds, htimestamp, Instant.of?_eq_some_iff.mp htime⟩
  · rintro ⟨hnumber, seconds, htimestamp, htime⟩
    exact ⟨b.number, hnumber, seconds, htimestamp, b.time, Instant.of?_eq_some_iff.mpr htime, rfl⟩

/-- A result that is no block is missing if it is null. -/
theorem blockResult_null {number : UInt64} (h : result (.block number) answer = .ok .null) :
    blockResult number answer = .error (.blockNotFound number) := by
  rw [blockResult, h]
  rfl

/-- Any other result is the block that it is written as, if the quantities in it can be read and the
calendar covers the time. -/
theorem decides_blockResult {number : UInt64} (h : result (.block number) answer = .ok value)
    (hne : value ≠ .null) (hsorted : ∀ members, value = .object members → Entries.Sorted members) :
    Decides (.block number) (blockResult number answer) fun b =>
      ∃ raw, RawBlock.IsWritten value raw ∧ Quantity.parse raw.number = .ok b.number ∧
        ∃ seconds : UInt64, Quantity.parse raw.timestamp = .ok seconds ∧
          seconds.toNat ≤ 8210266876799 ∧ b.time.seconds = seconds.toNat ∧ b.time.nanos = 0 := by
  have hread : blockResult number answer =
      ((RawBlock.ofJson value).mapError fun fault =>
        .invalidResponse (Query.block number).method fault.message) >>=
          blockOfRaw (.block number) := by
    rw [blockResult, h]
    cases value with
    | null => exact absurd rfl hne
    | _ => rfl
  rw [hread]
  refine (Decides.of_mapError _).bind (fun raw _ => decides_blockOfRaw _ raw) |>.congr fun b => ?_
  simp only [RawBlock.ofJson_eq_ok_iff hsorted]

end Reading

/-- A status that is not one of success decides alone. Of the other answers, one that carries no
reply is invalid, one that carries an error is that error, with or without a result, and in any
other one the result decides. The chain is the text that the result is, and the two counts are the
quantity that it writes. Null is no block of that number. Everything else is the block that it
writes if its two texts are quantities and the calendar covers the time; otherwise it is invalid. -/
theorem queries_decided {endpoint : String} (hweb : (Url.parse? endpoint).any (·.isWeb) = true)
    (number : UInt64) (answer : Answer) :
    (¬(200 ≤ answer.status ∧ answer.status ≤ 299) →
      AllFail endpoint number (.answered answer) fun q => .http answer.status q.method) ∧
    (200 ≤ answer.status ∧ answer.status ≤ 299 →
      ((∀ reply, ¬Carries answer reply) →
        AllFail endpoint number (.answered answer)
          fun q => .invalidResponse q.method undecodableBody) ∧
      (∀ value e, Carries answer ⟨value, some e⟩ →
        AllFail endpoint number (.answered answer) fun _ => .rpc e.code e.message) ∧
      ∀ value, Carries answer ⟨value, none⟩ →
        Decides .chainId (chainId endpoint (.answered answer)) (fun chain => value = .text chain) ∧
        Decides .peerCount (peerCount endpoint (.answered answer))
          (fun n => ∃ raw, value = .text raw ∧ Quantity.parse raw = .ok n) ∧
        Decides .blockNumber (blockNumber endpoint (.answered answer))
          (fun n => ∃ raw, value = .text raw ∧ Quantity.parse raw = .ok n) ∧
        (value = .null →
          blockByNumber endpoint number (.answered answer) = .error (.blockNotFound number)) ∧
        (value ≠ .null →
          Decides (.block number) (blockByNumber endpoint number (.answered answer)) fun b =>
            ∃ raw, RawBlock.IsWritten value raw ∧ Quantity.parse raw.number = .ok b.number ∧
              ∃ seconds : UInt64, Quantity.parse raw.timestamp = .ok seconds ∧
                seconds.toNat ≤ 8210266876799 ∧ b.time.seconds = seconds.toNat ∧
                b.time.nanos = 0)) := by
  rw [← Answer.isSuccess_iff]
  refine ⟨fun h => allFail_of_result hweb number (result_of_status h), fun h => ⟨fun hnone => ?_,
    fun value e hreply => ?_, fun value hreply => ?_⟩⟩
  · exact allFail_of_result hweb number (result_of_not_carries h hnone)
  · exact allFail_of_result hweb number (result_of_error h hreply)
  · have hresult := result_of_carries h hreply
    rw [chainId, peerCount, blockNumber, blockByNumber, ask_answered hweb, ask_answered hweb,
      ask_answered hweb, ask_answered hweb]
    refine ⟨decides_textResult (hresult _), decides_quantityResult (hresult _),
      decides_quantityResult (hresult _), ?_, fun hne => ?_⟩
    · rintro rfl
      exact blockResult_null (hresult _)
    · exact decides_blockResult (hresult _) hne fun _ => hreply.sorted

/-- A block as it was written. -/
def writtenBlock : Json :=
  .object [("timestamp", .text "0x5b31f280"), ("hash", .text "0xd4"), ("number", .text "0x2a")]

/-- An answer with the block. -/
def blockAnswer : Answer where
  status := 200
  body := some (Json.object [("jsonrpc", .text "2.0"), ("id", .text "1"),
    ("result", writtenBlock)]).render.toUTF8.toList

/-- The block that was written is found. -/
theorem blockByNumber_blockAnswer :
    (Url.parse? "http://localhost").any (·.isWeb) = true ∧
      blockByNumber "http://localhost" 42 (.answered blockAnswer) =
        .ok { number := 42, time := ⟨1530000000, 0, by decide, by decide, by decide⟩ } := by
  have hweb : (Url.parse? "http://localhost").any (·.isWeb) = true := by decide +kernel
  have hblock : Json.Readable (Json.maxDepth - 1) writtenBlock := by
    refine .object ?_
    simp only [List.forall_mem_cons, List.not_mem_nil, false_implies, implies_true, and_true]
    exact ⟨.text _, .text _, .text _⟩
  have hcarries : Carries blockAnswer ⟨writtenBlock.normal, none⟩ := by
    refine carries_render ?_ rfl rfl 200
    simp only [List.forall_mem_cons, List.not_mem_nil, false_implies, implies_true, and_true]
    exact ⟨.text _, .text _, hblock⟩
  obtain ⟨-, hsuccess⟩ := queries_decided hweb 42 blockAnswer
  obtain ⟨-, -, hresult⟩ := hsuccess ⟨by decide, by decide⟩
  obtain ⟨-, -, -, -, hdecides⟩ := hresult _ hcarries
  refine ⟨hweb, ((hdecides (by rintro ⟨⟩)).ok_iff _).mpr ?_⟩
  exact ⟨⟨"0x2a", "0x5b31f280"⟩, .object rfl rfl, rfl, 1530000000, rfl, by decide, rfl, rfl⟩

end Node

end NodeWatch
