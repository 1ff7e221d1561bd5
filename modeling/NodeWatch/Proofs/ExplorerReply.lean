import NodeWatch.Chain
import NodeWatch.Explorer.Reply
import NodeWatch.Proofs.Answer
import NodeWatch.Proofs.Document
import NodeWatch.Proofs.Json.Records

/-!
# What an answer of the explorer means

The explorer tells of its failures with a status of success and a text in the place of the number.
So the status decides first, then whether the body is a reply, then what kind of value the result
is, and at last whether its text is a quantity. Every answer that is not a quantity in all these
respects is an error that tells which of them it fails.
-/

namespace NodeWatch.Explorer

open Json (Tree)

/-! ### Replies -/

/-- What a reply has as its message: a text, or nothing, which may be written as null. -/
inductive IsMessage : Option Tree → Option String → Prop
  | missing : IsMessage none none
  | null : IsMessage (some .null) none
  | given {pieces : List Json.Piece} {s : String} (h : Json.text? pieces = some s) :
    IsMessage (some (.text pieces)) (some s)

/-- What the explorer writes as a reply. Its result must be there, and may be null. -/
inductive Envelope.IsWritten : Tree → Envelope → Prop
  | mk {tree result : Tree} {message : Option Tree} {reply : Envelope}
    (hrecord : tree.IsRecord ["result", "message"] [some result, message])
    (hresult : result.value? (Json.maxDepth - 1) = some reply.result)
    (hmessage : IsMessage message reply.message) : IsWritten tree reply

/-- The body of an answer is this reply. -/
def Carries (answer : Answer) (reply : Envelope) : Prop :=
  ∃ tree, answer.Spells tree ∧ Envelope.IsWritten tree reply

/-- A field is read as a message if it is one. -/
theorem optional?_string?_eq_some_iff {field : Option Tree} {message : Option String} :
    Tree.optional? Tree.string? field = some message ↔ IsMessage field message := by
  simp only [Tree.optional?_eq_some_iff, Tree.string?_eq_some_iff]
  constructor
  · rintro (⟨rfl | rfl, rfl⟩ | ⟨_, s, rfl, -, ⟨pieces, rfl, hpieces⟩, rfl⟩)
    · exact .missing
    · exact .null
    · exact .given hpieces
  · rintro (_ | _ | hpieces)
    · exact Or.inl ⟨Or.inl rfl, rfl⟩
    · exact Or.inl ⟨Or.inr rfl, rfl⟩
    · exact Or.inr ⟨_, _, rfl, by rintro ⟨⟩, ⟨_, rfl, hpieces⟩, rfl⟩

theorem Envelope.ofTree?_eq_some_iff {tree : Tree} {reply : Envelope} :
    Envelope.ofTree? tree = some reply ↔ Envelope.IsWritten tree reply := by
  constructor
  · intro h
    obtain ⟨fields, hfields, h⟩ := Option.bind_eq_some_iff.mp h
    split at h
    · obtain ⟨result, hresult, h⟩ := Option.bind_eq_some_iff.mp h
      obtain ⟨message, hmessage, h⟩ := Option.bind_eq_some_iff.mp h
      obtain rfl := Option.some.inj h
      exact .mk (Tree.fields?_eq_some_iff.mp hfields) hresult
        (optional?_string?_eq_some_iff.mp hmessage)
    · cases h
  · rintro ⟨hrecord, hresult, hmessage⟩
    simp only [ofTree?, Tree.fields?_eq_some_iff.mpr hrecord, hresult,
      optional?_string?_eq_some_iff.mpr hmessage, Option.bind_eq_bind, Option.bind_some]

/-- The reply of an answer is read if the answer carries one. -/
theorem carries_iff {answer : Answer} {reply : Envelope} :
    Carries answer reply ↔
      (answer.body.bind fun bytes => (Tree.ofBytes? bytes).bind Envelope.ofTree?) = some reply := by
  simp only [Carries, Answer.bind_body_eq_some_iff, Envelope.ofTree?_eq_some_iff]

/-- A reply that was written with one result and one message is carried, whatever else is in it. -/
theorem carries_render {members : List (String × Json)} {value : Json} {message : String}
    (hreadable : ∀ member ∈ members, Json.Readable (Json.maxDepth - 1) member.2)
    (hresult : members.filter (·.1 = "result") = [("result", value)])
    (hmessage : members.filter (·.1 = "message") = [("message", .text message)]) (status : Nat) :
    Carries ⟨status, some (Json.object members).render.toUTF8.toList⟩
      ⟨value.normal, some message⟩ := by
  have hspells := Answer.spells_render
    (@Json.Readable.object (Json.maxDepth - 1) members hreadable) status
  have hvalue := hreadable ("result", value) (List.mem_of_mem_filter (by rw [hresult]; simp))
  refine ⟨_, hspells, .mk (.object ?_ ?_) hvalue.value?_tree (.given (Json.text?_pieces message))⟩
  · exact Json.isSome_text?_memberTrees members
  · simp [Json.under_memberTrees, hresult, hmessage, Json.tree]

/-! ### Documents that are no replies -/

/-- A message that is neither a text nor null. -/
def IsOdd (message : Tree) : Prop := message ≠ .null ∧ ∀ pieces, message ≠ .text pieces

theorem IsOdd.not_isMessage {tree : Tree} (h : IsOdd tree) (message : Option String) :
    ¬IsMessage (some tree) message := by
  rintro (_ | _ | _)
  · exact h.1 rfl
  · exact h.2 _ rfl

/-- A document that lacks a result or has an odd message, or that is neither an object nor an array
of two items. -/
inductive Malformed : Tree → Prop
  | noResult {members : List (List Json.Piece × Tree)} (h : Json.under "result" members = []) :
    Malformed (.object members)
  | oddMessage {members : List (List Json.Piece × Tree)} {message : Tree}
    (hmem : message ∈ Json.under "message" members) (h : IsOdd message) :
    Malformed (.object members)
  | oddItem {result message : Tree} (h : IsOdd message) : Malformed (.array [result, message])
  | wrongLength {items : List Tree} (h : items.length ≠ 2) : Malformed (.array items)
  | null : Malformed .null
  | bool (b : Bool) : Malformed (.bool b)
  | numeral (n : Json.Numeral) : Malformed (.numeral n)
  | text (pieces : List Json.Piece) : Malformed (.text pieces)

/-- A malformed document is no reply. -/
theorem Malformed.not_isWritten {tree : Tree} (h : Malformed tree) (reply : Envelope) :
    ¬Envelope.IsWritten tree reply := by
  rintro ⟨hrecord, -, hmessage⟩
  cases h with
  | noResult hnone =>
    obtain ⟨-, hfields⟩ := Tree.isRecord_object_iff.mp hrecord
    obtain ⟨hresult, -⟩ := List.forall₂_cons.mp hfields
    rw [hnone] at hresult
    cases hresult
  | @oddMessage members odd hmem hodd =>
    obtain ⟨-, hfields⟩ := Tree.isRecord_object_iff.mp hrecord
    obtain ⟨-, hfields⟩ := List.forall₂_cons.mp hfields
    obtain ⟨hunder, -⟩ := List.forall₂_cons.mp hfields
    rw [hunder, Option.mem_toList] at hmem
    rw [Option.mem_def.mp hmem] at hmessage
    exact hodd.not_isMessage _ hmessage
  | oddItem hodd =>
    obtain ⟨-, hfields⟩ := Tree.isRecord_array_iff.mp hrecord
    cases hfields
    exact hodd.not_isMessage _ hmessage
  | wrongLength hlength => exact hlength (Tree.isRecord_array_iff.mp hrecord).1
  | null | bool | numeral | text => cases hrecord

/-! ### The block number -/

/-- What an answer decides about the outcome of the query. -/
structure DecidedBy (answer : Answer) (outcome : Except ExplorerError UInt64) : Prop where
  /-- A block number is told exactly by a reply with a good status and a quantity as its result. -/
  ok_iff : ∀ n, outcome = .ok n ↔ (200 ≤ answer.status ∧ answer.status ≤ 299) ∧
    ∃ reply raw, Carries answer reply ∧ reply.result = .text raw ∧ Quantity.parse raw = .ok n
  /-- A status that is not one of success decides, whatever the body is. -/
  http : ¬(200 ≤ answer.status ∧ answer.status ≤ 299) → outcome = .error (.http answer.status)
  /-- A body that is no reply is invalid. -/
  noReply : 200 ≤ answer.status ∧ answer.status ≤ 299 → (∀ reply, ¬Carries answer reply) →
    outcome = .error (.invalidResponse undecodableBody)
  /-- Such are the bodies that are no document, -/
  noDocument : (∀ tree, ¬answer.Spells tree) → ∀ reply, ¬Carries answer reply
  /-- and those that lack a result or have a message that is neither a text nor null. -/
  malformed : ∀ tree, answer.Spells tree → Malformed tree → ∀ reply, ¬Carries answer reply
  /-- A result that is not a text is shown in the complaint about it. -/
  unexpected : 200 ≤ answer.status ∧ answer.status ≤ 299 → ∀ reply, Carries answer reply →
    (∀ raw, reply.result ≠ .text raw) →
    outcome = .error (.invalidResponse s!"unexpected result {reply.result.render}")
  /-- The complaint about a text that is not a quantity goes on with the message if there is one. -/
  refused : 200 ≤ answer.status ∧ answer.status ≤ 299 → ∀ reply, Carries answer reply →
    ∀ raw fault, reply.result = .text raw → Quantity.parse raw = .error fault →
    outcome = .error (.invalidResponse
      (reply.message.elim (fault.message raw) fun m => fault.message raw ++ " (" ++ m ++ ")"))

namespace Envelope

variable {e : Envelope}

theorem blockNumber_eq_ok_iff {n : UInt64} :
    e.blockNumber = .ok n ↔ ∃ raw, e.result = .text raw ∧ Quantity.parse raw = .ok n := by
  unfold blockNumber
  split
  · rename_i raw hraw
    rw [mapError_eq_ok_iff, hraw]
    simp
  · rename_i hother
    simp only [reduceCtorEq, false_iff]
    rintro ⟨raw, hraw, -⟩
    exact hother raw hraw

theorem blockNumber_of_not_text (h : ∀ raw, e.result ≠ .text raw) :
    e.blockNumber = .error (.invalidResponse s!"unexpected result {e.result.render}") := by
  unfold blockNumber
  split
  · rename_i raw hraw
    exact absurd hraw (h raw)
  · rfl

theorem blockNumber_of_error {raw : String} {fault : QuantityFault} (h : e.result = .text raw)
    (hfault : Quantity.parse raw = .error fault) :
    e.blockNumber = .error (.invalidResponse
      (e.message.elim (fault.message raw) fun m => fault.message raw ++ " (" ++ m ++ ")")) := by
  rw [blockNumber, h]
  simp only [hfault, mapError_error]
  cases e.message with
  | none => rfl
  | some m => rfl

end Envelope

section Answers

variable {answer : Answer}

theorem blockNumberOf_of_status (h : ¬answer.isSuccess) :
    blockNumberOf answer = .error (.http answer.status) := by
  simp [blockNumberOf, h]

theorem blockNumberOf_of_not_carries (h : answer.isSuccess)
    (hnone : ∀ reply, ¬Carries answer reply) :
    blockNumberOf answer = .error (.invalidResponse undecodableBody) := by
  have hread := Option.eq_none_iff_forall_ne_some.mpr fun reply hreply =>
    hnone reply (carries_iff.mpr hreply)
  simp [blockNumberOf, h, hread]

theorem blockNumberOf_of_carries (h : answer.isSuccess) {reply : Envelope}
    (hreply : Carries answer reply) : blockNumberOf answer = reply.blockNumber := by
  simp [blockNumberOf, h, carries_iff.mp hreply]

/-- A block number comes from a reply with a good status. -/
theorem blockNumberOf_eq_ok_iff {n : UInt64} :
    blockNumberOf answer = .ok n ↔
      answer.isSuccess = true ∧ ∃ reply, Carries answer reply ∧ reply.blockNumber = .ok n := by
  constructor
  · intro h
    by_cases hsuccess : answer.isSuccess
    · by_cases hreply : ∃ reply, Carries answer reply
      · obtain ⟨reply, hreply⟩ := hreply
        rw [blockNumberOf_of_carries hsuccess hreply] at h
        exact ⟨hsuccess, reply, hreply, h⟩
      · rw [blockNumberOf_of_not_carries hsuccess (not_exists.mp hreply)] at h
        cases h
    · rw [blockNumberOf_of_status hsuccess] at h
      cases h
  · rintro ⟨hsuccess, reply, hreply, h⟩
    rw [blockNumberOf_of_carries hsuccess hreply, h]

end Answers

/-- The answer that came back from the explorer decides what is made of it. -/
theorem remoteBlockNumber_decided {url : String} {delivery : Delivery} {answer : Answer}
    (hsent : (order url).send delivery = .ok answer) :
    DecidedBy answer (remoteBlockNumber url delivery) := by
  have hread : remoteBlockNumber url delivery = blockNumberOf answer := by
    rw [remoteBlockNumber, hsent]
    rfl
  rw [hread]
  constructor
  case ok_iff =>
    intro n
    simp only [blockNumberOf_eq_ok_iff, Answer.isSuccess_iff, Envelope.blockNumber_eq_ok_iff,
      exists_and_left]
  case http =>
    intro h
    apply blockNumberOf_of_status
    rwa [Answer.isSuccess_iff]
  case noReply =>
    intro h hnone
    exact blockNumberOf_of_not_carries (Answer.isSuccess_iff.mpr h) hnone
  case noDocument =>
    rintro hnone reply ⟨tree, htree, -⟩
    exact hnone tree htree
  case malformed =>
    rintro tree htree hmalformed reply ⟨tree', htree', hwritten⟩
    obtain rfl := htree.unique htree'
    exact hmalformed.not_isWritten reply hwritten
  case unexpected =>
    intro h reply hreply hother
    rw [blockNumberOf_of_carries (Answer.isSuccess_iff.mpr h) hreply]
    exact Envelope.blockNumber_of_not_text hother
  case refused =>
    intro h reply hreply raw fault hraw hfault
    rw [blockNumberOf_of_carries (Answer.isSuccess_iff.mpr h) hreply]
    exact Envelope.blockNumber_of_error hraw hfault

/-- What the explorer answers when it is asked too often. -/
def rateLimited : Answer where
  status := 200
  body := some (Json.object [("status", .text "0"), ("message", .text "NOTOK"),
    ("result", .text "Max rate limit reached")]).render.toUTF8.toList

/-- The sentence in the place of the number is told with the message, and is not taken for a block
number. -/
theorem remoteBlockNumber_rateLimited :
    (order Chain.foundation.explorerUrl).send (.answered rateLimited) = .ok rateLimited ∧
      remoteBlockNumber Chain.foundation.explorerUrl (.answered rateLimited) =
        .error (.invalidResponse "'Max rate limit reached' is not a hex quantity (NOTOK)") := by
  have hweb : (Url.parse? Chain.foundation.explorerUrl).any (·.isWeb) = true := by decide +kernel
  have hsent := @Order.send_answered (order Chain.foundation.explorerUrl) hweb rateLimited
  have hcarries : Carries rateLimited
      ⟨(Json.text "Max rate limit reached").normal, some "NOTOK"⟩ := by
    refine carries_render ?_ rfl rfl 200
    simp only [List.forall_mem_cons, List.not_mem_nil, false_implies, implies_true, and_true]
    exact ⟨.text _, .text _, .text _⟩
  have hdecided := remoteBlockNumber_decided hsent
  exact ⟨hsent, hdecided.refused ⟨by decide, by decide⟩ _ hcarries _ .notHex rfl rfl⟩

end NodeWatch.Explorer
