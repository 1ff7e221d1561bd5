import NodeWatch.Node.Reply
import NodeWatch.Proofs.Answer
import NodeWatch.Proofs.Document
import NodeWatch.Proofs.Entries
import NodeWatch.Proofs.Json.Records

/-!
# The forms of what a node writes

What a reply, an error and a block look like is told here by their parts, and exactly what looks
like that is read. A reply that was written with a result is one, whatever else is in it.
-/

namespace NodeWatch.Node

open Json (Tree)

/-! ### Replies -/

/-- What the node writes for an error of its own. -/
inductive RpcError.IsWritten : Tree → RpcError → Prop
  | mk {tree : Tree} {code : Json.Numeral} {message : List Json.Piece} {e : RpcError}
    (hrecord : tree.IsRecord ["code", "message"] [some (.numeral code), some (.text message)])
    (hcode : code.IsInteger e.code) (hrange : -2 ^ 63 ≤ e.code ∧ e.code < 2 ^ 63)
    (hmessage : Json.text? message = some e.message) : IsWritten tree e

/-- What a reply has as its result; a missing one counts as null. -/
inductive IsResult : Option Tree → Json → Prop
  | missing : IsResult none .null
  | given {tree : Tree} {value : Json} (h : tree.value? (Json.maxDepth - 1) = some value) :
    IsResult (some tree) value

/-- What a reply has as its error. -/
inductive IsError : Option Tree → Option RpcError → Prop
  | missing : IsError none none
  | null : IsError (some .null) none
  | given {tree : Tree} {e : RpcError} (h : RpcError.IsWritten tree e) :
    IsError (some tree) (some e)

/-- What the node writes as a reply. -/
inductive Envelope.IsWritten : Tree → Envelope → Prop
  | mk {tree : Tree} {result error : Option Tree} {reply : Envelope}
    (hrecord : tree.IsRecord ["result", "error"] [result, error])
    (hresult : IsResult result reply.result) (herror : IsError error reply.error) :
    IsWritten tree reply

/-- The body of an answer is this reply. -/
def Carries (answer : Answer) (reply : Envelope) : Prop :=
  ∃ tree, answer.Spells tree ∧ Envelope.IsWritten tree reply

theorem RpcError.ofTree?_eq_some_iff {tree : Tree} {e : RpcError} :
    RpcError.ofTree? tree = some e ↔ RpcError.IsWritten tree e := by
  constructor
  · intro h
    obtain ⟨fields, hfields, h⟩ := Option.bind_eq_some_iff.mp h
    split at h
    · rename_i codeTree messageTree
      obtain ⟨code, hcode, h⟩ := Option.bind_eq_some_iff.mp h
      obtain ⟨message, hmessage, h⟩ := Option.bind_eq_some_iff.mp h
      obtain rfl := Option.some.inj h
      obtain ⟨n, rfl, hn, hrange⟩ := Tree.int64?_eq_some_iff.mp hcode
      obtain ⟨pieces, rfl, hpieces⟩ := Tree.string?_eq_some_iff.mp hmessage
      exact .mk (Tree.fields?_eq_some_iff.mp hfields) hn hrange hpieces
    · cases h
  · rintro ⟨hrecord, hcode, hrange, hmessage⟩
    have hint := Tree.int64?_eq_some_iff.mpr ⟨_, rfl, hcode, hrange⟩
    have hstring := Tree.string?_eq_some_iff.mpr ⟨_, rfl, hmessage⟩
    simp only [ofTree?, Tree.fields?_eq_some_iff.mpr hrecord, hint, hstring, Option.bind_eq_bind,
      Option.bind_some]

/-- A field is read as a result if it is one. -/
theorem optional?_value?_eq_some_iff {field : Option Tree} {result : Json} :
    (∃ found, Tree.optional? (Tree.value? (Json.maxDepth - 1)) field = some found ∧
      found.getD .null = result) ↔ IsResult field result := by
  simp only [Tree.optional?_eq_some_iff]
  constructor
  · rintro ⟨found, ⟨rfl | rfl, rfl⟩ | ⟨tree, value, rfl, -, hvalue, rfl⟩, rfl⟩
    · exact .missing
    · exact .given rfl
    · exact .given hvalue
  · rintro (_ | @⟨tree, _, hvalue⟩)
    · exact ⟨none, Or.inl ⟨Or.inl rfl, rfl⟩, rfl⟩
    · by_cases hnull : tree = .null
      · subst hnull
        cases hvalue
        exact ⟨none, Or.inl ⟨Or.inr rfl, rfl⟩, rfl⟩
      · exact ⟨some result, Or.inr ⟨tree, result, rfl, hnull, hvalue, rfl⟩, rfl⟩

/-- A record is not null. -/
theorem RpcError.IsWritten.ne_null {tree : Tree} {e : RpcError} (h : RpcError.IsWritten tree e) :
    tree ≠ .null := by
  rintro rfl
  obtain ⟨⟨⟩, -⟩ := h

/-- A field is read as an error if it is one. -/
theorem optional?_rpcError_eq_some_iff {field : Option Tree} {error : Option RpcError} :
    Tree.optional? RpcError.ofTree? field = some error ↔ IsError field error := by
  simp only [Tree.optional?_eq_some_iff, RpcError.ofTree?_eq_some_iff]
  constructor
  · rintro (⟨rfl | rfl, rfl⟩ | ⟨tree, e, rfl, -, he, rfl⟩)
    · exact .missing
    · exact .null
    · exact .given he
  · rintro (_ | _ | he)
    · exact Or.inl ⟨Or.inl rfl, rfl⟩
    · exact Or.inl ⟨Or.inr rfl, rfl⟩
    · exact Or.inr ⟨_, _, rfl, he.ne_null, he, rfl⟩

theorem Envelope.ofTree?_eq_some_iff {tree : Tree} {reply : Envelope} :
    Envelope.ofTree? tree = some reply ↔ Envelope.IsWritten tree reply := by
  constructor
  · intro h
    obtain ⟨fields, hfields, h⟩ := Option.bind_eq_some_iff.mp h
    split at h
    · obtain ⟨result, hresult, h⟩ := Option.bind_eq_some_iff.mp h
      obtain ⟨error, herror, h⟩ := Option.bind_eq_some_iff.mp h
      obtain rfl := Option.some.inj h
      exact .mk (Tree.fields?_eq_some_iff.mp hfields)
        (optional?_value?_eq_some_iff.mp ⟨result, hresult, rfl⟩)
        (optional?_rpcError_eq_some_iff.mp herror)
    · cases h
  · rintro ⟨hrecord, hresult, herror⟩
    obtain ⟨found, hfound, hgetD⟩ := optional?_value?_eq_some_iff.mpr hresult
    simp only [ofTree?, Tree.fields?_eq_some_iff.mpr hrecord, hfound, hgetD,
      optional?_rpcError_eq_some_iff.mpr herror, Option.bind_eq_bind, Option.bind_some]

/-- The reply of an answer is read if the answer carries one. -/
theorem carries_iff {answer : Answer} {reply : Envelope} :
    Carries answer reply ↔
      (answer.body.bind fun bytes => (Tree.ofBytes? bytes).bind Envelope.ofTree?) = some reply := by
  simp only [Carries, Answer.bind_body_eq_some_iff, Envelope.ofTree?_eq_some_iff]

/-! ### Blocks -/

/-- What the node writes for a block: a table with the two fields, or the array of them. -/
inductive RawBlock.IsWritten : Json → RawBlock → Prop
  | array (raw : RawBlock) : IsWritten (.array [.text raw.number, .text raw.timestamp]) raw
  | object {members : List (String × Json)} {raw : RawBlock}
    (hnumber : Entries.find? "number" members = some (.text raw.number))
    (htimestamp : Entries.find? "timestamp" members = some (.text raw.timestamp)) :
    IsWritten (.object members) raw

namespace RawBlock

/-- A field after these members have been read: what it was before, or the text under its name. -/
inductive Taken (name : String) (members : List (String × Json)) (old : Option String) :
    Option String → Prop
  | kept (h : Entries.find? name members = none) : Taken name members old old
  | read {s : String} (h : Entries.find? name members = some (.text s)) :
    Taken name members old (some s)

theorem taken_nil {name : String} {old new : Option String} :
    Taken name [] old new ↔ new = old := by
  constructor
  · rintro (_ | h)
    · rfl
    · cases h
  · rintro rfl
    exact .kept rfl

/-- A field after one member has been read: the text of the member if that has the field's name, and
else what it was before. -/
def Took (field name : String) (value : Json) (old new : Option String) : Prop :=
  (name = field ∧ ∃ s, value = .text s ∧ new = some s) ∨ (name ≠ field ∧ new = old)

/-- A member is read into the field of its name, and one of another name is passed over. -/
theorem readField_eq_ok_iff {name : String} {value : Json} {d next : Draft} :
    readField name value d = .ok next ↔
      Took "number" name value d.number next.number ∧
        Took "timestamp" name value d.timestamp next.timestamp := by
  obtain ⟨number, timestamp⟩ := d
  obtain ⟨number', timestamp'⟩ := next
  constructor
  · intro h
    unfold readField at h
    split at h
    · obtain ⟨s, hs, h⟩ := bind_eq_ok_iff.mp h
      cases h
      exact ⟨Or.inl ⟨rfl, s, Document.text_eq_ok_iff.mp hs, rfl⟩, Or.inr ⟨by decide, rfl⟩⟩
    · obtain ⟨s, hs, h⟩ := bind_eq_ok_iff.mp h
      cases h
      exact ⟨Or.inr ⟨by decide, rfl⟩, Or.inl ⟨rfl, s, Document.text_eq_ok_iff.mp hs, rfl⟩⟩
    · rename_i hnumber htimestamp
      cases h
      exact ⟨Or.inr ⟨hnumber, rfl⟩, Or.inr ⟨htimestamp, rfl⟩⟩
  · rintro ⟨⟨rfl, s, rfl, rfl⟩ | ⟨hnumber, rfl⟩, htimestamp⟩
    · rcases htimestamp with ⟨hname, -⟩ | ⟨-, rfl⟩
      · exact absurd hname (by decide)
      · rfl
    · rcases htimestamp with ⟨rfl, s, rfl, rfl⟩ | ⟨htimestamp, rfl⟩
      · rfl
      · unfold readField
        split
        · exact absurd rfl hnumber
        · exact absurd rfl htimestamp
        · rfl

/-- In order a name comes only once, so the first member that has it decides. -/
theorem taken_cons {field name : String} {value : Json} {members : List (String × Json)}
    (h : Entries.Sorted ((name, value) :: members)) {old new : Option String} :
    Taken field ((name, value) :: members) old new ↔
      ∃ next, Took field name value old next ∧ Taken field members next new := by
  by_cases hname : name = field
  · subst hname
    have habsent := Entries.find?_of_sorted_cons h
    have hfirst := Entries.find?_cons_self name value members
    constructor
    · rintro (hnone | @⟨s, htext⟩)
      · rw [hfirst] at hnone
        cases hnone
      · rw [hfirst] at htext
        exact ⟨some s, Or.inl ⟨rfl, s, Option.some.inj htext, rfl⟩, .kept habsent⟩
    · rintro ⟨_, ⟨-, s, rfl, rfl⟩ | ⟨hne, -⟩, hrest⟩
      · obtain _ | htext := hrest
        · exact .read hfirst
        · rw [habsent] at htext
          cases htext
      · exact absurd rfl hne
  · have hrest := Entries.find?_cons_of_ne (Ne.symm hname) value members
    constructor
    · rintro (hnone | htext)
      · exact ⟨old, Or.inr ⟨hname, rfl⟩, .kept (hrest.symm.trans hnone)⟩
      · exact ⟨old, Or.inr ⟨hname, rfl⟩, .read (hrest.symm.trans htext)⟩
    · rintro ⟨_, ⟨heq, -⟩ | ⟨-, rfl⟩, hnone | htext⟩
      · exact absurd heq hname
      · exact absurd heq hname
      · exact .kept (hrest.trans hnone)
      · exact .read (hrest.trans htext)

/-- The members of an object are read each into its field. -/
theorem readFields_eq_ok_iff {members : List (String × Json)} (h : Entries.Sorted members)
    {d d' : Draft} :
    Document.readFields readField d members = .ok d' ↔
      Taken "number" members d.number d'.number ∧
        Taken "timestamp" members d.timestamp d'.timestamp := by
  induction members generalizing d with
  | nil =>
    obtain ⟨number, timestamp⟩ := d
    obtain ⟨number', timestamp'⟩ := d'
    simp [Document.readFields, taken_nil, pure, Except.pure, eq_comm]
  | cons member members ih =>
    obtain ⟨name, value⟩ := member
    have hrest := (List.pairwise_cons.mp h).2
    simp only [Document.readFields_cons_eq_ok_iff, readField_eq_ok_iff, ih hrest, taken_cons h]
    constructor
    · rintro ⟨next, ⟨hn, ht⟩, hn', ht'⟩
      exact ⟨⟨next.number, hn, hn'⟩, next.timestamp, ht, ht'⟩
    · rintro ⟨⟨number, hn, hn'⟩, timestamp, ht, ht'⟩
      exact ⟨⟨number, timestamp⟩, ⟨hn, ht⟩, hn', ht'⟩

theorem Draft.finish_eq_ok_iff {d : Draft} {raw : RawBlock} :
    d.finish = .ok raw ↔ d.number = some raw.number ∧ d.timestamp = some raw.timestamp := by
  obtain ⟨_ | number, _ | timestamp⟩ := d <;> obtain ⟨rawNumber, rawTimestamp⟩ := raw <;>
    simp [finish]

/-- A field of a new draft is filled if there is a text under its name. -/
theorem taken_none_some {name : String} {members : List (String × Json)} {s : String} :
    Taken name members none (some s) ↔ Entries.find? name members = some (.text s) := by
  constructor
  · rintro (_ | h)
    exact h
  · exact .read

/-- An object is a block if there are texts under both names. -/
theorem ofJson_object_eq_ok_iff {members : List (String × Json)} (h : Entries.Sorted members)
    {raw : RawBlock} :
    ofJson (.object members) = .ok raw ↔
      Entries.find? "number" members = some (.text raw.number) ∧
        Entries.find? "timestamp" members = some (.text raw.timestamp) := by
  simp only [ofJson, bind_eq_ok_iff, readFields_eq_ok_iff h, Draft.finish_eq_ok_iff]
  constructor
  · rintro ⟨d, ⟨hnumber, htimestamp⟩, hn, ht⟩
    rw [hn] at hnumber
    rw [ht] at htimestamp
    exact ⟨taken_none_some.mp hnumber, taken_none_some.mp htimestamp⟩
  · rintro ⟨hnumber, htimestamp⟩
    exact ⟨⟨some raw.number, some raw.timestamp⟩, ⟨.read hnumber, .read htimestamp⟩, rfl, rfl⟩

/-- An array that is a block has an item for each of the two fields. -/
theorem length_of_ofJson_array {items : List Json} {raw : RawBlock}
    (h : ofJson (.array items) = .ok raw) : items.length = 2 := by
  obtain ⟨d, -, h⟩ := bind_eq_ok_iff.mp h
  split at h
  · cases h
  split at h
  · cases h
  · omega

/-- Two items are read as the object with them under the two names. -/
theorem ofJson_pair (number timestamp : Json) :
    ofJson (.array [number, timestamp]) =
      ofJson (.object [("number", number), ("timestamp", timestamp)]) := rfl

/-- An array is a block if its items are two texts. -/
theorem ofJson_array_eq_ok_iff {items : List Json} {raw : RawBlock} :
    ofJson (.array items) = .ok raw ↔ items = [.text raw.number, .text raw.timestamp] := by
  constructor
  · intro h
    obtain ⟨number, timestamp, rfl⟩ := List.length_eq_two.mp (length_of_ofJson_array h)
    have hsorted : Entries.Sorted [("number", number), ("timestamp", timestamp)] :=
      List.pairwise_pair.mpr (show compare "number" "timestamp" = .lt by decide)
    have hne : "timestamp" ≠ "number" := by decide
    rw [ofJson_pair, ofJson_object_eq_ok_iff hsorted, Entries.find?_cons_self,
      Entries.find?_cons_of_ne hne, Entries.find?_cons_self] at h
    rw [Option.some.inj h.1, Option.some.inj h.2]
  · rintro rfl
    rfl

/-- Exactly what is written as a block is read as one. -/
theorem ofJson_eq_ok_iff {json : Json}
    (h : ∀ members, json = .object members → Entries.Sorted members) {raw : RawBlock} :
    ofJson json = .ok raw ↔ IsWritten json raw := by
  cases json with
  | object members =>
    rw [ofJson_object_eq_ok_iff (h members rfl)]
    constructor
    · rintro ⟨hnumber, htimestamp⟩
      exact .object hnumber htimestamp
    · rintro (_ | ⟨hnumber, htimestamp⟩)
      exact ⟨hnumber, htimestamp⟩
  | array items =>
    rw [ofJson_array_eq_ok_iff]
    constructor
    · rintro rfl
      exact .array raw
    · rintro ⟨⟩
      rfl
  | _ =>
    refine iff_of_false (fun hread => ?_) (fun hwritten => ?_)
    · cases hread
    · cases hwritten

end RawBlock

/-- An object that was read has its members in order. -/
theorem sorted_of_value? {depth : Nat} {tree : Tree} {members : List (String × Json)}
    (h : tree.value? depth = some (.object members)) : Entries.Sorted members := by
  cases tree with
  | object written =>
    cases depth with
    | zero => cases h
    | succ depth =>
      obtain ⟨bindings, -, h⟩ := Option.map_eq_some_iff.mp h
      cases h
      exact Entries.sorted_ofList bindings
  | array items =>
    cases depth with
    | zero => cases h
    | succ depth => obtain ⟨_, -, ⟨⟩⟩ := Option.map_eq_some_iff.mp h
  | numeral n => obtain ⟨_, -, ⟨⟩⟩ := Option.map_eq_some_iff.mp h
  | text pieces => obtain ⟨_, -, ⟨⟩⟩ := Option.map_eq_some_iff.mp h
  | _ => cases h

theorem Carries.sorted {answer : Answer} {reply : Envelope} (h : Carries answer reply)
    {members : List (String × Json)} (hobject : reply.result = .object members) :
    Entries.Sorted members := by
  obtain ⟨_, -, -, hresult, -⟩ := h
  rw [hobject] at hresult
  obtain _ | hvalue := hresult
  exact sorted_of_value? hvalue

/-- A reply that was written with one result and no error is carried, whatever else is in it. -/
theorem carries_render {members : List (String × Json)} {value : Json}
    (hreadable : ∀ member ∈ members, Json.Readable (Json.maxDepth - 1) member.2)
    (hresult : members.filter (·.1 = "result") = [("result", value)])
    (herror : members.filter (·.1 = "error") = []) (status : Nat) :
    Carries ⟨status, some (Json.object members).render.toUTF8.toList⟩ ⟨value.normal, none⟩ := by
  have hspells := Answer.spells_render
    (@Json.Readable.object (Json.maxDepth - 1) members hreadable) status
  have hvalue := hreadable ("result", value) (List.mem_of_mem_filter (by rw [hresult]; simp))
  refine ⟨_, hspells, .mk (.object ?_ ?_) (.given hvalue.value?_tree) .missing⟩
  · exact Json.isSome_text?_memberTrees members
  · simp [Json.under_memberTrees, hresult, herror]

end NodeWatch.Node
