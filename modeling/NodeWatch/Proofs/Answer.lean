import NodeWatch.Net.Exchange
import NodeWatch.Proofs.Json.Bytes

/-!
# What comes back

An answer comes back unchanged from an address of the web, whoever asked there. What its body spells
is one document at most, and a reader that takes the body to something has taken that document to
it.
-/

namespace NodeWatch

/-- An answer from an address of the web comes back as it is. -/
theorem Order.send_answered {o : Order} (hweb : (Url.parse? o.url).any (·.isWeb) = true)
    (answer : Answer) : o.send (.answered answer) = .ok answer := by
  obtain ⟨u, hu, hisWeb⟩ := (Option.any_eq_true _ _).mp hweb
  simp only [send, hu, hisWeb, if_true]

namespace Answer

variable {answer : Answer}

/-- The statuses of success. -/
theorem isSuccess_iff : answer.isSuccess = true ↔ 200 ≤ answer.status ∧ answer.status ≤ 299 := by
  simp only [isSuccess, Bool.and_eq_true, decide_eq_true_eq]
  omega

/-- The body came in full and is a document that is this tree. -/
def Spells (answer : Answer) (tree : Json.Tree) : Prop :=
  ∃ bytes, answer.body = some bytes ∧ Json.lexemes? (Utf8.scan bytes) = some tree.lexemes

theorem spells_iff {tree : Json.Tree} :
    answer.Spells tree ↔ answer.body.bind Json.Tree.ofBytes? = some tree := by
  simp only [Spells, Option.bind_eq_some_iff, Json.Tree.ofBytes?, Json.Tree.ofGlyphs?_eq_some_iff]

/-- A body is one document at most. -/
theorem Spells.unique {tree tree' : Json.Tree} (h : answer.Spells tree) (h' : answer.Spells tree') :
    tree = tree' := by
  rw [spells_iff] at h h'
  exact Option.some.inj (h.symm.trans h')

/-- What is read from a body is read from the document that it spells. -/
theorem bind_body_eq_some_iff {α : Type} {read : Json.Tree → Option α} {a : α} :
    (answer.body.bind fun bytes => (Json.Tree.ofBytes? bytes).bind read) = some a ↔
      ∃ tree, answer.Spells tree ∧ read tree = some a := by
  rw [← Option.bind_assoc, Option.bind_eq_some_iff]
  simp only [spells_iff]

/-- A value that was written as the body is spelled by it. -/
theorem spells_render {depth : Nat} {value : Json} (h : Json.Readable depth value) (status : Nat) :
    Spells ⟨status, some value.render.toUTF8.toList⟩ value.tree := by
  rw [spells_iff, Option.bind_some]
  exact h.ofBytes?_render

end Answer

end NodeWatch
