import NodeWatch.Json.Document

/-!
# Reading in steps

A reading that may fail takes one step after another and words its faults at the end. It gives a
value if every step gives one, and a fault if the first step that fails gives it.
-/

namespace NodeWatch

section Steps

variable {ε ε' α β : Type} {x : Except ε α}

/-- Two steps give a value if the first gives one from which the second gets there. -/
theorem bind_eq_ok_iff {f : α → Except ε β} {b : β} :
    (x >>= f) = .ok b ↔ ∃ a, x = .ok a ∧ f a = .ok b := by
  cases x <;> simp [bind, Except.bind]

/-- Two steps fail if the first does, or the second after it. -/
theorem bind_eq_error_iff {f : α → Except ε β} {e : ε} :
    (x >>= f) = .error e ↔ x = .error e ∨ ∃ a, x = .ok a ∧ f a = .error e := by
  cases x <;> simp [bind, Except.bind]

theorem mapError_error (f : ε → ε') (e : ε) :
    (.error e : Except ε α).mapError f = .error (f e) := rfl

theorem mapError_ok (f : ε → ε') (a : α) : (.ok a : Except ε α).mapError f = .ok a := rfl

/-- Wording a fault changes no value. -/
theorem mapError_eq_ok_iff {f : ε → ε'} {a : α} : x.mapError f = .ok a ↔ x = .ok a := by
  cases x <;> simp [mapError_error, mapError_ok]

theorem mapError_eq_error_iff {f : ε → ε'} {e' : ε'} :
    x.mapError f = .error e' ↔ ∃ e, x = .error e ∧ f e = e' := by
  cases x <;> simp [mapError_error, mapError_ok]

end Steps

namespace Document

/-- Fields are read one after the other. -/
theorem readFields_cons_eq_ok_iff {α δ : Type} {read : String → α → δ → Except Fault δ}
    {draft final : δ} {name : String} {value : α} {fields : List (String × α)} :
    readFields read draft ((name, value) :: fields) = .ok final ↔
      ∃ next, read name value draft = .ok next ∧ readFields read next fields = .ok final := by
  rw [readFields, List.foldlM_cons, bind_eq_ok_iff]
  rfl

/-- A text is read where there is one. -/
theorem text_eq_ok_iff_view {α : Type} [Document α] {a : α} {s : String} :
    text a = .ok s ↔ view a = .text s := by
  unfold text
  split
  · rename_i found hview
    rw [hview, Except.ok.injEq, View.text.injEq]
  · rename_i hother
    exact iff_of_false (fun h => by cases h) (hother s)

/-- Exactly the texts are read as such. -/
theorem text_eq_ok_iff {json : Json} {s : String} : text json = .ok s ↔ json = .text s := by
  rw [text_eq_ok_iff_view]
  rcases json with _ | _ | ⟨_ | _⟩ | _ | _ | _ <;> simp [view, Json.view]

end Document

end NodeWatch
