import NodeWatch.Proofs.Json.Assembly
import NodeWatch.Proofs.Json.Scanning

/-!
# Lexing what was written

The characters that a value is written as are cut into the lexemes of its tree.
-/

namespace NodeWatch.Json

open Utf8 (Glyph)

/-- Characters that are cut into these lexemes wherever they stand, as long as a numeral ends after
them. -/
def Lexes (cs : List Char) (lexemes : List Lexeme) : Prop :=
  ∀ rest, EndsNumeral rest → lexemes? (glyphs cs ++ rest) = (lexemes? rest).map (lexemes ++ ·)

theorem glyphs_append (cs ds : List Char) : glyphs (cs ++ ds) = glyphs cs ++ glyphs ds :=
  List.map_append

/-- A lexeme is cut off if it takes at least its first character. -/
theorem lexemes?_cons {c : Char} {rest left : List Glyph} {lexeme : Lexeme}
    (hgap : isGap c = false) (hscan : scanLexeme (.char c :: rest) = some (lexeme, left))
    (hleft : left.length ≤ rest.length) :
    lexemes? (.char c :: rest) = (lexemes? left).map (lexeme :: ·) := by
  rw [lexemes?, hgap, hscan]
  simp only [Bool.false_eq_true, if_false, Nat.lt_add_one_of_le hleft, if_true]

/-- The lexemes of a single character. -/
def marks : List (Char × Lexeme) :=
  [('[', .openArray), (']', .closeArray), ('\x7b', .openObject), ('\x7d', .closeObject),
    (',', .comma), (':', .colon)]

/-- A mark is no gap, it is a lexeme by itself, and a numeral ends where it follows. -/
theorem scanLexeme_mark {c : Char} {lexeme : Lexeme} (h : (c, lexeme) ∈ marks)
    (rest : List Glyph) :
    isGap c = false ∧ scanLexeme (.char c :: rest) = some (lexeme, rest) ∧
      EndsNumeral (.char c :: rest) := by
  simp only [marks, List.mem_cons, List.not_mem_nil, or_false, Prod.mk.injEq] at h
  rcases h with ⟨rfl, rfl⟩ | ⟨rfl, rfl⟩ | ⟨rfl, rfl⟩ | ⟨rfl, rfl⟩ | ⟨rfl, rfl⟩ | ⟨rfl, rfl⟩ <;>
    exact ⟨rfl, rfl, by decide, by decide, by decide, by decide⟩

theorem isGap_digit {c : Char} (h : '0' ≤ c ∧ c ≤ '9') : isGap c = false := by
  simp only [isGap, Bool.or_eq_false_iff, beq_eq_false_iff_ne]
  refine ⟨⟨⟨?_, ?_⟩, ?_⟩, ?_⟩ <;> (rintro rfl; exact absurd h (by decide))

/-- A digit begins a numeral. -/
theorem scanLexeme_digit {c : Char} (h : '0' ≤ c ∧ c ≤ '9') (rest : List Glyph) :
    scanLexeme (.char c :: rest) =
      (scanNumeral false (.char c :: rest)).map fun (n, rest) => (.numeral n, rest) := by
  unfold scanLexeme
  split
  all_goals first | rfl | (rename_i heq; cases heq; exact absurd h (by decide))

namespace Lexes

variable {cs ds : List Char} {ls ms : List Lexeme}

theorem nil : Lexes [] [] := fun rest _ => by simp [glyphs]

/-- Texts one after the other are cut into the lexemes of both. -/
theorem append (hc : Lexes cs ls) (hd : Lexes ds ms)
    (hends : ∀ rest, EndsNumeral rest → EndsNumeral (glyphs ds ++ rest)) :
    Lexes (cs ++ ds) (ls ++ ms) := by
  intro rest hrest
  rw [glyphs_append, List.append_assoc, hc _ (hends rest hrest), hd rest hrest, Option.map_map]
  simp only [Function.comp_def, List.append_assoc]

/-- A mark is cut off from whatever follows it. -/
theorem mark {c : Char} {lexeme : Lexeme} (h : (c, lexeme) ∈ marks) (hd : Lexes ds ms) :
    Lexes (c :: ds) (lexeme :: ms) := by
  intro rest hrest
  obtain ⟨hgap, hscan, -⟩ := scanLexeme_mark h (glyphs ds ++ rest)
  have hcut := lexemes?_cons hgap hscan (Nat.le_refl _)
  rw [hd rest hrest, Option.map_map] at hcut
  exact hcut

/-- What a mark begins is cut off from what comes before it. -/
theorem append_mark {c : Char} {lexeme : Lexeme} (hc : Lexes cs ls) (h : (c, lexeme) ∈ marks)
    (hd : Lexes ds ms) : Lexes (cs ++ c :: ds) (ls ++ lexeme :: ms) :=
  hc.append (hd.mark h) fun rest _ => (scanLexeme_mark h (glyphs ds ++ rest)).2.2

/-- A text in quotes is one lexeme. -/
theorem quoted (s : String) : Lexes (renderText s) [.text (pieces s)] := by
  intro rest _
  have hscan : scanLexeme (.char '"' :: (glyphs (s.toList.flatMap escape) ++ .char '"' :: rest)) =
      some (.text (pieces s), rest) := by
    simp only [scanLexeme, scanText_flatMap_escape, Option.map_some]
    rfl
  have hcut := lexemes?_cons (by decide) hscan (by simp; omega)
  rw [renderText, glyphs_append, List.append_assoc]
  exact hcut

/-- An integer is one lexeme. -/
theorem integer (n : Int) : Lexes (renderInt n) [.numeral (.ofInt n)] := by
  intro rest hrest
  have hscan := scanNumeral_toDigits (decide (n < 0)) n.natAbs hrest
  rw [renderInt]
  by_cases hn : n < 0
  · rw [decide_eq_true hn] at hscan
    have hlexeme : scanLexeme (.char '-' :: (glyphs (Nat.toDigits 10 n.natAbs) ++ rest)) =
        some (.numeral (.ofInt n), rest) := by
      simp only [scanLexeme, hscan, Option.map_some, Numeral.ofInt, hn, decide_true]
    have hcut := lexemes?_cons (by decide) hlexeme (by simp)
    rw [if_pos hn]
    exact hcut
  · rw [decide_eq_false hn] at hscan
    rw [if_neg hn, List.nil_append]
    cases hcs : Nat.toDigits 10 n.natAbs with
    | nil => exact absurd hcs Nat.toDigits_ne_nil
    | cons c cs =>
      have hc : '0' ≤ c ∧ c ≤ '9' := between_of_mem_toDigits (hcs ▸ List.mem_cons_self)
      rw [hcs] at hscan
      have hlexeme : scanLexeme (.char c :: (glyphs cs ++ rest)) =
          some (.numeral (.ofInt n), rest) := by
        rw [scanLexeme_digit hc]
        simp only [glyphs, List.map_cons, List.cons_append] at hscan
        rw [glyphs, hscan]
        simp only [Option.map_some, Numeral.ofInt, hn, decide_false]
      exact lexemes?_cons (isGap_digit hc) hlexeme (by simp)

/-- A word is one lexeme. -/
theorem word {c : Char} {cs : List Char} {lexeme : Lexeme} (hgap : isGap c = false)
    (hscan : ∀ rest, scanLexeme (.char c :: (glyphs cs ++ rest)) = some (lexeme, rest)) :
    Lexes (c :: cs) [lexeme] := fun rest _ =>
  lexemes?_cons hgap (hscan rest) (by simp)

section List

variable {α : Type} {text : α → List Char} {lexemes : α → List Lexeme}

/-- What a comma begins ends a numeral. -/
theorem endsNumeral_commas (items : List α) {rest : List Glyph} (hrest : EndsNumeral rest) :
    EndsNumeral (glyphs (items.flatMap fun item => ',' :: text item) ++ rest) := by
  have hcomma : (',', Lexeme.comma) ∈ marks := by decide
  cases items with
  | nil => exact hrest
  | cons item items => exact (scanLexeme_mark hcomma _).2.2

/-- Items, each after a comma, are cut into their lexemes, each after a comma. -/
theorem commas {items : List α} (h : ∀ item ∈ items, Lexes (text item) (lexemes item)) :
    Lexes (items.flatMap fun item => ',' :: text item)
      (items.flatMap fun item => .comma :: lexemes item) := by
  induction items with
  | nil => exact nil
  | cons item items ih =>
    have hitem : Lexes (',' :: text item) (.comma :: lexemes item) :=
      (h item List.mem_cons_self).mark (by decide)
    have hitems := ih fun other hother => h other (List.mem_cons_of_mem _ hother)
    exact hitem.append hitems fun _ => endsNumeral_commas items

/-- Items with commas between them, in brackets. -/
theorem bracketed {left right : Char} {opening closing : Lexeme} (hleft : (left, opening) ∈ marks)
    (hright : (right, closing) ∈ marks) {first : α} {items : List α}
    (h : ∀ item ∈ first :: items, Lexes (text item) (lexemes item)) :
    Lexes (left :: (text first ++ items.flatMap fun item => ',' :: text item) ++ [right])
      (opening :: (lexemes first ++ items.flatMap fun item => .comma :: lexemes item) ++
        [closing]) := by
  have hfirst := h first List.mem_cons_self
  have hitems := commas fun item hitem => h item (List.mem_cons_of_mem _ hitem)
  have hinner := hfirst.append hitems fun _ => endsNumeral_commas items
  exact (hinner.mark hleft).append_mark hright nil

end List

end Lexes

end NodeWatch.Json
