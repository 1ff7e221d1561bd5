import Mathlib.Algebra.Group.Int.Defs
import NodeWatch.Json.Render
import NodeWatch.Json.Tree

/-!
# Scanning what was written

Every text is read back from its quoted form, character by character: what one character is written
as is read as one piece, and the piece stands for the character. An integer is read back from its
decimal digits as long as nothing after it could go on as a numeral.
-/

namespace NodeWatch.Json

open Utf8 (Glyph)

/-- Characters as pieces of a document. -/
def glyphs (cs : List Char) : List Glyph := cs.map .char

/-- The control characters that have an escape of their own. -/
def shortEscaped : List Char := ['\x08', '\x0c', '\n', '\r', '\t']

/-- The piece that a character in quotes is read as. -/
def Piece.ofChar (c : Char) : Piece :=
  if c < ' ' ∧ c ∉ shortEscaped then .unit c.toNat else .char c

/-- The digits that write a control character are read as its number. -/
theorem value?_digitChar {n : Nat} (h : n < 16) : Digit.value? (Nat.digitChar n) = some n := by
  revert n
  decide

theorem toNat_lt_of_lt_space {c : Char} (h : c < ' ') : c.toNat < 32 := h

/-- A character that needs no escape is read as it is. -/
theorem scanText_plain {c : Char} (hquote : c ≠ '"') (hslash : c ≠ '\\') (hplain : ¬c < ' ')
    (rest : List Glyph) :
    scanText (.char c :: rest) =
      (scanText rest).map fun (pieces, rest) => (.char c :: pieces, rest) := by
  rw [scanText]
  · cases scanText rest <;> simp [hplain, hslash]
  · simp [hquote]
  · simp [hslash]
  · simp [hslash]

/-- A character in quotes is read as one piece. -/
theorem scanText_escape (c : Char) (rest : List Glyph) :
    scanText (glyphs (escape c) ++ rest) =
      (scanText rest).map fun (pieces, rest) => (Piece.ofChar c :: pieces, rest) := by
  unfold escape
  split
  case h_8 _ hquote hslash hb hf hn hr ht =>
    have hshort : c ∉ shortEscaped := by
      simp only [shortEscaped, List.mem_cons, List.not_mem_nil, or_false, not_or]
      exact ⟨hb, hf, hn, hr, ht⟩
    split
    · rename_i hcontrol
      have hlt := toNat_lt_of_lt_space hcontrol
      have hhigh := value?_digitChar (show c.toNat / 16 < 16 by omega)
      have hlow := value?_digitChar (show c.toNat % 16 < 16 by omega)
      have hvalue : c.toNat / 16 * 16 + c.toNat % 16 = c.toNat := Nat.div_add_mod' _ _
      have hzero : Digit.value? '0' = some 0 := by decide
      cases h : scanText rest <;>
        simp [glyphs, scanText, hzero, hhigh, hlow, hvalue, h, Piece.ofChar, hcontrol, hshort]
    · rename_i hplain
      have hpiece : Piece.ofChar c = .char c := if_neg fun h => hplain h.1
      rw [hpiece]
      exact scanText_plain hquote hslash hplain rest
  all_goals
    cases h : scanText rest <;> simp [glyphs, scanText, escaped?, h, Piece.ofChar, shortEscaped]

/-- A text in quotes is read up to the closing quote. -/
theorem scanText_flatMap_escape (cs : List Char) (rest : List Glyph) :
    scanText (glyphs (cs.flatMap escape) ++ .char '"' :: rest) =
      some (cs.map Piece.ofChar, rest) := by
  induction cs with
  | nil => rfl
  | cons c cs ih =>
    have hglyphs : glyphs ((c :: cs).flatMap escape) =
        glyphs (escape c) ++ glyphs (cs.flatMap escape) := by
      rw [List.flatMap_cons, glyphs, List.map_append]
      rfl
    rw [hglyphs, List.append_assoc, scanText_escape, ih]
    rfl

/-- A unit that is no surrogate stands for its character, whatever comes after it. -/
theorem chars?_unit {u : Nat} (hlead : Utf16.isLead u = false) (htrail : Utf16.isTrail u = false)
    (rest : List Piece) :
    chars? (.unit u :: rest) = (chars? rest).map (Char.ofNat u :: ·) := by
  cases rest with
  | nil => simp [chars?, hlead, htrail]
  | cons next rest => cases next <;> simp [chars?, hlead, htrail]

/-- The pieces of a text stand for its characters. -/
theorem chars?_map_ofChar (cs : List Char) : chars? (cs.map Piece.ofChar) = some cs := by
  induction cs with
  | nil => rfl
  | cons c cs ih =>
    rw [List.map_cons, Piece.ofChar]
    split
    · rename_i hcontrol
      have hlt := toNat_lt_of_lt_space hcontrol.1
      have hlead : Utf16.isLead c.toNat = false := by
        simp only [Utf16.isLead, Bool.and_eq_false_iff, decide_eq_false_iff_not]
        omega
      have htrail : Utf16.isTrail c.toNat = false := by
        simp only [Utf16.isTrail, Bool.and_eq_false_iff, decide_eq_false_iff_not]
        omega
      rw [chars?_unit hlead htrail, ih, Option.map_some, Char.ofNat_toNat]
    · rw [chars?, ih, Option.map_some]

/-- The pieces that a text in quotes is read as. -/
def pieces (s : String) : List Piece := s.toList.map Piece.ofChar

/-- The pieces of a text are that text. -/
theorem text?_pieces (s : String) : text? (pieces s) = some s := by
  rw [text?, pieces, chars?_map_ofChar, Option.map_some, String.ofList_toList]

/-- Whether a numeral ends where this follows. -/
def EndsNumeral : List Glyph → Prop
  | .char c :: _ => ¬('0' ≤ c ∧ c ≤ '9') ∧ c ≠ '.' ∧ c ≠ 'e' ∧ c ≠ 'E'
  | _ => True

/-- The digits of a number. -/
def digits (n : Nat) : List Nat := (Nat.toDigits 10 n).map fun c => c.toNat - 48

/-- The numeral that an integer is written as. -/
def Numeral.ofInt (n : Int) : Numeral :=
  { negative := decide (n < 0), whole := digits n.natAbs, fraction := none, exponent := none }

/-- A number is written in digits. -/
theorem between_of_mem_toDigits {n : Nat} {c : Char} (h : c ∈ Nat.toDigits 10 n) :
    '0' ≤ c ∧ c ≤ '9' := by
  have hdigit := Nat.isDigit_of_mem_toDigits (by decide) (by decide) h
  simp only [Char.isDigit, Bool.and_eq_true, decide_eq_true_eq] at hdigit
  exact hdigit

/-- Digits are read up to what ends them. -/
theorem scanDigits_append {cs : List Char} (h : ∀ c ∈ cs, '0' ≤ c ∧ c ≤ '9') {rest : List Glyph}
    (hrest : EndsNumeral rest) :
    scanDigits (glyphs cs ++ rest) = (cs.map fun c => c.toNat - 48, rest) := by
  induction cs with
  | nil =>
    cases rest with
    | nil => rfl
    | cons glyph rest =>
      cases glyph with
      | char c => exact if_neg hrest.1
      | broken => rfl
  | cons c cs ih =>
    have hcs := ih fun d hd => h d (List.mem_cons_of_mem _ hd)
    rw [glyphs, List.map_cons, List.cons_append, scanDigits, if_pos (h c List.mem_cons_self)]
    rw [glyphs] at hcs
    rw [hcs]
    rfl

/-- A number other than zero is written without a leading zero. -/
theorem head?_toDigits_ne {n : Nat} (h : n ≠ 0) : (Nat.toDigits 10 n).head? ≠ some '0' := by
  induction n using Nat.strongRecOn with
  | ind n ih =>
    rw [Nat.toDigits_eq_if (by decide)]
    split
    · simp [h]
    · rename_i hge
      have hdiv := ih (n / 10) (by omega) (by omega)
      cases hcs : Nat.toDigits 10 (n / 10) with
      | nil => exact absurd hcs Nat.toDigits_ne_nil
      | cons c cs => rwa [hcs] at hdiv

/-- The digits before the point are read up to what ends them. -/
theorem scanWhole_toDigits (n : Nat) {rest : List Glyph} (hrest : EndsNumeral rest) :
    scanWhole (glyphs (Nat.toDigits 10 n) ++ rest) = some (digits n, rest) := by
  have hscan : scanDigits (glyphs (Nat.toDigits 10 n) ++ rest) = (digits n, rest) :=
    scanDigits_append (fun _ => between_of_mem_toDigits) hrest
  by_cases hn : n = 0
  · subst hn
    rfl
  have hhead := head?_toDigits_ne hn
  rw [digits] at hscan ⊢
  cases hcs : Nat.toDigits 10 n with
  | nil => exact absurd hcs Nat.toDigits_ne_nil
  | cons c cs =>
    rw [hcs, List.head?_cons, ne_eq, Option.some.injEq] at hhead
    rw [hcs] at hscan
    rw [glyphs, List.map_cons, List.cons_append] at hscan ⊢
    rw [scanWhole]
    · simp only [hscan, List.map_cons]
    · simp [hhead]

/-- A numeral is read from the digits of a number, up to what ends them. -/
theorem scanNumeral_toDigits (negative : Bool) (n : Nat) {rest : List Glyph}
    (hrest : EndsNumeral rest) :
    scanNumeral negative (glyphs (Nat.toDigits 10 n) ++ rest) =
      some ({ negative, whole := digits n, fraction := none, exponent := none }, rest) := by
  have hfraction : scanFraction rest = some (none, rest) := by
    unfold scanFraction
    split
    · exact absurd rfl hrest.2.1
    · rfl
  have hexponent : scanExponent rest = some (none, rest) := by
    unfold scanExponent
    split
    · exact absurd rfl hrest.2.2.1
    · exact absurd rfl hrest.2.2.2
    · rfl
  simp only [scanNumeral, scanWhole_toDigits n hrest, hfraction, hexponent, Option.bind_eq_bind,
    Option.bind_some]

/-- The value of the digits of a number is the number. -/
theorem digitsValue_digits (n : Nat) : digitsValue (digits n) = n := by
  rw [digitsValue, digits, List.foldl_map]
  exact Nat.ofDigitChars_toDigits (by decide) (by decide)

theorem fitsUnsigned_iff {n : Int} : Width.fitsUnsigned 64 n = true ↔ 0 ≤ n ∧ n < 2 ^ 64 := by
  have hpow : ((Nat.pow 2 64 : Nat) : Int) = 2 ^ 64 := by decide
  simp only [Width.fitsUnsigned, Bool.and_eq_true, decide_eq_true_eq, hpow]

theorem fitsSigned_iff {n : Int} : Width.fitsSigned 64 n = true ↔ -2 ^ 63 ≤ n ∧ n < 2 ^ 63 := by
  have hpow : ((Nat.pow 2 63 : Nat) : Int) = 2 ^ 63 := by decide
  simp only [Width.fitsSigned, Bool.and_eq_true, decide_eq_true_eq, Nat.add_one_sub_one, hpow]

/-- Whether an integer fits into 64 bits, with or without a sign. -/
def fits (n : Int) : Bool := Width.fitsUnsigned 64 n || Width.fitsSigned 64 n

theorem fits_iff {n : Int} : fits n = true ↔ -2 ^ 63 ≤ n ∧ n < 2 ^ 64 := by
  rw [fits, Bool.or_eq_true, fitsUnsigned_iff, fitsSigned_iff]
  omega

/-- An integer that fits into 64 bits is the number of its numeral. -/
theorem number?_ofInt {n : Int} (h : fits n = true) :
    (Numeral.ofInt n).number? = some (.integer n) := by
  obtain ⟨hlow, hhigh⟩ := fits_iff.mp h
  simp only [Numeral.number?, Numeral.ofInt, digitsValue_digits, true_and]
  by_cases hn : n < 0
  · have hwhole : -(n.natAbs : Int) = n := by omega
    have hfits : Width.fitsSigned 64 n = true := fitsSigned_iff.mpr (by omega)
    have hpos : 0 < n.natAbs := by omega
    simp only [hn, hwhole, hfits, hpos, decide_true, Bool.not_true, Bool.false_eq_true, false_and,
      and_self, if_false, if_true]
  · have hwhole : (n.natAbs : Int) = n := by omega
    have hfits : Width.fitsUnsigned 64 n = true := fitsUnsigned_iff.mpr (by omega)
    simp only [hn, hwhole, hfits, decide_false, Bool.not_false, and_self, if_true]

end NodeWatch.Json
