import Mathlib.Algebra.Group.Nat.Defs
import Mathlib.Data.List.TakeDrop
import NodeWatch.Node.Query
import NodeWatch.Proofs.Document
import NodeWatch.Proofs.Json.Scanning

/-!
# The form of a quantity

A text that begins with the two letters can be taken apart in one way: a sign if there is one, as
many digits as there are, and what is left. The parts decide how the text is read. It is a quantity
if there are digits, nothing is left and the value fits in 64 bits; else the digits are looked at
first, and what is left only if their value fits.
-/

namespace NodeWatch

namespace Digit

/-- A hexadecimal digit is less than sixteen. -/
theorem value?_lt {c : Char} {d : Nat} (h : value? c = some d) : d < 16 := by
  unfold value? at h
  split at h
  · rename_i hc
    have hnine : c.toNat ≤ 57 := UInt32.le_iff_toNat_le.mp hc.2
    cases h
    omega
  split at h
  · rename_i hc
    have hf : c.toNat ≤ 102 := UInt32.le_iff_toNat_le.mp hc.2
    cases h
    omega
  split at h
  · rename_i hc
    have hf : c.toNat ≤ 70 := UInt32.le_iff_toNat_le.mp hc.2
    cases h
    omega
  · cases h

/-- Every character with a value is a hexadecimal digit. -/
theorem isDigit_sixteen (c : Char) : isDigit 16 c = (value? c).isSome := by
  unfold isDigit
  cases h : value? c with
  | none => rfl
  | some d => exact decide_eq_true (value?_lt h)

/-- The value of hexadecimal digits after digits of this value. -/
def valueOn (start : Nat) (digits : List Char) : Nat :=
  digits.foldl (fun n c => 16 * n + (value? c).getD 0) start

theorem valueOn_cons (start : Nat) (c : Char) (digits : List Char) :
    valueOn start (c :: digits) = valueOn (16 * start + (value? c).getD 0) digits := rfl

/-- More digits make no value smaller. -/
theorem le_valueOn (start : Nat) (digits : List Char) : start ≤ valueOn start digits := by
  induction digits generalizing start with
  | nil => exact Nat.le_refl start
  | cons c digits ih =>
    have hstep := ih (16 * start + (value? c).getD 0)
    rw [valueOn_cons]
    omega

/-- The digits that write a number are hexadecimal digits, and their value is the number. -/
theorem toDigits_sixteen (n : Nat) :
    (∀ c ∈ Nat.toDigits 16 n, isDigit 16 c = true) ∧ valueOf 16 (Nat.toDigits 16 n) = n := by
  have hdigit (d : Nat) (h : d < 16) : isDigit 16 (Nat.digitChar d) = true := by
    rw [isDigit_sixteen, Json.value?_digitChar h]
    rfl
  induction n using Nat.strongRecOn with
  | ind n ih =>
    by_cases h : n < 16
    · rw [Nat.toDigits_of_lt_base h]
      refine ⟨fun c hc => ?_, ?_⟩
      · rw [List.mem_singleton.mp hc]
        exact hdigit n h
      · simp [valueOf, Json.value?_digitChar h]
    · obtain ⟨hall, hvalue⟩ := ih (n / 16) (by omega)
      have hlast : n % 16 < 16 := Nat.mod_lt n (by decide)
      rw [Nat.toDigits_of_base_le (by decide) (by omega)]
      refine ⟨fun c hc => ?_, ?_⟩
      · rcases List.mem_append.mp hc with hc | hc
        · exact hall c hc
        · rw [List.mem_singleton.mp hc]
          exact hdigit _ hlast
      · have hsplit : valueOf 16 (Nat.toDigits 16 (n / 16) ++ [Nat.digitChar (n % 16)]) =
            16 * valueOf 16 (Nat.toDigits 16 (n / 16)) + n % 16 := by
          simp [valueOf, Json.value?_digitChar hlast]
        rw [hsplit, hvalue, Nat.div_add_mod]

end Digit

/-- The texts of two reasons differ whatever was refused. -/
theorem QuantityFault.message_injective {raw : String} {f₁ f₂ : QuantityFault}
    (h : f₁.message raw = f₂.message raw) : f₁ = f₂ := by
  have hchars := congrArg String.toList h
  revert hchars
  cases f₁ <;> cases f₂ <;> simp [message, toString, String.toList_append]

namespace Quantity

/-- A text that begins with the two letters, taken apart. -/
structure Parts where
  letters : List Char
  sign : List Char
  /-- As many digits as there are after the sign. -/
  digits : List Char
  /-- What comes after the digits. -/
  left : List Char
  letters_eq : letters = ['0', 'x'] ∨ letters = ['0', 'X']
  sign_eq : sign = [] ∨ sign = ['+']
  isDigit_of_mem : ∀ c ∈ digits, Digit.isDigit 16 c = true
  isDigit_left : ∀ c ∈ left.head?, Digit.isDigit 16 c = false
  head_ne_plus : sign = [] → (digits ++ left).head? ≠ some '+'

namespace Parts

/-- The text that was taken apart. -/
def chars (p : Parts) : List Char := p.letters ++ (p.sign ++ (p.digits ++ p.left))

/-- The value of the digits. -/
def value (p : Parts) : Nat := Digit.valueOf 16 p.digits

/-- What the parts say of the text: the leftmost problem decides. -/
def reading (p : Parts) : Except QuantityFault Nat :=
  if p.sign ++ (p.digits ++ p.left) = [] then .error .noDigits
  else if UInt64.size ≤ p.value then .error .tooLarge
  else if p.digits ≠ [] ∧ p.left = [] then .ok p.value
  else .error .invalidDigit

/-- Without digits there is nothing that could be too large. -/
theorem value_eq_zero {p : Parts} (h : p.digits = []) : p.value = 0 := by
  rw [value, h]
  rfl

/-- A text is a quantity if it has digits that fit and nothing after them. -/
theorem reading_eq_ok_iff {p : Parts} {value : Nat} :
    p.reading = .ok value ↔
      p.digits ≠ [] ∧ p.left = [] ∧ p.value = value ∧ value < UInt64.size := by
  unfold reading
  split_ifs with hnone hlarge hdigits
  · simp_all
  · have hlt : p.value = value → ¬value < UInt64.size := by
      rintro rfl
      exact Nat.not_lt.mpr hlarge
    simp only [false_iff]
    rintro ⟨-, -, heq, hvalue⟩
    exact hlt heq hvalue
  · simp only [hdigits, Except.ok.injEq, ne_eq, not_false_eq_true, true_and, iff_self_and]
    rintro rfl
    exact Nat.not_le.mp hlarge
  · simp only [false_iff]
    rintro ⟨hd, hl, -⟩
    exact hdigits ⟨hd, hl⟩

/-- A text that can be taken apart begins with the two letters. -/
theorem reading_ne_notHex (p : Parts) : p.reading ≠ .error .notHex := by
  unfold reading
  split_ifs <;> simp

theorem reading_eq_noDigits_iff {p : Parts} :
    p.reading = .error .noDigits ↔ p.sign ++ (p.digits ++ p.left) = [] := by
  unfold reading
  split_ifs with hnone <;> simp [hnone]

/-- The digits are too large, whatever comes after them. -/
theorem reading_eq_tooLarge_iff {p : Parts} :
    p.reading = .error .tooLarge ↔ UInt64.size ≤ p.value := by
  unfold reading
  split_ifs with hnone hlarge
  · have hzero : p.value = 0 := value_eq_zero (by simp_all)
    simp [hzero, UInt64.size]
  · simp [hlarge]
  · simp [hlarge]
  · simp [hlarge]

/-- The digits fit, but something else comes after them or there are none behind the sign. -/
theorem reading_eq_invalidDigit_iff {p : Parts} :
    p.reading = .error .invalidDigit ↔
      p.value < UInt64.size ∧ (p.left ≠ [] ∨ p.digits = [] ∧ p.sign = ['+']) := by
  unfold reading
  split_ifs with hnone hlarge hdigits
  · simp_all
  · simp [Nat.not_lt.mpr hlarge]
  · simp [hdigits]
  · have hfits := Nat.not_le.mp hlarge
    have hsign := p.sign_eq
    simp only [hfits, true_and, true_iff]
    by_cases hl : p.left = []
    · have hd : p.digits = [] := by
        by_contra hd
        exact hdigits ⟨hd, hl⟩
      have hne : p.sign ≠ [] := by simpa [hd, hl] using hnone
      exact Or.inr ⟨hd, hsign.resolve_left hne⟩
    · exact Or.inl hl

end Parts

/-- Digits are read up to an overflow, or to what is left after them. -/
theorem accumulate_append {start : Nat} (hstart : start < UInt64.size) {digits left : List Char}
    (hdigits : ∀ c ∈ digits, Digit.isDigit 16 c = true)
    (hleft : ∀ c ∈ left.head?, Digit.isDigit 16 c = false) :
    accumulate start (digits ++ left) =
      if UInt64.size ≤ Digit.valueOn start digits then .error .tooLarge
      else if left = [] then .ok (Digit.valueOn start digits) else .error .invalidDigit := by
  induction digits generalizing start with
  | nil =>
    have hfits : ¬UInt64.size ≤ Digit.valueOn start [] := Nat.not_le.mpr hstart
    rw [List.nil_append, if_neg hfits]
    cases left with
    | nil => rfl
    | cons c left =>
      have hnone : Digit.value? c = none := by
        rw [← Option.isNone_iff_eq_none, ← Option.isSome_eq_false_iff, ← Digit.isDigit_sixteen]
        exact hleft c rfl
      simp only [accumulate, hnone, reduceCtorEq, if_false]
  | cons c digits ih =>
    have hc := hdigits c List.mem_cons_self
    rw [Digit.isDigit_sixteen] at hc
    obtain ⟨d, hd⟩ := Option.isSome_iff_exists.mp hc
    have hnext : Digit.valueOn start (c :: digits) = Digit.valueOn (start * 16 + d) digits := by
      rw [Digit.valueOn_cons, hd, Option.getD_some, Nat.mul_comm]
    rw [hnext, List.cons_append]
    simp only [accumulate, hd]
    by_cases hlt : start * 16 + d < UInt64.size
    · rw [if_pos hlt]
      exact ih hlt fun c hc => hdigits c (List.mem_cons_of_mem _ hc)
    · have hle := Digit.le_valueOn (start * 16 + d) digits
      rw [if_neg hlt, if_pos (Nat.le_trans (Nat.not_lt.mp hlt) hle)]

namespace Parts

/-- What comes after the sign is read by its digits and what is left. -/
theorem accumulate_body {p : Parts} (h : p.digits ++ p.left ≠ []) :
    accumulate 0 (p.digits ++ p.left) =
      if UInt64.size ≤ p.value then .error .tooLarge
      else if p.digits ≠ [] ∧ p.left = [] then .ok p.value
      else .error .invalidDigit := by
  have hstart : 0 < UInt64.size := by decide
  have hread := accumulate_append hstart p.isDigit_of_mem p.isDigit_left
  have hvalue : Digit.valueOn 0 p.digits = p.value := rfl
  rw [hread, hvalue]
  by_cases hd : p.digits = []
  · have hl : p.left ≠ [] := fun hl => h (by rw [hd, hl, List.append_nil])
    simp only [hd, hl, and_false, if_false]
  · simp only [ne_eq, hd, not_false_eq_true, true_and]

/-- The parts of a text decide how it is read. -/
theorem ofChars_chars (p : Parts) : ofChars p.chars = p.reading := by
  have hletters : ofChars p.chars = ofDigits (p.sign ++ (p.digits ++ p.left)) := by
    unfold chars
    rcases p.letters_eq with h | h <;> rw [h] <;> rfl
  rw [hletters, reading]
  cases hb : p.digits ++ p.left with
  | nil =>
    have hd : p.digits = [] := (List.append_eq_nil_iff.mp hb).1
    rw [value_eq_zero hd]
    rcases p.sign_eq with hsign | hsign <;> rw [hsign]
    · rfl
    · simp [ofDigits, hd, UInt64.size]
  | cons c rest =>
    have hbody := accumulate_body (p := p) (by simp [hb])
    rw [hb] at hbody
    rw [if_neg (by simp), ← hbody]
    rcases p.sign_eq with hsign | hsign <;> rw [hsign]
    · have hc : c ≠ '+' := by
        rintro rfl
        exact p.head_ne_plus hsign (by rw [hb]; rfl)
      unfold ofDigits
      split <;> simp_all
    · rfl

/-- Whatever follows the two letters can be taken apart. -/
theorem exists_chars_eq {letters : List Char}
    (hletters : letters = ['0', 'x'] ∨ letters = ['0', 'X']) (body : List Char) :
    ∃ p : Parts, p.chars = letters ++ body := by
  have hdigits (cs : List Char) : ∀ c ∈ cs.takeWhile (Digit.isDigit 16),
      Digit.isDigit 16 c = true := List.all_eq_true.mp List.all_takeWhile
  have hleft (cs : List Char) : ∀ c ∈ (cs.dropWhile (Digit.isDigit 16)).head?,
      Digit.isDigit 16 c = false := by
    intro c hc
    have h := List.head?_dropWhile_not (Digit.isDigit 16) cs
    rw [Option.mem_def.mp hc] at h
    exact h
  by_cases hplus : body.head? = some '+'
  · obtain ⟨rest, rfl⟩ := List.head?_eq_some_iff.mp hplus
    exact ⟨⟨letters, ['+'], _, _, hletters, Or.inr rfl, hdigits rest, hleft rest, by simp⟩,
      by simp [chars]⟩
  · exact ⟨⟨letters, [], _, _, hletters, Or.inl rfl, hdigits body, hleft body,
      fun _ => by rwa [List.takeWhile_append_dropWhile]⟩, by simp [chars]⟩

end Parts

/-- A text that does not begin with the two letters is refused for that. -/
theorem ofChars_eq_notHex {cs : List Char} (hlower : ¬['0', 'x'] <+: cs)
    (hupper : ¬['0', 'X'] <+: cs) : ofChars cs = .error .notHex := by
  unfold ofChars
  split
  · exact absurd ⟨_, rfl⟩ hlower
  · exact absurd ⟨_, rfl⟩ hupper
  · rfl

/-- A text is refused at once, or it can be taken apart. -/
theorem notHex_or_parts (cs : List Char) :
    ((¬['0', 'x'] <+: cs ∧ ¬['0', 'X'] <+: cs) ∧ ofChars cs = .error .notHex) ∨
      ((['0', 'x'] <+: cs ∨ ['0', 'X'] <+: cs) ∧ ∃ p : Parts, p.chars = cs) := by
  by_cases hlower : ['0', 'x'] <+: cs
  · obtain ⟨body, rfl⟩ := hlower
    exact Or.inr ⟨Or.inl ⟨body, rfl⟩, Parts.exists_chars_eq (Or.inl rfl) body⟩
  by_cases hupper : ['0', 'X'] <+: cs
  · obtain ⟨body, rfl⟩ := hupper
    exact Or.inr ⟨Or.inr ⟨body, rfl⟩, Parts.exists_chars_eq (Or.inr rfl) body⟩
  · exact Or.inl ⟨⟨hlower, hupper⟩, ofChars_eq_notHex hlower hupper⟩

theorem ofChars_eq_notHex_iff {cs : List Char} :
    ofChars cs = .error .notHex ↔ ¬['0', 'x'] <+: cs ∧ ¬['0', 'X'] <+: cs := by
  rcases notHex_or_parts cs with ⟨hbeginning, hread⟩ | ⟨hbeginning, p, rfl⟩
  · exact iff_of_true hread hbeginning
  · refine iff_of_false ?_ (not_and_or.mpr (hbeginning.imp not_not_intro not_not_intro))
    rw [p.ofChars_chars]
    exact p.reading_ne_notHex

/-- Whatever a text is read as but for a wrong beginning is decided by its parts. -/
theorem ofChars_eq_iff (cs : List Char) {result : Except QuantityFault Nat}
    (h : result ≠ .error .notHex) :
    ofChars cs = result ↔ ∃ p : Parts, p.chars = cs ∧ p.reading = result := by
  constructor
  · rintro rfl
    rcases notHex_or_parts cs with ⟨-, hnot⟩ | ⟨-, p, rfl⟩
    · exact absurd hnot h
    · exact ⟨p, rfl, p.ofChars_chars.symm⟩
  · rintro ⟨p, rfl, hp⟩
    rw [p.ofChars_chars, hp]

/-- Nothing follows the two letters. -/
theorem ofChars_eq_noDigits_iff {cs : List Char} :
    ofChars cs = .error .noDigits ↔ cs = ['0', 'x'] ∨ cs = ['0', 'X'] := by
  constructor
  · intro h
    obtain ⟨p, rfl, hp⟩ := (ofChars_eq_iff cs (by simp)).mp h
    rw [Parts.chars, Parts.reading_eq_noDigits_iff.mp hp, List.append_nil]
    exact p.letters_eq
  · rintro (rfl | rfl) <;> rfl

/-- The digits are too large. -/
theorem ofChars_eq_tooLarge_iff {cs : List Char} :
    ofChars cs = .error .tooLarge ↔ ∃ p : Parts, p.chars = cs ∧ UInt64.size ≤ p.value := by
  rw [ofChars_eq_iff cs (by simp)]
  simp only [Parts.reading_eq_tooLarge_iff]

/-- The digits fit, but they are not all there is, or there are none. -/
theorem ofChars_eq_invalidDigit_iff {cs : List Char} :
    ofChars cs = .error .invalidDigit ↔ ∃ p : Parts, p.chars = cs ∧ p.value < UInt64.size ∧
      (p.left ≠ [] ∨ p.digits = [] ∧ p.sign = ['+']) := by
  rw [ofChars_eq_iff cs (by simp)]
  simp only [Parts.reading_eq_invalidDigit_iff]

/-- The texts that are read as a number. -/
theorem ofChars_eq_ok_iff {cs : List Char} {value : Nat} :
    ofChars cs = .ok value ↔
      ∃ letters sign digits, (letters = ['0', 'x'] ∨ letters = ['0', 'X']) ∧
        (sign = [] ∨ sign = ['+']) ∧ digits ≠ [] ∧ (∀ c ∈ digits, Digit.isDigit 16 c = true) ∧
        cs = letters ++ (sign ++ digits) ∧ Digit.valueOf 16 digits = value ∧
        value < UInt64.size := by
  rw [ofChars_eq_iff cs (by simp)]
  constructor
  · rintro ⟨p, rfl, hp⟩
    obtain ⟨hdigits, hleft, hvalue, hlt⟩ := Parts.reading_eq_ok_iff.mp hp
    refine ⟨p.letters, p.sign, p.digits, p.letters_eq, p.sign_eq, hdigits, p.isDigit_of_mem, ?_,
      hvalue, hlt⟩
    rw [Parts.chars, hleft, List.append_nil]
  · rintro ⟨letters, sign, digits, hletters, hsign, hne, hdigits, rfl, hvalue, hlt⟩
    have hplus : (digits ++ []).head? ≠ some '+' := by
      intro hplus
      rw [List.append_nil] at hplus
      exact absurd (hdigits '+' (List.mem_of_head? hplus)) (by decide)
    let p : Parts := ⟨letters, sign, digits, [], hletters, hsign, hdigits, by simp, fun _ => hplus⟩
    refine ⟨p, ?_, Parts.reading_eq_ok_iff.mpr ⟨hne, rfl, hvalue, hlt⟩⟩
    rw [Parts.chars, List.append_nil]

theorem parse_eq_ok_iff {raw : String} {n : UInt64} :
    parse raw = .ok n ↔ ofChars raw.toList = .ok n.toNat := by
  unfold parse
  cases h : ofChars raw.toList with
  | error fault => simp [Except.map]
  | ok value =>
    obtain ⟨-, -, -, -, -, -, -, -, -, hlt⟩ := ofChars_eq_ok_iff.mp h
    simp only [Except.map, Except.ok.injEq]
    constructor
    · rintro rfl
      exact (UInt64.toNat_ofNat_of_lt' hlt).symm
    · rintro rfl
      exact UInt64.ofNat_toNat

theorem parse_eq_error_iff {raw : String} {fault : QuantityFault} :
    parse raw = .error fault ↔ ofChars raw.toList = .error fault := by
  unfold parse
  cases ofChars raw.toList <;> simp [Except.map]

/-- What is written for a number is read as that number. -/
theorem parse_render (n : UInt64) : parse (render n) = .ok n := by
  obtain ⟨hdigits, hvalue⟩ := Digit.toDigits_sixteen n.toNat
  rw [parse_eq_ok_iff, ofChars_eq_ok_iff]
  refine ⟨['0', 'x'], [], Nat.toDigits 16 n.toNat, Or.inl rfl, Or.inl rfl, Nat.toDigits_ne_nil,
    hdigits, ?_, hvalue, n.toNat_lt_size⟩
  rw [render, String.toList_append, String.toList_ofList, String.toList_ofList, List.nil_append]

/-- The reason as it is reported tells which one it was. -/
theorem reported_iff (raw : String) (fault : QuantityFault) :
    (parse raw).mapError (·.message raw) = .error (fault.message raw) ↔
      ofChars raw.toList = .error fault := by
  rw [← parse_eq_error_iff, mapError_eq_error_iff]
  constructor
  · rintro ⟨found, hfound, hmessage⟩
    rw [hfound, QuantityFault.message_injective hmessage]
  · intro h
    exact ⟨fault, h, rfl⟩

/-- Exactly these texts are read as quantities: `0x` or `0X`, at most one plus sign, and then one
digit or more, with a value below 2^64. Every other text is refused with one of four reasons. It
does not begin with the two letters; nothing follows them; the digits there are have a value of 2^64
or more, whatever comes after them; or their value fits, but something else comes after them, or
there are none after the sign. The text that is sent for a block number is read as that number. -/
theorem parse_exact :
    (∀ raw : String,
      let answer := (parse raw).mapError (·.message raw)
      (∀ n, answer = .ok n ↔
        ∃ letters sign digits, (letters = ['0', 'x'] ∨ letters = ['0', 'X']) ∧
          (sign = [] ∨ sign = ['+']) ∧ digits ≠ [] ∧
          (∀ c ∈ digits, Digit.isDigit 16 c = true) ∧ raw.toList = letters ++ (sign ++ digits) ∧
          Digit.valueOf 16 digits = n.toNat) ∧
      (answer = .error s!"'{raw}' is not a hex quantity" ↔
        ¬['0', 'x'] <+: raw.toList ∧ ¬['0', 'X'] <+: raw.toList) ∧
      (answer = .error s!"'{raw}' has no digits" ↔ raw = "0x" ∨ raw = "0X") ∧
      (answer = .error s!"'{raw}': number too large to fit in target type" ↔
        ∃ p : Parts, p.chars = raw.toList ∧ 2 ^ 64 ≤ p.value) ∧
      (answer = .error s!"'{raw}': invalid digit found in string" ↔
        ∃ p : Parts, p.chars = raw.toList ∧ p.value < 2 ^ 64 ∧
          (p.left ≠ [] ∨ p.digits = [] ∧ p.sign = ['+']))) ∧
    ∀ n, ∃ text, (Query.block n).params = [.text text, .bool false] ∧ parse text = .ok n := by
  refine ⟨fun raw => ⟨fun n => ?_, ?_, ?_, ?_, ?_⟩, fun n => ⟨render n, rfl, parse_render n⟩⟩
  · have hlt : n.toNat < UInt64.size := n.toNat_lt_size
    simp only [mapError_eq_ok_iff, parse_eq_ok_iff, ofChars_eq_ok_iff, hlt, and_true]
  · exact (reported_iff raw .notHex).trans ofChars_eq_notHex_iff
  · refine (reported_iff raw .noDigits).trans (ofChars_eq_noDigits_iff.trans ?_)
    rw [← String.toList_inj, ← String.toList_inj]
    rfl
  · exact (reported_iff raw .tooLarge).trans ofChars_eq_tooLarge_iff
  · exact (reported_iff raw .invalidDigit).trans ofChars_eq_invalidDigit_iff

end Quantity

end NodeWatch
