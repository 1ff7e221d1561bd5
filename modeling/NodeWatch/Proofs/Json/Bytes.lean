import Mathlib.Tactic.SplitIfs
import NodeWatch.Proofs.Json.RoundTrip

/-!
# Documents in bytes

The bytes of a text are read as its characters: what the first byte of a character begins goes on
with the bytes after it, and the narrower bounds on the second byte keep no character out. So what
was written as JSON is read in bytes as the tree that it was.
-/

namespace NodeWatch

namespace Utf8

/-! ### First bytes -/

/-- A byte below 128 is a character by itself. -/
theorem start_one {d : Nat} (h : d < 128) :
    start (UInt8.ofNat d) = ([.char (Char.ofNat d)], none) := by
  simp only [start, UInt8.toNat_ofNat_of_lt' (show d < 256 by omega), h, if_true]

/-- The first of two bytes. -/
theorem start_two {d : Nat} (hlow : 2 ≤ d) (hhigh : d < 32) :
    start (UInt8.ofNat (d + 192)) =
      ([], some { value := d, later := 0, bytes := [UInt8.ofNat (d + 192)] }) := by
  have h₁ : ¬d + 192 < 128 := by omega
  have h₂ : ¬d + 192 < 194 := by omega
  have h₃ : d + 192 < 224 := by omega
  simp only [start, UInt8.toNat_ofNat_of_lt' (show d + 192 < 256 by omega), h₁, h₂, h₃, if_true,
    if_false, Nat.add_sub_cancel]

/-- The first of three bytes. The second is bounded so that no shorter form would do and so that
there are no surrogates. -/
theorem start_three {d : Nat} (h : d < 16) :
    start (UInt8.ofNat (d + 224)) =
      ([], some
        { value := d, later := 1, low := if d = 0 then 0xA0 else 0x80
          high := if d = 13 then 0x9F else 0xBF, bytes := [UInt8.ofNat (d + 224)] }) := by
  have h₁ : ¬d + 224 < 128 := by omega
  have h₂ : ¬d + 224 < 194 := by omega
  have h₃ : ¬d + 224 < 224 := by omega
  have h₄ : d + 224 < 240 := by omega
  have hfirst : d + 224 = 224 ↔ d = 0 := by omega
  have hsurrogate : d + 224 = 237 ↔ d = 13 := by omega
  simp only [start, UInt8.toNat_ofNat_of_lt' (show d + 224 < 256 by omega), h₁, h₂, h₃, h₄, hfirst,
    hsurrogate, if_true, if_false, Nat.add_sub_cancel]
  by_cases hzero : d = 0
  · simp [hzero]
  · by_cases hthirteen : d = 13 <;> simp [hzero, hthirteen]

/-- The first of four bytes. The second is bounded so that no shorter form would do and so that the
last plane is not left. -/
theorem start_four {d : Nat} (h : d < 5) :
    start (UInt8.ofNat (d + 240)) =
      ([], some
        { value := d, later := 2, low := if d = 0 then 0x90 else 0x80
          high := if d = 4 then 0x8F else 0xBF, bytes := [UInt8.ofNat (d + 240)] }) := by
  have h₁ : ¬d + 240 < 128 := by omega
  have h₂ : ¬d + 240 < 194 := by omega
  have h₃ : ¬d + 240 < 224 := by omega
  have h₄ : ¬d + 240 < 240 := by omega
  have h₅ : d + 240 < 244 ↔ d < 4 := by omega
  have hsurrogate : ¬d + 240 = 237 := by omega
  have hthree : ¬d + 240 = 224 := by omega
  have hfirst : d + 240 = 240 ↔ d = 0 := by omega
  have hlast : d + 240 = 244 ↔ d = 4 := by omega
  simp only [start, UInt8.toNat_ofNat_of_lt' (show d + 240 < 256 by omega), h₁, h₂, h₃, h₄, h₅,
    hthree, hsurrogate, hfirst, hlast, if_false, Nat.add_sub_cancel]
  by_cases hzero : d = 0
  · simp [hzero]
  by_cases hfour : d = 4
  · simp [hfour]
  · have hlt : d < 4 := by omega
    simp [hzero, hfour, hlt]

/-! ### Further bytes -/

theorem between_ofNat {low high : UInt8} {d : Nat} (hlow : low.toNat ≤ d + 128)
    (hhigh : d + 128 ≤ high.toNat) :
    (low ≤ UInt8.ofNat (d + 128) ∧ UInt8.ofNat (d + 128) ≤ high) ∧
      (UInt8.ofNat (d + 128)).toNat = d + 128 := by
  have hvalue := UInt8.toNat_ofNat_of_lt' (Nat.lt_of_le_of_lt hhigh high.toNat_lt)
  rw [UInt8.le_iff_toNat_le, UInt8.le_iff_toNat_le, hvalue]
  exact ⟨⟨hlow, hhigh⟩, rfl⟩

section Further

variable {value later d : Nat} {low high : UInt8} {bytes : List UInt8}

/-- A byte that goes on with a character is taken into it. -/
theorem scanFrom_further (hlow : low.toNat ≤ d + 128) (hhigh : d + 128 ≤ high.toNat)
    (rest : List UInt8) :
    scanFrom (some ⟨value, later + 1, low, high, bytes⟩) (UInt8.ofNat (d + 128) :: rest) =
      scanFrom (some { value := value * 64 + d, later, bytes := UInt8.ofNat (d + 128) :: bytes })
        rest := by
  obtain ⟨hbounds, hbyte⟩ := between_ofNat hlow hhigh
  rw [scanFrom, if_pos hbounds, hbyte, Nat.add_sub_cancel]

/-- The last byte of a character ends it. -/
theorem scanFrom_last (hlow : low.toNat ≤ d + 128) (hhigh : d + 128 ≤ high.toNat)
    (rest : List UInt8) :
    scanFrom (some ⟨value, 0, low, high, bytes⟩) (UInt8.ofNat (d + 128) :: rest) =
      .char (Char.ofNat (value * 64 + d)) :: scanFrom none rest := by
  obtain ⟨hbounds, hbyte⟩ := between_ofNat hlow hhigh
  rw [scanFrom, if_pos hbounds, hbyte, Nat.add_sub_cancel]

/-- The bounds that a byte has unless it is the second one. -/
theorem toNat_bounds (h : d < 64) :
    (0x80 : UInt8).toNat ≤ d + 128 ∧ d + 128 ≤ (0xBF : UInt8).toNat := by
  simp only [UInt8.reduceToNat]
  omega

end Further

/-! ### Characters -/

/-- The bytes of a character are read as the character. -/
theorem scanFrom_utf8EncodeChar (c : Char) (rest : List UInt8) :
    scanFrom none (String.utf8EncodeChar c ++ rest) = .char c :: scanFrom none rest := by
  have hchar : Char.ofNat c.val.toNat = c := Char.ofNat_toNat c
  have hvalid : c.val.toNat < 0xD800 ∨ 0xDFFF < c.val.toNat ∧ c.val.toNat < 0x110000 := c.valid
  rw [String.utf8EncodeChar]
  generalize c.val.toNat = n at hchar hvalid
  have hplain (d : Nat) := toNat_bounds (Nat.mod_lt d (show 0 < 64 by decide))
  split_ifs with hone htwo hthree
  · rw [List.singleton_append, scanFrom, start_one (by omega), hchar]
    rfl
  · have hd : n / 64 % 32 = n / 64 := by omega
    have hsum : n / 64 * 64 + n % 64 = n := by omega
    rw [hd, List.cons_append, scanFrom, start_two (by omega) (by omega), List.singleton_append]
    simp only [List.nil_append]
    rw [scanFrom_last (hplain n).1 (hplain n).2, hsum, hchar]
  · have hd : n / 4096 % 16 = n / 4096 := by omega
    have hsum : (n / 4096 * 64 + n / 64 % 64) * 64 + n % 64 = n := by omega
    have hlow : (if n / 4096 = 0 then (0xA0 : UInt8) else 0x80).toNat ≤ n / 64 % 64 + 128 := by
      split_ifs
      · simp only [UInt8.reduceToNat]
        omega
      · exact (hplain _).1
    have hhigh : n / 64 % 64 + 128 ≤ (if n / 4096 = 13 then (0x9F : UInt8) else 0xBF).toNat := by
      split_ifs
      · simp only [UInt8.reduceToNat]
        omega
      · exact (hplain _).2
    rw [hd, List.cons_append, scanFrom, start_three (by omega)]
    simp only [List.nil_append, List.cons_append]
    rw [scanFrom_further hlow hhigh, scanFrom_last (hplain n).1 (hplain n).2, hsum, hchar]
  · have hd : n / 262144 % 8 = n / 262144 := by omega
    have hsum : ((n / 262144 * 64 + n / 4096 % 64) * 64 + n / 64 % 64) * 64 + n % 64 = n := by omega
    have hlow : (if n / 262144 = 0 then (0x90 : UInt8) else 0x80).toNat ≤ n / 4096 % 64 + 128 := by
      split_ifs
      · simp only [UInt8.reduceToNat]
        omega
      · exact (hplain _).1
    have hhigh : n / 4096 % 64 + 128 ≤ (if n / 262144 = 4 then (0x8F : UInt8) else 0xBF).toNat := by
      split_ifs
      · simp only [UInt8.reduceToNat]
        omega
      · exact (hplain _).2
    rw [hd, List.cons_append, scanFrom, start_four (by omega)]
    simp only [List.nil_append, List.cons_append]
    rw [scanFrom_further hlow hhigh, scanFrom_further (hplain _).1 (hplain _).2,
      scanFrom_last (hplain n).1 (hplain n).2, hsum, hchar]

/-- The bytes of characters are read as the characters. -/
theorem scan_flatMap_utf8EncodeChar (cs : List Char) :
    scan (cs.flatMap String.utf8EncodeChar) = cs.map .char := by
  induction cs with
  | nil => rfl
  | cons c cs ih =>
    rw [List.flatMap_cons, scan, scanFrom_utf8EncodeChar, List.map_cons, ← ih, scan]

theorem toList_loop_eq (bytes : ByteArray) (i : Nat) (sofar : List UInt8) :
    ByteArray.toList.loop bytes i sofar = sofar.reverse ++ bytes.data.toList.drop i := by
  fun_induction ByteArray.toList.loop bytes i sofar with
  | case1 i sofar h ih =>
    have hi : i < bytes.data.toList.length := by simpa using h
    have hget : bytes.get! i = bytes.data.toList[i] := by simp [ByteArray.get!, h]
    rw [ih, List.drop_eq_getElem_cons hi, hget, List.reverse_cons, List.append_assoc,
      List.singleton_append]
  | case2 i sofar h =>
    have hi : bytes.data.toList.length ≤ i := by simpa using h
    rw [List.drop_eq_nil_of_le hi, List.append_nil]

/-- The bytes of a text are those of its characters. -/
theorem toList_toUTF8 (s : String) :
    s.toUTF8.toList = s.toList.flatMap String.utf8EncodeChar := by
  have hlist (bytes : ByteArray) : bytes.toList = bytes.data.toList := toList_loop_eq bytes 0 []
  have hbytes : s.toUTF8 = (s.toList.flatMap String.utf8EncodeChar).toByteArray := by
    rw [String.toUTF8_eq_toByteArray, ← String.ofList_toList (s := s), String.toByteArray_ofList,
      String.toList_ofList]
    rfl
  rw [hlist, hbytes, List.toList_data_toByteArray]

/-- The bytes of a text are read as its characters. -/
theorem scan_toUTF8 (s : String) : scan s.toUTF8.toList = ofString s := by
  rw [toList_toUTF8, scan_flatMap_utf8EncodeChar, ofString]

end Utf8

namespace Json

/-- What was written is read in bytes as the tree that it was. -/
theorem Readable.ofBytes?_render {depth : Nat} {value : Json} (h : Readable depth value) :
    Tree.ofBytes? value.render.toUTF8.toList = some value.tree := by
  rw [Tree.ofBytes?, Utf8.scan_toUTF8, h.ofGlyphs?_render]

end Json

end NodeWatch
