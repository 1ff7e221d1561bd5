import Mathlib.Data.List.Forall2
import NodeWatch.Json.Record
import NodeWatch.Proofs.Json.RoundTrip

/-!
# Which documents are records

A record is an array of its fields in their order, or an object whose names are all texts and which
has each field at most once. What else an object holds is of no account, and neither is the order of
its members. The parts of a record are told in the same way: a numeral is an integer by its digits
and a string is a text by its pieces.
-/

namespace NodeWatch.Json

/-- What an object has under a name, in the order in which it was written. -/
def under (name : String) (members : List (List Piece × Tree)) : List Tree :=
  (members.filter fun member => text? member.1 = some name).map Prod.snd

/-- A record of fields with these names; a field that was not written is missing. -/
inductive Tree.IsRecord (names : List String) : Tree → List (Option Tree) → Prop
  | array {items : List Tree} (hlength : items.length = names.length) :
    IsRecord names (.array items) (items.map some)
  | object {members : List (List Piece × Tree)} {fields : List (Option Tree)}
    (htexts : ∀ member ∈ members, (text? member.1).isSome)
    (hfields : List.Forall₂ (fun name field => under name members = field.toList) names fields) :
    IsRecord names (.object members) fields

theorem Tree.isRecord_array_iff {names : List String} {items : List Tree}
    {fields : List (Option Tree)} :
    (Tree.array items).IsRecord names fields ↔
      items.length = names.length ∧ fields = items.map some := by
  constructor
  · rintro ⟨hlength⟩
    exact ⟨hlength, rfl⟩
  · rintro ⟨hlength, rfl⟩
    exact .array hlength

theorem Tree.isRecord_object_iff {names : List String} {members : List (List Piece × Tree)}
    {fields : List (Option Tree)} :
    (Tree.object members).IsRecord names fields ↔
      (∀ member ∈ members, (text? member.1).isSome) ∧
        List.Forall₂ (fun name field => under name members = field.toList) names fields := by
  constructor
  · rintro (_ | ⟨htexts, hfields⟩)
    exact ⟨htexts, hfields⟩
  · rintro ⟨htexts, hfields⟩
    exact .object htexts hfields

/-! ### Names -/

/-- The names of an object that was written are texts. -/
theorem isSome_text?_memberTrees (members : List (String × Json)) :
    ∀ member ∈ memberTrees members, (text? member.1).isSome := by
  rw [memberTrees_eq_map, List.forall_mem_map]
  intro member _
  rw [text?_pieces]
  rfl

/-- An object that was written has under a name what it was written with. -/
theorem under_memberTrees (name : String) (members : List (String × Json)) :
    under name (memberTrees members) =
      (members.filter (·.1 = name)).map fun member => member.2.tree := by
  simp [under, memberTrees_eq_map, List.filter_map, Function.comp_def, text?_pieces]

/-! ### Fields -/

/-- A list is read if each of its elements is. -/
theorem mapM_eq_some_iff {α β : Type} {read : α → Option β} {as : List α} {bs : List β} :
    as.mapM read = some bs ↔ List.Forall₂ (fun a b => read a = some b) as bs := by
  induction as generalizing bs with
  | nil => simp [List.forall₂_nil_left_iff, eq_comm]
  | cons a as ih =>
    rw [List.mapM_cons, List.forall₂_cons_left_iff]
    simp only [Option.bind_eq_bind, Option.bind_eq_some_iff, Option.pure_def, Option.some.injEq, ih]
    constructor
    · rintro ⟨b, hb, bs, hbs, rfl⟩
      exact ⟨b, bs, hb, hbs, rfl⟩
    · rintro ⟨b, bs, hb, hbs, rfl⟩
      exact ⟨b, hb, bs, hbs, rfl⟩

/-- A field is found if it is written at most once. -/
theorem pickFields_eq_some_iff {names : List String} {members : List (String × Tree)}
    {fields : List (Option Tree)} :
    pickFields names members = some fields ↔
      List.Forall₂ (fun name field => (members.filter (·.1 = name)).map Prod.snd = field.toList)
        names fields := by
  rw [pickFields, mapM_eq_some_iff]
  refine iff_of_eq (congrArg (List.Forall₂ · names fields) (funext₂ fun name field => ?_))
  generalize members.filter (·.1 = name) = found
  rcases found with _ | ⟨⟨_, tree⟩, _ | ⟨_, _⟩⟩ <;> cases field <;> simp

/-- Naming the members by texts changes nothing about what is under a name. -/
theorem map_filter_eq_under {members : List (List Piece × Tree)} {named : List (String × Tree)}
    (h : List.Forall₂ (fun member entry => (text? member.1).map (·, member.2) = some entry)
      members named) (name : String) :
    (named.filter (·.1 = name)).map Prod.snd = under name members := by
  induction h with
  | nil => rfl
  | @cons member entry members named hmember _ ih =>
    obtain ⟨text, htext, rfl⟩ := Option.map_eq_some_iff.mp hmember
    by_cases hname : text = name <;> simp_all [under]

/-- The members can be named by texts if all their names are texts. -/
theorem exists_named_iff {members : List (List Piece × Tree)} :
    (∃ named, List.Forall₂ (fun member (entry : String × Tree) =>
        (text? member.1).map (·, member.2) = some entry) members named) ↔
      ∀ member ∈ members, (text? member.1).isSome := by
  induction members with
  | nil => simp
  | cons member members ih =>
    rw [List.forall_mem_cons, ← ih]
    simp only [List.forall₂_cons_left_iff, Option.map_eq_some_iff, Option.isSome_iff_exists]
    constructor
    · rintro ⟨_, _, named, ⟨text, htext, -⟩, hnamed, -⟩
      exact ⟨⟨text, htext⟩, named, hnamed⟩
    · rintro ⟨⟨text, htext⟩, named, hnamed⟩
      exact ⟨_, _, named, ⟨text, htext, rfl⟩, hnamed, rfl⟩

/-- Exactly the records are read as such, each with the fields that it has. -/
theorem Tree.fields?_eq_some_iff {names : List String} {tree : Tree} {fields : List (Option Tree)} :
    tree.fields? names = some fields ↔ tree.IsRecord names fields := by
  constructor
  · intro h
    cases tree with
    | object members =>
      obtain ⟨named, hnamed, hfields⟩ := Option.bind_eq_some_iff.mp h
      have hread := mapM_eq_some_iff.mp hnamed
      refine .object (exists_named_iff.mp ⟨named, hread⟩) ?_
      simpa only [map_filter_eq_under hread] using pickFields_eq_some_iff.mp hfields
    | array items =>
      obtain ⟨hlength, hfields⟩ := Option.ite_none_right_eq_some.mp h
      obtain rfl := Option.some.inj hfields
      exact .array hlength
    | _ => cases h
  · rintro (⟨hlength⟩ | ⟨htexts, hfields⟩)
    · exact if_pos hlength
    · obtain ⟨named, hread⟩ := exists_named_iff.mpr htexts
      refine Option.bind_eq_some_iff.mpr ⟨named, mapM_eq_some_iff.mpr hread, ?_⟩
      rw [pickFields_eq_some_iff]
      simpa only [map_filter_eq_under hread] using hfields

/-- A field that may be missing or null is read as nothing then, and else as what it holds. -/
theorem Tree.optional?_eq_some_iff {α : Type} {read : Tree → Option α} {field : Option Tree}
    {found : Option α} :
    Tree.optional? read field = some found ↔
      (field = none ∨ field = some .null) ∧ found = none ∨
        ∃ tree a, field = some tree ∧ tree ≠ .null ∧ read tree = some a ∧ found = some a := by
  rcases field with _ | tree
  · simp [Tree.optional?, @eq_comm _ found]
  · cases tree <;> simp [Tree.optional?, @eq_comm _ found]

/-! ### Parts -/

/-- A numeral without point and exponent is an integer, unless it is minus zero. -/
inductive Numeral.IsInteger : Numeral → Int → Prop
  | plain (whole : List Nat) : IsInteger ⟨false, whole, none, none⟩ (digitsValue whole)
  | negated {whole : List Nat} (h : 0 < digitsValue whole) :
    IsInteger ⟨true, whole, none, none⟩ (-digitsValue whole)

/-- The number of a numeral is an integer if the numeral is one and 64 bits are enough for it. -/
theorem number?_eq_integer_iff {n : Numeral} {i : Int} :
    n.number? = some (.integer i) ↔ n.IsInteger i ∧ fits i = true := by
  rw [fits_iff]
  constructor
  · intro h
    obtain ⟨negative, whole, fraction, exponent⟩ := n
    simp only [Numeral.number?, fitsUnsigned_iff, fitsSigned_iff] at h
    split at h
    · rename_i hplain
      obtain ⟨rfl, rfl, hsign, hrange⟩ := hplain
      obtain rfl := (Bool.not_eq_true' negative).mp hsign
      cases h
      exact ⟨.plain whole, by omega⟩
    split at h
    · rename_i hnegated
      obtain ⟨rfl, rfl, rfl, hpos, hrange⟩ := hnegated
      cases h
      exact ⟨.negated hpos, by omega⟩
    · obtain ⟨_, -, hreal⟩ := Option.map_eq_some_iff.mp h
      cases hreal
  · rintro ⟨⟨whole⟩ | @⟨whole, hpos⟩, hrange⟩
    · simp [Numeral.number?, fitsUnsigned_iff]
      omega
    · simp [Numeral.number?, fitsUnsigned_iff, fitsSigned_iff]
      omega

/-- The integers of 64 bits that are written are read, and no others. -/
theorem Tree.int64?_eq_some_iff {tree : Tree} {i : Int} :
    tree.int64? = some i ↔
      ∃ n, tree = .numeral n ∧ n.IsInteger i ∧ -2 ^ 63 ≤ i ∧ i < 2 ^ 63 := by
  have hfits (h : -2 ^ 63 ≤ i ∧ i < 2 ^ 63) : fits i = true := fits_iff.mpr ⟨h.1, by omega⟩
  cases tree with
  | numeral n =>
    have hread : Tree.int64? (.numeral n) = some i ↔
        n.number? = some (.integer i) ∧ Width.fitsSigned 64 i = true := by
      rw [Tree.int64?]
      generalize n.number? = number
      rcases number with _ | ⟨j | x⟩
      · simp
      · simp only [Option.ite_none_right_eq_some, Option.some.injEq, Number.integer.injEq]
        constructor
        · rintro ⟨hj, rfl⟩
          exact ⟨rfl, hj⟩
        · rintro ⟨rfl, hj⟩
          exact ⟨hj, rfl⟩
      · simp
    rw [hread, number?_eq_integer_iff, fitsSigned_iff]
    constructor
    · rintro ⟨⟨hn, -⟩, hrange⟩
      exact ⟨n, rfl, hn, hrange⟩
    · rintro ⟨_, ⟨⟩, hn, hrange⟩
      exact ⟨⟨hn, hfits hrange⟩, hrange⟩
  | _ => simp [Tree.int64?]

/-- A string is read as the text that its pieces make. -/
theorem Tree.string?_eq_some_iff {tree : Tree} {s : String} :
    tree.string? = some s ↔ ∃ pieces, tree = .text pieces ∧ text? pieces = some s := by
  cases tree <;> simp [Tree.string?]

end NodeWatch.Json
