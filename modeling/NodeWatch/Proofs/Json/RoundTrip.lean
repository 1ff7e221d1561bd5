import NodeWatch.Proofs.Json.Lexing

/-!
# Reading JSON back

A value that is written can be read again if it holds no floating-point number, its integers fit
into 64 bits and it is not nested too deep. What is read is the value itself with the members of its
objects in the order of their names.
-/

namespace NodeWatch.Json

mutual

/-- The tree that a value is written as; floating-point numbers are left out of account. -/
def tree : Json → Tree
  | .null | .number (.real _) => .null
  | .bool b => .bool b
  | .number (.integer n) => .numeral (.ofInt n)
  | .text s => .text (pieces s)
  | .array items => .array (itemTrees items)
  | .object members => .object (memberTrees members)

/-- The trees of the items of an array. -/
def itemTrees : List Json → List Tree
  | [] => []
  | item :: rest => item.tree :: itemTrees rest

/-- The trees of the members of an object, with their names in pieces. -/
def memberTrees : List (String × Json) → List (List Piece × Tree)
  | [] => []
  | (name, value) :: rest => (pieces name, value.tree) :: memberTrees rest

end

mutual

/-- The value that is read from what a value is written as. -/
def normal : Json → Json
  | .array items => .array (normalItems items)
  | .object members => ofMembers (normalMembers members)
  | value => value

/-- The items of an array as they are read. -/
def normalItems : List Json → List Json
  | [] => []
  | item :: rest => item.normal :: normalItems rest

/-- The members of an object as they are read, in the order in which they were written. -/
def normalMembers : List (String × Json) → List (String × Json)
  | [] => []
  | (name, value) :: rest => (name, value.normal) :: normalMembers rest

end

/-- A value that can be read back inside no more than so many further arrays and objects. -/
inductive Readable : Nat → Json → Prop
  | null {depth : Nat} : Readable depth .null
  | bool {depth : Nat} (b : Bool) : Readable depth (.bool b)
  | integer {depth : Nat} {n : Int} (h : fits n = true) : Readable depth (.number (.integer n))
  | text {depth : Nat} (s : String) : Readable depth (.text s)
  | array {depth : Nat} {items : List Json} (h : ∀ item ∈ items, Readable depth item) :
    Readable (depth + 1) (.array items)
  | object {depth : Nat} {members : List (String × Json)}
    (h : ∀ member ∈ members, Readable depth member.2) : Readable (depth + 1) (.object members)

theorem itemTrees_eq_map (items : List Json) : itemTrees items = items.map tree := by
  induction items with
  | nil => rfl
  | cons item items ih => rw [itemTrees, ih, List.map_cons]

theorem memberTrees_eq_map (members : List (String × Json)) :
    memberTrees members = members.map fun member => (pieces member.1, member.2.tree) := by
  induction members with
  | nil => rfl
  | cons member members ih => rw [memberTrees, ih, List.map_cons]

/-- The first item is written, then each of the others after a comma. -/
theorem itemChars_cons (first : Json) (items : List Json) :
    itemChars (first :: items) = first.chars ++ items.flatMap fun item => ',' :: item.chars := by
  induction items generalizing first with
  | nil => simp [itemChars]
  | cons item items ih =>
    rw [itemChars, ih, List.flatMap_cons, List.cons_append]
    simp

/-- The characters of a member of an object. -/
def memberText (member : String × Json) : List Char :=
  renderText member.1 ++ ':' :: member.2.chars

/-- The first member is written, then each of the others after a comma. -/
theorem memberChars_cons (first : String × Json) (members : List (String × Json)) :
    memberChars (first :: members) =
      memberText first ++ members.flatMap fun member => ',' :: memberText member := by
  induction members generalizing first with
  | nil => simp [memberChars, memberText]
  | cons member members ih =>
    rw [memberChars, ih, List.flatMap_cons]
    · simp [memberText]
    · simp

/-- The lexemes of a member of an object. -/
def memberLexeme (member : String × Json) : List Lexeme :=
  .text (pieces member.1) :: .colon :: member.2.tree.lexemes

/-- A member of an object is cut into its lexemes if its value is. -/
theorem lexes_memberText {member : String × Json}
    (h : Lexes member.2.chars member.2.tree.lexemes) :
    Lexes (memberText member) (memberLexeme member) :=
  (Lexes.quoted member.1).append_mark (by decide) h

/-- A value that can be read back is cut into the lexemes of its tree. -/
theorem Readable.lexes {depth : Nat} {value : Json} (h : Readable depth value) :
    Lexes value.chars value.tree.lexemes := by
  induction h with
  | null =>
    change Lexes ['n', 'u', 'l', 'l'] [.null]
    exact Lexes.word (by decide) fun _ => rfl
  | bool b =>
    cases b with
    | true =>
      change Lexes ['t', 'r', 'u', 'e'] [.bool true]
      exact Lexes.word (by decide) fun _ => rfl
    | false =>
      change Lexes ['f', 'a', 'l', 's', 'e'] [.bool false]
      exact Lexes.word (by decide) fun _ => rfl
  | integer => exact Lexes.integer _
  | text s => exact Lexes.quoted s
  | @array _ items _ ih =>
    cases items with
    | nil => exact (Lexes.nil.mark (by decide)).mark (by decide)
    | cons first items =>
      rw [chars, itemChars_cons, tree, Tree.lexemes, itemTrees_eq_map, List.map_cons,
        itemLexemes_cons, List.flatMap_map]
      exact Lexes.bracketed (by decide) (by decide) ih
  | @object _ members _ ih =>
    cases members with
    | nil => exact (Lexes.nil.mark (by decide)).mark (by decide)
    | cons first members =>
      have hmembers : ∀ member ∈ first :: members,
          Lexes (memberText member) (memberLexeme member) :=
        fun member hmember => lexes_memberText (ih member hmember)
      rw [chars, memberChars_cons, tree, Tree.lexemes, memberTrees_eq_map, List.map_cons,
        memberLexemes_cons, List.flatMap_map]
      exact Lexes.bracketed (by decide) (by decide) hmembers

/-- The items of an array are read as they were written. -/
theorem itemValues?_map_tree {depth : Nat} {items : List Json}
    (h : ∀ item ∈ items, item.tree.value? depth = some item.normal) :
    itemValues? depth (items.map tree) = some (normalItems items) := by
  induction items with
  | nil => rfl
  | cons item items ih =>
    have hitem := h item List.mem_cons_self
    have hitems := ih fun other hother => h other (List.mem_cons_of_mem _ hother)
    simp only [List.map_cons, itemValues?, hitem, hitems, normalItems, Option.bind_eq_bind,
      Option.bind_some]

/-- The members of an object are read as they were written. -/
theorem memberValues?_map_tree {depth : Nat} {members : List (String × Json)}
    (h : ∀ member ∈ members, member.2.tree.value? depth = some member.2.normal) :
    memberValues? depth (members.map fun member => (pieces member.1, member.2.tree)) =
      some (normalMembers members) := by
  induction members with
  | nil => rfl
  | cons member members ih =>
    have hmember := h member List.mem_cons_self
    have hmembers := ih fun other hother => h other (List.mem_cons_of_mem _ hother)
    simp only [List.map_cons, memberValues?, text?_pieces, hmember, hmembers, normalMembers,
      Option.bind_eq_bind, Option.bind_some]

/-- The tree of a value that can be read back makes sense as that value. -/
theorem Readable.value?_tree {depth : Nat} {value : Json} (h : Readable depth value) :
    value.tree.value? depth = some value.normal := by
  induction h with
  | null | bool => rfl
  | integer h => simp only [tree, Tree.value?, number?_ofInt h, Option.map_some, normal]
  | text s => simp only [tree, Tree.value?, text?_pieces, Option.map_some, normal]
  | array _ ih =>
    rw [tree, Tree.value?, itemTrees_eq_map, itemValues?_map_tree ih, Option.map_some, normal]
  | object _ ih =>
    rw [tree, Tree.value?, memberTrees_eq_map, memberValues?_map_tree ih, Option.map_some, normal]

/-- The characters of a value that can be read back are read as its tree. -/
theorem Readable.ofGlyphs?_render {depth : Nat} {value : Json} (h : Readable depth value) :
    Tree.ofGlyphs? (Utf8.ofString value.render) = some value.tree := by
  have hglyphs : Utf8.ofString value.render = glyphs value.chars := by
    rw [Utf8.ofString, render, String.toList_ofList, glyphs]
  have hlexemes : lexemes? (glyphs value.chars) = some value.tree.lexemes := by
    have hcut := h.lexes [] trivial
    rw [List.append_nil] at hcut
    rw [hcut, lexemes?]
    simp
  rw [hglyphs, Tree.ofGlyphs?_eq_some_iff, hlexemes]

/-- What is written can be read: every value without floating-point numbers and with integers of 64
bits, nested as deep as a reader allows. -/
theorem parse?_render {value : Json} (h : Readable maxDepth value) :
    parse? value.render = some value.normal := by
  rw [parse?, h.ofGlyphs?_render, Option.bind_some, h.value?_tree]

end NodeWatch.Json
