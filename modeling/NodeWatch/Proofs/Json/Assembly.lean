import NodeWatch.Json.Tree

/-!
# Reading trees back from their lexemes

A tree is spelled in lexemes in one way, without regard to what is open around it. The reading with
a stack of open arrays and objects takes the spelling back to the tree, whatever follows; and what
it has read at any point is spelled by the stack, so it takes nothing else to a tree.
-/

namespace NodeWatch.Json

mutual

/-- The lexemes of a tree. -/
def Tree.lexemes : Tree → List Lexeme
  | .null => [.null]
  | .bool b => [.bool b]
  | .numeral n => [.numeral n]
  | .text pieces => [.text pieces]
  | .array items => .openArray :: itemLexemes items ++ [.closeArray]
  | .object members => .openObject :: memberLexemes members ++ [.closeObject]

/-- The lexemes of the items of an array. -/
def itemLexemes : List Tree → List Lexeme
  | [] => []
  | [item] => item.lexemes
  | item :: rest => item.lexemes ++ .comma :: itemLexemes rest

/-- The lexemes of the members of an object. -/
def memberLexemes : List (List Piece × Tree) → List Lexeme
  | [] => []
  | [(name, tree)] => .text name :: .colon :: tree.lexemes
  | (name, tree) :: rest =>
    .text name :: .colon :: tree.lexemes ++ .comma :: memberLexemes rest

end

/-- Induction on trees: what holds of all items of an array holds of the array, and what holds of
all members of an object holds of the object. -/
@[elab_as_elim, induction_eliminator]
theorem Tree.ind {P : Tree → Prop} (null : P .null) (bool : ∀ b, P (.bool b))
    (numeral : ∀ n, P (.numeral n)) (text : ∀ pieces, P (.text pieces))
    (array : ∀ items, (∀ item ∈ items, P item) → P (.array items))
    (object : ∀ members, (∀ member ∈ members, P member.2) → P (.object members)) : ∀ t, P t
  | .null => null
  | .bool b => bool b
  | .numeral n => numeral n
  | .text pieces => text pieces
  | .array items => array items fun item _ => ind null bool numeral text array object item
  | .object members =>
    object members fun member hmember =>
      have : sizeOf member.2 < sizeOf members := by
        obtain ⟨name, tree⟩ := member
        have hlt := List.sizeOf_lt_of_mem hmember
        rw [Prod.mk.sizeOf_spec] at hlt
        dsimp only
        omega
      ind null bool numeral text array object member.2

/-- The first item is spelled, then each of the others after a comma. -/
theorem itemLexemes_cons (first : Tree) (items : List Tree) :
    itemLexemes (first :: items) =
      first.lexemes ++ items.flatMap fun item => .comma :: item.lexemes := by
  induction items generalizing first with
  | nil => simp [itemLexemes]
  | cons item items ih =>
    rw [itemLexemes, ih, List.flatMap_cons, List.cons_append]
    simp

/-- The first member is spelled, then each of the others after a comma. -/
theorem memberLexemes_cons (first : List Piece × Tree) (members : List (List Piece × Tree)) :
    memberLexemes (first :: members) = .text first.1 :: .colon :: first.2.lexemes ++
      members.flatMap fun member => .comma :: .text member.1 :: .colon :: member.2.lexemes := by
  induction members generalizing first with
  | nil => simp [memberLexemes]
  | cons member members ih =>
    rw [memberLexemes, ih, List.flatMap_cons]
    · simp
    · simp

/-- No tree is spelled with the end of an array first. -/
theorem Tree.exists_lexemes_eq_cons (t : Tree) :
    ∃ first rest, t.lexemes = first :: rest ∧ first ≠ .closeArray := by
  cases t <;> simp [lexemes]

/-- The first item of an array is read as any item is. -/
theorem assemble_firstItem (t : Tree) (stack : List Frame) (rest : List Lexeme) :
    assemble .firstItem stack (t.lexemes ++ rest) =
      assemble .value (.array [] :: stack) (t.lexemes ++ rest) := by
  obtain ⟨first, more, heq, hne⟩ := t.exists_lexemes_eq_cons
  rw [heq]
  cases first <;> first | exact absurd rfl hne | rfl

/-- A tree is read from its lexemes wherever it stands. -/
def Tree.Reads (t : Tree) : Prop :=
  ∀ stack rest, assemble .value stack (t.lexemes ++ rest) = assemble (.done t) stack rest

/-- The further items of an array are read after those that were read before. -/
theorem assemble_items {items : List Tree} (h : ∀ item ∈ items, item.Reads) (last : Tree)
    (read : List Tree) (stack : List Frame) (rest : List Lexeme) :
    assemble (.done last) (.array read :: stack)
        ((items.flatMap fun item => .comma :: item.lexemes) ++ .closeArray :: rest) =
      assemble (.done (.array (read.reverse ++ last :: items))) stack rest := by
  induction items generalizing last read with
  | nil => simp [assemble, advance]
  | cons item items ih =>
    have hitem := h item List.mem_cons_self
    have hitems := ih (fun other hother => h other (List.mem_cons_of_mem _ hother)) item
      (last :: read)
    rw [List.reverse_cons, List.append_assoc, List.singleton_append] at hitems
    rw [List.flatMap_cons, List.append_assoc, ← hitems, ← hitem]
    rfl

/-- The further members of an object are read after those that were read before. -/
theorem assemble_members {members : List (List Piece × Tree)}
    (h : ∀ member ∈ members, member.2.Reads) (name : List Piece) (last : Tree)
    (read : List (List Piece × Tree)) (stack : List Frame) (rest : List Lexeme) :
    assemble (.done last) (.object read name :: stack)
        ((members.flatMap fun member => .comma :: .text member.1 :: .colon :: member.2.lexemes) ++
          .closeObject :: rest) =
      assemble (.done (.object (read.reverse ++ (name, last) :: members))) stack rest := by
  induction members generalizing name last read with
  | nil => simp [assemble, advance]
  | cons member members ih =>
    have hmember := h member List.mem_cons_self
    have hmembers := ih (fun other hother => h other (List.mem_cons_of_mem _ hother)) member.1
      member.2 ((name, last) :: read)
    rw [List.reverse_cons, List.append_assoc, List.singleton_append] at hmembers
    rw [List.flatMap_cons, List.append_assoc, ← hmembers, ← hmember]
    rfl

/-- Every tree is read from its lexemes. -/
theorem Tree.reads (t : Tree) : t.Reads := by
  induction t with
  | null | bool | numeral | text => exact fun _ _ => rfl
  | array items ih =>
    intro stack rest
    cases items with
    | nil => rfl
    | cons first items =>
      have hitems := assemble_items (fun item hitem => ih item (List.mem_cons_of_mem _ hitem))
        first [] stack rest
      rw [← ih first List.mem_cons_self, ← assemble_firstItem] at hitems
      simp only [lexemes, itemLexemes_cons, List.cons_append, List.append_assoc]
      exact hitems
  | object members ih =>
    intro stack rest
    cases members with
    | nil => rfl
    | cons first members =>
      have hmembers := assemble_members
        (fun member hmember => ih member (List.mem_cons_of_mem _ hmember)) first.1 first.2 [] stack
        rest
      rw [← ih first List.mem_cons_self] at hmembers
      simp only [lexemes, memberLexemes_cons, List.cons_append, List.append_assoc]
      exact hmembers

/-- A document that spells a tree is read as that tree. -/
theorem assemble_lexemes (t : Tree) : assemble .value [] t.lexemes = some t := by
  rw [← List.append_nil t.lexemes, t.reads]
  rfl

/-! ### What has been read -/

/-- The lexemes of items that have been read, the last first, with a comma after each. -/
def itemsRead (items : List Tree) : List Lexeme :=
  items.reverse.flatMap fun item => item.lexemes ++ [.comma]

/-- The lexemes of members that have been read, the last first, with a comma after each. -/
def membersRead (members : List (List Piece × Tree)) : List Lexeme :=
  members.reverse.flatMap fun member => .text member.1 :: .colon :: member.2.lexemes ++ [.comma]

/-- The lexemes of what is open. -/
def Frame.lexemes : Frame → List Lexeme
  | .array items => .openArray :: itemsRead items
  | .object members name => .openObject :: membersRead members ++ [.text name, .colon]

/-- The lexemes at a place that are not on the stack. -/
def Place.lexemes : Place → List Lexeme
  | .value => []
  | .firstItem => [.openArray]
  | .firstName => [.openObject]
  | .name members => .openObject :: membersRead members
  | .colon members next => .openObject :: membersRead members ++ [.text next]
  | .done tree => tree.lexemes

/-- The lexemes that have been read when this is the place and this the stack. -/
def soFar (place : Place) (stack : List Frame) : List Lexeme :=
  stack.reverse.flatMap Frame.lexemes ++ place.lexemes

theorem itemsRead_cons (last : Tree) (items : List Tree) :
    itemsRead (last :: items) = itemsRead items ++ last.lexemes ++ [.comma] := by
  simp [itemsRead]

theorem membersRead_cons (name : List Piece) (last : Tree) (members : List (List Piece × Tree)) :
    membersRead ((name, last) :: members) =
      membersRead members ++ [.text name, .colon] ++ last.lexemes ++ [.comma] := by
  simp [membersRead]

/-- Before the last item there is a comma after each. -/
theorem itemLexemes_concat (items : List Tree) (last : Tree) :
    itemLexemes (items.reverse ++ [last]) = itemsRead items ++ last.lexemes := by
  rw [itemsRead]
  induction items.reverse with
  | nil => simp [itemLexemes]
  | cons item items ih =>
    rw [List.cons_append, itemLexemes, ih]
    · simp
    · simp

/-- Before the last member there is a comma after each. -/
theorem memberLexemes_concat (members : List (List Piece × Tree)) (name : List Piece)
    (last : Tree) :
    memberLexemes (members.reverse ++ [(name, last)]) =
      membersRead members ++ [.text name, .colon] ++ last.lexemes := by
  rw [membersRead]
  induction members.reverse with
  | nil => simp [memberLexemes]
  | cons member members ih =>
    rw [List.cons_append, memberLexemes, ih]
    · simp
    · simp

/-- The first lexeme of a value is all that has been read of it. -/
theorem soFar_beginValue {stack stack' : List Frame} {lexeme : Lexeme} {place : Place}
    (h : beginValue stack lexeme = some (place, stack')) :
    soFar place stack' = soFar .value stack ++ [lexeme] := by
  cases lexeme <;> cases h <;> simp [soFar, Place.lexemes, Tree.lexemes]

/-- Every lexeme is added to what has been read. -/
theorem soFar_advance {place place' : Place} {stack stack' : List Frame} {lexeme : Lexeme}
    (h : advance place stack lexeme = some (place', stack')) :
    soFar place' stack' = soFar place stack ++ [lexeme] := by
  cases place with
  | value => exact soFar_beginValue h
  | firstItem =>
    simp only [advance] at h
    split at h
    · cases h
      simp [soFar, Place.lexemes, Tree.lexemes, itemLexemes]
    · -- the array is open before its first item begins
      rw [soFar_beginValue h]
      simp [soFar, Place.lexemes, Frame.lexemes, itemsRead]
  | firstName =>
    simp only [advance] at h
    split at h
    · cases h
      simp [soFar, Place.lexemes, Tree.lexemes, memberLexemes]
    · cases h
      simp [soFar, Place.lexemes, membersRead]
    · cases h
  | name members =>
    simp only [advance] at h
    split at h
    · cases h
      simp [soFar, Place.lexemes]
    · cases h
  | colon members name =>
    simp only [advance] at h
    split at h
    · cases h
      simp [soFar, Place.lexemes, Frame.lexemes]
    · cases h
  | done tree =>
    simp only [advance] at h
    split at h
    · cases h
      simp [soFar, Place.lexemes, Frame.lexemes, itemsRead_cons]
    · cases h
      simp [soFar, Place.lexemes, Frame.lexemes, Tree.lexemes, itemLexemes_concat]
    · cases h
      simp [soFar, Place.lexemes, Frame.lexemes, membersRead_cons]
    · cases h
      simp [soFar, Place.lexemes, Frame.lexemes, Tree.lexemes, memberLexemes_concat]
    · cases h

/-- What is read as a tree are the lexemes of the tree. -/
theorem lexemes_of_assemble {place : Place} {stack : List Frame} {ls : List Lexeme} {t : Tree}
    (h : assemble place stack ls = some t) : soFar place stack ++ ls = t.lexemes := by
  induction ls generalizing place stack with
  | nil =>
    unfold assemble at h
    split at h
    · cases h
      simp [soFar, Place.lexemes]
    · cases h
  | cons lexeme ls ih =>
    unfold assemble at h
    split at h
    · rename_i hadvance
      rw [← ih h, soFar_advance hadvance, List.append_assoc, List.singleton_append]
    · cases h

/-- Exactly the documents that spell a tree are read as it. -/
theorem Tree.ofGlyphs?_eq_some_iff {glyphs : List Utf8.Glyph} {t : Tree} :
    Tree.ofGlyphs? glyphs = some t ↔ lexemes? glyphs = some t.lexemes := by
  rw [Tree.ofGlyphs?, Option.bind_eq_some_iff]
  constructor
  · rintro ⟨ls, hls, h⟩
    rw [hls, ← lexemes_of_assemble h]
    rfl
  · intro h
    exact ⟨t.lexemes, h, assemble_lexemes t⟩

end NodeWatch.Json
