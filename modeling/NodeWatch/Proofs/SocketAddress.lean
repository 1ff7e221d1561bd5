import NodeWatch.Net.Ip
import NodeWatch.Proofs.Json.Scanning

/-!
# Addresses of sockets

An internet address with a port, in text: the address, in brackets if it is one of version 6, then a
colon and the port in decimal. The brackets keep the colons of the address apart from the one before
the port.

The readers of addresses stop at any character that no address of their version holds, whatever
comes after it. So an address of version 4 is read off a text that goes on with a colon, and one of
version 6 off a text that goes on with a bracket, but not with a colon.
-/

namespace NodeWatch

/-- The address of a socket. -/
structure SocketAddress where
  ip : Ip
  port : UInt16
  deriving DecidableEq, Repr

namespace SocketAddress

/-- Reads a colon and a port; nothing may follow it. -/
def readPort (cs : List Char) : Option UInt16 := do
  let digits ← Ip.expect ':' cs
  let n ← Digit.number? 10 digits
  if digits = [] ∨ 65536 ≤ n then none else some (UInt16.ofNat n)

/-- Reads the address of a socket; nothing may follow it. -/
def parse? (s : String) : Option SocketAddress :=
  match Ip.readV4 s.toList with
  | some ((a, b, c, d), rest) => (readPort rest).map (⟨.v4 a b c d, ·⟩)
  | none => do
    let (ip, rest) ← Ip.readV6 (← Ip.expect '[' s.toList)
    let port ← readPort (← Ip.expect ']' rest)
    some ⟨ip, port⟩

end SocketAddress

namespace Ip

/-- Whether an address is one of version 4. -/
def isV4 : Ip → Bool
  | v4 .. => true
  | v6 _ => false

/-- The reader stops at a character: that character and what follows it are left as they are. -/
def StopsAt {α : Type} (read : List Char → Option (α × List Char)) (e : Char) : Prop :=
  ∀ cs rest, read (cs ++ e :: rest) = (read cs).map (Prod.map id (· ++ e :: rest))

/-- Whether an address of version 6 may hold a character. -/
def isPart (c : Char) : Bool := Digit.isDigit 16 c || c == '.' || c == ':'

variable {α β : Type} {read : List Char → Option (α × List Char)} {e : Char}

/-- A text that is read to its end holds no character at which its reader stops. -/
theorem StopsAt.notMem (h : StopsAt read e) {cs : List Char} {value : α}
    (hread : read cs = some (value, [])) : e ∉ cs := by
  intro hmem
  obtain ⟨front, rest, rfl⟩ := List.append_of_mem hmem
  rw [h front rest] at hread
  obtain ⟨⟨_, left⟩, -, heq⟩ := Option.map_eq_some_iff.mp hread
  have hleft : left ++ e :: rest = [] := congrArg Prod.snd heq
  exact absurd hleft (by simp)

theorem stopsAt_pure (value : α) : StopsAt (fun cs => some (value, cs)) e := fun _ _ => rfl

/-- A reader that goes on where another one stopped stops where both do. -/
theorem StopsAt.bind {next : α → List Char → Option (β × List Char)} (h : StopsAt read e)
    (hnext : ∀ value, StopsAt (next value) e) :
    StopsAt (fun cs => (read cs).bind fun (value, left) => next value left) e := by
  intro cs rest
  dsimp only
  rw [h cs rest]
  cases read cs with
  | none => rfl
  | some result => exact hnext result.1 result.2 rest

/-- Expecting another character than that at which the reader stops changes nothing. -/
theorem expect_append {c : Char} (hne : c ≠ e) (cs rest : List Char) :
    expect c (cs ++ e :: rest) = (expect c cs).map (· ++ e :: rest) := by
  cases cs with
  | nil => exact if_neg hne
  | cons first cs =>
    rw [List.cons_append, expect, expect]
    split <;> rfl

theorem StopsAt.expect {c : Char} (hne : c ≠ e) (h : StopsAt read e) :
    StopsAt (fun cs => (expect c cs).bind read) e := by
  intro cs rest
  dsimp only
  rw [expect_append hne]
  cases Ip.expect c cs with
  | none => rfl
  | some left => exact h left rest

/-! ### Version 4 -/

/-- What is taken and left while a test holds does not change behind a character that fails it. -/
theorem takeWhile_append_stop {p : Char → Bool} (he : p e = false) (cs rest : List Char) :
    (cs ++ e :: rest).takeWhile p = cs.takeWhile p ∧
      (cs ++ e :: rest).dropWhile p = cs.dropWhile p ++ e :: rest := by
  induction cs with
  | nil => simp [he]
  | cons c cs ih =>
    cases hc : p c with
    | true => simp [hc, ih]
    | false => simp [hc]

theorem readOctet_stopsAt (he : Digit.isDigit 10 e = false) : StopsAt readOctet e := by
  intro cs rest
  obtain ⟨htake, hdrop⟩ := takeWhile_append_stop he cs rest
  unfold readOctet
  rw [htake, hdrop]
  dsimp only
  split <;> rfl

/-- An address of version 4 ends before anything but a digit and a dot. -/
theorem readV4_stopsAt (he : Digit.isDigit 10 e = false) (hdot : '.' ≠ e) : StopsAt readV4 e :=
  have hoctet : StopsAt readOctet e := readOctet_stopsAt he
  hoctet.bind fun a => .expect hdot <| hoctet.bind fun b => .expect hdot <|
    hoctet.bind fun c => .expect hdot <| hoctet.bind fun d => stopsAt_pure (a, b, c, d)

/-! ### Version 6 -/

theorem readGroup_stopsAt (he : Digit.isDigit 16 e = false) : StopsAt readGroup e := by
  intro cs rest
  obtain ⟨htake, hdrop⟩ := takeWhile_append_stop he cs rest
  unfold readGroup
  rw [htake, hdrop]
  dsimp only
  split <;> rfl

/-- What comes after the separator of a group is read up to where its reader stops. -/
theorem StopsAt.separator (hcolon : ':' ≠ e) (h : StopsAt read e) (isFirst : Bool) :
    StopsAt (fun cs => (separator isFirst cs).bind read) e := by
  cases isFirst with
  | true => exact h
  | false => exact h.expect hcolon

/-- What an address of version 6 cannot hold are no digits, dots or colons. -/
theorem of_isPart_eq_false (he : isPart e = false) :
    Digit.isDigit 16 e = false ∧ Digit.isDigit 10 e = false ∧ '.' ≠ e ∧ ':' ≠ e := by
  simp only [isPart, Bool.or_eq_false_iff, beq_eq_false_iff_ne] at he
  obtain ⟨⟨hhex, hdot⟩, hcolon⟩ := he
  refine ⟨hhex, ?_, hdot.symm, hcolon.symm⟩
  -- a decimal digit is a hexadecimal one
  unfold Digit.isDigit at hhex ⊢
  cases hvalue : Digit.value? e with
  | none => rfl
  | some n =>
    rw [hvalue, Option.any_some, decide_eq_false_iff_not] at hhex
    rw [Option.any_some, decide_eq_false_iff_not]
    omega

/-- The groups of an address end before a character that it cannot hold. -/
theorem readGroups_append (he : isPart e = false) (isFirst : Bool) (limit : Nat)
    (cs rest : List Char) :
    readGroups isFirst limit (cs ++ e :: rest) =
      ((readGroups isFirst limit cs).1, (readGroups isFirst limit cs).2.1,
        (readGroups isFirst limit cs).2.2 ++ e :: rest) := by
  obtain ⟨hhex, hdigit, hdot, hcolon⟩ := of_isPart_eq_false he
  induction limit generalizing isFirst cs with
  | zero => rfl
  | succ limit ih =>
    have hv4 : (if 1 ≤ limit then (Ip.separator isFirst (cs ++ e :: rest)).bind readV4 else none) =
        (if 1 ≤ limit then (Ip.separator isFirst cs).bind readV4 else none).map
          (Prod.map id (· ++ e :: rest)) := by
      split
      · exact (readV4_stopsAt hdigit hdot).separator hcolon isFirst cs rest
      · rfl
    have hgroup : (Ip.separator isFirst (cs ++ e :: rest)).bind readGroup =
        ((Ip.separator isFirst cs).bind readGroup).map (Prod.map id (· ++ e :: rest)) :=
      (readGroup_stopsAt hhex).separator hcolon isFirst cs rest
    unfold readGroups
    rw [hv4, hgroup]
    cases if 1 ≤ limit then (Ip.separator isFirst cs).bind readV4 else none with
    | some parts => rfl
    | none =>
      cases (Ip.separator isFirst cs).bind readGroup with
      | none => rfl
      | some group =>
        simp only [Option.map_none, Option.map_some, Prod.map, id_eq]
        rw [ih false group.2]

/-- An address of version 6 ends before a character that it cannot hold. -/
theorem readV6_stopsAt (he : isPart e = false) : StopsAt readV6 e := by
  intro cs rest
  have hcolon : ':' ≠ e := (of_isPart_eq_false he).2.2.2
  unfold readV6
  rw [readGroups_append he]
  obtain ⟨front, endsInV4, left⟩ := readGroups true 8 cs
  dsimp only
  split
  · cases ofGroups? front <;> rfl
  split
  · rfl
  -- the two colons in place of the groups that are left out, and what comes after them
  simp only [bind]
  rw [expect_append hcolon]
  cases expect ':' left with
  | none => rfl
  | some left =>
    rw [Option.map_some, Option.bind_some, Option.bind_some, expect_append hcolon]
    cases expect ':' left with
    | none => rfl
    | some left =>
      rw [Option.map_some, Option.bind_some, Option.bind_some, readGroups_append he]
      obtain ⟨back, _, left⟩ := readGroups true (7 - front.length) left
      dsimp only
      cases ofGroups? (front ++ List.replicate (8 - front.length - back.length) 0 ++ back) <;> rfl

/-- A character that is not there is not found. -/
theorem expect_of_notMem {c : Char} {cs : List Char} (h : c ∉ cs) : expect c cs = none := by
  cases cs with
  | nil => rfl
  | cons first rest =>
    refine if_neg ?_
    rintro rfl
    exact h List.mem_cons_self

/-- Without a colon no group follows another one. -/
theorem readGroups_of_notMem {cs : List Char} (h : ':' ∉ cs) (limit : Nat) :
    readGroups false limit cs = ([], false, cs) := by
  cases limit with
  | zero => rfl
  | succ limit =>
    simp only [readGroups, separator, Bool.false_eq_true, if_false, expect_of_notMem h,
      Option.bind_none, ite_self]

theorem readGroup_sublist {cs : List Char} {group : UInt16} {left : List Char}
    (h : readGroup cs = some (group, left)) : left.Sublist cs := by
  unfold readGroup at h
  dsimp only at h
  split at h
  · cases h
  · cases h
    exact List.dropWhile_sublist _

/-- Without a colon there is one group, or else two in the form of version 4. -/
theorem readGroups_first_of_notMem {cs : List Char} (h : ':' ∉ cs) :
    ∃ front endsInV4 left, readGroups true 8 cs = (front, endsInV4, left) ∧ front.length ≤ 2 ∧
      (endsInV4 = false → ':' ∉ left) := by
  rw [readGroups, if_pos (by decide)]
  simp only [separator, if_true, Option.bind_some]
  cases readV4 cs with
  | some parts => exact ⟨_, _, _, rfl, Nat.le_refl 2, fun h => nomatch h⟩
  | none =>
    cases hread : readGroup cs with
    | none => exact ⟨_, _, _, rfl, Nat.zero_le 2, fun _ => h⟩
    | some group =>
      have hleft : ':' ∉ group.2 := fun hmem => h ((readGroup_sublist hread).mem hmem)
      dsimp only
      rw [readGroups_of_notMem hleft]
      exact ⟨_, _, _, rfl, Nat.le_succ 1, fun _ => hleft⟩

/-- An address of version 6 holds a colon. -/
theorem colon_mem_of_readV6 {cs : List Char} {ip : Ip} {left : List Char}
    (h : readV6 cs = some (ip, left)) : ':' ∈ cs := by
  refine Decidable.byContradiction fun hcolon => ?_
  obtain ⟨front, endsInV4, left, hread, hlength, hleft⟩ := readGroups_first_of_notMem hcolon
  unfold readV6 at h
  rw [hread] at h
  dsimp only at h
  rw [if_neg (by omega)] at h
  cases endsInV4 with
  | true => cases h
  | false => simp [expect_of_notMem (hleft rfl)] at h

/-- What is read as an address of version 6 is one. -/
theorem isV4_of_readV6 {cs : List Char} {ip : Ip} {left : List Char}
    (h : readV6 cs = some (ip, left)) : ip.isV4 = false := by
  have hgroups {groups : List UInt16} (hip : ofGroups? groups = some ip) : ip.isV4 = false := by
    unfold ofGroups? at hip
    split at hip
    · cases hip
      rfl
    · cases hip
  unfold readV6 at h
  obtain ⟨front, endsInV4, rest⟩ := readGroups true 8 cs
  dsimp only at h
  split at h
  · obtain ⟨_, hip, heq⟩ := Option.map_eq_some_iff.mp h
    cases heq
    exact hgroups hip
  split at h
  · cases h
  · simp only [bind, Option.bind_eq_some_iff] at h
    obtain ⟨_, -, _, -, h⟩ := h
    obtain ⟨_, hip, heq⟩ := Option.map_eq_some_iff.mp h
    cases heq
    exact hgroups hip

/-- An address begins with no bracket. -/
theorem read_bracket (cs : List Char) :
    readV4 ('[' :: cs) = none ∧ readV6 ('[' :: cs) = none := ⟨rfl, rfl⟩

theorem expect_bracket_of_readV6 {cs : List Char} {ip : Ip} {left : List Char}
    (h : readV6 cs = some (ip, left)) (rest : List Char) : expect '[' (cs ++ rest) = none := by
  cases cs with
  | nil => cases h
  | cons c cs =>
    refine if_neg ?_
    rintro rfl
    rw [(read_bracket cs).2] at h
    cases h

/-! ### Accepted texts -/

/-- A text is that of an address of version 4, or of one of version 6 and of none of version 4. -/
theorem parse?_eq_some_iff {s : String} {ip : Ip} :
    parse? s = some ip ↔
      (∃ a b c d, readV4 s.toList = some ((a, b, c, d), []) ∧ ip = .v4 a b c d) ∨
        readV4 s.toList = none ∧ readV6 s.toList = some (ip, []) := by
  unfold parse?
  cases readV4 s.toList with
  | some result =>
    obtain ⟨⟨a, b, c, d⟩, rest⟩ := result
    cases rest with
    | cons first rest => simp
    | nil =>
      simp only [if_true, Option.some.injEq, Prod.mk.injEq, and_true, reduceCtorEq, false_and,
        or_false]
      constructor
      · rintro rfl
        exact ⟨a, b, c, d, ⟨rfl, rfl, rfl, rfl⟩, rfl⟩
      · rintro ⟨_, _, _, _, ⟨rfl, rfl, rfl, rfl⟩, rfl⟩
        rfl
  | none =>
    cases readV6 s.toList with
    | none => simp
    | some result =>
      obtain ⟨ip', rest⟩ := result
      cases rest <;> simp

/-- All characters of the text of an address are hexadecimal digits, dots or colons. -/
theorem isPart_of_mem {s : String} {ip : Ip} (h : parse? s = some ip) {c : Char}
    (hc : c ∈ s.toList) : isPart c = true := by
  rw [← Bool.not_eq_false]
  intro hpart
  obtain ⟨-, hdigit, hdot, -⟩ := of_isPart_eq_false hpart
  rcases parse?_eq_some_iff.mp h with ⟨a, b, c, d, hread, -⟩ | ⟨-, hread⟩
  · exact (readV4_stopsAt hdigit hdot).notMem hread hc
  · exact (readV6_stopsAt hpart).notMem hread hc

/-- The text of an address that is not one of version 4 holds a colon. -/
theorem colon_mem {s : String} {ip : Ip} (h : parse? s = some ip) (hv6 : ip.isV4 = false) :
    ':' ∈ s.toList := by
  rcases parse?_eq_some_iff.mp h with ⟨a, b, c, d, -, rfl⟩ | ⟨-, hread⟩
  · cases hv6
  · exact colon_mem_of_readV6 hread

end Ip

namespace Digit

/-- The value of a decimal digit. -/
theorem value?_of_between {c : Char} (h : '0' ≤ c ∧ c ≤ '9') : value? c = some (c.toNat - 48) :=
  if_pos h

theorem isDigit_of_between {c : Char} (h : '0' ≤ c ∧ c ≤ '9') {base : Nat} (hbase : 10 ≤ base) :
    isDigit base c = true := by
  have hnine : c.toNat ≤ 57 := UInt32.le_iff_toNat_le.mp h.2
  rw [isDigit, value?_of_between h, Option.any_some, decide_eq_true_eq]
  omega

/-- A number is read off its digits. -/
theorem number?_toDigits (n : Nat) : number? 10 (Nat.toDigits 10 n) = some n := by
  have hbetween : ∀ c ∈ Nat.toDigits 10 n, '0' ≤ c ∧ c ≤ '9' :=
    fun _ => Json.between_of_mem_toDigits
  have hvalue (cs : List Char) (h : ∀ c ∈ cs, '0' ≤ c ∧ c ≤ '9') (start : Nat) :
      cs.foldl (fun n c => 10 * n + (value? c).getD 0) start = Nat.ofDigitChars 10 cs start := by
    induction cs generalizing start with
    | nil => rw [Nat.ofDigitChars_nil, List.foldl_nil]
    | cons c cs ih =>
      rw [List.foldl_cons, Nat.ofDigitChars_cons, value?_of_between (h c List.mem_cons_self),
        ih fun d hd => h d (List.mem_cons_of_mem _ hd)]
      rfl
  have hall : (Nat.toDigits 10 n).all (isDigit 10) = true :=
    List.all_eq_true.mpr fun c hc => isDigit_of_between (hbetween c hc) (Nat.le_refl 10)
  rw [number?, if_pos hall, valueOf, hvalue _ hbetween,
    Nat.ofDigitChars_toDigits (by decide) (by decide)]

end Digit

namespace SocketAddress

variable {address : String} {ip : Ip}

/-- The port that a number is written for is read off its digits. -/
theorem readPort_toDigits (port : UInt16) :
    readPort (':' :: Nat.toDigits 10 port.toNat) = some port := by
  have hlt : ¬65536 ≤ port.toNat := Nat.not_le.mpr port.toNat_lt
  have hexpect : Ip.expect ':' (':' :: Nat.toDigits 10 port.toNat) =
      some (Nat.toDigits 10 port.toNat) := rfl
  simp only [readPort, hexpect, Digit.number?_toDigits, Option.bind_some, bind,
    Nat.toDigits_ne_nil, hlt, or_self, if_false, UInt16.ofNat_toNat]

/-- The characters of a text with a port after a colon. -/
theorem toList_colon (text : String) (port : UInt16) :
    (text ++ ":" ++ toString port).toList = text.toList ++ ':' :: Nat.toDigits 10 port.toNat := by
  have hport : (toString port).toList = Nat.toDigits 10 port.toNat := Nat.toList_repr
  have hcolon : ":".toList = [':'] := by decide
  rw [String.toList_append, String.toList_append, hport, hcolon, List.append_assoc]
  rfl

/-- An address and a port with a colon between them are the address of a socket if the address is
one of version 4, and not if it is one of version 6. -/
theorem parse?_colon (h : Ip.parse? address = some ip) (port : UInt16) :
    parse? s!"{address}:{port}" = if ip.isV4 then some ⟨ip, port⟩ else none := by
  have hstops : Ip.StopsAt Ip.readV4 ':' := Ip.readV4_stopsAt (by decide) (by decide)
  have htext : s!"{address}:{port}".toList = _ := toList_colon address port
  unfold parse?
  rw [htext, hstops]
  rcases Ip.parse?_eq_some_iff.mp h with ⟨a, b, c, d, hread, rfl⟩ | ⟨hnone, hread⟩
  · rw [hread, Option.map_some, Prod.map, List.nil_append]
    dsimp only
    rw [readPort_toDigits]
    rfl
  · rw [hnone, Ip.isV4_of_readV6 hread]
    dsimp only [Option.map_none]
    rw [Ip.expect_bracket_of_readV6 hread]
    rfl

/-- An address of version 6 in brackets and a port with a colon between them are the address of a
socket. -/
theorem parse?_brackets (h : Ip.parse? address = some ip) (hv6 : ip.isV4 = false) (port : UInt16) :
    parse? s!"[{address}]:{port}" = some ⟨ip, port⟩ := by
  have hread : Ip.readV6 address.toList = some (ip, []) := by
    rcases Ip.parse?_eq_some_iff.mp h with ⟨a, b, c, d, -, rfl⟩ | ⟨-, hread⟩
    · cases hv6
    · exact hread
  have hstops : Ip.StopsAt Ip.readV6 ']' := Ip.readV6_stopsAt (by decide)
  have hbrackets : ("[" ++ address ++ "]").toList = '[' :: (address.toList ++ [']']) := by
    rw [String.toList_append, String.toList_append]
    rfl
  have htext : s!"[{address}]:{port}".toList =
      '[' :: (address.toList ++ ']' :: ':' :: Nat.toDigits 10 port.toNat) := by
    have hmiddle : "]:" = "]" ++ ":" := by decide
    change ("[" ++ address ++ "]:" ++ toString port).toList = _
    rw [hmiddle, ← String.append_assoc, toList_colon, hbrackets, List.cons_append,
      List.append_assoc]
    rfl
  have hopen : Ip.expect '[' ('[' :: (address.toList ++ ']' :: ':' :: Nat.toDigits 10 port.toNat)) =
      some (address.toList ++ ']' :: ':' :: Nat.toDigits 10 port.toNat) := rfl
  have hclose : Ip.expect ']' (']' :: ':' :: Nat.toDigits 10 port.toNat) =
      some (':' :: Nat.toDigits 10 port.toNat) := rfl
  unfold parse?
  rw [htext, (Ip.read_bracket _).1]
  simp only [bind, hopen, Option.bind_some, hstops address.toList, hread, Option.map_some, Prod.map,
    List.nil_append, hclose, readPort_toDigits, id_eq]

end SocketAddress

end NodeWatch
