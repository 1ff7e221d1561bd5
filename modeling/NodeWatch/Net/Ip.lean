import NodeWatch.Text.Digit

/-!
# Internet addresses

The text forms of addresses. One of version 4 has four decimal parts without leading zeros; one of
version 6 has groups of at most four hexadecimal digits, may leave out one run of at least one zero
group, and may end like an address of version 4. Brackets and zones are no part of an address.
-/

namespace NodeWatch

/-- An internet address. -/
inductive Ip
  | v4 (a b c d : UInt8)
  | v6 (groups : Vector UInt16 8)
  deriving DecidableEq, Repr

namespace Ip

/-- Reads a part of an address of version 4. -/
def readOctet (cs : List Char) : Option (UInt8 × List Char) :=
  let digits := cs.takeWhile (Digit.isDigit 10)
  if digits = [] ∨ 3 < digits.length ∨ (digits.head? = some '0' ∧ 1 < digits.length)
      ∨ 256 ≤ Digit.valueOf 10 digits then none
  else some (UInt8.ofNat (Digit.valueOf 10 digits), cs.dropWhile (Digit.isDigit 10))

/-- Reads a group of an address of version 6. -/
def readGroup (cs : List Char) : Option (UInt16 × List Char) :=
  let digits := cs.takeWhile (Digit.isDigit 16)
  if digits = [] ∨ 4 < digits.length then none
  else some (UInt16.ofNat (Digit.valueOf 16 digits), cs.dropWhile (Digit.isDigit 16))

/-- Reads a given character. -/
def expect (c : Char) : List Char → Option (List Char)
  | [] => none
  | c' :: rest => if c = c' then some rest else none

/-- Reads the four parts of an address of version 4. -/
def readV4 (cs : List Char) : Option ((UInt8 × UInt8 × UInt8 × UInt8) × List Char) := do
  let (a, cs) ← readOctet cs
  let (b, cs) ← readOctet (← expect '.' cs)
  let (c, cs) ← readOctet (← expect '.' cs)
  let (d, cs) ← readOctet (← expect '.' cs)
  some ((a, b, c, d), cs)

/-- The two groups that four parts make. -/
def groupsOfV4 : UInt8 × UInt8 × UInt8 × UInt8 → List UInt16
  | (a, b, c, d) => [UInt16.ofNat (a.toNat * 256 + b.toNat), UInt16.ofNat (c.toNat * 256 + d.toNat)]

/-- Passes over the colon before a group that is not the first. -/
def separator (isFirst : Bool) (cs : List Char) : Option (List Char) :=
  if isFirst then some cs else expect ':' cs

/-- Reads up to `limit` groups, the last two perhaps in the form of version 4; tells the groups,
whether that form was used, and what is left. -/
def readGroups (isFirst : Bool) : Nat → List Char → List UInt16 × Bool × List Char
  | 0, cs => ([], false, cs)
  | limit + 1, cs =>
    match if 1 ≤ limit then (separator isFirst cs).bind readV4 else none with
    | some (parts, rest) => (groupsOfV4 parts, true, rest)
    | none =>
      match (separator isFirst cs).bind readGroup with
      | some (group, rest) =>
        let (groups, endsInV4, rest) := readGroups false limit rest
        (group :: groups, endsInV4, rest)
      | none => ([], false, cs)

/-- The address of eight groups. -/
def ofGroups? (groups : List UInt16) : Option Ip :=
  if h : groups.length = 8 then some (.v6 ⟨groups.toArray, by simpa using h⟩) else none

/-- Reads an address of version 6. -/
def readV6 (cs : List Char) : Option (Ip × List Char) :=
  match readGroups true 8 cs with
  | (front, endsInV4, rest) =>
    if front.length = 8 then (ofGroups? front).map (·, rest)
    else if endsInV4 then none
    else do
      let rest ← expect ':' (← expect ':' rest)
      let (back, _, rest) := readGroups true (7 - front.length) rest
      let zeros := List.replicate (8 - front.length - back.length) 0
      (ofGroups? (front ++ zeros ++ back)).map (·, rest)

/-- Reads an address; nothing may follow it. -/
def parse? (s : String) : Option Ip :=
  match readV4 s.toList with
  | some ((a, b, c, d), rest) => if rest = [] then some (.v4 a b c d) else none
  | none =>
    match readV6 s.toList with
    | some (ip, []) => some ip
    | _ => none

/-- Whether the address is one of this host: of the loopback, or unspecified. -/
def isLocal : Ip → Bool
  | v4 a b c d => a = 127 || (a = 0 && b = 0 && c = 0 && d = 0)
  | v6 groups =>
    (groups.toList.take 7).all (· = 0) && groups.toList.getLast?.any fun g => g = 0 || g = 1

end Ip

end NodeWatch
