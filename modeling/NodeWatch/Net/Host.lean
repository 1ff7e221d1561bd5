import NodeWatch.Net.Ip
import NodeWatch.Net.Percent

/-!
# Hosts in addresses

A host in an address is a domain, an internet address of version 4 in any of its spellings, or one
of version 6 in brackets. It is brought into one spelling.
-/

namespace NodeWatch.Host

/-- Whether a character can be part of no host. -/
def isForbidden (c : Char) : Bool :=
  ['\x00', '\t', '\n', '\r', ' ', '#', '/', ':', '<', '>', '?', '@', '[', '\\', ']', '^',
    '|'].contains c

/-- Whether a character can be part of no domain. -/
def isForbiddenInDomain (c : Char) : Bool := isForbidden c || c < ' ' || c == '%' || c == '\x7f'

/-- The pieces of a text between the characters that satisfy a test. -/
def pieces (isSeparator : Char → Bool) : List Char → List (List Char)
  | [] => [[]]
  | c :: rest =>
    if isSeparator c then [] :: pieces isSeparator rest
    else
      match pieces isSeparator rest with
      | [] => [[c]]
      | piece :: others => (c :: piece) :: others

/-- Reads a part of an address of version 4: hexadecimal after `0x`, where no digits are zero, octal
after `0`, else decimal. -/
def part? : List Char → Option Nat
  | [] => none
  | '0' :: 'x' :: rest => Digit.number? 16 rest
  | '0' :: 'X' :: rest => Digit.number? 16 rest
  | '0' :: c :: rest => Digit.number? 8 (c :: rest)
  | cs => Digit.number? 10 cs

/-- The parts of a domain, without an empty last one. -/
def partsOf (domain : List Char) : List (List Char) :=
  let parts := pieces (· == '.') domain
  if 1 < parts.length ∧ parts.getLast? = some [] then parts.dropLast else parts

/-- Whether the last part of a domain is a number, so that the whole must be an address of
version 4. -/
def endsInNumber (domain : List Char) : Bool :=
  match (partsOf domain).getLast? with
  | none | some [] => false
  | some last => last.all (Digit.isDigit 10) || (part? last).isSome

/-- The number that the parts of an address of version 4 make: each part but the last is a byte, and
the last fills the bytes that remain. -/
def v4Value : Nat → List Nat → Option Nat
  | _, [] => none
  | remaining, [last] => if last < Nat.pow 256 remaining then some last else none
  | remaining, n :: rest =>
    if n < 256 then (v4Value (remaining - 1) rest).map (n * Nat.pow 256 (remaining - 1) + ·)
    else none

/-- The four parts of a number, in text. -/
def v4Text (n : Nat) : List Char :=
  s!"{n / 16777216 % 256}.{n / 65536 % 256}.{n / 256 % 256}.{n % 256}".toList

/-- Reads an address of version 4 in any spelling. -/
def v4? (domain : List Char) : Option (List Char) := do
  let parts := partsOf domain
  if 4 < parts.length then none
  else
    let numbers ← parts.mapM part?
    (v4Value 4 numbers).map v4Text

/-- The lengths of the runs of zeros that begin at each group. -/
def zeroRuns : List UInt16 → List Nat
  | [] => []
  | g :: rest =>
    let runs := zeroRuns rest
    (if g = 0 then runs.headD 0 + 1 else 0) :: runs

/-- Groups in text, with colons between them. -/
def groupsText (groups : List UInt16) : List Char :=
  [':'].intercalate (groups.map fun g => Nat.toDigits 16 g.toNat)

/-- An address of version 6: of its runs of at least two zero groups the first longest one is left
out. -/
def v6Text (groups : List UInt16) : List Char :=
  let runs := zeroRuns groups
  let longest := runs.foldl max 0
  if longest < 2 then groupsText groups
  else
    let start := runs.idxOf longest
    groupsText (groups.take start) ++ [':', ':'] ++ groupsText (groups.drop (start + longest))

/-- Reads an address of version 6. -/
def v6? (cs : List Char) : Option (List Char) :=
  match Ip.readV6 cs with
  | some (.v6 groups, []) => some (v6Text groups.toList)
  | _ => none

/-- Reads the host of a special scheme. -/
def special? (cs : List Char) : Option (List Char) :=
  match cs with
  | '[' :: rest =>
    if rest.getLast? = some ']' then (v6? rest.dropLast).map fun t => '[' :: t ++ [']'] else none
  | cs =>
    let domain := (Percent.decode cs).toList.map Char.toLower
    if domain = [] ∨ domain.any isForbiddenInDomain then none
    else if endsInNumber domain then v4? domain
    else some domain

/-- Reads the host of a scheme that is not special. -/
def opaque? (cs : List Char) : Option (List Char) :=
  match cs with
  | '[' :: rest =>
    if rest.getLast? = some ']' then (v6? rest.dropLast).map fun t => '[' :: t ++ [']'] else none
  | cs => if cs.any isForbidden then none else some (Percent.encode .opaquePart cs)

end NodeWatch.Host
