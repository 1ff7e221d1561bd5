/-!
# Entries in key order

A finite map is kept as a list of pairs in increasing order of the keys, so that it can be read out
in that order and compared by looking at it. Labels, series, families and the members of an object
are all maps of this kind. Nothing here checks that a list given from outside is in order:
`Entries.ofList` brings any list of pairs into the form.
-/

namespace NodeWatch.Entries

variable {κ υ : Type} [Ord κ]

/-- Binds the key to the value, in place of what it was bound to. -/
def insert (k : κ) (v : υ) : List (κ × υ) → List (κ × υ)
  | [] => [(k, v)]
  | (k', v') :: rest =>
    match compare k k' with
    | .lt => (k, v) :: (k', v') :: rest
    | .eq => (k, v) :: rest
    | .gt => (k', v') :: insert k v rest

/-- The value bound to the key. -/
def find? (k : κ) : List (κ × υ) → Option υ
  | [] => none
  | (k', v) :: rest =>
    match compare k k' with
    | .eq => some v
    | _ => find? k rest

/-- Unbinds the key. -/
def erase (k : κ) : List (κ × υ) → List (κ × υ)
  | [] => []
  | (k', v) :: rest =>
    match compare k k' with
    | .eq => erase k rest
    | _ => (k', v) :: erase k rest

/-- The map that a list of bindings describes when they are made one after the other. -/
def ofList (bindings : List (κ × υ)) : List (κ × υ) :=
  bindings.foldl (fun entries binding => insert binding.1 binding.2 entries) []

end NodeWatch.Entries
