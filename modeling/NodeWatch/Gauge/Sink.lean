import NodeWatch.Entries
import NodeWatch.Event

/-!
# The table of gauges

A gauge has one series for each list of label values it was set with. The first set of a gauge fixes
the names of its labels for good; a set or removal with other labels is noted and changes nothing.
Gauges are exported from a register. Which of them are in use is remembered beside it, so that none
is registered twice.
-/

namespace NodeWatch.Gauge

/-- All series of one gauge. -/
structure Family (α : Type) where
  /-- The names of the labels, in their order. -/
  labelNames : List String
  /-- The value of each series, by its label values. -/
  series : List (List String × α) := []
  deriving DecidableEq, Repr

namespace Family

variable {α : Type}

/-- A gauge of that name with these labels, which has no series yet. -/
def create (name : String) (labels : Labels) : Except Fault (Family α) :=
  if !isName name then .error (.invalidName name)
  else
    match labels.find? fun (label, _) => !isLabelName label with
    | some (label, _) => .error (.invalidLabel label)
    | none => .ok { labelNames := labels.map (·.1) }

/-- The label values of the series that has these labels. -/
def labelValues (f : Family α) (labels : Labels) : Except Fault (List String) :=
  if labels.length ≠ f.labelNames.length then
    .error (.cardinality f.labelNames.length labels.length)
  else
    f.labelNames.mapM fun name =>
      match Entries.find? name labels with
      | some value => .ok value
      | none => .error (.missingLabel name)

end Family

/-- All gauges, by their names. -/
structure Sink (α : Type) where
  /-- What every exported name begins with. -/
  space : String
  /-- The registered gauges, which are those that are exported. -/
  families : List (String × Family α) := []
  /-- The names of the gauges that are in use. -/
  inUse : List String := []
  deriving DecidableEq, Repr

/-- What is said of a sink without a namespace. -/
def emptyNamespace : String := "Error: empty prefix namespace"

namespace Sink

variable {α : Type}

/-- A sink without gauges; the namespace must not be empty. -/
def new? (space : String) : Option (Sink α) := if space = "" then none else some { space }

/-- Puts a gauge into the register. -/
def putFamily (s : Sink α) (name : String) (f : Family α) : Sink α :=
  { s with families := Entries.insert name f s.families }

/-- Registers a gauge under a name that must be free. -/
def register (s : Sink α) (name : String) (f : Family α) : Except Fault (Sink α) :=
  match Entries.find? name s.families with
  | some _ => .error .alreadyRegistered
  | none => .ok (s.putFamily name f)

/-- Takes a gauge into use; if it is not in use yet, it is created and registered first. -/
def use (s : Sink α) (name : String) (labels : Labels) : Except Fault (Sink α) :=
  if name ∈ s.inUse then .ok s
  else do
    let s ← s.register name (← Family.create name labels)
    return { s with inUse := name :: s.inUse }

/-- The gauge of that name, if it is in use. It is the one that is registered under the name. -/
def family? (s : Sink α) (name : String) : Option (Family α) :=
  if name ∈ s.inUse then Entries.find? name s.families else none

/-- Sets a series to a value. -/
def set (s : Sink α) (name : String) (labels : Labels) (value : α) : Sink α × List Notice :=
  match s.use name labels with
  | .error fault => (s, [.gaugeUnregistered name fault])
  | .ok s =>
    match s.family? name with
    | none => (s, [])
    | some f =>
      match f.labelValues labels with
      | .error fault => (s, [.gaugeUnset name fault])
      | .ok values =>
        (s.putFamily name { f with series := Entries.insert values value f.series }, [])

/-- Withdraws a series. A gauge that was never set has none, which is not worth a note. -/
def remove (s : Sink α) (name : String) (labels : Labels) : Sink α × List Notice :=
  match s.family? name with
  | none => (s, [])
  | some f =>
    match f.labelValues labels with
    | .error fault => (s, [.gaugeUnremoved name fault])
    | .ok values =>
      match Entries.find? values f.series with
      | none => (s, [.gaugeUnremoved name .noSeries])
      | some _ => (s.putFamily name { f with series := Entries.erase values f.series }, [])

/-- The gauges that have a series. -/
def exported (s : Sink α) : List (String × Family α) :=
  s.families.filter fun (_, f) => !f.series.isEmpty

end Sink

/-- What an event does to the table of gauges, and the notes it gives rise to. -/
def Sink.record (s : Sink Reading) : Event → Sink Reading × List Notice
  | .set name labels value => s.set name labels value
  | .remove name labels => s.remove name labels
  | _ => (s, [])

/-- Records events one after the other; what the table notes of an event comes right after it. -/
def Sink.recordAll (s : Sink Reading) : List Event → Sink Reading × List Event
  | [] => (s, [])
  | e :: rest =>
    let (s, notices) := s.record e
    let (s, events) := s.recordAll rest
    (s, e :: notices.map .note ++ events)

end NodeWatch.Gauge
