import NodeWatch.Explorer.Error
import NodeWatch.Node.Error

/-!
# Reports of a gathering round

A round asks four things one after the other. Its report lists the steps that failed, each with its
cause, and says how far behind the node was and whether the sync verdict changed.
-/

namespace NodeWatch

/-- A step of a gathering round. -/
inductive Step
  | peers
  | blockNumber
  | block
  | explorer
  deriving DecidableEq, Repr

/-- The name of the step in a report. -/
def Step.name : Step → String
  | peers => "peers"
  | blockNumber => "block number"
  | block => "block"
  | explorer => "explorer"

/-- What made a step fail. -/
inductive Cause
  | node (error : NodeError)
  | explorer (error : ExplorerError)
  deriving DecidableEq, Repr

namespace Cause

/-- The cause in words. -/
def message : Cause → String
  | node error => error.message
  | explorer error => error.message

/-- Whether the cause means that the node is down; an explorer's failure never does. -/
def isConnectionRefused : Cause → Bool
  | node error => error.isConnectionRefused
  | explorer _ => false

end Cause

/-- A step that failed. -/
structure Failure where
  step : Step
  cause : Cause
  deriving DecidableEq, Repr

/-- The failure in words. -/
def Failure.message (f : Failure) : String :=
  f.step.name ++ ": " ++ f.cause.message

/-- What a round found out. -/
structure Report where
  /-- The failed steps in the order in which they were taken. -/
  failures : List Failure := []
  /-- The signed lag, when both block numbers were obtained. -/
  blocksBehind : Option Int := none
  /-- The new verdict, when it changed in this round. -/
  transition : Option Bool := none
  deriving DecidableEq, Repr

namespace Report

/-- Whether every step succeeded. -/
def isOk (r : Report) : Bool := r.failures.isEmpty

/-- Whether some query found the node down. -/
def isConnectionRefused (r : Report) : Bool := r.failures.any (·.cause.isConnectionRefused)

/-- Whether the step is among those that failed. -/
def failed (r : Report) (step : Step) : Bool := r.failures.any (·.step = step)

/-- The report in words: the count and one line for each failure. -/
def message (r : Report) : String :=
  r.failures.foldl (fun text f => text ++ "\n\t* " ++ f.message)
    s!"{r.failures.length} error(s) occurred:"

end Report

end NodeWatch
