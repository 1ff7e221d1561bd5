import NodeWatch.Round

/-!
# Connecting to the node

To connect is to ask the node for its chain and to build an explorer client for that chain. Nothing
is retried here: a failed attempt is made again at the next tick. An unsupported chain that is named
again and again is likely a wrong setting, so every tenth attempt in a row that names the same one
is noted as an error.
-/

namespace NodeWatch

/-- What is bound to a connection and dropped with it. -/
structure Connection where
  chain : Chain
  explorer : ExplorerId
  deriving DecidableEq, Repr

/-- How often in a row the node has named the same unsupported chain. -/
structure Streak where
  times : UInt32 := 0
  /-- The chain it named, if the last attempt found an unsupported one. -/
  lastId : Option String := none
  deriving DecidableEq, Repr

namespace Streak

/-- No unsupported chain in sight. -/
def clear : Streak := {}

/-- The streak after an attempt that found this unsupported chain. -/
def record (s : Streak) (id : String) : Streak :=
  if s.lastId = some id then { s with times := s.times + 1 } else { times := 1, lastId := some id }

/-- What to note of a streak: an error at every tenth attempt. -/
def notes (s : Streak) (id : String) : List Event :=
  if s.times % 10 = 0 then [.note (.unsupportedAgain id s.times)] else []

end Streak

/-- One attempt to connect: the streak after it, its result, and all it did in order. -/
def Connection.attempt (replies : Replies) (streak : Streak) :
    Streak × Except ConnectError Connection × List Event :=
  match replies.chainId with
  | .error e => (.clear, .error (.node e), [.call .chainId])
  | .ok id =>
    match Chain.ofId? id with
    | none =>
      let streak := streak.record id
      (streak, .error (.unsupportedChain id), .call .chainId :: streak.notes id)
    | some chain =>
      match replies.explorerFactory chain with
      | .error e =>
        (.clear, .error (.explorer e), [.call .chainId, .call (.explorerFactory chain)])
      | .ok explorer =>
        (.clear, .ok ⟨chain, explorer⟩,
          [.call .chainId, .call (.explorerFactory chain), .note (.usingChain chain)])

end NodeWatch
