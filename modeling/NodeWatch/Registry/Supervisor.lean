import NodeWatch.Notice
import NodeWatch.Registry.Service

/-!
# Registering with retries

A registration that fails is tried again after a fixed pause, up to a number of attempts. Whether it
succeeded in the end or not, the monitor goes on. All times are in milliseconds. The attempts are
made in any monad that can submit, note and pause; with given replies they are made on a clock, and
what happens is kept.
-/

namespace NodeWatch.Registry

/-- How the attempts ended. -/
inductive Outcome
  | registered (attempts : Nat)
  | gaveUp (attempts : Nat)
  deriving DecidableEq, Repr

/-- Something that happens during the attempts. -/
inductive Event
  /-- The service is submitted to the registry. -/
  | submit (service : Service)
  | note (notice : Notice)
  deriving DecidableEq, Repr

/-- What the attempts need of the world around them. -/
structure World (m : Type → Type) where
  /-- Submits the service, as many attempts having failed before. -/
  submit (made : Nat) (service : Service) : m (Except RegistryError Unit)
  note (notice : Notice) : m Unit
  /-- Waits for so many milliseconds. -/
  pause (milliseconds : Nat) : m Unit

/-- The reply to an attempt, and how long it took. -/
structure Reply where
  result : Except RegistryError Unit
  duration : Nat := 0

/-- The time, and what happened so far and when. -/
structure Progress where
  now : Nat
  trace : List (Nat × Event) := []

/-- The world that gives these replies. -/
def World.ofReplies (replies : Nat → Reply) : World (StateM Progress) where
  submit made service := modifyGet fun p =>
    let reply := replies made
    (reply.result,
      { now := p.now + reply.duration, trace := p.trace ++ [(p.now, .submit service)] })
  note notice := modify fun p => { p with trace := p.trace ++ [(p.now, .note notice)] }
  pause milliseconds := modify fun p => { p with now := p.now + milliseconds }

/-- All attempts together. -/
structure Attempts where
  outcome : Outcome
  /-- What happened, and when. -/
  trace : List (Nat × Event)
  endedAt : Nat

/-- What is to be registered, and how patiently. -/
structure Supervisor where
  service : Service
  maxAttempts : UInt32
  /-- The pause after a failed attempt. -/
  backoff : Nat

namespace Supervisor

/-- The supervisor that a configuration describes. -/
def ofConfig (config : Config) (consul : ConsulConfig) : Supervisor where
  service := .ofConfig config consul
  maxAttempts := consul.maxAttempts
  backoff := consul.retryBackoff.toNat * 1000

/-- Makes attempts when `left` are left and `made` have failed. The pause after the last attempt is
left out. -/
def attempt {m : Type → Type} [Monad m] (s : Supervisor) (world : World m) (made : Nat) :
    Nat → m Outcome
  | 0 => do
    world.note (.registrationGivenUp s.maxAttempts.toNat)
    return .gaveUp s.maxAttempts.toNat
  | left + 1 => do
    match ← world.submit made s.service with
    | .ok () =>
      world.note (.registered s.service.name s.service.id)
      return .registered (made + 1)
    | .error e =>
      world.note (.registrationFailed (made + 1) s.maxAttempts.toNat e)
      if left ≠ 0 then world.pause s.backoff
      s.attempt world (made + 1) left

/-- Makes all attempts. -/
def runIn {m : Type → Type} [Monad m] (s : Supervisor) (world : World m) : m Outcome :=
  s.attempt world 0 s.maxAttempts.toNat

/-- Makes all attempts with these replies, the first one at time zero. -/
def run (s : Supervisor) (replies : Nat → Reply) : Attempts :=
  let (outcome, progress) := ((s.runIn (.ofReplies replies)).run { now := 0 }).run
  { outcome, trace := progress.trace, endedAt := progress.now }

end Supervisor

end NodeWatch.Registry
