import LinkedTables.Fault
import LinkedTables.Notice

/-!
# Circuit breakers

A breaker stands before a call that may fail. After `failMax` failures in a row it opens and turns
calls away. Once its time has passed it lets a single call try again, half-open: success closes the
breaker, failure opens it anew. `allow` decides about a call, `settle` learns from its outcome.
-/

namespace LinkedTables.Remote

/-- The states of a breaker. -/
inductive BreakerState where
  | shut
  | opened
  | halfOpen
deriving DecidableEq, Repr, Inhabited

/-- The name of a state. -/
def BreakerState.name : BreakerState → String
  | shut => "closed"
  | opened => "open"
  | halfOpen => "half-open"

/-- A circuit breaker. -/
structure Breaker where
  name : String
  /-- The number of failures in a row that open it. -/
  failMax : Int
  /-- The seconds it stays open. -/
  resetTimeout : Int
  state : BreakerState
  failures : Nat
deriving DecidableEq, Repr, Inhabited

namespace Breaker

/-- A new breaker. -/
def make (name : String) (failMax resetTimeout : Int) : Breaker :=
  ⟨name, failMax, resetTimeout, .shut, 0⟩

/-- Whether an open breaker has been open long enough. No time passes between the calls, so that
only a timeout of nothing is over. -/
def isOver (b : Breaker) : Bool := b.resetTimeout ≤ 0

/-- The name of a breaker in notices. -/
def title (b : Breaker) : String := "Circuit Breaker '" ++ b.name ++ "'"

/-- The breaker in another state; one that closes forgets its failures. -/
def enter (b : Breaker) (state : BreakerState) : Breaker × Notice :=
  ({ b with state, failures := if state = .shut then 0 else b.failures },
    ⟨.warning, b.title ++ " changed state: " ++ b.state.name ++ " -> " ++ state.name⟩)

/-- What is reported about a failure. -/
def failureNotice (b : Breaker) (fault : Fault) : Notice :=
  ⟨.error, b.title ++ " recorded failure: " ++ fault.className ++ ": " ++ fault.text⟩

/-- The breaker when a call comes, or the fault with which it turns the call away. -/
def allow (b : Breaker) : Except Fault (Breaker × List Notice) :=
  if b.state ≠ .opened then .ok (b, [])
  else if b.isOver then
    let (b, notice) := b.enter .halfOpen
    .ok (b, [notice])
  else .error (.breaker "Timeout not elapsed yet, circuit breaker still open")

/-- The breaker after a call that succeeded. -/
def succeed (b : Breaker) : Breaker × List Notice :=
  let b := { b with failures := 0 }
  if b.state = .halfOpen then
    let (b, notice) := b.enter .shut
    (b, [notice])
  else (b, [])

/-- The breaker after a call that failed, and the fault that the caller sees: its own, or that of
the breaker where it opens. -/
def fail (b : Breaker) (fault : Fault) : Fault × Breaker × List Notice :=
  let b := { b with failures := b.failures + 1 }
  let notice := b.failureNotice fault
  if b.state = .halfOpen then
    let (b, change) := b.enter .opened
    (.breaker "Trial call failed, circuit breaker opened", b, [notice, change])
  else if b.failMax ≤ b.failures then
    let (b, change) := b.enter .opened
    (.breaker "Failures threshold reached, circuit breaker opened", b, [notice, change])
  else (fault, b, [notice])

/-- What a call comes to, and the breaker after it. Faults that do not `count` leave the breaker as
a success does. -/
def settle {α : Type} (b : Breaker) (counts : Fault → Bool) (outcome : Except Fault α) :
    Except Fault α × Breaker × List Notice :=
  match outcome with
  | .ok a =>
    let (b, notices) := b.succeed
    (.ok a, b, notices)
  | .error fault =>
    if counts fault then
      let (fault, b, notices) := b.fail fault
      (.error fault, b, notices)
    else
      let (b, notices) := b.succeed
      (.error fault, b, notices)

/-- A call through the breaker, whose outcome is known beforehand. -/
def call {α : Type} (b : Breaker) (counts : Fault → Bool) (outcome : Except Fault α) :
    Except Fault α × Breaker × List Notice :=
  match b.allow with
  | .error fault => (.error fault, b, [])
  | .ok (b, notices) =>
    let (result, b, more) := b.settle counts outcome
    (result, b, notices ++ more)

end Breaker

end LinkedTables.Remote
