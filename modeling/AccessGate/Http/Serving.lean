import AccessGate.Engine
import AccessGate.Http.Response
import AccessGate.RateLimit.Windows

/-!
# Serving

Requests are served one after the other.  What the service keeps from one request to the next is
its engine and the rate windows; the clocks are set from outside.  Serving may fail with a fault;
what was done before it failed stays done.
-/

namespace AccessGate

/-- What the service keeps between requests. -/
structure ServerState where
  engine : Engine
  windows : RateWindows := .memory {}
  now : Moment
  /-- The debug id for faults that have none. -/
  freshId : String

/-- Sets the clock and the one of the engine, which counts ticks.  They need not keep in step. -/
def ServerState.setClocks (state : ServerState) (now : Moment) (ticks : Int) : ServerState :=
  { state with now, engine := { state.engine with now := ticks } }

/-- An action while serving. -/
abbrev Serving (α : Type) := ExceptT Fault (StateM ServerState) α

namespace Serving

def act {α : Type} (action : Action α) : Serving α := fun state =>
  let (outcome, engine) := action state.engine
  (outcome, { state with engine })

def now : Serving Moment := fun state =>
  (.ok state.now, state)

/-- Acts, and gives the outcome even if it is a fault. -/
def attempt {α : Type} (action : Serving α) : Serving (Except Fault α) := fun state =>
  let (outcome, state) := action state
  (.ok outcome, state)

def tell (fault : ServiceFault) : Serving Response := fun state =>
  (.ok (.ofFault fault state.freshId), state)

end Serving

end AccessGate
