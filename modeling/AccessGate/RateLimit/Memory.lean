import AccessGate.Collection.Table
import AccessGate.RateLimit.Window

/-!
# Rate windows in memory

Every client has a window of its own.  A window expires once its newest hit has left it; expired
windows are swept out by later hits, of any client, but not more often than once in an interval.
A hit that fails half-way keeps what it has done until then.
-/

namespace AccessGate

structure ClientWindow where
  /-- The admitted hits, oldest first. -/
  hits : List Moment := []
  /-- When the window may be swept out, once a hit has settled that. -/
  expiresAt : Option Moment := none
  deriving DecidableEq, Repr, Inhabited

/-- The rate windows of all clients. -/
structure MemoryWindows where
  /-- The least time between two sweeps. -/
  sweepMicros : Int := 60 * microsPerSecond
  windows : Table String ClientWindow := .empty
  nextSweep : Option Moment := none
  deriving Inhabited

namespace MemoryWindows

/-- No windows yet, and a number of seconds between two sweeps. -/
def ofInterval (seconds : Quantity) : Except TimeError MemoryWindows :=
  (seconds.micros microsPerSecond).map fun sweepMicros => { sweepMicros }

def isExpired (window : ClientWindow) (now : Moment) : Except TimeError Bool :=
  match window.expiresAt with
  | none => .ok false
  | some expiresAt => expiresAt.isBefore now

/-- Removes the expired ones among the given windows, up to the first that cannot be told. -/
def evict (now : Moment) (windows : Table String ClientWindow) :
    List (String × ClientWindow) → Except TimeError Unit × Table String ClientWindow
  | [] => (.ok (), windows)
  | (client, window) :: rest =>
      match isExpired window now with
      | .error failure => (.error failure, windows)
      | .ok expired => evict now (if expired then windows.erase client else windows) rest

def isSweepDue (store : MemoryWindows) (now : Moment) : Except TimeError Bool :=
  match store.nextSweep with
  | none => .ok true
  | some nextSweep => (now.isBefore nextSweep).map (!·)

/-- Sweeps out the expired windows if it is time to. -/
def sweep (store : MemoryWindows) (now : Moment) : Except TimeError Unit × MemoryWindows :=
  match store.isSweepDue now with
  | .error failure => (.error failure, store)
  | .ok false => (.ok (), store)
  | .ok true =>
      match now.addMicros store.sweepMicros with
      | .error failure => (.error failure, store)
      | .ok nextSweep =>
          let (outcome, windows) := evict now store.windows store.windows.entries
          (outcome, { store with windows, nextSweep := some nextSweep })

/-- The later of two times of expiry. -/
def laterExpiry (known : Option Moment) (expiresAt : Moment) : Except TimeError Moment :=
  match known with
  | none => .ok expiresAt
  | some known => (known.isBefore expiresAt).map fun later => if later then expiresAt else known

/-- When a window with the given hits expires. -/
def expiry (known : Option Moment) (hits : List Moment) (policy : Policy) (now : Moment) :
    Except TimeError Moment := do
  laterExpiry known (← (hits.getLast?.getD now).addSeconds policy.windowSeconds)

def hitWindow (window : ClientWindow) (policy : Policy) (now : Moment) :
    Except TimeError Decision × ClientWindow :=
  match Window.slide window.hits policy now with
  | .error failure => (.error failure, window)
  | .ok (decision, hits) =>
      match expiry window.expiresAt hits policy now with
      | .error failure => (.error failure, { window with hits })
      | .ok expiresAt => (.ok decision, { hits, expiresAt := some expiresAt })

def hit (store : MemoryWindows) (client : String) (policy : Policy) (now : Moment) :
    Except TimeError Decision × MemoryWindows :=
  match store.sweep now with
  | (.error failure, store) => (.error failure, store)
  | (.ok (), store) =>
      let (outcome, window) := hitWindow ((store.windows.get? client).getD {}) policy now
      (outcome, { store with windows := store.windows.put client window })

end MemoryWindows

end AccessGate
