import AccessGate.Time.Quantity

/-!
# Sliding windows

A client's window is the list of its admitted hits, oldest first.  A hit drops the entries that are
older than the window's length, where an entry exactly as old as that still counts, and is admitted
if fewer entries than the limit are left.
-/

namespace AccessGate

/-- A budget of hits within any window of the given length. -/
structure Policy where
  limit : Int
  windowSeconds : Quantity
  deriving DecidableEq, Repr

/-- The answer to a hit. -/
structure Decision where
  allowed : Bool
  limit : Int
  /-- The number of hits that are left, as far as the answer tells. -/
  remaining : Int
  /-- When the window has room again. -/
  resetAt : Moment
  deriving DecidableEq, Repr

/-- The whole seconds from a moment until the window has room again, at least zero. -/
def Decision.retryAfter (decision : Decision) (now : Moment) : Except TimeError Int :=
  (now.micros decision.resetAt).map fun micros => max 0 (Moment.wholeSeconds micros)

namespace Window

/-- The hits that are not earlier than a moment. -/
def since (cutoff : Moment) : List Moment → Except TimeError (List Moment)
  | [] => .ok []
  | hit :: hits => do
      let early ← hit.isBefore cutoff
      let recent ← since cutoff hits
      return if early then recent else hit :: recent

/-- When a window has room again: its length after its first hit, or after now if it is empty. -/
def resetAt (recent : List Moment) (policy : Policy) (now : Moment) : Except TimeError Moment :=
  (recent.head?.getD now).addSeconds policy.windowSeconds

/-- Decides on a hit, and gives the hits to keep. -/
def slide (hits : List Moment) (policy : Policy) (now : Moment) :
    Except TimeError (Decision × List Moment) := do
  let cutoff ← now.subtractSeconds policy.windowSeconds
  let recent ← since cutoff hits
  let resetAt ← resetAt recent policy now
  if policy.limit ≤ recent.length then
    return ({ allowed := false, limit := policy.limit, remaining := 0, resetAt }, recent)
  else
    let remaining := max 0 (policy.limit - recent.length - 1)
    return ({ allowed := true, limit := policy.limit, remaining, resetAt }, recent ++ [now])

end Window

end AccessGate
