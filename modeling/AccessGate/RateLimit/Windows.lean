import AccessGate.RateLimit.Memory
import AccessGate.RateLimit.Shared

/-!
# Rate windows

The rate windows of a server are kept in memory or in the shared store.
-/

namespace AccessGate

/-- The rate windows of all clients, wherever they are kept. -/
inductive RateWindows where
  | memory (windows : MemoryWindows)
  | shared (windows : SharedWindows)
  deriving Inhabited

def RateWindows.hit (windows : RateWindows) (client : String) (policy : Policy) (now : Moment) :
    Except TimeError Decision × RateWindows :=
  match windows with
  | memory windows => (windows.hit client policy now).map id memory
  | shared windows => (windows.hit client policy now).map id shared

end AccessGate
