import AccessGate.Settings.Basic
import AccessGate.Text.Split

/-!
# Choosing backends

The settings tell where the permission cache and the rate windows are kept: in memory, or in the
shared store at an address.
-/

namespace AccessGate

/-- Where something is kept. -/
inductive Backend where
  | memory
  /-- In the shared store, over a new connection to an address or over an existing one. -/
  | shared (address : Option String)
  deriving DecidableEq, Repr

namespace Backend

/-- An address, or the one from the settings where it is missing or empty. -/
def address (settings : Settings) (given : Option String) : String :=
  match given with
  | some address => if address.isEmpty then settings.redisUrl else address
  | none => settings.redisUrl

/-- The line that is logged for a new connection: the address without a user and a password. -/
def connectionLine (address : String) : String :=
  let parts := Text.splitAt '@' address.toList
  "Creating Redis client for " ++ String.ofList (parts.getLast?.getD [])

/-- Where permissions are cached. -/
def forCache (settings : Settings) (hasConnection : Bool) : Backend :=
  if !settings.redisEnabled then memory
  else if hasConnection then shared none
  else shared (some (address settings none))

/-- Where rate windows are kept. -/
def forLimiter (settings : Settings) (given : Option String) : Backend :=
  let wanted := given.getD settings.limiterRedisUrl
  if wanted.isEmpty then memory else shared (some (address settings (some wanted)))

end Backend

end AccessGate
