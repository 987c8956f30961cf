import AccessGate.Cache.KeyValue
import AccessGate.Json.Convert
import AccessGate.Json.Reader
import AccessGate.Json.Writer
import AccessGate.RateLimit.Window
import AccessGate.Time.IsoText

/-!
# Rate windows in the shared store

A client's window is stored under one key as a JSON list of times.  The limiter fails open: where
the store cannot be reached, or holds a text that is no list of times, the hit is allowed and not
recorded.
-/

namespace AccessGate

/-- Rate windows in the shared store. -/
structure SharedWindows where
  store : KeyValueStore := {}
  deriving Inhabited

namespace SharedWindows

def key (client : String) : String :=
  "rate_limit:" ++ client

/-- The time that an item tells. -/
def hit? : Json → Option Moment
  | .text value => Moment.read? value
  | _ => none

/-- The hits that a stored text lists.  The empty text lists none. -/
def decode? (text : String) : Option (List Moment) :=
  if text.isEmpty then some []
  else
    match Json.readUnmarked text with
    | .ok value => value.items?.bind fun items => items.mapM hit?
    | .error _ => none

/-- The stored text of hits. -/
def encode (hits : List Moment) : String :=
  Json.write .spaced (.texts (hits.map Moment.write))

/-- The answer to a hit that could not be decided. -/
def allowed (policy : Policy) (now : Moment) : Except TimeError Decision :=
  (now.addSeconds policy.windowSeconds).map fun resetAt =>
    { allowed := true, limit := policy.limit, remaining := 0, resetAt }

/-- Decides on a hit, given what is stored. -/
def decide? (stored : Option String) (policy : Policy) (now : Moment) :
    Option (Decision × List Moment) := do
  let hits ← match stored with
    | some text => decode? text
    | none => some []
  (Window.slide hits policy now).toOption

def hit (windows : SharedWindows) (client : String) (policy : Policy) (now : Moment) :
    Except TimeError Decision × SharedWindows :=
  match windows.store.get (key client) with
  | (.error _, store) => (allowed policy now, { store })
  | (.ok stored, store) =>
      match decide? stored policy now with
      | none => (allowed policy now, { store })
      | some (decision, hits) =>
          if decision.allowed then
            match store.set (key client) (encode hits) policy.windowSeconds with
            | (.ok (), store) => (.ok decision, { store })
            | (.error _, store) => (allowed policy now, { store })
          else (.ok decision, { store })

/-- Ends the connection to the store. -/
def close (windows : SharedWindows) : Except Disconnected Unit × SharedWindows :=
  let (outcome, store) := windows.store.close
  (outcome, { store })

end SharedWindows

end AccessGate
