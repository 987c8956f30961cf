import AccessGate.Http.Address
import AccessGate.Http.Serving
import AccessGate.RateLimit.Rules
import AccessGate.Time.IsoText

/-!
# The rate gate

The rate gate counts a request as a hit of its client and rejects it once the client has used up the
limit for the path.  Clients that are exempt are not counted.  Every counted request is answered
with how much of the limit is left.
-/

namespace AccessGate

/-- The gate that limits the rate of requests. -/
structure RateGate where
  enabled : Bool
  rules : Rules

namespace RateGate

def hit (client : String) (policy : Policy) : Serving Decision := fun state =>
  let (outcome, windows) := state.windows.hit client policy state.now
  (outcome.mapError .time, { state with windows })

/-- The headers that tell what is left of a limit. -/
def headers (decision : Decision) : List (String × String) :=
  [("x-rate-limit-limit", toString decision.limit),
    ("x-rate-limit-remaining", toString (max 0 decision.remaining)),
    ("x-rate-limit-reset", decision.resetAt.write)]

/-- Rejects a request until a number of seconds has gone by. -/
def rejection (policy : Policy) (retryAfter : Int) : Response :=
  (Response.json 429 (.object [("error", .text "RateLimitExceeded"),
    ("message", .text (s!"Rate limit exceeded. Maximum {policy.limit} requests " ++
      s!"per {policy.windowSeconds.render} seconds allowed.")),
    ("retryAfter", .int retryAfter)])).withHeaders [("retry-after", toString retryAfter)]

/-- Reports a rejected request. -/
def report (client path : String) (policy : Policy) : Action Unit := do
  Action.count (.rejection policy.windowSeconds)
  Action.note .rateLimitExceeded .warning
    [("client_id", .text client), ("path", .text path), ("limit", .int policy.limit),
      ("window_seconds", policy.windowSeconds.toJson)]

/-- Lets a request through to what serves it, or rejects it. -/
def pass (gate : RateGate) (request : Request) (inner : Serving Response) : Serving Response := do
  if !gate.enabled || gate.rules.exempts request then inner
  else
    let client := Rules.clientName request
    let policy := gate.rules.policyFor request.addressPath
    let decision ← hit client policy
    let response ←
      if decision.allowed then inner
      else do
        let retryAfter ← (decision.retryAfter (← Serving.now)).mapError Fault.time
        Serving.act (report client request.addressPath policy)
        pure (rejection policy retryAfter)
    return response.withHeaders (headers decision)

end RateGate

end AccessGate
