import AccessGate.Bytes.Words
import AccessGate.Text.Lowercase

/-!
# Requests

A request's headers are named without regard to letter case; of several headers with one name the
first counts.
-/

namespace AccessGate

/-- A request to the service. -/
structure Request where
  method : String := "GET"
  /-- The path, with escapes already decoded. -/
  path : String := "/"
  /-- The query, with escapes. -/
  query : String := ""
  /-- The headers in order. -/
  headers : List (String × String) := []
  body : Bytes := []
  /-- The address of the peer, where the connection tells it. -/
  peer : Option String := none
  /-- The host under which the service listens. -/
  server : String := "localhost"
  deriving DecidableEq, Repr, Inhabited

/-- The value of the first header with a lower-case name. -/
def Request.header? (request : Request) (name : String) : Option String :=
  (request.headers.find? fun header => Text.lower header.1 = name).map Prod.snd

end AccessGate
