import AccessGate.Fault
import AccessGate.Validation.Flaw

/-!
# Responses
-/

namespace AccessGate

/-- What a response holds. -/
inductive ResponseBody where
  | json (value : Json)
  | text (text : String)

/-- A response of the service. -/
structure Response where
  status : Nat
  /-- The headers by lower-case names. -/
  headers : List (String × String)
  body : ResponseBody

namespace Response

/-- A response that holds JSON. -/
def json (status : Nat) (value : Json) : Response :=
  { status, headers := [("content-type", "application/json")], body := .json value }

/-- A response that holds plain text. -/
def text (status : Nat) (text : String) : Response :=
  { status, headers := [("content-type", "text/plain; charset=utf-8")], body := .text text }

def page (text : String) : Response :=
  { status := 200, headers := [("content-type", "text/html; charset=utf-8")], body := .text text }

def withHeaders (response : Response) (headers : List (String × String)) : Response :=
  { response with headers := response.headers ++ headers }

def refusal (status : Nat) (reason : String) : Response :=
  json status (.object [("detail", .text reason)])

/-- Tells the flaws of a request. -/
def invalid (flaws : List Flaw) : Response :=
  json 422 (.object [("detail", .list (flaws.map Flaw.toJson))])

/-- Tells a service fault, given the debug id to use where it has none. -/
def ofFault (fault : ServiceFault) (freshId : String) : Response :=
  json fault.status (.object (fault.body freshId))

def redirect (address : String) : Response :=
  { status := 307, headers := [("location", address)], body := .text "" }

end Response

end AccessGate
