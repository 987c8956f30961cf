import AccessGate.Http.Serving
import AccessGate.Http.Request

/-!
# Cross-origin requests

Pages of any origin may use the service.  Before a request that is out of the ordinary a browser
asks for permission; that question is answered without serving the request.  Any header may be
sent, but no request may reach into a private network.
-/

namespace AccessGate.CrossOrigin

/-- The methods that pages of other origins may use. -/
def methods : List String :=
  ["DELETE", "GET", "HEAD", "OPTIONS", "PATCH", "POST", "PUT", "QUERY"]

/-- Lets every origin read a response. -/
def anyOrigin : String × String :=
  ("access-control-allow-origin", "*")

/-- The headers of a request on which the answer to a browser's question depends. -/
def questionHeaders : List String :=
  ["Origin", "Access-Control-Request-Method", "Access-Control-Request-Headers",
    "Access-Control-Request-Private-Network"]

/-- What a browser asks for that is not allowed. -/
def disallowed (request : Request) (method : String) : List String :=
  (if methods.contains method then [] else ["method"]) ++
    (if (request.header? "access-control-request-private-network").isSome then ["private-network"]
      else [])

/-- The answer to a browser that asks for permission to use a method. -/
def permission (request : Request) (method : String) : Response :=
  let echoed := (request.header? "access-control-request-headers").toList.map fun names =>
    ("access-control-allow-headers", names)
  let answer := match disallowed request method with
    | [] => Response.text 200 "OK"
    | refused => Response.text 400 ("Disallowed CORS " ++ ", ".intercalate refused)
  answer.withHeaders ([anyOrigin, ("access-control-allow-methods", ", ".intercalate methods),
    ("access-control-max-age", "600"), ("vary", ", ".intercalate questionHeaders)] ++ echoed)

/-- Answers a browser's question, or hands a request on to what serves it. -/
def pass (request : Request) (inner : Serving Response) : Serving Response := do
  match request.header? "origin", request.header? "access-control-request-method" with
  | none, _ => return (← inner).withHeaders [("vary", "Origin")]
  | some _, some method =>
      if request.method = "OPTIONS" then return permission request method
      else return (← inner).withHeaders [anyOrigin, ("vary", "Origin")]
  | some _, none => return (← inner).withHeaders [anyOrigin, ("vary", "Origin")]

end AccessGate.CrossOrigin
