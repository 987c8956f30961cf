import AccessGate.Http.AuthGate
import AccessGate.Http.CrossOrigin
import AccessGate.Http.Messages
import AccessGate.Http.Parameters
import AccessGate.Http.RateGate
import AccessGate.Http.RequestBody
import AccessGate.Http.Route

/-!
# The server

A request passes the cross-origin rules, the rate gate and the authentication gate, in this order,
before its route serves it.  A route asks first who calls, and only then looks at the message; but a
body that cannot be read is refused before that.  Callers with a tenant's key may only ask about
their own tenant.
-/

namespace AccessGate

/-- A server of the permission checks. -/
structure Server where
  serviceName : String
  rateGate : RateGate
  authGate : AuthGate
  /-- Tells the public key. -/
  tokens : TokenService

namespace Server

open Serving

/-- The title that the server tells. -/
def title : String :=
  "AuthSmith"

def version : String :=
  "1.0.0"

/-- Makes sure that a principal may act on a tenant that is given by its key. -/
def authorize (principal : Principal) (tenantKey : String) : Action Unit := do
  if !principal.isAdmin then
    let tenant ← Resolver.tenant tenantKey
    Gate.tenant principal (some tenant.id)

def check (principal : Principal) (request : CheckRequest) : Action Json := do
  authorize principal request.application
  let result ← Resolver.check request.user request.application request.module request.action
  let response : CheckResponse :=
    { granted := result.granted, user := request.user, application := request.application
      module := request.module, action := request.action, source := result.evidence.name }
  return response.toJson .wire

/-- Answers a request for several checks. -/
def bulkCheck (principal : Principal) (request : BulkRequest) : Action Json := do
  authorize principal request.application
  let results ← Resolver.checkAll request.user request.application request.checks
  let response : BulkResponse :=
    { user := request.user, application := request.application
      results := results.map fun (item, granted) => { item, granted } }
  return response.toJson .wire

def permissions (principal : Principal) (user application : String) (module : Option String) :
    Action Json := do
  authorize principal application
  let permissions ← Resolver.list user application module
  return PermissionList.toJson .wire { user, application, permissions }

/-- The principal that calls, which needs access to some tenant. -/
def principalOf (caller : Option Caller) : Except Fault Principal := do
  Gate.anyTenant (← Gate.authenticated (caller.map Caller.principal))

/-- Answers a caller whose message is valid. -/
def answerValid {α : Type} (caller : Option Caller) (message : Validated α)
    (answer : Principal → α → Action Json) : Serving Response := do
  let principal ← principalOf caller
  match message with
  | .error flaws => return .invalid flaws
  | .ok message => return .json 200 (← act (answer principal message))

def answerBody {α : Type} (request : Request) (caller : Option Caller)
    (validate : List (String × Json) → Validated α) (answer : Principal → α → Action Json) :
    Serving Response := do
  match RequestBody.read request with
  | .error response => return response
  | .ok body => answerValid caller (body.message validate) answer

/-- The tenant key that a query asks about. -/
def queriedTenant (request : Request) : Validated String :=
  .under (.field "query") <| .under (.field "applicationKey") <|
    match request.parameter? "applicationKey" with
    | some key => .filledText (.text key)
    | none => .flaw .missing

/-- What the server tells about its own health. -/
def health (server : Server) : Json :=
  .object [("status", .text "ok"), ("service", .text server.serviceName),
    ("version", .text version)]

/-- What the server tells programs about itself. -/
def description : Json :=
  .object [("openapi", .text "3.1.0"),
    ("info", .object [("title", .text title), ("version", .text version)])]

def serveRoute (server : Server) (request : Request) (caller : Option Caller) :
    Route → Serving Response
  | .check => answerBody request caller CheckRequest.read check
  | .bulkCheck => answerBody request caller (BulkRequest.read .notRecordBody) bulkCheck
  | .permissionsOf user =>
      answerValid caller (queriedTenant request) fun principal application =>
        permissions principal user application (request.parameter? "module")
  | .keyDocument => do
      return .json 200 (← server.tokens.keyDocument server.authGate.files)
  | .health => return .json 200 server.health
  | .page => return .page title
  | .description => return .json 200 description

/-- Finds the route of a request and serves it. -/
def dispatch (server : Server) (request : Request) (caller : Option Caller) :
    Serving Response := do
  match Route.ofPath? request.path with
  | some route =>
      if route.methods.contains request.method then server.serveRoute request caller route
      else
        let allowed := ("allow", ", ".intercalate route.methods)
        return (Response.refusal 405 "Method Not Allowed").withHeaders [allowed]
  | none =>
      match Route.redirect? request with
      | some address => return .redirect address
      | none => return .refusal 404 "Not Found"

/-- Turns the expected faults into responses. -/
def tellFaults (action : Serving Response) : Serving Response := do
  match ← attempt action with
  | .ok response => return response
  | .error (.service fault) => tell fault
  | .error (.refused status reason) => return .refusal status reason
  | .error fault => throw fault

/-- Serves a request, unless it fails in an unexpected way. -/
def handle (server : Server) (request : Request) : Serving Response :=
  CrossOrigin.pass request <| server.rateGate.pass request <|
    server.authGate.pass request fun caller => tellFaults (server.dispatch request caller)

/-- Serves a request.  An unexpected fault is hidden from the caller, but told to the operator. -/
def serve (server : Server) (request : Request) (state : ServerState) :
    (Response × Option Fault) × ServerState :=
  match server.handle request state with
  | (.ok response, state) => ((response, none), state)
  | (.error fault, state) => ((.text 500 "Internal Server Error", some fault), state)

end Server

end AccessGate
