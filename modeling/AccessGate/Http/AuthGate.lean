import AccessGate.Access
import AccessGate.Http.Address
import AccessGate.Http.Serving
import AccessGate.RateLimit.Rules
import AccessGate.Token.Service

/-!
# The authentication gate

The authentication gate finds out who a request comes from.  A credential is an API key in a header
of its own, or else a bearer credential: a token if it has the shape of one, and an API key if not.
Open paths are served without a principal.
-/

namespace AccessGate

/-- What a request presents to show who it comes from. -/
inductive Credential where
  | key (text : String)
  | token (text : String)
  deriving DecidableEq, Repr

namespace Credential

/-- Whether a bearer credential has the shape of a token: three parts between full stops. -/
def isTokenShaped (text : String) : Bool :=
  text.toList.count '.' = 2

/-- The bearer credential of a request, unless it is empty. -/
def bearer? (request : Request) : Option String :=
  let header := ((request.header? "authorization").getD "").toList
  let value := String.ofList (Text.trimCharacters (header.drop 7))
  if Text.lowerCharacters (header.take 7) = "bearer ".toList && !value.isEmpty then some value
  else none

def ofRequest? (request : Request) : Option Credential :=
  match Rules.presentedKey? request with
  | some text => some (.key text)
  | none => (bearer? request).map fun text => if isTokenShaped text then .token text else .key text

end Credential

/-- The principal of a verified token.  It has no access of its own. -/
def Principal.ofToken (payload : TokenPayload) : Except Fault Principal :=
  if (payload.roles ++ payload.permissions).all Json.isScalar then
    .ok { level := .none, userId := some payload.subject, tenantKey := payload.application
          roles := Json.distinct payload.roles, permissions := Json.distinct payload.permissions }
  else .error .unsettableItems

/-- Who asks for a response. -/
structure Caller where
  principal : Principal
  /-- The id by which the caller refers to the request. -/
  requestId : Option String

/-- The gate that finds out who a request comes from. -/
structure AuthGate where
  /-- Whether callers have to show who they are; otherwise all of them are administrators. -/
  required : Bool := true
  keys : ApiKeys
  /-- Verifies tokens, if that is set up. -/
  tokens : Option TokenService := none
  files : KeyFiles

namespace AuthGate

/-- The paths that are served to everyone. -/
def openPaths : List String :=
  ["/health", "/.well-known/jwks.json", "/docs", "/openapi.json", "/redoc", "/metrics"]

/-- A path without the slashes at its end. -/
def withoutLastSlashes (path : String) : String :=
  String.ofList (path.toList.reverse.dropWhile (· = '/')).reverse

/-- Whether a path is served to everyone. -/
def isOpen (path : String) : Bool :=
  openPaths.contains (withoutLastSlashes path) || openPaths.contains path

/-- The principal that a token belongs to.  A token is not accepted while the key to verify it with
is missing. -/
def ofToken (gate : AuthGate) (token : String) (now : Moment) : Except Fault (Option Principal) :=
  match gate.tokens with
  | none => .ok none
  | some tokens =>
      match tokens.verify gate.files now token with
      | .ok none => .ok none
      | .ok (some payload) => (Principal.ofToken payload).map some
      | .error (.service fault) =>
          if fault.kind.lineage.contains .signingKey then .ok none else .error (.service fault)
      | .error fault => .error fault

def identify (gate : AuthGate) : Credential → Serving (Option Principal)
  | .key text => do
      let access ← Serving.act (gate.keys.classify text)
      return if access.isValid then some (.ofKey access) else none
  | .token text => do
      gate.ofToken text (← Serving.now)

/-- Hands a request on to what serves it, together with who it comes from, or refuses it. -/
def pass (gate : AuthGate) (request : Request) (inner : Option Caller → Serving Response) :
    Serving Response := do
  let caller (principal : Principal) : Option Caller :=
    some { principal, requestId := request.header? "x-request-id" }
  if isOpen request.addressPath then inner none
  else if !gate.required then inner (caller { level := .admin })
  else
    match Credential.ofRequest? request with
    | none => return .refusal 401 "Authentication required"
    | some credential =>
        match ← Serving.attempt (gate.identify credential) with
        | .ok (some principal) => inner (caller principal)
        | .ok none => return .refusal 401 "Invalid or expired credentials"
        | .error (.service fault) => Serving.tell fault
        | .error fault => throw fault

end AuthGate

end AccessGate
