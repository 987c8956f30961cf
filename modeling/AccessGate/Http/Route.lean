import AccessGate.Http.Address

/-!
# Routes

A route is what a path asks for.  A line break at the end of a path does not count.
-/

namespace AccessGate

/-- What a path asks for. -/
inductive Route where
  | check
  | bulkCheck
  | permissionsOf (user : String)
  | keyDocument
  | health
  /-- A page of the documentation. -/
  | page
  /-- The description of the service for programs. -/
  | description
  deriving DecidableEq, Repr

namespace Route

/-- A list of characters without a line break at its end. -/
def withoutLastBreak (characters : List Char) : List Char :=
  if characters.getLast? = some '\n' then characters.dropLast else characters

def ofPath? (path : String) : Option Route :=
  match (Text.splitAt '/' (withoutLastBreak path.toList)).map String.ofList with
  | ["", "api", "v1", "authorization", "check"] => some check
  | ["", "api", "v1", "authorization", "bulk-check"] => some bulkCheck
  | ["", "api", "v1", "users", user, "permissions"] =>
      if user.isEmpty then none else some (permissionsOf user)
  | ["", ".well-known", "jwks.json"] => some keyDocument
  | ["", "health"] => some health
  | ["", "docs"] | ["", "docs", "oauth2-redirect"] | ["", "redoc"] => some page
  | ["", "openapi.json"] => some description
  | _ => none

def methods : Route → List String
  | check | bulkCheck => ["POST"]
  | page | description => ["GET", "HEAD"]
  | permissionsOf _ | keyDocument | health => ["GET"]

/-- A path without the slashes at its end, or with one more if it has none. -/
def toggleSlash (path : String) : String :=
  match path.toList.reverse with
  | '/' :: rest => String.ofList (rest.dropWhile (· = '/')).reverse
  | _ => path ++ "/"

/-- The address that a path without a route is referred to, if a path that only differs in the
slash at its end has a route. -/
def redirect? (request : Request) : Option String :=
  let path := toggleSlash request.path
  if request.path = "/" then none
  else (ofPath? path).map fun _ =>
    Address.write request.host path request.query

end Route

end AccessGate
