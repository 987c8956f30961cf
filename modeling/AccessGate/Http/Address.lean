import AccessGate.Http.Host
import AccessGate.Http.Request

/-!
# Addresses

A request's address is its host, its path and its query.  The path starts with a slash there, and
what would end it is escaped; the gates go by this path, the routes by the path of the request
itself.
-/

namespace AccessGate

namespace Address

/-- Whether a character is left out of addresses. -/
def isDropped (character : Char) : Bool :=
  character = '\t' || character = '\n' || character = '\r'

def endsPath (character : Char) : Bool :=
  character = '?' || character = '#' || character = '\\'

/-- A path as it stands in an address. -/
def pathOf (path : String) : List Char :=
  let characters := path.toList
  let rooted := if characters.head? = some '/' then characters else '/' :: characters
  Text.escaped (fun character => !endsPath character) rooted

/-- Whether a character stands for itself in an address. -/
def keeps (character : Char) : Bool :=
  Text.isAscii character &&
    (character.isAlphanum || "_.-~:/%#?=@[]!$&'()*+,;".toList.contains character)

def write (host path query : String) : String :=
  let query := if query.isEmpty then "" else "?" ++ query
  String.ofList <| Text.escaped keeps
    (("http://" ++ host).toList ++ pathOf path ++ query.toList)

end Address

namespace Request

/-- The host of a request's address: the one it names, unless that is none. -/
def host (request : Request) : String :=
  ((request.header? "host").filter Host.isValid).getD request.server

def addressPath (request : Request) : String :=
  String.ofList ((Address.pathOf request.path).filter fun character => !Address.isDropped character)

end Request

end AccessGate
