import AccessGate.Http.Request
import AccessGate.Text.Percent
import AccessGate.Text.Split

/-!
# Query parameters

A query is a sequence of bytes, of which every one stands for the character with its number.  It
lists names with values; a plus sign stands for a space, and escapes are decoded.  Of several values
with one name the last counts.
-/

namespace AccessGate

namespace Parameters

def byteCharacters (text : String) : List Char :=
  (Bytes.ofText text).map fun byte => Char.ofNat byte.toNat

/-- The text that a part of a query spells. -/
def decoded (characters : List Char) : String :=
  String.ofList (Text.unescaped (characters.map fun character =>
    if character = '+' then ' ' else character))

/-- One parameter; without an equals sign its value is empty. -/
def parameter (characters : List Char) : String × String :=
  (decoded (characters.takeWhile (· ≠ '=')), decoded ((characters.dropWhile (· ≠ '=')).drop 1))

/-- The parameters of a query, in order. -/
def read (query : String) : List (String × String) :=
  ((Text.splitAt '&' (byteCharacters query)).filter fun part => !part.isEmpty).map parameter

end Parameters

/-- The last value of a query parameter. -/
def Request.parameter? (request : Request) (name : String) : Option String :=
  ((Parameters.read request.query).reverse.find? fun parameter => parameter.1 = name).map Prod.snd

end AccessGate
