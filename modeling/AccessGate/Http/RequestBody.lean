import AccessGate.Bytes.Decoding
import AccessGate.Http.Request
import AccessGate.Http.Response
import AccessGate.Json.Reader
import AccessGate.Text.Blank
import AccessGate.Text.Split
import AccessGate.Validation.Record

/-!
# Request bodies

A body is read as JSON if its content type says that it is JSON.  A body that cannot be read is
refused at once; whether it holds the message that is asked for is checked later.
-/

namespace AccessGate

inductive RequestBody where
  | empty
  | json (value : Json)
  /-- The content type does not say that the body is JSON. -/
  | foreign

namespace RequestBody

/-- Whether a content type says that a body is JSON. -/
def isJsonType (contentType : String) : Bool :=
  let main := Text.trimCharacters (contentType.toList.takeWhile (· ≠ ';'))
  match Text.splitAt '/' (Text.lowerCharacters main) with
  | [type, subtype] =>
      type = "application".toList &&
        (subtype = "json".toList || "+json".toList.isSuffixOf subtype)
  | _ => false

/-- Reads a body that is JSON.  Only a body that is no JSON text is told where it goes wrong. -/
def readJson (bytes : Bytes) : Except Response Json :=
  match (Bytes.text? bytes).map Json.read with
  | some (.ok value) => .ok value
  | some (.error (.malformed position)) =>
      .error (.invalid [{ kind := .malformedJson, place := [.field "body", .item position] }])
  | some (.error .oversizedInteger) | some (.error .tooDeep) | none =>
      .error (.refusal 400 "There was an error parsing the body")

def read (request : Request) : Except Response RequestBody :=
  if request.body.isEmpty then .ok empty
  else if ((request.header? "content-type").map isJsonType).getD false then
    (readJson request.body).map json
  else .ok foreign

def message {α : Type} (validate : List (String × Json) → Validated α) (body : RequestBody) :
    Validated α :=
  .under (.field "body") <| match body with
    | empty | json .null => .flaw .missing
    | json value => .record .notRecordBody validate value
    | foreign => .flaw .notRecordBody

end RequestBody

end AccessGate
