import AccessGate.Fault
import AccessGate.Json.Value

/-!
# Faults from parts

A fault is put together from parts, some given in order and some by name.  Each kind of faults has
its own parts: where a kind settles its code, only the message is given in order.
-/

namespace AccessGate.FaultKind

/-- The parts of a kind: those that may be given in order, those that are only given by name, and
those that have to be given. -/
structure Parts where
  ordered : List String
  named : List String
  required : List String

def parts : FaultKind → Parts
  | service =>
      ⟨["code", "message_safe", "message_debug", "retryable", "cause", "debug_id"], [],
        ["code", "message_safe"]⟩
  | retryable | terminal | signingKey =>
      ⟨["code", "message_safe", "message_debug", "cause", "debug_id"], [],
        ["code", "message_safe"]⟩
  | notFound | conflict | invalidInput | unavailable =>
      ⟨["message_safe"], ["message_debug", "cause", "debug_id"], ["message_safe"]⟩
  | keySourceNotConfigured => ⟨["key_kind"], [], []⟩
  | keyFileMissing => ⟨["path"], [], ["path"]⟩

/-- Assigns given values to the parts of a kind.  Too many values in order, unknown names, parts
given twice and required parts left out are refused. -/
def assign? (kind : FaultKind) (ordered : List Json) (named : List (String × Json)) :
    Option (List (String × Json)) :=
  let parts := kind.parts
  let first := parts.ordered.zip ordered
  let known := parts.ordered.drop ordered.length ++ parts.named
  let given := first ++ named
  if ordered.length ≤ parts.ordered.length && (named.all fun part => known.contains part.1) &&
      (parts.required.all fun name => (Json.fieldOf? name given).isSome) then
    some given
  else none

/-- The fault of a kind with the given parts. -/
def build? (kind : FaultKind) (ordered : List Json) (named : List (String × Json)) :
    Option ServiceFault :=
  (kind.assign? ordered named).map fun parts =>
    let part (name : String) (default : Json) : Json := (Json.fieldOf? name parts).getD default
    match kind with
    | keySourceNotConfigured => .keySourceNotConfigured (part "key_kind" (.text "private"))
    | keyFileMissing => .keyFileMissing (part "path" .null)
    | kind =>
        { kind
          code := (kind.code?.map Json.text).getD (part "code" .null)
          message := part "message_safe" .null
          detail := part "message_debug" .null
          retryable := (kind.retryable?.map Json.bool).getD (part "retryable" (.bool false))
          debugId := part "debug_id" .null }

def ofName? (name : String) : Option FaultKind :=
  [service, retryable, terminal, notFound, conflict, invalidInput, unavailable, signingKey,
    keySourceNotConfigured, keyFileMissing].find? fun kind => kind.name = name

end AccessGate.FaultKind
