import AccessGate.LogLevel

/-!
# Audit records

An audit record names an event, carries a level and holds the fields of the allow list; any other
field is dropped with a warning.  Emitting never fails for the caller: an unknown level or a broken
counter only marks the emission as failed.
-/

namespace AccessGate

inductive AuditEvent where
  | apiKeyValidated
  | apiKeyInvalid
  | permissionChecked
  | permissionCacheInvalidated
  | rateLimitExceeded
  deriving DecidableEq, Repr

namespace AuditEvent

def all : List AuditEvent :=
  [apiKeyValidated, apiKeyInvalid, permissionChecked, permissionCacheInvalidated,
    rateLimitExceeded]

def name : AuditEvent → String
  | apiKeyValidated => "API_KEY_VALIDATED"
  | apiKeyInvalid => "API_KEY_INVALID"
  | permissionChecked => "PERMISSION_CHECKED"
  | permissionCacheInvalidated => "PERMISSION_CACHE_INVALIDATED"
  | rateLimitExceeded => "RATE_LIMIT_EXCEEDED"

def ofName? (name : String) : Option AuditEvent :=
  all.find? fun event => event.name = name

end AuditEvent

/-- A record of the audit trail. -/
structure AuditRecord where
  event : AuditEvent
  level : LogLevel
  fields : List (String × Json)

namespace Audit

/-- The fields that a record may have.  None of them can hold a secret. -/
def allowedFields : List String :=
  ["tenant_id", "tenant_key", "user_id", "access_level", "permission_code", "source", "cache_hit",
    "client_id", "path", "limit", "window_seconds", "request_id", "count"]

def isAllowed (field : String × Json) : Bool :=
  allowedFields.contains field.1

/-- The record of an event, with its allowed fields. -/
def record (event : AuditEvent) (level : LogLevel) (fields : List (String × Json)) :
    AuditRecord :=
  { event, level, fields := fields.filter isAllowed }

/-- The warnings about the fields that are not allowed. -/
def warnings (fields : List (String × Json)) : List String :=
  (fields.filter fun field => !isAllowed field).map fun field =>
    s!"Audit field '{field.1}' not in allowlist, skipping"

/-- One count of the event counter. -/
structure EventCount where
  event : AuditEvent
  source : Option String

def EventCount.counter (_ : EventCount) : String :=
  "authsmith_audit_events"

/-- What is told about a count of an event. -/
def EventCount.attributes (count : EventCount) : List (String × Json) :=
  ("event", .text count.event.name) ::
    count.source.toList.map fun source => ("source", .text source)

/-- What emitting an event leaves behind. -/
structure Emission where
  records : List AuditRecord
  warnings : List String
  counts : List EventCount
  failed : Bool

/-- The names that no field may have, because the call uses them for itself. -/
def reservedNames : List String := ["self", "event_type"]

/-- The level and the fields of a call.  The level is given on its own or among the fields, but not
twice. -/
def parts? (level : Option Json) (fields : List (String × Json)) :
    Option (Json × List (String × Json)) :=
  if fields.any fun field => reservedNames.contains field.1 then none
  else
    match level, Json.fieldOf? "level" fields with
    | some _, some _ => none
    | given, found =>
        some ((given.or found).getD (.text LogLevel.info.name),
          fields.filter fun field => field.1 ≠ "level")

/-- Emits an event at the level that a value asks for. -/
def emit (event : AuditEvent) (level : Json) (fields : List (String × Json))
    (counterWorks : Bool) : Emission :=
  let warned := warnings fields
  match LogLevel.ofJson? level with
  | none => { records := [], warnings := warned, counts := [], failed := true }
  | some level =>
      let written := record event level fields
      let count : EventCount :=
        { event, source := (Json.fieldOf? "source" written.fields).map Json.display }
      { records := [written], warnings := warned,
        counts := if counterWorks then [count] else [], failed := !counterWorks }

end Audit

end AccessGate
