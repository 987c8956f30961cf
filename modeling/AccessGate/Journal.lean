import AccessGate.Audit
import AccessGate.Time.Quantity

/-!
# The journal

The journal collects what the service reports to its operators: audit records, and the counts of
permission checks and of rejected hits.
-/

namespace AccessGate

/-- Which evidence answered a permission check. -/
inductive Evidence where
  | cache
  | role
  | direct
  | none
  deriving DecidableEq, Repr

def Evidence.name : Evidence → String
  | cache => "Cache"
  | role => "Role"
  | direct => "Direct"
  | none => "None"

inductive Count where
  /-- A permission check was answered. -/
  | permissionCheck (evidence : Evidence) (granted : Bool)
  /-- A hit was rejected under a policy with the given window. -/
  | rejection (windowSeconds : Quantity)
  deriving DecidableEq, Repr

/-- The name of the counter that counts. -/
def Count.counter : Count → String
  | permissionCheck _ _ => "authsmith_permission_checks"
  | rejection _ => "authsmith_rate_limit_rejections"

/-- What is told about a count. -/
def Count.attributes : Count → List (String × Json)
  | permissionCheck evidence granted =>
      [("source", .text evidence.name), ("granted", .text (if granted then "true" else "false"))]
  | rejection windowSeconds => [("window_seconds", windowSeconds.toJson)]

/-- Audit records and counts, in order. -/
structure Journal where
  records : List AuditRecord := []
  counts : List Count := []
  deriving Inhabited

namespace Journal

def note (journal : Journal) (event : AuditEvent) (level : LogLevel)
    (fields : List (String × Json)) : Journal :=
  { journal with records := journal.records ++ [Audit.record event level fields] }

def count (journal : Journal) (count : Count) : Journal :=
  { journal with counts := journal.counts ++ [count] }

end Journal

end AccessGate
