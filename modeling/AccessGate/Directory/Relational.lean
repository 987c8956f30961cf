import AccessGate.Directory.Query
import AccessGate.Json.Order

/-!
# The directory as relations

The directory is kept in a relational database.  Each question is one statement with parameters,
on a connection of its own; the answer is read off the rows.  Parameters and columns may have any
values: ids are told as texts, everything else as it is.
-/

namespace AccessGate

/-- A statement with its parameters. -/
structure Statement where
  text : String
  parameters : List Json

/-- A row of an answer, column by column. -/
abbrev Row := List Json

namespace Relational

/-- The statement for a question.  The codes of no roles are known without asking. -/
def statement? : Question Json → Option Statement
  | .tenantByKey key => some
      ⟨"SELECT id, key, name, is_active, api_key_hash FROM applications " ++
        "WHERE lower(key) = lower(%s) AND is_active", [key]⟩
  | .tenantsWithKeys => some
      ⟨"SELECT id, key, name, is_active, api_key_hash FROM applications " ++
        "WHERE is_active AND api_key_hash IS NOT NULL", []⟩
  | .permissionByCode tenantId code => some
      ⟨"SELECT id, application_id, module, action, code, description FROM permissions " ++
        "WHERE code = %s AND application_id = %s", [code, tenantId]⟩
  | .holdsThroughRole user permissionId => some
      ⟨"SELECT EXISTS ( SELECT 1 FROM user_roles ur " ++
        "JOIN role_permissions rp ON rp.role_id = ur.role_id " ++
        "WHERE ur.user_id = %s AND rp.permission_id = %s )", [user, permissionId]⟩
  | .holdsDirectly user permissionId => some
      ⟨"SELECT EXISTS ( SELECT 1 FROM user_permissions " ++
        "WHERE user_id = %s AND permission_id = %s )", [user, permissionId]⟩
  | .rolesOfUser user tenantId => some
      ⟨"SELECT r.id FROM user_roles ur JOIN roles r ON r.id = ur.role_id " ++
        "WHERE ur.user_id = %s AND r.application_id = %s", [user, tenantId]⟩
  | .codesOfRoles [] => none
  | .codesOfRoles roleIds => some
      ⟨"SELECT DISTINCT p.code FROM role_permissions rp " ++
        "JOIN permissions p ON p.id = rp.permission_id WHERE rp.role_id::text = ANY(%s)",
        [.list roleIds]⟩
  | .directCodes user tenantId => some
      ⟨"SELECT DISTINCT p.code FROM user_permissions up " ++
        "JOIN permissions p ON p.id = up.permission_id " ++
        "WHERE up.user_id = %s AND p.application_id = %s", [user, tenantId]⟩

def column (row : Row) (number : Nat) : Except Fault Json :=
  match row[number]? with
  | some value => .ok value
  | none => .error .shortRow

/-- A column as text. -/
def idOf (row : Row) (number : Nat) : Except Fault Json :=
  (column row number).map fun value => .text value.display

def tenant (row : Row) : Except Fault Json := do
  let name ← column row 2
  return .object [("id", ← idOf row 0), ("key", ← column row 1),
    ("name", if name.holds then name else .text ""), ("is_active", ← column row 3),
    ("api_key_hash", ← column row 4)]

def permission (row : Row) : Except Fault Json := do
  return .object [("id", ← idOf row 0), ("tenant_id", ← idOf row 1), ("module", ← column row 2),
    ("action", ← column row 3), ("code", ← column row 4), ("description", ← column row 5)]

/-- What the first row tells; nothing where there is none, or one without columns. -/
def first (rows : List Row) (read : Row → Except Fault Json) : Except Fault Json :=
  match rows with
  | [] | [] :: _ => .ok .null
  | row :: _ => read row

/-- The distinct first columns of all rows, in order. -/
def codes (rows : List Row) : Except Fault Json := do
  let values ← rows.mapM (column · 0)
  if !values.all Json.isScalar then throw .unsettableItems
  let values := Json.distinct values
  return .list ((Json.sorted? values).getD values)

/-- The answer to a question, from the rows that its statement gives. -/
def answer (question : Question Json) (rows : List Row) : Except Fault Json :=
  match question with
  | .tenantByKey _ => first rows tenant
  | .tenantsWithKeys => (rows.mapM tenant).map .list
  | .permissionByCode _ _ => first rows permission
  | .holdsThroughRole _ _ | .holdsDirectly _ _ =>
      (first rows (column · 0)).map fun value => .bool value.holds
  | .rolesOfUser _ _ => (rows.mapM (idOf · 0)).map .list
  | .codesOfRoles _ | .directCodes _ _ => codes rows

end Relational

/-- What is done with a database. -/
inductive DatabaseStep where
  | connect (address : String)
  | execute (statement : Statement)

/-- A database at an address. -/
structure Database where
  address : String
  /-- Why connecting fails, if it does. -/
  refusal : Option String := none
  /-- The rows that answer a statement. -/
  rows : Statement → List Row

/-- Asks a question, and tells the steps that it took. -/
def Database.ask (database : Database) (question : Question Json) :
    Except Fault Json × List DatabaseStep :=
  match Relational.statement? question with
  | none => (Relational.answer question [], [])
  | some statement =>
      match database.refusal with
      | some reason =>
          (.error (.service (.unavailable "Database unavailable." (some reason))),
            [.connect database.address])
      | none =>
          (Relational.answer question (database.rows statement),
            [.connect database.address, .execute statement])

end AccessGate
