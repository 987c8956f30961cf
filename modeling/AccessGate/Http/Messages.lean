import AccessGate.Resolver
import AccessGate.Validation.Record

/-!
# Messages

The requests and responses of the permission checks.  Every message is read from an object and
written as one, and reports all flaws of its fields in their order.
-/

namespace AccessGate

open Validated

/-- Asks for one check. -/
structure CheckRequest where
  user : String
  application : String
  module : String
  action : String
  deriving DecidableEq, Repr

def CheckRequest.read (fields : List (String × Json)) : Validated CheckRequest :=
  (both (field "user_id" filledText fields) (both (field "application_key" filledText fields)
    (both (field "module" filledText fields) (field "action" filledText fields)))).map
    fun (user, application, module, action) => { user, application, module, action }

def CheckRequest.toJson (naming : Naming) (request : CheckRequest) : Json :=
  .object [(naming.write "user_id", .text request.user),
    (naming.write "application_key", .text request.application),
    (naming.write "module", .text request.module), (naming.write "action", .text request.action)]

/-- Answers one check. -/
structure CheckResponse where
  granted : Bool
  user : String
  application : String
  module : String
  action : String
  source : String
  deriving DecidableEq, Repr

def CheckResponse.read (fields : List (String × Json)) : Validated CheckResponse :=
  (both (field "has_permission" flag fields) (both (field "user_id" text fields)
    (both (field "application_key" text fields) (both (field "module" text fields)
      (both (field "action" text fields) (field "source" text fields)))))).map
    fun (granted, user, application, module, action, source) =>
      { granted, user, application, module, action, source }

/-- An answer to one check as an object. -/
def CheckResponse.toJson (naming : Naming) (response : CheckResponse) : Json :=
  .object [(naming.write "has_permission", .bool response.granted),
    (naming.write "user_id", .text response.user),
    (naming.write "application_key", .text response.application),
    (naming.write "module", .text response.module), (naming.write "action", .text response.action),
    (naming.write "source", .text response.source)]

def CheckItem.read (fields : List (String × Json)) : Validated CheckItem :=
  (both (field "module" filledText fields) (field "action" filledText fields)).map
    fun (module, action) => { module, action }

def CheckItem.fields (naming : Naming) (item : CheckItem) : List (String × Json) :=
  [(naming.write "module", .text item.module), (naming.write "action", .text item.action)]

/-- Asks for several checks of one user. -/
structure BulkRequest where
  user : String
  application : String
  checks : List CheckItem
  deriving DecidableEq, Repr

/-- Reads the fields of a request for several checks. -/
def BulkRequest.read (otherwise : FlawKind) (fields : List (String × Json)) :
    Validated BulkRequest :=
  (both (field "user_id" filledText fields) (both (field "application_key" filledText fields)
    (field "checks" (records otherwise CheckItem.read) fields))).map
    fun (user, application, checks) => { user, application, checks }

/-- A request for several checks as an object. -/
def BulkRequest.toJson (naming : Naming) (request : BulkRequest) : Json :=
  .object [(naming.write "user_id", .text request.user),
    (naming.write "application_key", .text request.application),
    (naming.write "checks", .list (request.checks.map fun item => .object (item.fields naming)))]

/-- The answer for one item among several. -/
structure ItemAnswer where
  item : CheckItem
  granted : Bool
  deriving DecidableEq, Repr

def ItemAnswer.read (fields : List (String × Json)) : Validated ItemAnswer :=
  (both (field "module" text fields) (both (field "action" text fields)
    (field "has_permission" flag fields))).map
    fun (module, action, granted) => { item := { module, action }, granted }

def ItemAnswer.toJson (naming : Naming) (answer : ItemAnswer) : Json :=
  .object (answer.item.fields naming ++ [(naming.write "has_permission", .bool answer.granted)])

/-- Answers several checks of one user. -/
structure BulkResponse where
  user : String
  application : String
  results : List ItemAnswer
  deriving DecidableEq, Repr

/-- Reads the fields of an answer to several checks. -/
def BulkResponse.read (otherwise : FlawKind) (fields : List (String × Json)) :
    Validated BulkResponse :=
  (both (field "user_id" text fields) (both (field "application_key" text fields)
    (field "results" (records otherwise ItemAnswer.read) fields))).map
    fun (user, application, results) => { user, application, results }

/-- An answer to several checks as an object. -/
def BulkResponse.toJson (naming : Naming) (response : BulkResponse) : Json :=
  .object [(naming.write "user_id", .text response.user),
    (naming.write "application_key", .text response.application),
    (naming.write "results", .list (response.results.map (ItemAnswer.toJson naming)))]

/-- Lists the permissions of a user. -/
structure PermissionList where
  user : String
  application : String
  permissions : List String
  deriving DecidableEq, Repr

def PermissionList.read (fields : List (String × Json)) : Validated PermissionList :=
  (both (field "user_id" text fields) (both (field "application_key" text fields)
    (field "permissions" texts fields))).map
    fun (user, application, permissions) => { user, application, permissions }

def PermissionList.toJson (naming : Naming) (list : PermissionList) : Json :=
  .object [(naming.write "user_id", .text list.user),
    (naming.write "application_key", .text list.application),
    (naming.write "permissions", .texts list.permissions)]

end AccessGate
