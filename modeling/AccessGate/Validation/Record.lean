import AccessGate.Text.Split
import AccessGate.Validation.Scalar

/-!
# Validating records

A record is an object with known fields; other fields are ignored.  A field's plain name joins its
words by underscores, and its wire name starts every word but the first with a capital letter.
Both are read, and the wire name wins.
-/

namespace AccessGate

/-- A word with a capital letter in front. -/
def capitalized : List Char → List Char
  | [] => []
  | first :: rest => first.toUpper :: rest

def wireName (name : String) : String :=
  match Text.splitAt '_' name.toList with
  | [] => ""
  | first :: words => String.ofList (first ++ words.flatMap capitalized)

/-- The two ways to write the names of fields. -/
inductive Naming where
  | plain
  | wire
  deriving DecidableEq, Repr

/-- Writes a field's name. -/
def Naming.write : Naming → String → String
  | plain, name => name
  | wire, name => wireName name

namespace Validated

/-- Validates a field of a record, which must be there. -/
def field {α : Type} (name : String) (validate : Json → Validated α)
    (fields : List (String × Json)) : Validated α :=
  match Json.fieldOf? (wireName name) fields with
  | some value => under (.field (wireName name)) (validate value)
  | none =>
      match Json.fieldOf? name fields with
      | some value => under (.field name) (validate value)
      | none => under (.field (wireName name)) (flaw .missing)

def record {α : Type} (otherwise : FlawKind) (validate : List (String × Json) → Validated α) :
    Json → Validated α
  | .object fields => validate fields
  | _ => flaw otherwise

def records {α : Type} (otherwise : FlawKind) (validate : List (String × Json) → Validated α) :
    Json → Validated (List α)
  | .list found => items (record otherwise validate) found
  | _ => flaw .notList

end Validated

end AccessGate
