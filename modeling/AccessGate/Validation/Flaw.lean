import AccessGate.Json.Value

/-!
# Flaws

Validation does not stop at the first flaw: it reports every flaw with its place, a path of field
names and item numbers.
-/

namespace AccessGate

/-- A step on the way to a value inside another one. -/
inductive PathStep where
  | field (name : String)
  | item (number : Nat)
  deriving DecidableEq, Repr

/-- What is wrong with a value. -/
inductive FlawKind where
  | missing
  | textTooShort
  | notText
  | notList
  | notFlag
  | notFlagText
  | notNumber
  | notNumberText
  | numberTooLong
  | fractional
  | notFinite
  | notRecord
  | notRecordBody
  /-- The text is not JSON. -/
  | malformedJson
  deriving DecidableEq, Repr

/-- The name of a kind of flaws. -/
def FlawKind.name : FlawKind → String
  | missing => "missing"
  | textTooShort => "string_too_short"
  | notText => "string_type"
  | notList => "list_type"
  | notFlag => "bool_type"
  | notFlagText => "bool_parsing"
  | notNumber => "int_type"
  | notNumberText => "int_parsing"
  | numberTooLong => "int_parsing_size"
  | fractional => "int_from_float"
  | notFinite => "finite_number"
  | notRecord => "model_type"
  | notRecordBody => "model_attributes_type"
  | malformedJson => "json_invalid"

/-- A flaw and its place. -/
structure Flaw where
  kind : FlawKind
  place : List PathStep := []
  deriving DecidableEq, Repr

/-- A step as it is told to callers. -/
def PathStep.toJson : PathStep → Json
  | field name => .text name
  | item number => .int number

/-- A flaw as it is told to callers. -/
def Flaw.toJson (flaw : Flaw) : Json :=
  .object [("type", .text flaw.kind.name), ("loc", .list (flaw.place.map PathStep.toJson))]

/-- A flaw seen from one step further out. -/
def Flaw.under (step : PathStep) (flaw : Flaw) : Flaw :=
  { flaw with place := step :: flaw.place }

/-- The outcome of validating a value. -/
abbrev Validated (α : Type) := Except (List Flaw) α

namespace Validated

/-- A value with a single flaw. -/
def flaw {α : Type} (kind : FlawKind) : Validated α :=
  .error [{ kind }]

/-- The outcome for a part, seen from one step further out. -/
def under {α : Type} (step : PathStep) (outcome : Validated α) : Validated α :=
  outcome.mapError fun flaws => flaws.map (Flaw.under step)

/-- Two outcomes together: both values, or the flaws of both. -/
def both {α β : Type} (first : Validated α) (second : Validated β) : Validated (α × β) :=
  match first, second with
  | .ok first, .ok second => .ok (first, second)
  | .error flaws, .ok _ => .error flaws
  | .ok _, .error flaws => .error flaws
  | .error flaws, .error more => .error (flaws ++ more)

/-- All outcomes of a list together. -/
def all {α : Type} : List (Validated α) → Validated (List α)
  | [] => .ok []
  | outcome :: outcomes => (both outcome (all outcomes)).map fun (head, tail) => head :: tail

def items {α : Type} (validate : Json → Validated α) (found : List Json) : Validated (List α) :=
  all (found.mapIdx fun number item => under (.item number) (validate item))

end Validated

end AccessGate
