import AccessGate.Number.Double

/-!
# JSON values

Numbers keep the distinction between integers, which are unbounded, and doubles.  An object lists
its fields in the order in which their names first appeared.
-/

namespace AccessGate

inductive Json where
  | null
  | bool (value : Bool)
  | int (value : Int)
  | float (value : Double)
  | text (value : String)
  | list (items : List Json)
  | object (fields : List (String × Json))
  deriving Repr, Inhabited

namespace Json

/-- Sets a field: a new name goes last, a known name keeps its place and takes the new value. -/
def putField (name : String) (value : Json) : List (String × Json) → List (String × Json)
  | [] => [(name, value)]
  | field :: fields =>
      if field.1 = name then (name, value) :: fields else field :: putField name value fields

/-- The value of a name in a list of fields. -/
def fieldOf? (name : String) : List (String × Json) → Option Json
  | [] => none
  | field :: fields => if field.1 = name then some field.2 else fieldOf? name fields

def field? (name : String) : Json → Option Json
  | object fields => fieldOf? name fields
  | _ => none

def text? : Json → Option String
  | text value => some value
  | _ => none

def texts (items : List String) : Json :=
  list (items.map text)

def optionalText : Option String → Json
  | some value => text value
  | none => null

end Json

end AccessGate
