import AccessGate.Json.Value
import AccessGate.Text.Integer

/-!
# Converting values

Values are taken loosely: as a truth value, as a whole number, or as a collection of items.
-/

namespace AccessGate.Json

/-- Whether a value counts as true: anything but null, false, zero and what is empty. -/
def holds : Json → Bool
  | null => false
  | bool value => value
  | int value => value ≠ 0
  | float value => value.toInt? ≠ some 0
  | text value => !value.isEmpty
  | list items => !items.isEmpty
  | object fields => !fields.isEmpty

/-- The whole number that a value stands for: fractions are cut off, and a text has to spell an
integer. -/
def whole? : Json → Option Int
  | bool value => some (if value then 1 else 0)
  | int value => some value
  | float value => value.truncate?
  | text value => Text.readInteger? value
  | _ => none

/-- The items of a value: those of a list, the names of an object's fields, or the characters of a
text. -/
def items? : Json → Option (List Json)
  | list items => some items
  | object fields => some (fields.map fun field => text field.1)
  | text value => some (value.toList.map fun character => text (String.singleton character))
  | _ => none

/-- Whether a value has no items of its own, so that it can be a member of a set. -/
def isScalar : Json → Bool
  | list _ | object _ => false
  | _ => true

/-- The number that a value is, as a double or exactly. -/
def number? : Json → Option (Double × Option Int)
  | bool value => some (.ofInt (if value then 1 else 0), some (if value then 1 else 0))
  | int value => some (.ofInt value, some value)
  | float value => some (value, value.toInt?)
  | _ => none

/-- Whether two values count as the same member of a set.  Numbers are compared by value, whatever
their form. -/
def isSame : Json → Json → Bool
  | null, null => true
  | text first, text second => first = second
  | first, second =>
      match number? first, number? second with
      | some (_, some first), some (_, some second) => first = second
      | some (first, none), some (second, none) => first = second
      | _, _ => false

/-- The first of several values that count as the same member of a set. -/
def distinct : List Json → List Json
  | [] => []
  | item :: items => item :: (distinct items).filter fun other => !isSame item other

end AccessGate.Json
