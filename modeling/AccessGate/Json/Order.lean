import AccessGate.Json.Convert
import AccessGate.Text.Sorted

/-!
# Ordering JSON values

Texts are ordered by their characters, numbers by their size whatever their form, and lists by
their first items that differ.  Other values have no order, and neither have values of different
kinds.
-/

namespace AccessGate.Json

mutual

/-- Whether two values are equal.  The fields of an object may come in any order. -/
def isEqual : Json → Json → Bool
  | null, null => true
  | text first, text second => first = second
  | list first, list second => areEqual first second
  | object first, object second => first.length = second.length && areIn first second
  | first, second => isSame first second

/-- Whether two lists are equal item by item. -/
def areEqual : List Json → List Json → Bool
  | [], [] => true
  | first :: firsts, second :: seconds => isEqual first second && areEqual firsts seconds
  | _, _ => false

/-- Whether fields have equal values among other fields. -/
def areIn : List (String × Json) → List (String × Json) → Bool
  | [], _ => true
  | (name, value) :: rest, fields =>
      (match fieldOf? name fields with
        | some other => isEqual value other
        | none => false) && areIn rest fields

end

def isLess? (first second : Json) : Option Bool :=
  match number? first, number? second with
  | some (_, some first), some (_, some second) => some (first < second)
  | some (first, none), some (_, some second) => some (first.lessThanInt second)
  | some (_, some first), some (second, none) =>
      some (second ≠ .notANumber && !second.lessThanInt first)
  | some (first, none), some (second, none) => some (first.isLess second)
  | _, _ => none

mutual

/-- Whether a value comes before another one, if they have an order. -/
def isBefore? : Json → Json → Option Bool
  | text first, text second => some (decide (first < second))
  | list first, list second => areBefore? first second
  | first, second => isLess? first second

/-- Whether a list comes before another one, if the first items that differ have an order. -/
def areBefore? : List Json → List Json → Option Bool
  | _, [] => some false
  | [], _ :: _ => some true
  | first :: firsts, second :: seconds =>
      if isEqual first second then areBefore? firsts seconds else isBefore? first second

end

/-- Puts a value into its place, behind those that do not come after it. -/
def insertSorted? (value : Json) : List Json → Option (List Json)
  | [] => some [value]
  | item :: items => do
      if ← isBefore? value item then return value :: item :: items
      else return item :: (← insertSorted? value items)

/-- Values in increasing order, if they have an order. -/
def sorted? (values : List Json) : Option (List Json) :=
  match values.mapM text? with
  | some texts => some ((Text.sorted texts).map text)
  | none => values.foldlM (fun sorted value => insertSorted? value sorted) []

end AccessGate.Json
