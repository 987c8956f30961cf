import AccessGate.Proofs.Json.Number
import AccessGate.Text.Digit
import AccessGate.Text.Split

/-!
# Fields of a text

A text that was put together from fields comes apart into the same fields, as long as no field
contains the separator, and a field of decimal digits reads back as the number that was written.
-/

namespace AccessGate.Text

open AccessGate.Double

/-! ## Separators -/

theorem splitAt_eq_splitOn (separator : Char) (text : List Char) :
    splitAt separator text = text.splitOn separator := by
  induction text with
  | nil => rfl
  | cons first rest induction =>
      rw [splitAt, induction, List.splitOn, List.splitOn, List.splitOnP_cons_eq_if_modifyHead]
      by_cases separates : first = separator
      · simp [separates]
      · simp only [separates, if_false, beq_iff_eq]
        cases parts : List.splitOnP (· == separator) rest with
        | nil => exact absurd parts (List.splitOnP_ne_nil _ _)
        | cons part parts => rfl

/-- Fields that are joined by a separator come apart again. -/
theorem splitAt_intercalate {separator : Char} {fields : List (List Char)}
    (free : ∀ field ∈ fields, separator ∉ field) (some : fields ≠ []) :
    splitAt separator ([separator].intercalate fields) = fields := by
  rw [splitAt_eq_splitOn, List.splitOn_intercalate separator free some]

theorem intercalate_splitAt (separator : Char) (text : List Char) :
    [separator].intercalate (splitAt separator text) = text := by
  rw [splitAt_eq_splitOn, List.intercalate_splitOn]

theorem mem_of_mem_splitAt {separator : Char} {text part : List Char} {character : Char}
    (member : part ∈ splitAt separator text) (inside : character ∈ part) : character ∈ text := by
  induction text generalizing part with
  | nil => simp_all [splitAt]
  | cons first rest induction =>
      rw [splitAt] at member
      split at member
      · rcases List.mem_cons.mp member with rfl | behind
        · cases inside
        · exact List.mem_cons_of_mem _ (induction behind inside)
      · split at member
        · simp_all
        · next front parts cut =>
          rw [cut] at induction
          rcases List.mem_cons.mp member with rfl | behind
          · rcases List.mem_cons.mp inside with rfl | inside
            · exact List.mem_cons_self
            · exact List.mem_cons_of_mem _ (induction List.mem_cons_self inside)
          · exact List.mem_cons_of_mem _ (induction (List.mem_cons_of_mem _ behind) inside)

/-! ## Digits -/

theorem digitValue?_of_isDigit {digit : Char} (ascii : digit.isDigit = true) :
    digitValue? digit = some (digit.toNat - 48) := by
  simp only [Char.isDigit, Bool.and_eq_true, decide_eq_true_eq, ge_iff_le,
    UInt32.le_iff_toNat_le] at ascii
  have low : 48 ≤ digit.toNat := ascii.1
  have high : digit.toNat < 48 + 10 := Nat.lt_succ_of_le ascii.2
  have found : digitZeros.find? (fun first => first ≤ digit.toNat && digit.toNat < first + 10) =
      some 48 := by
    rw [digitZeros, List.find?_cons_of_pos]
    simp [low, high]
  rw [digitValue?, found]
  rfl

theorem isDigit_of_mem_digitsOf {value : Nat} {digit : Char} (member : digit ∈ digitsOf value) :
    isDigit digit = true := by
  rw [isDigit, digitValue?_of_isDigit (Json.Reader.digitsOf_all value digit member)]
  rfl

theorem readDigits?_digitsOf (value : Nat) : readDigits? (digitsOf value) = some value := by
  have some : (digitsOf value).isEmpty = false := by
    obtain ⟨first, rest, written, _⟩ := Json.Reader.digitsOf_start value
    rw [written]
    rfl
  have values : ∀ digits : List Char, (∀ digit ∈ digits, digit.isDigit = true) →
      digits.mapM digitValue? = .some (digits.map fun digit => digit.toNat - 48) := by
    intro digits
    induction digits with
    | nil => simp
    | cons digit digits induction =>
        intro ascii
        rw [List.forall_mem_cons] at ascii
        rw [List.mapM_cons, digitValue?_of_isDigit ascii.1, induction ascii.2]
        rfl
  rw [readDigits?, some, if_neg Bool.false_ne_true, values _ (Json.Reader.digitsOf_all value),
    Option.map_some]
  exact congrArg Option.some (Json.Reader.numberOf_digitsOf value)

end AccessGate.Text
