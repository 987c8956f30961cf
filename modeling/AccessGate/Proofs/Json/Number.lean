import AccessGate.Json.Reader
import AccessGate.Json.Writer
import Mathlib.Data.List.TakeDrop

/-!
# Written integers read back

An integer is written in decimal digits, after a minus sign if it is negative.  What follows it in a
written value neither continues the digits nor starts a fraction or an exponent.
-/

namespace AccessGate.Json.Reader

open AccessGate.Double

/-- What may stand behind a written value: nothing, a comma, or the end of a list or an object. -/
def MayFollow (rest : List Char) : Prop :=
  ∀ next, rest.head? = some next → next = ',' ∨ next = ']' ∨ next = '\x7d'

theorem mayFollow_nil : MayFollow [] := by
  intro next equality
  cases equality

theorem mayFollow_cons {next : Char} (ends : next = ',' ∨ next = ']' ∨ next = '\x7d')
    (rest : List Char) : MayFollow (next :: rest) := by
  rintro _ ⟨⟩
  exact ends

/-! ## Digits -/

theorem digitsOf_all (value : Nat) : ∀ digit ∈ digitsOf value, digit.isDigit = true :=
  fun _ member => Nat.isDigit_of_mem_toDigits (by decide) (by decide) member

private theorem digitChar_ne_zero : ∀ value < 10, value ≠ 0 → value.digitChar ≠ '0' := by
  decide

theorem digitsOf_positive (value : Nat) (positive : value ≠ 0) :
    ∃ first rest, digitsOf value = first :: rest ∧ first ≠ '0' ∧ first.isDigit = true := by
  induction value using Nat.strongRecOn with
  | _ value induction =>
      by_cases short : value < 10
      · refine ⟨value.digitChar, [], Nat.toDigits_of_lt_base short, ?_, ?_⟩
        · exact digitChar_ne_zero value short positive
        · exact digitsOf_all value _ (by simp [digitsOf, Nat.toDigits_of_lt_base short])
      · obtain ⟨first, rest, written, start⟩ := induction (value / 10) (by omega) (by omega)
        refine ⟨first, rest ++ [(value % 10).digitChar], ?_, start⟩
        rw [digitsOf, Nat.toDigits_of_base_le (by decide) (by omega)]
        rw [digitsOf] at written
        rw [written]
        rfl

theorem digitsOf_start (value : Nat) :
    ∃ first rest, digitsOf value = first :: rest ∧ first.isDigit = true := by
  by_cases zero : value = 0
  · subst zero
    exact ⟨'0', [], rfl, rfl⟩
  · obtain ⟨first, rest, written, _, isDigit⟩ := digitsOf_positive value zero
    exact ⟨first, rest, written, isDigit⟩

theorem numberOf_digitsOf (value : Nat) : numberOf (digitsOf value) = value := by
  have folded : numberOf (digitsOf value) = Nat.ofDigitChars 10 (Nat.toDigits 10 value) 0 := by
    rw [numberOf, Text.ofDigits, List.foldl_map]
    rfl
  rw [folded, Nat.ofDigitChars_toDigits (by decide) (by decide)]

private theorem digits_append {found rest : List Char} (all : ∀ digit ∈ found, digit.isDigit = true)
    (follows : MayFollow rest) : digits (found ++ rest) = (found, rest) := by
  have stops : rest.takeWhile Char.isDigit = [] ∧ rest.dropWhile Char.isDigit = rest := by
    cases rest with
    | nil => exact ⟨rfl, rfl⟩
    | cons next rest =>
        have ended : next.isDigit = false := by
          rcases follows next rfl with rfl | rfl | rfl <;> decide
        simp [ended]
  rw [digits, List.span_eq_takeWhile_dropWhile, List.takeWhile_append_of_pos all,
    List.dropWhile_append_of_pos all, stops.1, stops.2, List.append_nil]

/-! ## Integers -/

private theorem wholePart?_digitsOf (value : Nat) {rest : List Char} (follows : MayFollow rest) :
    wholePart? (digitsOf value ++ rest) = some (digitsOf value, rest) := by
  by_cases zero : value = 0
  · subst zero
    rfl
  · obtain ⟨first, others, written, nonzero, isDigit⟩ := digitsOf_positive value zero
    have split := digits_append (digitsOf_all value) follows
    rw [written] at split ⊢
    rw [List.cons_append] at split ⊢
    rw [wholePart?, if_pos isDigit, split]
    exact nonzero

theorem fraction?_eq_none {rest : List Char} (follows : MayFollow rest) :
    fraction? rest = none := by
  cases rest with
  | nil => rfl
  | cons next rest => rcases follows next rfl with rfl | rfl | rfl <;> rfl

theorem exponent?_eq_none {rest : List Char} (follows : MayFollow rest) :
    exponent? rest = none := by
  cases rest with
  | nil => rfl
  | cons next rest => rcases follows next rfl with rfl | rfl | rfl <;> simp [exponent?]

private theorem number_written {value : Int} {rest : List Char}
    (short : (digitsOf value.natAbs).length ≤ integerDigits) (follows : MayFollow rest) :
    number (Writer.int value ++ rest) = .ok (.int value, rest) := by
  have whole := wholePart?_digitsOf value.natAbs follows
  obtain ⟨first, others, written, isDigit⟩ := digitsOf_start value.natAbs
  by_cases negative : value < 0
  · have restored : -((value.natAbs : Nat) : Int) = value := by omega
    rw [Writer.int, if_pos negative, List.cons_append]
    unfold number
    simp only [whole, fraction?_eq_none follows, exponent?_eq_none follows, Option.getD_none]
    rw [if_pos List.isEmpty_nil, if_neg (Nat.not_lt.mpr short), if_pos trivial,
      numberOf_digitsOf, restored]
  · have restored : ((value.natAbs : Nat) : Int) = value := by omega
    rw [Writer.int, if_neg negative]
    rw [written, List.cons_append] at whole ⊢
    unfold number
    split
    rename_i equality
    split at equality
    · rename_i minus
      cases minus
      cases isDigit
    · cases equality
      simp only [whole, fraction?_eq_none follows, exponent?_eq_none follows, Option.getD_none]
      rw [← written, if_pos List.isEmpty_nil, if_neg (Nat.not_lt.mpr short), if_neg (by decide),
        numberOf_digitsOf, restored]

theorem scalar_eq_number {first : Char} {rest : List Char} (isDigit : first.isDigit = true) :
    scalar (first :: rest) = number (first :: rest) ∧
      scalar ('-' :: first :: rest) = number ('-' :: first :: rest) := by
  have letters : 'n' ≠ first ∧ 't' ≠ first ∧ 'f' ≠ first ∧ 'N' ≠ first ∧ 'I' ≠ first ∧
      '-' ≠ first := by
    refine ⟨?_, ?_, ?_, ?_, ?_, ?_⟩ <;> rintro rfl <;> cases isDigit
  constructor <;> simp [scalar, wordValues, afterWord?, letters]

theorem scalar_written {value : Int} {rest : List Char}
    (short : (digitsOf value.natAbs).length ≤ integerDigits) (follows : MayFollow rest) :
    scalar (Writer.int value ++ rest) = .ok (.int value, rest) := by
  obtain ⟨first, others, written, isDigit⟩ := digitsOf_start value.natAbs
  have asNumber : scalar (Writer.int value ++ rest) = number (Writer.int value ++ rest) := by
    rw [Writer.int, written]
    split
    · exact (scalar_eq_number isDigit).2
    · exact (scalar_eq_number isDigit).1
  rw [asNumber, number_written short follows]

end AccessGate.Json.Reader
