import AccessGate.Proofs.Bytes.Ascii
import AccessGate.Proofs.Json.RoundTrip

/-!
# Written values are ASCII

Everything outside ASCII is escaped, and so a written value survives being turned into bytes.
-/

namespace AccessGate.Json

open Bytes (IsAscii)

variable {layout : Layout} {depth : Nat}

abbrev AllAscii (characters : List Char) : Prop :=
  ∀ character ∈ characters, IsAscii character

instance (characters : List Char) : Decidable (AllAscii characters) :=
  List.decidableBAll IsAscii characters

theorem allAscii_append {first second : List Char} (one : AllAscii first)
    (other : AllAscii second) : AllAscii (first ++ second) := by
  intro character member
  rcases List.mem_append.mp member with found | found
  · exact one character found
  · exact other character found

theorem allAscii_cons {first : Char} {rest : List Char} (one : IsAscii first)
    (others : AllAscii rest) : AllAscii (first :: rest) :=
  List.forall_mem_cons.mpr ⟨one, others⟩

theorem isAscii_of_isGap {character : Char} (gap : Reader.isGap character = true) :
    IsAscii character := by
  simp only [Reader.isGap, Bool.or_eq_true, decide_eq_true_eq] at gap
  rcases gap with ((rfl | rfl) | rfl) | rfl <;> exact (by decide)

private theorem isAscii_of_isDigit {digit : Char} (isDigit : digit.isDigit = true) :
    IsAscii digit := by
  simp only [Char.isDigit, Bool.and_eq_true, decide_eq_true_eq, ge_iff_le,
    UInt32.le_iff_toNat_le] at isDigit
  exact ⟨Nat.lt_of_lt_of_le (by decide) isDigit.1, Nat.lt_of_le_of_lt isDigit.2 (by decide)⟩

private theorem isAscii_hexDigit : ∀ value < 16, IsAscii (Text.hexDigit value) := by
  decide

theorem allAscii_unitEscape (unit : Nat) : AllAscii (Writer.unitEscape unit) := by
  have digit (value : Nat) : IsAscii (Text.hexDigit (value % 16)) :=
    isAscii_hexDigit _ (Nat.mod_lt _ (by decide))
  exact allAscii_cons (by decide) (allAscii_cons (by decide)
    (allAscii_cons (digit _) (allAscii_cons (digit _) (allAscii_cons (digit _)
      (allAscii_cons (digit _) (by decide))))))

private theorem allAscii_character (character : Char) : AllAscii (Writer.character character) := by
  rw [Writer.character]
  iterate 7
    split
    case isTrue => decide
  split
  case isTrue printable =>
    simp only [Bool.and_eq_true, decide_eq_true_eq] at printable
    exact allAscii_cons ⟨by omega, by omega⟩ (by decide)
  split
  case isTrue => exact allAscii_unitEscape _
  case isFalse => exact allAscii_append (allAscii_unitEscape _) (allAscii_unitEscape _)

theorem allAscii_text (text : String) : AllAscii (Writer.text text) := by
  refine allAscii_cons (by decide) (allAscii_append ?_ (by decide))
  intro character member
  obtain ⟨written, _, found⟩ := List.mem_flatMap.mp member
  exact allAscii_character written character found

private theorem allAscii_int (value : Int) : AllAscii (Writer.int value) := by
  have digits : AllAscii (Double.digitsOf value.natAbs) :=
    fun digit member => isAscii_of_isDigit (Reader.digitsOf_all _ digit member)
  rw [Writer.int]
  split
  · exact allAscii_cons (by decide) digits
  · exact digits

theorem Layout.AddsGaps.allAscii (gaps : layout.AddsGaps) :
    AllAscii layout.betweenItems ∧ AllAscii layout.afterName := by
  obtain ⟨⟨between, comma, spaces⟩, ⟨after, colon, blanks⟩⟩ := gaps
  rw [comma, colon]
  exact ⟨allAscii_cons (by decide) fun _ member => isAscii_of_isGap (spaces _ member),
    allAscii_cons (by decide) fun _ member => isAscii_of_isGap (blanks _ member)⟩

private theorem allAscii_items (gaps : layout.AddsGaps) {items : List Json}
    (each : ∀ item ∈ items, AllAscii (Writer.value layout item)) :
    AllAscii (Writer.items layout items) := by
  induction items with
  | nil => exact allAscii_cons (by decide) (by decide)
  | cons first others induction =>
      cases others with
      | nil => exact allAscii_append (each first (by simp)) (by decide)
      | cons next others =>
          rw [Writer.items]
          refine allAscii_append (allAscii_append (each first (by simp)) gaps.allAscii.1) ?_
          exact induction fun item member => each item (List.mem_cons_of_mem _ member)

private theorem allAscii_members (gaps : layout.AddsGaps) {fields : List (String × Json)}
    (each : ∀ field ∈ fields, AllAscii (Writer.value layout field.2)) :
    AllAscii (Writer.members layout fields) := by
  induction fields with
  | nil => exact allAscii_cons (by decide) (by decide)
  | cons first others induction =>
      obtain ⟨name, json⟩ := first
      have field : AllAscii (Writer.text name ++ layout.afterName ++ Writer.value layout json) :=
        allAscii_append (allAscii_append (allAscii_text name) gaps.allAscii.2)
          (each (name, json) (by simp))
      cases others with
      | nil => exact allAscii_append field (by decide)
      | cons next others =>
          rw [Writer.members]
          refine allAscii_append (allAscii_append field gaps.allAscii.1) ?_
          exact induction fun field member => each field (List.mem_cons_of_mem _ member)

theorem allAscii_value (gaps : layout.AddsGaps) {json : Json} (readsBack : ReadsBack depth json) :
    AllAscii (Writer.value layout json) := by
  induction readsBack with
  | null => exact (by decide : AllAscii "null".toList)
  | bool flag =>
      cases flag with
      | true => exact (by decide : AllAscii "true".toList)
      | false => exact (by decide : AllAscii "false".toList)
  | int short => exact allAscii_int _
  | text written => exact allAscii_text written
  | list each induction => exact allAscii_cons (by decide) (allAscii_items gaps induction)
  | object distinct each induction =>
      exact allAscii_cons (by decide) (allAscii_members gaps induction)

/-- A value reads back as itself from the bytes of its text. -/
theorem text?_ofText_write (gaps : layout.AddsGaps) {json : Json}
    (readsBack : ReadsBack depth json) :
    Bytes.text? (Bytes.ofText (write layout json)) = some (write layout json) := by
  apply Bytes.text?_ofText
  rw [write, String.toList_ofList]
  exact allAscii_value gaps readsBack

end AccessGate.Json
