import AccessGate.Key.Der
import AccessGate.Proofs.Bytes.Words

/-!
# Encoded elements read back

Elements, and sequences of them, read back as they were written, and so do integers.
-/

namespace AccessGate.Der

/-! ## Lengths -/

/-- A length in the shortest form. -/
def writtenLength (length : Nat) : Bytes :=
  if length < 0x80 then [UInt8.ofNat length]
  else UInt8.ofNat (0x80 + Bytes.width length) :: Bytes.ofNat length

/-- A length that fits into the bytes that may be announced for it. -/
def IsWritable (length : Nat) : Prop :=
  Bytes.width length < 0x80

instance (length : Nat) : Decidable (IsWritable length) :=
  inferInstanceAs (Decidable (_ < _))

theorem IsWritable.of_le {shorter longer : Nat} (writable : IsWritable longer)
    (le : shorter ≤ longer) : IsWritable shorter :=
  Nat.lt_of_le_of_lt (Bytes.width_mono le) writable

private theorem length?_writtenLength {length : Nat} (writable : IsWritable length) (rest : Bytes) :
    length? (writtenLength length ++ rest) = some (length, rest) := by
  rw [writtenLength]
  split
  case isTrue short =>
    have same : (UInt8.ofNat length).toNat = length := by
      simp
      omega
    have direct : UInt8.ofNat length < 0x80 := by
      rw [UInt8.lt_iff_toNat_lt, same]
      exact short
    rw [List.singleton_append, length?, if_pos direct, same]
  case isFalse long =>
    have same : (UInt8.ofNat (0x80 + Bytes.width length)).toNat = 0x80 + Bytes.width length := by
      rw [IsWritable] at writable
      simp
      omega
    have announced : ¬ UInt8.ofNat (0x80 + Bytes.width length) < 0x80 := by
      rw [UInt8.lt_iff_toNat_lt, same]
      have : (0x80 : UInt8).toNat = 0x80 := rfl
      omega
    have digits : (Bytes.ofNat length ++ rest).take (Bytes.width length) = Bytes.ofNat length := by
      rw [← Bytes.length_ofNat length, List.take_left]
    have others : (Bytes.ofNat length ++ rest).drop (Bytes.width length) = rest := by
      rw [← Bytes.length_ofNat length, List.drop_left]
    rw [List.cons_append, length?, if_neg announced, same, Nat.add_sub_cancel_left]
    simp only [digits, others, Bytes.length_ofNat, Bytes.toNat_ofNat, decide_true, Bool.true_and]
    rw [if_pos]
    simp only [ne_eq, Bool.and_eq_true, decide_eq_true_eq]
    exact ⟨Bytes.head?_ofNat (by omega), by omega⟩

/-! ## Elements -/

def Element.written (element : Element) : Bytes :=
  element.tag :: (writtenLength element.content.length ++ element.content)

theorem Element.written_ne_nil (element : Element) : element.written ≠ [] :=
  List.cons_ne_nil _ _

theorem element?_written {element : Element} (writable : IsWritable element.content.length)
    (rest : Bytes) : element? (element.written ++ rest) = some (element, rest) := by
  rw [Element.written, List.cons_append, List.append_assoc, element?,
    length?_writtenLength writable]
  simp

private theorem elements?_written {elements : List Element}
    (writable : ∀ element ∈ elements, IsWritable element.content.length) :
    ∀ bound, elements.length ≤ bound →
      elements? bound (elements.flatMap Element.written) = some elements := by
  induction elements with
  | nil =>
      intro bound _
      cases bound <;> rfl
  | cons element elements induction =>
      intro bound enough
      rw [List.length_cons] at enough
      obtain ⟨bound, rfl⟩ : ∃ smaller, bound = smaller + 1 := ⟨bound - 1, by omega⟩
      have opened : elements? (bound + 1) (element.written ++ elements.flatMap Element.written) =
          (element? (element.written ++ elements.flatMap Element.written)).bind
            fun read => (elements? bound read.2).bind fun others => some (read.1 :: others) :=
        rfl
      have others := induction (fun other member => writable other (List.mem_cons_of_mem _ member))
        bound (by omega)
      rw [List.flatMap_cons, opened, element?_written (writable element (by simp)),
        Option.bind_some]
      simp only [others]
      rfl

def Element.sequence (elements : List Element) : Element :=
  { tag := sequenceTag, content := elements.flatMap Element.written }

private theorem length_le_flatMap_written (elements : List Element) :
    elements.length ≤ (elements.flatMap Element.written).length := by
  induction elements with
  | nil => exact Nat.le_refl 0
  | cons element elements induction =>
      rw [List.flatMap_cons, List.length_append, List.length_cons, Element.written,
        List.length_cons]
      omega

theorem length_content_le {elements : List Element} :
    ∀ element ∈ elements, element.content.length ≤ (Element.sequence elements).content.length := by
  intro element member
  obtain ⟨before, after, rfl⟩ := List.append_of_mem member
  simp only [Element.sequence, List.flatMap_append, List.flatMap_cons, List.length_append,
    Element.written, List.length_cons]
  omega

theorem sequence?_written {elements : List Element}
    (whole : IsWritable (Element.sequence elements).content.length) :
    sequence? (Element.sequence elements).written = some elements := by
  have writable : ∀ element ∈ elements, IsWritable element.content.length :=
    fun element member => whole.of_le (length_content_le element member)
  have alone : element? (Element.sequence elements).written =
      some (Element.sequence elements, []) := by
    have read := element?_written whole []
    rwa [List.append_nil] at read
  have parts : (Element.sequence elements).parts? = some elements := by
    rw [Element.parts?, Element.sequence, if_pos rfl]
    exact elements?_written writable _ (length_le_flatMap_written elements)
  rw [sequence?, single?, alone]
  exact parts

/-! ## Integers -/

/-- An integer in the fewest bytes that leave its highest bit clear. -/
def integer (value : Nat) : Element :=
  { tag := integerTag, content := Bytes.bigEndian ((value.log2 + 1) / 8 + 1) value }

theorem lt_integer (value : Nat) : value < 0x80 * 256 ^ ((value.log2 + 1) / 8) := by
  have power : 0x80 * 256 ^ ((value.log2 + 1) / 8) = 2 ^ (7 + 8 * ((value.log2 + 1) / 8)) := by
    rw [Bytes.pow_256, Nat.pow_add]
  rw [power]
  refine Nat.lt_of_lt_of_le Nat.lt_log2_self (Nat.pow_le_pow_right (by decide) ?_)
  omega

/-- A second byte is only taken for a number that needs the highest bit of the first one. -/
theorem integer_le {value places : Nat} (long : (value.log2 + 1) / 8 = places + 1) :
    0x80 * 256 ^ places ≤ value := by
  have positive : value ≠ 0 := by
    rintro rfl
    cases long
  have power : 0x80 * 256 ^ places = 2 ^ (7 + 8 * places) := by
    rw [Bytes.pow_256, Nat.pow_add]
  rw [power]
  refine Nat.le_trans (Nat.pow_le_pow_right (by decide) ?_) (Nat.log2_self_le positive)
  omega

theorem length_integer (value : Nat) :
    (integer value).content.length = (value.log2 + 1) / 8 + 1 :=
  Bytes.length_bigEndian _ _

theorem toNat_integer (value : Nat) : Bytes.toNat (integer value).content = value := by
  apply Bytes.toNat_bigEndian
  have upper := lt_integer value
  rw [Nat.pow_succ]
  omega

/-- The bytes of an integer are as few as can be. -/
theorem integer_shortest {value : Nat} {first : UInt8} {rest : Bytes}
    (written : (integer value).content = first :: rest) :
    first < 0x80 ∧ ∀ second more, rest = second :: more → first ≠ 0 ∨ 0x80 ≤ second := by
  have top : (0x80 : UInt8).toNat = 0x80 := rfl
  have length : rest.length = (value.log2 + 1) / 8 := by
    have counted := length_integer value
    rw [written] at counted
    exact Nat.succ.inj counted
  have split : first.toNat * 256 ^ rest.length + Bytes.toNat rest = value := by
    rw [← Bytes.toNat_cons, ← written, toNat_integer]
  constructor
  · have upper := lt_integer value
    rw [← length] at upper
    rw [UInt8.lt_iff_toNat_lt, top]
    exact Nat.lt_of_mul_lt_mul_right (Nat.lt_of_le_of_lt (Nat.le.intro split) upper)
  · rintro second more rfl
    by_cases zero : first = 0
    · right
      have lower := integer_le length.symm
      have small := Bytes.toNat_lt more
      rw [zero, UInt8.toNat_zero, Nat.zero_mul, Nat.zero_add, Bytes.toNat_cons] at split
      have beyond : 0x80 * 256 ^ more.length < (second.toNat + 1) * 256 ^ more.length := by
        rw [Nat.add_mul, Nat.one_mul]
        omega
      rw [UInt8.le_iff_toNat_le, top]
      exact Nat.le_of_lt_succ (Nat.lt_of_mul_lt_mul_right beyond)
    · exact .inl zero

theorem natural?_integer (value : Nat) : (integer value).natural? = some value := by
  have tag : (integer value).tag = integerTag := rfl
  rw [Element.natural?, tag, toNat_integer]
  cases written : (integer value).content with
  | nil =>
      have length := length_integer value
      rw [written] at length
      cases length
  | cons first rest =>
      obtain ⟨clear, needed⟩ := integer_shortest written
      cases rest with
      | nil => simp [clear]
      | cons second more => simp [clear, needed second more rfl]

theorem mapM_natural?_integer (values : List Nat) :
    (values.map integer).mapM Element.natural? = some values := by
  induction values with
  | nil => simp
  | cons value values induction =>
      rw [List.map_cons, List.mapM_cons, natural?_integer, induction]
      rfl

end AccessGate.Der
