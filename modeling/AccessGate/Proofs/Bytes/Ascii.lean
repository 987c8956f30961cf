import AccessGate.Bytes.Decoding

/-!
# Bytes of ASCII texts

An ASCII text takes one byte for each character.  Without zeros its bytes are told apart from those
of every other encoding, and so they read back as the text.
-/

namespace AccessGate.Bytes

/-- An ASCII character other than the one with the number zero. -/
def IsAscii (character : Char) : Prop :=
  0 < character.toNat ∧ character.toNat < 0x80

instance (character : Char) : Decidable (IsAscii character) :=
  inferInstanceAs (Decidable (_ ∧ _))

def asciiByte (character : Char) : UInt8 :=
  UInt8.ofNat character.toNat

theorem toNat_asciiByte {character : Char} (ascii : IsAscii character) :
    (asciiByte character).toNat = character.toNat := by
  have small : character.toNat < 0x80 := ascii.2
  simp [asciiByte]
  omega

private theorem toList_loop (bytes : ByteArray) (start : Nat) (found : List UInt8) :
    ByteArray.toList.loop bytes start found = found.reverse ++ bytes.data.toList.drop start := by
  fun_induction ByteArray.toList.loop bytes start found with
  | case1 start found inside induction =>
      have here : start < bytes.data.toList.length := by simpa using inside
      rw [induction, List.drop_eq_getElem_cons here]
      simp [ByteArray.get!, inside]
  | case2 start found outside =>
      rw [List.drop_eq_nil_of_le (by simpa using Nat.le_of_not_lt outside)]
      simp

private theorem toList_toByteArray (bytes : List UInt8) : bytes.toByteArray.toList = bytes := by
  rw [ByteArray.toList, toList_loop, List.toList_data_toByteArray]
  simp

private theorem encoded_of_ascii {characters : List Char}
    (ascii : ∀ character ∈ characters, IsAscii character) :
    characters.flatMap String.utf8EncodeChar = characters.map asciiByte := by
  induction characters with
  | nil => rfl
  | cons character characters induction =>
      have single : character.utf8Size = 1 := by
        have small : character.toNat < 0x80 := (ascii character (by simp)).2
        rw [Char.utf8Size_eq_one_iff, UInt32.le_iff_toNat_le]
        exact Nat.le_of_lt_succ small
      rw [List.flatMap_cons, String.utf8EncodeChar_eq_singleton single,
        induction fun other member => ascii other (List.mem_cons_of_mem _ member)]
      rfl

private theorem ofText_of_ascii {characters : List Char}
    (ascii : ∀ character ∈ characters, IsAscii character) :
    ofText (String.ofList characters) = characters.map asciiByte := by
  have encoded : (String.ofList characters).toUTF8 =
      (characters.flatMap String.utf8EncodeChar).toByteArray := rfl
  rw [ofText, encoded, toList_toByteArray, encoded_of_ascii ascii]

/-! ## Reading -/

private theorem ofUtf8?_of_ascii {characters : List Char}
    (ascii : ∀ character ∈ characters, IsAscii character) {bound : Nat}
    (long : characters.length ≤ bound) :
    ofUtf8? bound (characters.map asciiByte) = some characters := by
  induction characters generalizing bound with
  | nil => cases bound <;> rfl
  | cons character characters induction =>
      obtain ⟨positive, small⟩ := ascii character (by simp)
      rw [List.length_cons] at long
      obtain ⟨bound, rfl⟩ : ∃ smaller, bound = smaller + 1 := ⟨bound - 1, by omega⟩
      have rest := induction (fun other member => ascii other (List.mem_cons_of_mem _ member))
        (Nat.le_of_succ_le_succ long)
      have whole : character? character.toNat = some character := by
        have unpaired : isHalf character.toNat = false := by
          simp [isHalf]
          omega
        have valid : character.toNat.isValidChar := character.valid
        rw [character?, unpaired, if_neg (by decide), if_pos valid, Char.ofNat_toNat]
      have led : lead? (asciiByte character).toNat = some (character.toNat, 0, 0) := by
        rw [toNat_asciiByte ⟨positive, small⟩, lead?, if_pos small]
      rw [List.map_cons, ofUtf8?, led]
      simp [code?, whole, rest]

private theorem unmarked_of_nonzero {bytes : Bytes} (nonzero : ∀ byte ∈ bytes, byte ≠ 0) :
    unmarked bytes = .utf8 := by
  match bytes with
  | [] | [_] | [_, _, _] => rfl
  | [a, b] => simp [unmarked, nonzero a, nonzero b]
  | a :: b :: c :: d :: rest => simp [unmarked, nonzero a, nonzero b]

/-- Byte order marks start with a byte that is no ASCII character. -/
theorem head_of_mem_marks : ∀ mark ∈ marks,
    ∃ first rest, mark.1 = first :: rest ∧ ¬ (0 < first.toNat ∧ first.toNat < 0x80) := by
  simp [marks]

private theorem encodingOf_of_small {bytes : Bytes}
    (small : ∀ byte ∈ bytes, 0 < byte.toNat ∧ byte.toNat < 0x80) :
    encodingOf bytes = (.utf8, 0) := by
  have nonzero : ∀ byte ∈ bytes, byte ≠ 0 := by
    rintro _ member rfl
    exact absurd (small 0 member).1 (by decide)
  have found : (marks.find? fun mark => mark.1.isPrefixOf bytes) = none := by
    rw [List.find?_eq_none]
    intro mark member starts
    obtain ⟨first, rest, equality, foreign⟩ := head_of_mem_marks mark member
    obtain ⟨tail, rfl⟩ := List.isPrefixOf_iff_prefix.mp starts
    exact foreign (small first (by simp [equality]))
  rw [encodingOf, found, unmarked_of_nonzero nonzero]

private theorem encodingOf_of_ascii {characters : List Char}
    (ascii : ∀ character ∈ characters, IsAscii character) :
    encodingOf (characters.map asciiByte) = (.utf8, 0) := by
  apply encodingOf_of_small
  intro byte member
  obtain ⟨character, found, rfl⟩ := List.mem_map.mp member
  rw [toNat_asciiByte (ascii character found)]
  exact ascii character found

theorem text?_ofText {text : String} (ascii : ∀ character ∈ text.toList, IsAscii character) :
    text? (ofText text) = some text := by
  have bytes := ofText_of_ascii ascii
  rw [String.ofList_toList] at bytes
  rw [text?, bytes, encodingOf_of_ascii ascii]
  simp only [List.drop_zero]
  rw [ofUtf8?_of_ascii ascii (by simp), Option.map_some, String.ofList_toList]

end AccessGate.Bytes
