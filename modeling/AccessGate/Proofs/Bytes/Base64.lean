import AccessGate.Bytes.Base64
import Mathlib.Data.List.Basic

/-!
# Reading base64

Sextets fit together to the bytes that they were cut from, so that the canonical reader reads what
the writer produces.  The lenient reader takes the characters of the alphabet at the front of a
text, and what follows them settles whether it finishes.
-/

namespace AccessGate.Base64

/-- An alphabet has a character of its own for every sextet, and none of them is the padding. -/
structure Alphabet.IsFaithful (alphabet : Alphabet) : Prop where
  sextet?_character : ∀ sextet < 64, alphabet.sextet? (alphabet.character sextet) = some sextet
  sextet?_padding : alphabet.sextet? '=' = none

theorem isFaithful_standard : standard.IsFaithful :=
  ⟨by decide, by decide⟩

theorem isFaithful_addressSafe : addressSafe.IsFaithful :=
  ⟨by decide, by decide⟩

variable {alphabet : Alphabet}

theorem Alphabet.IsFaithful.contains_character (faithful : alphabet.IsFaithful) {sextet : Nat}
    (small : sextet < 64) : alphabet.contains (alphabet.character sextet) = true := by
  rw [contains, faithful.sextet?_character sextet small, Option.isSome_some]

/-! ## Sextets -/

theorem sextets_lt (bytes : Bytes) : ∀ sextet ∈ sextets bytes, sextet < 64 := by
  fun_induction sextets bytes with
  | case1 => simp
  | case2 a =>
      have small := a.toNat_lt
      simp only [List.mem_cons, List.not_mem_nil, or_false]
      rintro sextet (rfl | rfl) <;> omega
  | case3 a b =>
      have small := a.toNat_lt
      have small' := b.toNat_lt
      simp only [List.mem_cons, List.not_mem_nil, or_false]
      rintro sextet (rfl | rfl | rfl) <;> omega
  | case4 a b c rest induction =>
      have small := a.toNat_lt
      have small' := b.toNat_lt
      have small'' := c.toNat_lt
      simp only [List.mem_cons]
      rintro sextet (rfl | rfl | rfl | rfl | later)
      · omega
      · omega
      · omega
      · omega
      · exact induction sextet later

theorem ofNat_eq_of_toNat_eq (byte : UInt8) {value : Nat} (same : value = byte.toNat) :
    UInt8.ofNat value = byte := by
  rw [same, UInt8.ofNat_toNat]

/-- Sextets fit together to the bytes that they were cut from. -/
theorem ofSextets_sextets (bytes : Bytes) : ofSextets (sextets bytes) = bytes := by
  fun_induction sextets bytes with
  | case1 => rfl
  | case2 a =>
      rw [ofSextets, ofNat_eq_of_toNat_eq a]
      omega
  | case3 a b =>
      have small := b.toNat_lt
      rw [ofSextets, ofNat_eq_of_toNat_eq a, ofNat_eq_of_toNat_eq b] <;> omega
  | case4 a b c rest induction =>
      have small := b.toNat_lt
      have small' := c.toNat_lt
      rw [ofSextets, induction, ofNat_eq_of_toNat_eq a,
        ofNat_eq_of_toNat_eq b, ofNat_eq_of_toNat_eq c] <;> omega

theorem mapM_sextet?_characters (faithful : alphabet.IsFaithful) (bytes : Bytes) :
    (characters alphabet bytes).mapM alphabet.sextet? = some (sextets bytes) := by
  have general : ∀ values : List Nat, (∀ sextet ∈ values, sextet < 64) →
      (values.map alphabet.character).mapM alphabet.sextet? = some values := by
    intro values
    induction values with
    | nil => simp
    | cons value values induction =>
        intro small
        rw [List.forall_mem_cons] at small
        rw [List.map_cons, List.mapM_cons, faithful.sextet?_character value small.1,
          induction small.2]
        rfl
  exact general (sextets bytes) (sextets_lt bytes)

theorem contains_of_mem_characters (faithful : alphabet.IsFaithful) {bytes : Bytes} {found : Char}
    (member : found ∈ characters alphabet bytes) : alphabet.contains found = true := by
  obtain ⟨sextet, listed, rfl⟩ := List.mem_map.mp member
  exact faithful.contains_character (sextets_lt bytes sextet listed)

theorem filterMap_sextet?_characters (faithful : alphabet.IsFaithful) (bytes : Bytes) :
    (characters alphabet bytes).filterMap alphabet.sextet? = sextets bytes := by
  rw [characters, List.filterMap_map]
  calc (sextets bytes).filterMap (alphabet.sextet? ∘ alphabet.character)
      = (sextets bytes).filterMap some :=
        List.filterMap_congr fun sextet member =>
          faithful.sextet?_character sextet (sextets_lt bytes sextet member)
    _ = sextets bytes := List.filterMap_some

/-- No byte string takes one character more than a multiple of four. -/
theorem length_characters_mod (bytes : Bytes) : (characters alphabet bytes).length % 4 ≠ 1 := by
  rw [characters, List.length_map]
  fun_induction sextets bytes with
  | case1 => decide
  | case2 a => simp
  | case3 a b => simp
  | case4 a b c rest induction =>
      simp only [List.length_cons]
      omega

theorem characters_ne_nil {bytes : Bytes} (filled : bytes ≠ []) :
    characters alphabet bytes ≠ [] := by
  match bytes with
  | [] => exact absurd rfl filled
  | [_] | [_, _] | _ :: _ :: _ :: _ => simp [characters, sextets]

/-! ## The canonical reader -/

theorem readCanonical?_characters (faithful : alphabet.IsFaithful) (bytes : Bytes) :
    readCanonical? alphabet (characters alphabet bytes) = some bytes := by
  have body : (characters alphabet bytes).takeWhile alphabet.contains =
      characters alphabet bytes := by
    rw [← List.append_nil (characters alphabet bytes), List.takeWhile_append_of_pos
      fun _ member => contains_of_mem_characters faithful member]
    rfl
  simp [readCanonical?, body, mapM_sextet?_characters faithful, ofSextets_sextets]

/-- Whatever holds of the characters of sextets and of the padding holds of all characters of a
padded text. -/
theorem forall_mem_paddedCharacters {holds : Char → Prop}
    (letters : ∀ sextet < 64, holds (alphabet.character sextet)) (padding : holds '=')
    (bytes : Bytes) : ∀ found ∈ paddedCharacters alphabet bytes, holds found := by
  intro found member
  rcases List.mem_append.mp member with letter | fill
  · obtain ⟨sextet, listed, rfl⟩ := List.mem_map.mp letter
    exact letters sextet (sextets_lt bytes sextet listed)
  · rw [List.eq_of_mem_replicate fill]
    exact padding

theorem paddedCharacters_ne_nil {bytes : Bytes} (filled : bytes ≠ []) :
    paddedCharacters alphabet bytes ≠ [] := by
  match bytes with
  | [] => exact absurd rfl filled
  | [_] | [_, _] | _ :: _ :: _ :: _ => simp [paddedCharacters, characters, sextets]

theorem length_paddedCharacters_mod (bytes : Bytes) :
    (paddedCharacters alphabet bytes).length % 4 = 0 := by
  rw [paddedCharacters, List.length_append, paddingFor, List.length_replicate]
  omega

theorem readCanonical?_paddedCharacters (faithful : alphabet.IsFaithful) (bytes : Bytes) :
    readCanonical? alphabet (paddedCharacters alphabet bytes) = some bytes := by
  have foreign (count : Nat) : (paddingFor count).takeWhile alphabet.contains = [] := by
    rw [paddingFor]
    cases (4 - count % 4) % 4 with
    | zero => rfl
    | succ pads => simp [List.replicate_succ, Alphabet.contains, faithful.sextet?_padding]
  have body : (paddedCharacters alphabet bytes).takeWhile alphabet.contains =
      characters alphabet bytes := by
    rw [paddedCharacters, List.takeWhile_append_of_pos
      fun _ member => contains_of_mem_characters faithful member, foreign, List.append_nil]
  have padding : (paddedCharacters alphabet bytes).drop (characters alphabet bytes).length =
      paddingFor (characters alphabet bytes).length := by
    rw [paddedCharacters, List.drop_left]
  simp [readCanonical?, body, padding, mapM_sextet?_characters faithful, ofSextets_sextets]

/-! ## The lenient reader -/

theorem ne_padding_of_contains (faithful : alphabet.IsFaithful) {found : Char}
    (known : alphabet.contains found = true) : found ≠ '=' := by
  rintro rfl
  simp [Alphabet.contains, faithful.sextet?_padding] at known

theorem gather_body (faithful : alphabet.IsFaithful) {body : List Char}
    (known : ∀ found ∈ body, alphabet.contains found = true) (count : Nat) (rest : List Char) :
    gather alphabet count 0 (body ++ rest) =
      (gather alphabet (count + body.length) 0 rest).map
        (body.filterMap alphabet.sextet? ++ ·) := by
  induction body generalizing count with
  | nil => simp
  | cons first body induction =>
      rw [List.forall_mem_cons] at known
      obtain ⟨sextet, read⟩ := Option.isSome_iff_exists.mp known.1
      have different := ne_padding_of_contains faithful known.1
      have sum : count + 1 + body.length = count + (body.length + 1) := by omega
      simp only [List.cons_append, gather, different, if_false, read, induction known.2,
        List.filterMap_cons, List.length_cons, Option.map_map, sum]
      rfl

theorem gather_padding_early {count : Nat} (early : count % 4 < 2) (pads length : Nat)
    (rest : List Char) :
    gather alphabet count pads (List.replicate length '=' ++ rest) =
      gather alphabet count pads rest := by
  induction length with
  | zero => rfl
  | succ length induction =>
      rw [List.replicate_succ, List.cons_append, gather, if_pos rfl, if_pos early, induction]

theorem gather_padding_complete {count pads length : Nat} (late : 2 ≤ count % 4)
    (some : 0 < length) (complete : 4 ≤ count % 4 + pads + length) (rest : List Char) :
    gather alphabet count pads (List.replicate length '=' ++ rest) = .some [] := by
  induction length generalizing pads with
  | zero => omega
  | succ length induction =>
      rw [List.replicate_succ, List.cons_append, gather, if_pos rfl,
        if_neg (Nat.not_lt.mpr late)]
      split
      · exact induction (by omega) (by omega)
      · rfl

theorem gather_padding_incomplete {count pads length : Nat} (late : 2 ≤ count % 4)
    (incomplete : count % 4 + pads + length < 4) (rest : List Char) :
    gather alphabet count pads (List.replicate length '=' ++ rest) =
      gather alphabet count (pads + length) rest := by
  induction length generalizing pads with
  | zero => rfl
  | succ length induction =>
      rw [List.replicate_succ, List.cons_append, gather, if_pos rfl,
        if_neg (Nat.not_lt.mpr late), if_pos (by omega), induction (by omega)]
      congr 1
      omega

theorem gather_foreign {foreign : Char} (different : foreign ≠ '=')
    (unknown : alphabet.sextet? foreign = none) (count pads : Nat) (rest : List Char) :
    gather alphabet count pads (foreign :: rest) = gather alphabet count pads rest := by
  rw [gather, if_neg different, unknown]

/-- Padding up to a multiple of four ends the reading, unless a single character is left over. -/
theorem gather_paddingFor {count : Nat} (whole : count % 4 ≠ 1) :
    gather alphabet count 0 (paddingFor count) = some [] := by
  rw [paddingFor, ← List.append_nil (List.replicate _ '=')]
  by_cases complete : count % 4 = 0
  · simp [complete, gather]
  · exact gather_padding_complete (by omega) (by omega) (by omega) []

theorem readLenient?_paddedCharacters (faithful : alphabet.IsFaithful) (bytes : Bytes) :
    readLenient? alphabet (paddedCharacters alphabet bytes) = some bytes := by
  rw [readLenient?, paddedCharacters,
    gather_body faithful fun _ member => contains_of_mem_characters faithful member, Nat.zero_add,
    gather_paddingFor (length_characters_mod bytes), filterMap_sextet?_characters faithful]
  simp [ofSextets_sextets]

end AccessGate.Base64
