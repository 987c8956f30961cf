import AccessGate.Proofs.Bytes.Base64
import AccessGate.Proofs.Bytes.Words

/-!
# Sextets as numbers

Sextets are the digits of a number in base 64, as bytes are the digits of one in base 256.  Reading
sextets as bytes cuts the number short behind its last whole byte, and changes nothing else.  So it
can be told without the reader which bytes a text spells.
-/

namespace AccessGate.Base64

/-- The number that sextets write in base 64, most significant first. -/
def number (sextets : List Nat) : Nat :=
  Nat.ofDigits 64 sextets.reverse

/-- Characters of an alphabet spell the whole bytes at the front of the number that their sextets
write.  Bits behind the last whole byte do not count. -/
structure Alphabet.Spells (alphabet : Alphabet) (body : List Char) (bytes : Bytes) : Prop where
  length : bytes.length = 6 * body.length / 8
  cut : ∃ sextets, body.map alphabet.sextet? = sextets.map some ∧
    Bytes.toNat bytes = number sextets / 2 ^ (6 * body.length % 8)

/-! ## Cutting a number short -/

theorem number_nil : number [] = 0 :=
  rfl

theorem number_cons (sextet : Nat) (sextets : List Nat) :
    number (sextet :: sextets) = sextet * 64 ^ sextets.length + number sextets := by
  rw [number, List.reverse_cons, Nat.ofDigits_append, List.length_reverse, Nat.ofDigits_singleton,
    number]
  ring

theorem length_ofSextets (sextets : List Nat) :
    (ofSextets sextets).length = 6 * sextets.length / 8 := by
  fun_induction ofSextets sextets with
  | case1 | case2 | case3 | case4 => simp
  | case5 a b c d rest induction =>
      simp only [List.length_cons, induction]
      omega

/-- Four sextets in front of a number that is cut short add three bytes in front of its bytes. -/
theorem cut_behind_four (front rest places : Nat) :
    (front * 64 ^ places + rest) / 2 ^ (6 * places % 8) =
      front * 256 ^ (6 * places / 8) + rest / 2 ^ (6 * places % 8) := by
  have bits : 64 ^ places = 256 ^ (6 * places / 8) * 2 ^ (6 * places % 8) := by
    rw [Bytes.pow_256, ← Nat.pow_add, Nat.div_add_mod, Nat.pow_mul]
  rw [bits, ← Nat.mul_assoc, Nat.add_comm, Nat.add_mul_div_right _ _ (by positivity), Nat.add_comm]

private theorem toNat_ofSextets {sextets : List Nat} (small : ∀ sextet ∈ sextets, sextet < 64) :
    Bytes.toNat (ofSextets sextets) = number sextets / 2 ^ (6 * sextets.length % 8) := by
  have byte {value : Nat} (fits : value < 256) : (UInt8.ofNat value).toNat = value :=
    UInt8.toNat_ofNat_of_lt' fits
  have nothing : Bytes.toNat [] = 0 := rfl
  fun_induction ofSextets sextets with
  | case1 => rfl
  | case2 a =>
      rw [List.forall_mem_singleton] at small
      simp only [number_cons, number_nil, nothing, List.length_cons, List.length_nil, Nat.zero_add,
        Nat.reduceMul, Nat.reduceMod, Nat.reducePow]
      omega
  | case3 a b =>
      simp only [List.forall_mem_cons] at small
      have first : a * 4 + b / 16 < 256 := by omega
      simp only [number_cons, number_nil, Bytes.toNat_cons, byte first, nothing, List.length_cons,
        List.length_nil, Nat.zero_add, Nat.reduceAdd, Nat.reduceMul, Nat.reduceMod, Nat.reducePow]
      omega
  | case4 a b c =>
      simp only [List.forall_mem_cons] at small
      have first : a * 4 + b / 16 < 256 := by omega
      have second : b % 16 * 16 + c / 4 < 256 := by omega
      simp only [number_cons, number_nil, Bytes.toNat_cons, byte first, byte second, nothing,
        List.length_cons, List.length_nil, Nat.zero_add, Nat.reduceAdd, Nat.reduceMul,
        Nat.reduceMod, Nat.reducePow]
      omega
  | case5 a b c d rest induction =>
      simp only [List.forall_mem_cons] at small
      obtain ⟨smallA, smallB, smallC, smallD, smallRest⟩ := small
      have first : a * 4 + b / 16 < 256 := by omega
      have second : b % 16 * 16 + c / 4 < 256 := by omega
      have third : c % 4 * 64 + d < 256 := by omega
      have front : number (a :: b :: c :: d :: rest) =
          (((a * 64 + b) * 64 + c) * 64 + d) * 64 ^ rest.length + number rest := by
        simp only [number_cons, List.length_cons]
        ring
      have places : 6 * (a :: b :: c :: d :: rest).length % 8 = 6 * rest.length % 8 := by
        simp only [List.length_cons]
        omega
      have bytes : ((a * 64 + b) * 64 + c) * 64 + d =
          ((a * 4 + b / 16) * 256 + (b % 16 * 16 + c / 4)) * 256 + (c % 4 * 64 + d) := by
        omega
      rw [front, places, cut_behind_four, ← induction smallRest, bytes, ← length_ofSextets]
      simp only [Bytes.toNat_cons, byte first, byte second, byte third, List.length_cons]
      ring

/-! ## Spelling -/

variable {alphabet : Alphabet} {body : List Char} {bytes : Bytes}

theorem Alphabet.sextet?_lt {found : Char} {sextet : Nat}
    (known : alphabet.sextet? found = some sextet) : sextet < 64 := by
  have upTo {last : Char} (below : found ≤ last) : found.toNat ≤ last.toNat :=
    UInt32.le_iff_toNat_le.mp below
  unfold Alphabet.sextet? at known
  split at known
  · next capital =>
    have bound : found.toNat ≤ 90 := upTo capital.2
    cases known
    omega
  split at known
  · next small =>
    have bound : found.toNat ≤ 122 := upTo small.2
    cases known
    omega
  split at known
  · next digit =>
    have bound : found.toNat ≤ 57 := upTo digit.2
    cases known
    omega
  split at known
  · cases known
    decide
  split at known
  · cases known
    decide
  · cases known

private theorem map_sextet?_eq (known : ∀ found ∈ body, alphabet.contains found = true) :
    body.map alphabet.sextet? = (body.filterMap alphabet.sextet?).map some := by
  induction body with
  | nil => rfl
  | cons first body induction =>
      rw [List.forall_mem_cons] at known
      obtain ⟨sextet, read⟩ := Option.isSome_iff_exists.mp known.1
      rw [List.filterMap_cons_some read, List.map_cons, List.map_cons, read, induction known.2]

theorem Alphabet.spells_ofSextets (known : ∀ found ∈ body, alphabet.contains found = true) :
    alphabet.Spells body (ofSextets (body.filterMap alphabet.sextet?)) := by
  have listed := map_sextet?_eq known
  have length : (body.filterMap alphabet.sextet?).length = body.length := by
    simpa using (congrArg List.length listed).symm
  have small : ∀ sextet ∈ body.filterMap alphabet.sextet?, sextet < 64 := by
    intro sextet member
    obtain ⟨found, _, read⟩ := List.mem_filterMap.mp member
    exact sextet?_lt read
  constructor
  · rw [length_ofSextets, length]
  · exact ⟨_, listed, by rw [toNat_ofSextets small, length]⟩

theorem Alphabet.Spells.known (spells : alphabet.Spells body bytes) :
    ∀ found ∈ body, alphabet.contains found = true := by
  obtain ⟨sextets, listed, _⟩ := spells.cut
  intro found member
  have read : alphabet.sextet? found ∈ sextets.map some := listed ▸ List.mem_map_of_mem member
  obtain ⟨sextet, _, equality⟩ := List.mem_map.mp read
  rw [contains, ← equality, Option.isSome_some]

theorem Alphabet.Spells.unique {other : Bytes} (spells : alphabet.Spells body bytes)
    (alsoSpells : alphabet.Spells body other) : bytes = other := by
  obtain ⟨sextets, listed, cut⟩ := spells.cut
  obtain ⟨sextets', listed', cut'⟩ := alsoSpells.cut
  have same : sextets = sextets' :=
    List.map_injective_iff.mpr (Option.some_injective Nat) (listed.symm.trans listed')
  rw [← Bytes.bigEndian_toNat bytes, ← Bytes.bigEndian_toNat other, spells.length,
    alsoSpells.length, cut, cut', same]

theorem Alphabet.spells_characters (faithful : alphabet.IsFaithful) (bytes : Bytes) :
    alphabet.Spells (characters alphabet bytes) bytes := by
  have known : ∀ found ∈ characters alphabet bytes, alphabet.contains found = true :=
    fun _ member => contains_of_mem_characters faithful member
  have spells := spells_ofSextets known
  rwa [filterMap_sextet?_characters faithful, ofSextets_sextets] at spells

end AccessGate.Base64
