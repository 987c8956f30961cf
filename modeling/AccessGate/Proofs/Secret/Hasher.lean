import AccessGate.Proofs.Outcome
import AccessGate.Proofs.Secret.StoredHash
import AccessGate.Secret.Hasher
import Mathlib

/-!
# Verifying against any stored text

The derivation and the reader of stored hashes have bounds of their own for the costs.  Costs that
the reader accepts are taken by every derivation, so a verification can only fail where the stored
text cannot be read.
-/

namespace AccessGate.Hasher

variable {hasher : Hasher} {secret encoded : String}

/-! ## The costs of a hasher -/

/-- The costs of a hasher are such that a derivation takes them. -/
structure IsTaken (hasher : Hasher) : Prop where
  lanes : 1 ≤ hasher.lanes ∧ hasher.lanes < 2 ^ 24
  passes : 1 ≤ hasher.passes ∧ hasher.passes < 2 ^ 32
  memory : 8 * hasher.lanes ≤ hasher.memory ∧ hasher.memory < 2 ^ 32

/-- The costs of a hasher are such that the reader of stored hashes accepts them. -/
structure IsReadable (hasher : Hasher) : Prop where
  lanes : 1 ≤ hasher.lanes ∧ hasher.lanes ≤ 255
  passes : 1 ≤ hasher.passes ∧ hasher.passes ≤ 64
  memory : 8 * hasher.lanes ≤ hasher.memory ∧ hasher.memory ≤ 4194304

structure Has (hasher : Hasher) (costs : Argon2.Costs) : Prop where
  memory : (costs.memory : Int) = hasher.memory
  passes : (costs.passes : Int) = hasher.passes
  lanes : (costs.lanes : Int) = hasher.lanes

theorem has_iff {costs : Argon2.Costs} :
    hasher.Has costs ↔ (costs.memory : Int) = hasher.memory ∧
      (costs.passes : Int) = hasher.passes ∧ (costs.lanes : Int) = hasher.lanes :=
  ⟨fun ⟨memory, passes, lanes⟩ => ⟨memory, passes, lanes⟩,
    fun ⟨memory, passes, lanes⟩ => ⟨memory, passes, lanes⟩⟩

instance (hasher : Hasher) (costs : Argon2.Costs) : Decidable (hasher.Has costs) :=
  decidable_of_iff _ has_iff.symm

theorem Has.unique {costs others : Argon2.Costs} (own : hasher.Has costs)
    (same : hasher.Has others) : costs = others := by
  have memory := own.memory.trans same.memory.symm
  have passes := own.passes.trans same.passes.symm
  have lanes := own.lanes.trans same.lanes.symm
  cases costs
  cases others
  simp only [Int.natCast_inj] at memory passes lanes
  rw [memory, passes, lanes]

theorem IsReadable.isTaken (readable : hasher.IsReadable) : hasher.IsTaken := by
  obtain ⟨lanes, passes, memory⟩ := readable
  exact ⟨by omega, by omega, by omega⟩

theorem isWord_iff {value : Int} : isWord value = true ↔ 0 ≤ value ∧ value < 2 ^ 32 := by
  have leastUnrepresented : (Nat.pow 2 32 : Nat) = 4294967296 := by decide
  rw [isWord, leastUnrepresented, Bool.and_eq_true, decide_eq_true_eq, decide_eq_true_eq]
  rfl

theorem costs?_eq_ok_iff {costs : Argon2.Costs} :
    costs? hasher.memory hasher.passes hasher.lanes = .ok costs ↔
      hasher.IsTaken ∧ hasher.Has costs := by
  have mostLanes : greatestLanes = 16777215 := by decide
  rw [costs?]
  simp only [Bool.not_eq_true', Bool.and_eq_false_iff, Bool.or_eq_true, decide_eq_true_eq,
    mostLanes]
  constructor
  · intro taken
    split at taken
    · cases taken
    · next words =>
      split at taken
      · cases taken
      · next bounds =>
        cases taken
        simp only [not_or, Bool.not_eq_false, isWord_iff] at words bounds
        exact ⟨⟨by omega, by omega, by omega⟩, Int.toNat_of_nonneg (by omega),
          Int.toNat_of_nonneg (by omega), Int.toNat_of_nonneg (by omega)⟩
  · rintro ⟨taken, own⟩
    obtain ⟨lanes, passes, memory⟩ := taken
    have words : ¬ ((isWord hasher.memory = false ∨ isWord hasher.passes = false) ∨
        isWord hasher.lanes = false) := by
      simp only [not_or, Bool.not_eq_false, isWord_iff]
      omega
    rw [if_neg words, if_neg (by omega)]
    rw [← own.memory, ← own.passes, ← own.lanes]
    rfl

theorem acceptsCosts_iff {costs : Argon2.Costs} (own : hasher.Has costs) :
    StoredHash.acceptsCosts costs = true ↔ hasher.IsReadable := by
  obtain ⟨memory, passes, lanes⟩ := own
  have lanesBound : StoredHash.greatestLanes = 255 := rfl
  have passesBound : StoredHash.greatestPasses = 64 := rfl
  have memoryBound : StoredHash.greatestMemory = 4194304 := rfl
  simp only [StoredHash.acceptsCosts, Bool.and_eq_true, decide_eq_true_eq]
  constructor
  · intro accepted
    exact ⟨by omega, by omega, by omega⟩
  · intro readable
    obtain ⟨someLanes, somePasses, someMemory⟩ := readable
    omega

theorem IsTaken.exists_has (taken : hasher.IsTaken) : ∃ costs, hasher.Has costs := by
  obtain ⟨lanes, passes, memory⟩ := taken
  exact ⟨⟨hasher.memory.toNat, hasher.passes.toNat, hasher.lanes.toNat⟩,
    ⟨Int.toNat_of_nonneg (by omega), Int.toNat_of_nonneg (by omega),
      Int.toNat_of_nonneg (by omega)⟩⟩

theorem costs?_of_accepts {costs : Argon2.Costs}
    (accepted : StoredHash.acceptsCosts costs = true) :
    1 ≤ costs.passes ∧ 1 ≤ costs.lanes ∧ 8 * costs.lanes ≤ costs.memory ∧
      costs? costs.memory costs.passes costs.lanes = .ok costs := by
  let owner : Hasher := { memory := costs.memory, passes := costs.passes, lanes := costs.lanes }
  have own : owner.Has costs := ⟨rfl, rfl, rfl⟩
  have taken : owner.IsTaken := ((acceptsCosts_iff own).mp accepted).isTaken
  have derived := costs?_eq_ok_iff.mpr (And.intro taken own)
  exact ⟨Int.ofNat_le.mp taken.passes.1, Int.ofNat_le.mp taken.lanes.1,
    Int.ofNat_le.mp taken.memory.1, derived⟩

/-! ## Verifying -/

private theorem fits_returns (hasher : Hasher) (secret : String) {stored : StoredHash}
    (accepted : StoredHash.acceptsCosts stored.costs = true) :
    ∃ same, hasher.fits secret stored = .ok same := by
  obtain ⟨_, _, _, taken⟩ := costs?_of_accepts accepted
  exact ⟨_, by rw [fits, taken]; rfl⟩

/-- What reading a stored text gives: nothing it can be read as, a malformed text, or a hash. -/
theorem read_cases (encoded : String) :
    (StoredHash.IsBroken encoded ∧ read encoded = .error .unfinishedHash) ∨
      ¬ StoredHash.IsBroken encoded ∧ (read encoded = .ok none ∨
        ∃ stored, read encoded = .ok (some stored) ∧
          StoredHash.acceptsCosts stored.costs = true) := by
  unfold read
  cases answer : StoredHash.read encoded with
  | error failure =>
      cases failure
      exact .inl ⟨StoredHash.read_eq_error_iff.mp answer, rfl⟩
  | ok outcome =>
      refine .inr ⟨StoredHash.not_isBroken_of_read _ answer, ?_⟩
      cases outcome with
      | none => exact .inl rfl
      | some stored => exact .inr ⟨stored, rfl, StoredHash.acceptsCosts_of_read answer⟩

theorem read_of_broken (broken : StoredHash.IsBroken encoded) :
    read encoded = .error .unfinishedHash := by
  rcases read_cases encoded with ⟨_, failed⟩ | ⟨whole, _⟩
  · exact failed
  · exact absurd broken whole

theorem verify_of_blank (blank : Text.isBlankText secret = true) :
    hasher.verify secret encoded = .ok false := by
  rw [verify, if_pos blank]

theorem verify_of_unreadable (filled : ¬ Text.isBlankText secret = true)
    (failed : read encoded = .error .unfinishedHash) :
    hasher.verify secret encoded = .error .unfinishedHash := by
  rw [verify, if_neg filled, failed, error_bind]

theorem verify_of_malformed (filled : ¬ Text.isBlankText secret = true)
    (malformed : read encoded = .ok none) : hasher.verify secret encoded = .ok false := by
  rw [verify, if_neg filled, malformed, ok_bind]
  rfl

theorem verify_of_read (filled : ¬ Text.isBlankText secret = true) {stored : StoredHash}
    (found : read encoded = .ok (some stored)) :
    hasher.verify secret encoded = (hasher.fits secret stored).mapError Fault.costs := by
  rw [verify, if_neg filled, found, ok_bind]

/-- A verification returns unless the secret is not blank and the stored text breaks off. -/
theorem verify_returns_iff (hasher : Hasher) :
    (∃ outcome, hasher.verify secret encoded = .ok outcome) ↔
      Text.isBlankText secret = true ∨ ¬ StoredHash.IsBroken encoded := by
  by_cases blank : Text.isBlankText secret = true
  · exact ⟨fun _ => .inl blank, fun _ => ⟨false, verify_of_blank blank⟩⟩
  · rcases read_cases encoded with
      ⟨broken, failed⟩ | ⟨whole, malformed | ⟨stored, found, accepted⟩⟩
    · rw [verify_of_unreadable blank failed]
      simp [blank, broken]
    · exact ⟨fun _ => .inr whole, fun _ => ⟨false, verify_of_malformed blank malformed⟩⟩
    · obtain ⟨same, taken⟩ := fits_returns hasher secret accepted
      refine ⟨fun _ => .inr whole, fun _ => ⟨same, ?_⟩⟩
      rw [verify_of_read blank found, taken, mapError_ok]

/-- Whether a stored hash is outdated can be told unless the stored text breaks off. -/
theorem needsRehash_returns_iff :
    (∃ outcome, hasher.needsRehash encoded = .ok outcome) ↔ ¬ StoredHash.IsBroken encoded := by
  unfold needsRehash
  rcases read_cases encoded with ⟨broken, failed⟩ | ⟨whole, malformed | ⟨stored, found, accepted⟩⟩
  · simp [failed, broken]
  · simp [malformed, whole, pure, Except.pure]
  · simp [found, whole, pure, Except.pure]

end AccessGate.Hasher
