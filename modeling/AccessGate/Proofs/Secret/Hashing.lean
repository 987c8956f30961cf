import AccessGate.Proofs.Secret.Argon2
import AccessGate.Proofs.Secret.Hasher
import AccessGate.Proofs.Secret.RoundTrip

/-!
# Hashes that a hasher makes

A hasher writes its own costs into the hashes that it makes, and the reader accepts costs within
bounds of its own.  Inside these bounds a hash reads back as it was made, and it can be verified
against by a hasher of any costs.  The derivation takes greater costs than the reader accepts, and
nothing keeps a hasher from having them: its hashes are malformed from the beginning.
-/

namespace AccessGate

/-- The stored hash that is made of a secret. -/
def StoredHash.ofSecret (derivation : Derivation) (costs : Argon2.Costs) (secret : String)
    (salt : Bytes) : StoredHash :=
  { costs, salt, digest := derivation (Bytes.ofText secret) salt costs Hasher.digestLength }

/-- A derivation yields digests of the wanted lengths. -/
def Derivation.IsSized (derivation : Derivation) : Prop :=
  ∀ secret salt costs length, (derivation secret salt costs length).length = length

namespace Hasher

variable {hasher : Hasher} {secret encoded : String} {salt : Bytes}

/-! ## Making a hash -/

theorem hash_eq_ok_iff (filled : ¬ Text.isBlankText secret = true) :
    hasher.hash secret salt = .ok encoded ↔
      hasher.IsTaken ∧ ∃ costs, hasher.Has costs ∧
        encoded = (StoredHash.ofSecret hasher.derivation costs secret salt).write := by
  rw [hash, if_neg filled, mapError_eq_ok, stored]
  constructor
  · intro made
    cases taken : costs? hasher.memory hasher.passes hasher.lanes with
    | error fault =>
        rw [taken] at made
        cases made
    | ok costs =>
        obtain ⟨isTaken, own⟩ := costs?_eq_ok_iff.mp taken
        rw [taken] at made
        cases made
        exact ⟨isTaken, costs, own, rfl⟩
  · rintro ⟨isTaken, costs, own, rfl⟩
    rw [costs?_eq_ok_iff.mpr ⟨isTaken, own⟩]
    rfl

/-! ## Using a hash -/

theorem read_eq_ok {outcome : Option StoredHash} :
    read encoded = .ok outcome ↔ StoredHash.read encoded = .ok outcome :=
  mapError_eq_ok

/-- Against a hash that was read, a secret is verified with the costs of the hash. -/
theorem verify_of_stored {stored : StoredHash}
    (found : StoredHash.read encoded = .ok (some stored)) :
    hasher.verify secret encoded =
      .ok (decide (¬ Text.isBlankText secret = true ∧
        hasher.derivation (Bytes.ofText secret) stored.salt stored.costs stored.digest.length =
          stored.digest)) := by
  by_cases blank : Text.isBlankText secret = true
  · rw [verify_of_blank blank]
    simp [blank]
  · obtain ⟨_, _, _, taken⟩ := costs?_of_accepts (StoredHash.acceptsCosts_of_read found)
    rw [verify_of_read blank (read_eq_ok.mpr found), fits, taken, ok_bind]
    simp [blank, pure, Except.pure]

theorem verify_of_none (malformed : StoredHash.read encoded = .ok none) :
    hasher.verify secret encoded = .ok false := by
  by_cases blank : Text.isBlankText secret = true
  · exact verify_of_blank blank
  · exact verify_of_malformed blank (read_eq_ok.mpr malformed)

private theorem needsRehash_of_stored {stored : StoredHash}
    (found : StoredHash.read encoded = .ok (some stored)) :
    hasher.needsRehash encoded =
      .ok (decide (¬ (hasher.Has stored.costs ∧ stored.digest.length = digestLength))) := by
  rw [needsRehash, read_eq_ok.mpr found, ok_bind]
  simp only [pure, Except.pure, Except.ok.injEq]
  rw [Bool.eq_iff_iff]
  simp only [Bool.or_eq_true, decide_eq_true_eq, has_iff]
  tauto

theorem needsRehash_of_none (malformed : StoredHash.read encoded = .ok none) :
    hasher.needsRehash encoded = .ok true := by
  rw [needsRehash, read_eq_ok.mpr malformed]
  rfl

/-! ## Reading a hash that was made -/

variable {derivation : Derivation} {costs : Argon2.Costs}

theorem read_ofSecret (sized : derivation.IsSized) (long : StoredHash.leastSalt ≤ salt.length)
    {saltPads digestPads : Nat} (fewSalt : saltPads ≤ 2) (fewDigest : digestPads ≤ 2) :
    StoredHash.read ((StoredHash.ofSecret derivation costs secret salt).writePadded
        saltPads digestPads) =
      .ok (if StoredHash.acceptsCosts costs = true
        then some (StoredHash.ofSecret derivation costs secret salt) else none) := by
  refine StoredHash.read_writePadded long ?_ fewSalt fewDigest
  rw [StoredHash.ofSecret, sized]
  decide

theorem read_write_ofSecret (sized : derivation.IsSized)
    (long : StoredHash.leastSalt ≤ salt.length) :
    StoredHash.read (StoredHash.ofSecret derivation costs secret salt).write =
      .ok (if StoredHash.acceptsCosts costs = true
        then some (StoredHash.ofSecret derivation costs secret salt) else none) := by
  obtain ⟨saltPads, fewSalt, digestPads, fewDigest, equality⟩ :=
    (StoredHash.ofSecret derivation costs secret salt).write_eq_writePadded
  rw [equality, read_ofSecret sized long fewSalt fewDigest]

theorem needsRehash_of_made {other : Hasher} (sized : derivation.IsSized) (own : hasher.Has costs)
    (found : StoredHash.read encoded =
      .ok (some (StoredHash.ofSecret derivation costs secret salt))) :
    other.needsRehash encoded =
      .ok (decide (¬ (other.memory = hasher.memory ∧ other.passes = hasher.passes ∧
        other.lanes = hasher.lanes))) := by
  have length : (StoredHash.ofSecret derivation costs secret salt).digest.length = digestLength :=
    sized _ _ _ _
  have has : other.Has costs ↔ other.memory = hasher.memory ∧ other.passes = hasher.passes ∧
      other.lanes = hasher.lanes := by
    rw [has_iff, own.memory, own.passes, own.lanes]
    exact and_congr eq_comm (and_congr eq_comm eq_comm)
  rw [needsRehash_of_stored found, length]
  simp [StoredHash.ofSecret, has]

/-- Against a hash that was made, the secrets with the same digest verify. -/
theorem verify_of_made {other : Hasher} {candidate : String} (sized : derivation.IsSized)
    (same : other.derivation = derivation)
    (found : StoredHash.read encoded =
      .ok (some (StoredHash.ofSecret derivation costs secret salt))) :
    other.verify candidate encoded =
      .ok (decide (¬ Text.isBlankText candidate = true ∧
        derivation (Bytes.ofText candidate) salt costs digestLength =
          derivation (Bytes.ofText secret) salt costs digestLength)) := by
  have length : (StoredHash.ofSecret derivation costs secret salt).digest.length = digestLength :=
    sized _ _ _ _
  rw [verify_of_stored found, length, same]
  rfl

/-! ## Round trips -/

/-- A hash that a hasher within the bounds makes of a secret reads back as its costs, the salt and
the digest, with any padding behind the salt and the digest.  Any other hasher verifies exactly the
secrets with the same digest against it, and finds it outdated unless it has the same costs. -/
theorem hash_round_trip (hasher : Hasher) (readable : hasher.IsReadable)
    (sized : hasher.derivation.IsSized) (secret : String)
    (filled : ¬ Text.isBlankText secret = true) (salt : Bytes) (whole : salt.length = 16) :
    ∃ stored : StoredHash, hasher.hash secret salt = .ok stored.write ∧
      hasher.Has stored.costs ∧ stored.salt = salt ∧
      stored.digest = hasher.derivation (Bytes.ofText secret) salt stored.costs digestLength ∧
      ∀ text, (text = stored.write ∨
          ∃ saltPads ≤ 2, ∃ digestPads ≤ 2, text = stored.writePadded saltPads digestPads) →
        StoredHash.read text = .ok (some stored) ∧
        ∀ other : Hasher,
          (other.derivation = hasher.derivation →
            other.verify secret text = .ok true ∧
            ∀ candidate, other.verify candidate text =
              .ok (decide (¬ Text.isBlankText candidate = true ∧
                hasher.derivation (Bytes.ofText candidate) salt stored.costs digestLength =
                  stored.digest))) ∧
          other.needsRehash text =
            .ok (decide (¬ (other.memory = hasher.memory ∧ other.passes = hasher.passes ∧
              other.lanes = hasher.lanes))) := by
  obtain ⟨costs, own⟩ := readable.isTaken.exists_has
  have accepted : StoredHash.acceptsCosts costs = true := (acceptsCosts_iff own).mpr readable
  have long : StoredHash.leastSalt ≤ salt.length := by
    rw [whole]
    decide
  refine ⟨StoredHash.ofSecret hasher.derivation costs secret salt,
    (hash_eq_ok_iff filled).mpr ⟨readable.isTaken, costs, own, rfl⟩, own, rfl, rfl, ?_⟩
  intro text written
  have found : StoredHash.read text =
      .ok (some (StoredHash.ofSecret hasher.derivation costs secret salt)) := by
    rcases written with rfl | ⟨saltPads, fewSalt, digestPads, fewDigest, rfl⟩
    · rw [read_write_ofSecret sized long, if_pos accepted]
    · rw [read_ofSecret sized long fewSalt fewDigest, if_pos accepted]
  refine ⟨found, fun other => ⟨fun same => ⟨?_, fun candidate => ?_⟩, ?_⟩⟩
  · rw [verify_of_made sized same found]
    simp [filled]
  · exact verify_of_made sized same found
  · exact needsRehash_of_made sized own found

/-- A hash with the least costs serves a hasher with other costs, which finds it outdated. -/
theorem hash_round_trip_of_least_costs :
    ∃ text, ({ memory := 8, passes := 1, lanes := 1 } : Hasher).hash "key" (List.replicate 16 7) =
        .ok text ∧
      ({} : Hasher).verify "key" text = .ok true ∧ ({} : Hasher).needsRehash text = .ok true := by
  obtain ⟨stored, made, _, _, _, serves⟩ :=
    hash_round_trip { memory := 8, passes := 1, lanes := 1 } ⟨by decide, by decide, by decide⟩
      Argon2.length_derive "key" (by decide) (List.replicate 16 7) rfl
  obtain ⟨_, others⟩ := serves stored.write (.inl rfl)
  obtain ⟨verifies, outdated⟩ := others {}
  exact ⟨stored.write, made, (verifies rfl).1, outdated⟩

/-- A hasher makes hashes if the derivation takes its costs, but it can use them only if they also
lie within the bounds of the reader.  Otherwise no secret verifies against them, and they are
outdated from the beginning. -/
theorem uses_own_hash_iff (hasher : Hasher) (sized : hasher.derivation.IsSized) (secret : String)
    (filled : ¬ Text.isBlankText secret = true) (salt : Bytes) (whole : salt.length = 16) :
    ((∃ text, hasher.hash secret salt = .ok text) ↔ hasher.IsTaken) ∧
    ∀ text, hasher.hash secret salt = .ok text →
      ((∃ stored, StoredHash.read text = .ok (some stored)) ↔ hasher.IsReadable) ∧
      (hasher.IsReadable →
        hasher.verify secret text = .ok true ∧ hasher.needsRehash text = .ok false) ∧
      (¬ hasher.IsReadable → ∀ other : Hasher,
        (∀ candidate, other.verify candidate text = .ok false) ∧
        other.needsRehash text = .ok true) := by
  constructor
  · constructor
    · rintro ⟨text, made⟩
      exact ((hash_eq_ok_iff filled).mp made).1
    · intro taken
      obtain ⟨costs, own⟩ := taken.exists_has
      exact ⟨_, (hash_eq_ok_iff filled).mpr ⟨taken, costs, own, rfl⟩⟩
  · intro text made
    obtain ⟨_, costs, own, rfl⟩ := (hash_eq_ok_iff filled).mp made
    have long : StoredHash.leastSalt ≤ salt.length := by
      rw [whole]
      decide
    have found : StoredHash.read
        (StoredHash.ofSecret hasher.derivation costs secret salt).write = _ :=
      read_write_ofSecret sized long
    by_cases readable : hasher.IsReadable
    · rw [if_pos ((acceptsCosts_iff own).mpr readable)] at found
      refine ⟨⟨fun _ => readable, fun _ => ⟨_, found⟩⟩, fun _ => ⟨?_, ?_⟩, absurd readable⟩
      · rw [verify_of_made sized rfl found]
        simp [filled]
      · rw [needsRehash_of_made sized own found]
        simp
    · rw [if_neg (mt (acceptsCosts_iff own).mp readable)] at found
      refine ⟨⟨?_, fun holds => absurd holds readable⟩, fun holds => absurd holds readable,
        fun _ other => ⟨fun candidate => verify_of_none found, needsRehash_of_none found⟩⟩
      rintro ⟨stored, read⟩
      rw [found] at read
      cases read

/-- The default hasher can use its hashes. -/
theorem uses_own_hash_of_default :
    ∃ text, ({} : Hasher).hash "key" (List.replicate 16 7) = .ok text ∧
      ({} : Hasher).verify "key" text = .ok true ∧ ({} : Hasher).needsRehash text = .ok false := by
  obtain ⟨makes, uses⟩ :=
    uses_own_hash_iff {} Argon2.length_derive "key" (by decide) (List.replicate 16 7) rfl
  obtain ⟨text, made⟩ := makes.mpr ⟨by decide, by decide, by decide⟩
  obtain ⟨_, serves, _⟩ := uses text made
  exact ⟨text, made, serves ⟨by decide, by decide, by decide⟩⟩

/-- With sixty-five passes a hasher still makes hashes, but no secret verifies against them. -/
theorem useless_hash_of_many_passes :
    ∃ text, ({ memory := 8, passes := 65, lanes := 1 } : Hasher).hash "key" (List.replicate 16 7) =
        .ok text ∧
      StoredHash.read text = .ok none ∧
      ({ memory := 8, passes := 65, lanes := 1 } : Hasher).verify "key" text = .ok false ∧
      ({ memory := 8, passes := 65, lanes := 1 } : Hasher).needsRehash text = .ok true := by
  let stored := StoredHash.ofSecret Argon2.derive ⟨8, 65, 1⟩ "key" (List.replicate 16 7)
  have malformed : StoredHash.read stored.write = .ok none :=
    read_write_ofSecret Argon2.length_derive (by decide)
  refine ⟨stored.write, (hash_eq_ok_iff (by decide)).mpr ⟨⟨by decide, by decide, by decide⟩, ?_⟩,
    malformed, verify_of_none malformed, needsRehash_of_none malformed⟩
  exact ⟨⟨8, 65, 1⟩, ⟨rfl, rfl, rfl⟩, rfl⟩

end Hasher

end AccessGate
