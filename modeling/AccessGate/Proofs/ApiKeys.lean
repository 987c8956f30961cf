import AccessGate.ApiKeys
import AccessGate.Proofs.Engine
import AccessGate.Proofs.Secret.Hasher

/-!
# Classifying keys

A key is tried against the stored hashes of the tenants in their order, and a hash that breaks off
ends the search with a fault, unless an earlier tenant's hash fits.  `answers_iff_not_broken` tells
exactly when a key is classified, whatever texts the tenants have stored.
-/

namespace AccessGate

theorem Text.ne_empty_of_filled {text : String} (filled : ¬ isBlankText text = true) :
    text ≠ "" := by
  rintro rfl
  exact filled rfl

namespace Tenant

/-- A key fits the stored hash of a tenant. -/
def Owns (hasher : Hasher) (key : String) (tenant : Tenant) : Prop :=
  ∃ hash, tenant.keyHash = some hash ∧ hasher.verify key hash = .ok true

/-- The stored hash of a tenant breaks off. -/
def HasBrokenHash (tenant : Tenant) : Prop :=
  ∃ hash, tenant.keyHash = some hash ∧ StoredHash.IsBroken hash

end Tenant

namespace ApiKeys

open AccessGate.Action

variable {hasher : Hasher} {key : String}

/-! ## One tenant -/

private theorem not_isBroken_empty : ¬ StoredHash.IsBroken "" :=
  StoredHash.not_isBroken_of_read none rfl

private theorem verify_empty (filled : ¬ Text.isBlankText key = true) :
    hasher.verify key "" = .ok false :=
  Hasher.verify_of_malformed filled rfl

/-- The search meets a tenant whose hash breaks off, the owner of the key, or a tenant that it
passes over. -/
theorem owner?_cases (hasher : Hasher) (filled : ¬ Text.isBlankText key = true) (tenant : Tenant)
    (tenants : List Tenant) :
    (tenant.HasBrokenHash ∧
      owner? hasher key (tenant :: tenants) = .error .unfinishedHash) ∨
    (¬ tenant.HasBrokenHash ∧ tenant.Owns hasher key ∧
      owner? hasher key (tenant :: tenants) = .ok (some tenant)) ∨
    (¬ tenant.HasBrokenHash ∧ ¬ tenant.Owns hasher key ∧
      owner? hasher key (tenant :: tenants) = owner? hasher key tenants) := by
  rw [owner?]
  cases stored : tenant.keyHash with
  | none => simp [Tenant.HasBrokenHash, Tenant.Owns, stored]
  | some hash =>
      have broken_iff : tenant.HasBrokenHash ↔ StoredHash.IsBroken hash := by
        simp [Tenant.HasBrokenHash, stored]
      have owns_iff : tenant.Owns hasher key ↔ hasher.verify key hash = .ok true := by
        simp [Tenant.Owns, stored]
      rw [broken_iff, owns_iff]
      by_cases empty : hash = ""
      · subst empty
        right; right
        refine ⟨not_isBroken_empty, ?_, rfl⟩
        rw [verify_empty filled]
        simp
      · have kept : (some hash).filter (fun hash => !hash.isEmpty) = some hash := by
          simp [empty]
        rw [kept]
        by_cases broken : StoredHash.IsBroken hash
        · left
          refine ⟨broken, ?_⟩
          simp only
          rw [Hasher.verify_of_unreadable filled (Hasher.read_of_broken broken), error_bind]
        · right
          obtain ⟨outcome, answer⟩ :=
            (Hasher.verify_returns_iff hasher).mpr (.inr broken)
          simp only
          rw [answer, ok_bind]
          cases outcome with
          | true => exact .inl ⟨broken, rfl, rfl⟩
          | false => exact .inr ⟨broken, by simp, rfl⟩

/-! ## All tenants -/

/-- Every tenant whose hash breaks off comes after the owner of the key. -/
def SparesBroken (hasher : Hasher) (key : String) (tenants : List Tenant) : Prop :=
  ∀ earlier tenant later, tenants = earlier ++ tenant :: later → tenant.HasBrokenHash →
    ∃ owner ∈ earlier, owner.Owns hasher key

private theorem sparesBroken_cons {tenant : Tenant} {tenants : List Tenant} :
    SparesBroken hasher key (tenant :: tenants) ↔
      ¬ tenant.HasBrokenHash ∧ (tenant.Owns hasher key ∨ SparesBroken hasher key tenants) := by
  constructor
  · intro spares
    refine ⟨?_, ?_⟩
    · intro broken
      obtain ⟨owner, member, _⟩ := spares [] tenant tenants rfl broken
      cases member
    · by_cases owns : tenant.Owns hasher key
      · exact .inl owns
      · right
        rintro earlier other later rfl broken
        obtain ⟨owner, member, owning⟩ := spares (tenant :: earlier) other later rfl broken
        rcases List.mem_cons.mp member with rfl | found
        · exact absurd owning owns
        · exact ⟨owner, found, owning⟩
  · rintro ⟨whole, rest⟩ earlier other later equality broken
    cases earlier with
    | nil =>
        cases equality
        exact absurd broken whole
    | cons first earlier =>
        cases equality
        rcases rest with owns | spares
        · exact ⟨tenant, by simp, owns⟩
        · obtain ⟨owner, member, owning⟩ := spares earlier other later rfl broken
          exact ⟨owner, List.mem_cons_of_mem _ member, owning⟩

private theorem owner?_returns_iff (filled : ¬ Text.isBlankText key = true)
    (tenants : List Tenant) :
    (∃ owner, owner? hasher key tenants = .ok owner) ↔ SparesBroken hasher key tenants := by
  induction tenants with
  | nil =>
      refine ⟨fun _ earlier tenant later equality _ => ?_, fun _ => ⟨none, rfl⟩⟩
      simp at equality
  | cons tenant tenants induction =>
      rw [sparesBroken_cons]
      rcases owner?_cases hasher filled tenant tenants with
        ⟨broken, failed⟩ | ⟨whole, owns, found⟩ | ⟨whole, stranger, passed⟩
      · simp [failed, broken]
      · simp [found, whole, owns]
      · simp [passed, whole, stranger, induction]

private theorem owns_of_owner? (filled : ¬ Text.isBlankText key = true) {tenants : List Tenant}
    {owner : Tenant} (found : owner? hasher key tenants = .ok (some owner)) :
    owner ∈ tenants ∧ owner.Owns hasher key := by
  induction tenants with
  | nil => cases found
  | cons tenant tenants induction =>
      rcases owner?_cases hasher filled tenant tenants with
        ⟨_, failed⟩ | ⟨_, owns, here⟩ | ⟨_, _, passed⟩
      · rw [failed] at found
        cases found
      · rw [here] at found
        cases found
        exact ⟨by simp, owns⟩
      · rw [passed] at found
        obtain ⟨member, owns⟩ := induction found
        exact ⟨List.mem_cons_of_mem _ member, owns⟩

/-! ## Classification -/

/-- What a key grants whose owner was looked for. -/
def accessOf : Option Tenant → KeyAccess
  | some tenant => .tenant tenant.id
  | none => .invalid

theorem classify_of_blank {keys : ApiKeys} (blank : Text.isBlankText key = true)
    (engine : Engine) :
    (keys.classify key engine : Except Fault KeyAccess × Engine) = (.ok .invalid, engine) := by
  rw [classify, if_pos blank]
  rfl

/-- An admin key leaves one record, and nothing is asked. -/
theorem classify_of_admin_key {keys : ApiKeys} (filled : ¬ Text.isBlankText key = true)
    (known : key ∈ keys.adminKeys) (engine : Engine) :
    ∃ record : AuditRecord, record.event = .apiKeyValidated ∧
      (keys.classify key engine : Except Fault KeyAccess × Engine) =
        (.ok .admin,
          { engine with
            journal := { engine.journal with
              records := engine.journal.records ++ [record] } }) := by
  rw [classify, if_neg filled, if_pos known]
  exact ⟨_, rfl, rfl⟩

theorem classify_of_admin {keys : ApiKeys} (filled : ¬ Text.isBlankText key = true)
    (known : key ∈ keys.adminKeys) (engine : Engine) :
    (keys.classify key engine : Except Fault KeyAccess × Engine).1 = .ok .admin := by
  obtain ⟨_, _, answer⟩ := classify_of_admin_key filled known engine
  rw [answer]

section Unknown

variable {keys : ApiKeys} {engine : Engine} (filled : ¬ Text.isBlankText key = true)
  (unknown : ¬ key ∈ keys.adminKeys)

include filled unknown

theorem classify_of_outage {fault : Fault}
    (offline : engine.store.outage .tenantsWithKeys = some fault) :
    (keys.classify key engine : Except Fault KeyAccess × Engine) =
      (.error fault,
        { engine with
          store := { engine.store with asked := engine.store.asked ++ [.tenantsWithKeys] } }) := by
  rw [classify, if_neg filled, if_neg unknown, bind_apply]
  simp only [ask, Store.ask, offline]

theorem classify_of_offline {fault : Fault}
    (offline : engine.store.outage .tenantsWithKeys = some fault) :
    (keys.classify key engine : Except Fault KeyAccess × Engine).1 = .error fault := by
  rw [classify_of_outage filled unknown offline]

/-- A search for the owner of a key leaves one record if it ends, whether there is an owner or
not. -/
theorem classify_of_search (online : engine.store.outage .tenantsWithKeys = none) :
    ∃ journal : Journal,
      (keys.classify key engine : Except Fault KeyAccess × Engine) =
        ((owner? keys.hasher key engine.store.directory.tenantsWithKeys).map accessOf,
          { engine with
            store := { engine.store with asked := engine.store.asked ++ [.tenantsWithKeys] }
            journal }) ∧
      ∀ owner, owner? keys.hasher key engine.store.directory.tenantsWithKeys = .ok owner →
        ∃ record : AuditRecord,
          record.event = (if (accessOf owner).isValid then .apiKeyValidated else .apiKeyInvalid) ∧
          journal = { engine.journal with records := engine.journal.records ++ [record] } := by
  rw [classify, if_neg filled, if_neg unknown, bind_apply]
  simp only [ask, Store.ask, online]
  rw [bind_apply, lift_apply]
  cases owner? keys.hasher key engine.store.directory.tenantsWithKeys with
  | error fault =>
      refine ⟨_, rfl, ?_⟩
      intro owner impossible
      cases impossible
  | ok owner =>
      cases owner <;>
      · refine ⟨_, rfl, ?_⟩
        rintro _ ⟨⟩
        exact ⟨_, rfl, rfl⟩

theorem classify_of_unknown (online : engine.store.outage .tenantsWithKeys = none) :
    (keys.classify key engine : Except Fault KeyAccess × Engine).1 =
      (owner? keys.hasher key engine.store.directory.tenantsWithKeys).map accessOf := by
  obtain ⟨_, answer, _⟩ := classify_of_search filled unknown online
  rw [answer]

end Unknown

theorem owner_of_classify {keys : ApiKeys} {engine : Engine} {id : String}
    (classified : (keys.classify key engine : Except Fault KeyAccess × Engine).1 =
      .ok (.tenant id)) :
    ∃ owner ∈ engine.store.directory.tenantsWithKeys,
      owner.Owns keys.hasher key ∧ owner.id = id := by
  by_cases blank : Text.isBlankText key = true
  · rw [classify_of_blank blank] at classified
    cases classified
  by_cases known : key ∈ keys.adminKeys
  · rw [classify_of_admin blank known] at classified
    cases classified
  cases outage : engine.store.outage .tenantsWithKeys with
  | some fault =>
      rw [classify_of_offline blank known outage] at classified
      cases classified
  | none =>
      rw [classify_of_unknown blank known outage] at classified
      cases found : owner? keys.hasher key engine.store.directory.tenantsWithKeys with
      | error fault =>
          rw [found] at classified
          cases classified
      | ok owner =>
          rw [found] at classified
          cases owner with
          | none => cases classified
          | some owner =>
              cases classified
              obtain ⟨member, owns⟩ := owns_of_owner? blank found
              exact ⟨owner, member, owns, rfl⟩

/-- A stored text can be read, verified against and checked for its age exactly if it does not break
off, and what is read has costs that a derivation takes.  A key is classified, once the tenants are
listed, unless the search for its owner meets a stored text that breaks off. -/
theorem answers_iff_not_broken (keys : ApiKeys) (engine : Engine)
    (online : engine.store.outage .tenantsWithKeys = none) (key encoded : String) :
    ((∃ outcome, StoredHash.read encoded = .ok outcome) ↔ ¬ StoredHash.IsBroken encoded) ∧
    ((∃ outcome, keys.hasher.verify key encoded = .ok outcome) ↔
      Text.isBlankText key = true ∨ ¬ StoredHash.IsBroken encoded) ∧
    ((∃ outcome, keys.hasher.needsRehash encoded = .ok outcome) ↔
      ¬ StoredHash.IsBroken encoded) ∧
    (∀ stored, StoredHash.read encoded = .ok (some stored) →
      1 ≤ stored.costs.passes ∧ 1 ≤ stored.costs.lanes ∧
        8 * stored.costs.lanes ≤ stored.costs.memory ∧
        Hasher.costs? stored.costs.memory stored.costs.passes stored.costs.lanes =
          .ok stored.costs) ∧
    ((∃ access, (keys.classify key engine : Except Fault KeyAccess × Engine).1 = .ok access) ↔
      Text.isBlankText key = true ∨ key ∈ keys.adminKeys ∨
        SparesBroken keys.hasher key engine.store.directory.tenantsWithKeys) := by
  refine ⟨?_, Hasher.verify_returns_iff keys.hasher, Hasher.needsRehash_returns_iff, ?_, ?_⟩
  · rw [← StoredHash.read_eq_error_iff]
    cases StoredHash.read encoded with
    | error failure => simp
    | ok outcome => simp
  · intro stored answer
    exact Hasher.costs?_of_accepts (StoredHash.acceptsCosts_of_read answer)
  · by_cases blank : Text.isBlankText key = true
    · rw [classify_of_blank blank]
      simp [blank]
    · by_cases known : key ∈ keys.adminKeys
      · rw [classify_of_admin blank known]
        simp [known]
      · rw [classify_of_unknown blank known online, ← owner?_returns_iff blank]
        cases owner? keys.hasher key engine.store.directory.tenantsWithKeys with
        | error fault => simp [blank, known, Except.map]
        | ok owner => simp [Except.map]

/-- A malformed text stored for one tenant does not keep a key from being classified. -/
theorem answers_despite_malformed :
    ∃ keys : ApiKeys, ∃ engine : Engine, engine.store.outage .tenantsWithKeys = none ∧
      engine.store.directory.tenantsWithKeys.map Tenant.keyHash =
        [some "$argon2id$v=19$m=8,t=1,p=1$c2FsdA$", some "$2b$12$"] ∧
      ∃ access, (keys.classify "key" engine : Except Fault KeyAccess × Engine).1 = .ok access := by
  let keys : ApiKeys := { adminKeys := .empty }
  let tenants : List Tenant :=
    [{ id := "t1", key := "shop", keyHash := some "$argon2id$v=19$m=8,t=1,p=1$c2FsdA$" },
      { id := "t2", key := "desk", keyHash := some "$2b$12$" }]
  let engine : Engine :=
    { store := { directory := { tenants } }, cache := .memory { lifetime := 900 } }
  refine ⟨keys, engine, rfl, rfl, ?_⟩
  apply (answers_iff_not_broken keys engine rfl "key" "").2.2.2.2.mpr
  right; right
  have whole : ∀ tenant ∈ engine.store.directory.tenantsWithKeys, ¬ tenant.HasBrokenHash := by
    have listed : engine.store.directory.tenantsWithKeys = tenants := rfl
    rw [listed, List.forall_mem_cons, List.forall_mem_singleton]
    constructor
    · rintro ⟨hash, stored, broken⟩
      cases stored
      exact StoredHash.not_isBroken_of_read none rfl broken
    · rintro ⟨hash, stored, broken⟩
      cases stored
      exact StoredHash.not_isBroken_of_read none rfl broken
  intro earlier tenant later equality broken
  exact absurd broken (whole tenant (by simp [equality]))

/-- One tenant has stored a hash without padding and a line feed behind it.  It cannot be read, and
so the key of another tenant is not classified. -/
theorem fails_for_others_of_line_feed :
    ∃ keys : ApiKeys, ∃ engine : Engine, ∃ first second : Tenant,
      first.keyHash =
        some "$argon2id$v=19$m=8,t=1,p=1$c2FsdHNhbHQ$AAAAAAAAAAAAAAAAAAAAAA\n" ∧
      engine.store.outage .tenantsWithKeys = none ∧
      engine.store.directory.tenantsWithKeys = [first, second] ∧
      second.Owns keys.hasher "key" ∧
      (keys.classify "key" engine : Except Fault KeyAccess × Engine).1 =
        .error .unfinishedHash := by
  let keys : ApiKeys :=
    { adminKeys := .empty
      hasher := { derivation := fun _ _ _ length => List.replicate length 0 } }
  let first : Tenant :=
    { id := "t1", key := "shop"
      keyHash := some "$argon2id$v=19$m=8,t=1,p=1$c2FsdHNhbHQ$AAAAAAAAAAAAAAAAAAAAAA\n" }
  let second : Tenant :=
    { id := "t2", key := "desk"
      keyHash := some "$argon2id$v=19$m=8,t=1,p=1$c2FsdHNhbHQ$AAAAAAAAAAAAAAAAAAAAAA" }
  let engine : Engine :=
    { store := { directory := { tenants := [first, second] } }
      cache := .memory { lifetime := 900 } }
  refine ⟨keys, engine, first, second, rfl, rfl, rfl, ⟨_, rfl, ?_⟩, rfl⟩
  let stored : StoredHash :=
    { costs := ⟨8, 1, 1⟩, salt := [115, 97, 108, 116, 115, 97, 108, 116]
      digest := List.replicate 16 0 }
  have found : Hasher.read "$argon2id$v=19$m=8,t=1,p=1$c2FsdHNhbHQ$AAAAAAAAAAAAAAAAAAAAAA" =
      .ok (some stored) := rfl
  have accepted : StoredHash.acceptsCosts stored.costs = true := by decide
  have taken := (Hasher.costs?_of_accepts accepted).2.2.2
  rw [Hasher.verify_of_read (by decide) found, Hasher.fits, taken, ok_bind]
  rfl

end ApiKeys

end AccessGate
