import AccessGate.Proofs.ApiKeys
import AccessGate.Proofs.Secret.Hashing

/-!
# The lifecycle of keys

Keys are made, stored with new tenants, and classified, while tenants are deactivated and the store
goes out of reach and comes back.  A run is followed together with what every stored hash was made
of.  `Lifecycle.classifies` says that a key is a tenant's key exactly if the stored hash of an
active tenant was made of it, as long as the derivation tells the key from the secrets of the stored
hashes, and that every classification of a key leaves one audit record.
-/

namespace AccessGate

/-- A stored hash with what it was made of: a secret, a salt, and a hasher whose costs lie within
the bounds of the reader. -/
structure MadeHash (derivation : Derivation) where
  text : String
  secret : String
  salt : Bytes
  costs : Argon2.Costs
  hasher : Hasher
  derives : hasher.derivation = derivation
  readable : hasher.IsReadable
  has : hasher.Has costs
  salted : salt.length = 16
  made : hasher.hash secret salt = .ok text

/-- A tenant with what its stored hash was made of. -/
structure KeyHolder (derivation : Derivation) where
  id : String
  key : String
  name : String := ""
  isActive : Bool := true
  hash : Option (MadeHash derivation) := none

variable {derivation : Derivation}

namespace MadeHash

/-- The digest of a key is the digest of the stored hash. -/
def Matches (hash : MadeHash derivation) (key : String) : Prop :=
  derivation (Bytes.ofText key) hash.salt hash.costs Hasher.digestLength =
    derivation (Bytes.ofText hash.secret) hash.salt hash.costs Hasher.digestLength

theorem filled (hash : MadeHash derivation) : ¬ Text.isBlankText hash.secret = true := by
  intro blank
  have made := hash.made
  rw [Hasher.hash, if_pos blank] at made
  cases made

theorem read (sized : derivation.IsSized) (hash : MadeHash derivation) :
    StoredHash.read hash.text =
      .ok (some (StoredHash.ofSecret derivation hash.costs hash.secret hash.salt)) := by
  obtain ⟨_, costs, own, written⟩ := (Hasher.hash_eq_ok_iff hash.filled).mp hash.made
  have long : StoredHash.leastSalt ≤ hash.salt.length := by
    rw [hash.salted]
    decide
  rw [written, hash.derives, own.unique hash.has, Hasher.read_write_ofSecret sized long,
    if_pos ((Hasher.acceptsCosts_iff hash.has).mpr hash.readable)]

theorem verify (sized : derivation.IsSized) (hash : MadeHash derivation) {hasher : Hasher}
    (same : hasher.derivation = derivation) {key : String}
    (filled : ¬ Text.isBlankText key = true) :
    hasher.verify key hash.text = .ok true ↔ hash.Matches key := by
  rw [Hasher.verify_of_made sized same (hash.read sized)]
  simp [filled, Matches]

end MadeHash

namespace KeyHolder

def tenant (holder : KeyHolder derivation) : Tenant :=
  { id := holder.id, key := holder.key, name := holder.name, isActive := holder.isActive
    keyHash := holder.hash.map MadeHash.text }

/-- An active tenant whose stored hash was made of a key. -/
def Holds (key : String) (holder : KeyHolder derivation) : Prop :=
  holder.isActive = true ∧ ∃ hash, holder.hash = some hash ∧ hash.secret = key

/-- The derivation tells a key from the secret of the stored hash, unless they are the same. -/
def Tells (key : String) (holder : KeyHolder derivation) : Prop :=
  ∀ hash, holder.hash = some hash → hash.Matches key → hash.secret = key

instance (key : String) (holder : KeyHolder derivation) : Decidable (holder.Holds key) :=
  match stored : holder.hash with
  | none => isFalse fun ⟨_, _, found, _⟩ => by simp [stored] at found
  | some hash =>
      decidable_of_iff (holder.isActive = true ∧ hash.secret = key) (by simp [Holds, stored])

private theorem not_hasBrokenHash (sized : derivation.IsSized) (holder : KeyHolder derivation) :
    ¬ holder.tenant.HasBrokenHash := by
  rintro ⟨text, stored, broken⟩
  obtain ⟨hash, _, rfl⟩ := Option.map_eq_some_iff.mp stored
  exact StoredHash.not_isBroken_of_read _ (hash.read sized) broken

theorem owns_iff {hasher : Hasher} (sized : hasher.derivation.IsSized) {key : String}
    (filled : ¬ Text.isBlankText key = true) {holder : KeyHolder hasher.derivation}
    (tells : holder.Tells key) (active : holder.isActive = true) :
    holder.tenant.Owns hasher key ↔ holder.Holds key := by
  constructor
  · rintro ⟨text, stored, verified⟩
    obtain ⟨hash, found, rfl⟩ := Option.map_eq_some_iff.mp stored
    exact ⟨active, hash, found, tells hash found ((hash.verify sized rfl filled).mp verified)⟩
  · rintro ⟨_, hash, found, rfl⟩
    refine ⟨hash.text, by rw [tenant, found]; rfl, (hash.verify sized rfl filled).mpr rfl⟩

end KeyHolder

namespace ApiKeys

open AccessGate.Action

variable {hasher : Hasher} {keys : ApiKeys} {key : String} {engine : Engine}

/-- The search meets the first active tenant whose hash was made of the key. -/
theorem owner?_of_holders (sized : hasher.derivation.IsSized)
    (filled : ¬ Text.isBlankText key = true) (holders : List (KeyHolder hasher.derivation))
    (tells : ∀ holder ∈ holders, holder.Tells key) :
    owner? hasher key ((holders.map KeyHolder.tenant).filter fun tenant =>
        tenant.isActive && tenant.keyHash.isSome) =
      .ok ((holders.find? fun holder => holder.Holds key).map KeyHolder.tenant) := by
  induction holders with
  | nil => rfl
  | cons holder holders induction =>
      obtain ⟨known, others⟩ := List.forall_mem_cons.mp tells
      rw [List.map_cons, List.find?_cons]
      by_cases listed : (holder.tenant.isActive && holder.tenant.keyHash.isSome) = true
      · have active : holder.isActive = true := (Bool.and_eq_true_iff.mp listed).1
        rw [List.filter_cons, if_pos listed]
        rcases owner?_cases hasher filled holder.tenant _ with
          ⟨broken, _⟩ | ⟨_, owns, found⟩ | ⟨_, stranger, passed⟩
        · exact absurd broken (holder.not_hasBrokenHash sized)
        · rw [found, decide_eq_true ((holder.owns_iff sized filled known active).mp owns)]
          rfl
        · rw [passed, induction others,
            decide_eq_false (mt (holder.owns_iff sized filled known active).mpr stranger)]
      · have unlisted : ¬ holder.Holds key := by
          rintro ⟨active, hash, found, _⟩
          exact listed (by simp [KeyHolder.tenant, active, found])
        rw [List.filter_cons, if_neg listed, induction others, decide_eq_false unlisted]

private theorem classify_directory (keys : ApiKeys) (key : String) (engine : Engine) :
    (keys.classify key engine : Except Fault KeyAccess × Engine).2.store.directory =
      engine.store.directory := by
  by_cases blank : Text.isBlankText key = true
  · rw [classify_of_blank blank]
  by_cases known : key ∈ keys.adminKeys
  · obtain ⟨_, _, answer⟩ := classify_of_admin_key blank known engine
    rw [answer]
  cases outage : engine.store.outage .tenantsWithKeys with
  | some fault => rw [classify_of_outage blank known outage]
  | none =>
      obtain ⟨_, answer, _⟩ := classify_of_search blank known outage
      rw [answer]

theorem filled_keyOf (random : Bytes) : ¬ Text.isBlankText (keyOf random) = true := by
  rw [keyOf, Text.isBlankText, String.toList_append, List.all_append, Bool.and_eq_true]
  rintro ⟨blank, _⟩
  exact absurd blank (by decide)

theorem generate_returns (readable : keys.hasher.IsReadable) (random salt : Bytes)
    (salted : salt.length = 16) :
    ∃ fresh : MadeHash keys.hasher.derivation, fresh.secret = keyOf random ∧ fresh.salt = salt ∧
      keys.generate random fresh.salt = .ok (fresh.secret, fresh.text) := by
  obtain ⟨costs, own⟩ := readable.isTaken.exists_has
  have made : keys.hasher.hash (keyOf random) salt = .ok _ :=
    (Hasher.hash_eq_ok_iff (filled_keyOf random)).mpr ⟨readable.isTaken, costs, own, rfl⟩
  refine ⟨⟨_, keyOf random, salt, costs, keys.hasher, rfl, readable, own, salted, made⟩,
    rfl, rfl, ?_⟩
  rw [generate, made]
  rfl

end ApiKeys

/-! ## Runs -/

/-- The engines that a run can reach from any tenants, with what their stored hashes were made
of. -/
inductive Lifecycle (keys : ApiKeys) :
    List (KeyHolder keys.hasher.derivation) → Engine → Prop where
  | start {holders : List (KeyHolder keys.hasher.derivation)} {engine : Engine} :
      engine.store.directory.tenants = holders.map KeyHolder.tenant →
      Lifecycle keys holders engine
  /-- A key is made and stored with a new tenant. -/
  | issue {holders : List (KeyHolder keys.hasher.derivation)} {engine : Engine} {random : Bytes}
      {fresh : MadeHash keys.hasher.derivation} (id key name : String) :
      Lifecycle keys holders engine →
      keys.generate random fresh.salt = .ok (fresh.secret, fresh.text) →
      Lifecycle keys (holders ++ [{ id, key, name, hash := some fresh }])
        (engine.edit fun directory =>
          directory.addTenant { id, key, name, keyHash := some fresh.text })
  /-- The tenant at a place is deactivated. -/
  | deactivate {holders : List (KeyHolder keys.hasher.derivation)} {engine : Engine} (place : Nat) :
      Lifecycle keys holders engine →
      Lifecycle keys (holders.modify place fun holder => { holder with isActive := false })
        (engine.edit fun directory =>
          { directory with
            tenants := directory.tenants.modify place fun tenant =>
              { tenant with isActive := false } })
  /-- A key is classified, successfully or not. -/
  | classify {holders : List (KeyHolder keys.hasher.derivation)} {engine : Engine} (key : String) :
      Lifecycle keys holders engine →
      Lifecycle keys holders (keys.classify key engine : Except Fault KeyAccess × Engine).2
  /-- The store goes out of reach, or comes back. -/
  | outage {holders : List (KeyHolder keys.hasher.derivation)} {engine : Engine}
      (outage : Query → Option Fault) :
      Lifecycle keys holders engine →
      Lifecycle keys holders { engine with store := { engine.store with outage } }

namespace Lifecycle

open ApiKeys

variable {keys : ApiKeys} {holders : List (KeyHolder keys.hasher.derivation)} {engine : Engine}

private theorem modify_map_tenant {derivation : Derivation} (holders : List (KeyHolder derivation))
    (place : Nat) :
    (holders.map KeyHolder.tenant).modify place (fun tenant => { tenant with isActive := false }) =
      (holders.modify place fun holder => { holder with isActive := false }).map
        KeyHolder.tenant := by
  apply List.ext_getElem?
  intro index
  simp only [List.getElem?_modify, List.getElem?_map]
  split <;> cases holders[index]? <;> rfl

/-- The directory has the tenants that are followed. -/
theorem tenants (run : Lifecycle keys holders engine) :
    engine.store.directory.tenants = holders.map KeyHolder.tenant := by
  induction run with
  | start known => exact known
  | issue id key name _ _ known =>
      simp [Engine.edit, Directory.addTenant, known, KeyHolder.tenant]
  | deactivate place _ known =>
      simp only [Engine.edit, known, modify_map_tenant]
  | classify key _ known => rw [classify_directory, known]
  | outage _ _ known => exact known

/-- What a key grants by what the stored hashes were made of: it is the key of the first active
tenant whose stored hash was made of it. -/
def granted {derivation : Derivation} (holders : List (KeyHolder derivation)) (key : String) :
    KeyAccess :=
  match holders.find? fun holder => holder.Holds key with
  | some holder => .tenant holder.id
  | none => .invalid

/-- New keys are made throughout a run.  A blank key is invalid, an admin key is known without the
store, and any other key is the key of the first active tenant whose stored hash was made of it,
unless the store is out of reach.  A key that is not blank leaves one audit record when it is
classified; otherwise nothing is recorded. -/
theorem classifies (readable : keys.hasher.IsReadable) (sized : keys.hasher.derivation.IsSized)
    (run : Lifecycle keys holders engine) (key : String)
    (tells : ∀ holder ∈ holders, holder.Tells key) :
    (∀ random salt : Bytes, salt.length = 16 →
      ∃ fresh : MadeHash keys.hasher.derivation, fresh.secret = keyOf random ∧ fresh.salt = salt ∧
        keys.generate random fresh.salt = .ok (fresh.secret, fresh.text)) ∧
    ∃ outcome ended, (keys.classify key engine : Except Fault KeyAccess × Engine) =
        (outcome, ended) ∧
      (Text.isBlankText key = true → outcome = .ok .invalid ∧ ended = engine) ∧
      (¬ Text.isBlankText key = true → key ∈ keys.adminKeys →
        outcome = .ok .admin ∧ ended.store = engine.store) ∧
      (¬ Text.isBlankText key = true → ¬ key ∈ keys.adminKeys →
        outcome = match engine.store.outage .tenantsWithKeys with
          | some fault => .error fault
          | none => .ok (granted holders key)) ∧
      match outcome with
      | .error _ => ended.journal = engine.journal
      | .ok access =>
          if Text.isBlankText key = true then ended.journal = engine.journal
          else ∃ record : AuditRecord,
            record.event = (if access.isValid then .apiKeyValidated else .apiKeyInvalid) ∧
            ended.journal =
              { engine.journal with records := engine.journal.records ++ [record] } := by
  refine ⟨generate_returns readable, ?_⟩
  by_cases blank : Text.isBlankText key = true
  · refine ⟨_, _, classify_of_blank blank engine, ?_⟩
    simp [blank]
  by_cases known : key ∈ keys.adminKeys
  · obtain ⟨record, event, answer⟩ := classify_of_admin_key blank known engine
    refine ⟨_, _, answer, ?_⟩
    simp [blank, known, event, KeyAccess.isValid]
  cases outage : engine.store.outage .tenantsWithKeys with
  | some fault =>
      refine ⟨_, _, classify_of_outage blank known outage, ?_⟩
      simp [blank, known]
  | none =>
      have found := owner?_of_holders sized blank holders tells
      rw [← run.tenants, ← Directory.tenantsWithKeys] at found
      have access : accessOf ((holders.find? fun holder => holder.Holds key).map
          KeyHolder.tenant) = granted holders key := by
        rw [granted]
        cases holders.find? fun holder => holder.Holds key <;> rfl
      obtain ⟨journal, answer, reports⟩ := classify_of_search blank known outage
      obtain ⟨record, event, reported⟩ := reports _ found
      rw [found, Except.map, access] at answer
      rw [access] at event
      refine ⟨_, _, answer, ?_⟩
      simp [blank, known, event, reported]

/-- Two tenants got the same key.  The first of them is deactivated, and so it is the key of the
second. -/
theorem classifies_reissued_key :
    ∃ keys : ApiKeys, ∃ holders engine, Lifecycle keys holders engine ∧
      holders.map KeyHolder.id = ["t1", "t2", "t3"] ∧
      (keys.classify (keyOf [1, 2, 3]) engine : Except Fault KeyAccess × Engine).1 =
        .ok (.tenant "t3") := by
  let keys : ApiKeys := { adminKeys := .empty }
  let before : Engine :=
    { store := { directory := { tenants := [{ id := "t1", key := "old" }] } }
      cache := .memory { lifetime := 900 } }
  have readable : keys.hasher.IsReadable := ⟨by decide, by decide, by decide⟩
  have sized : keys.hasher.derivation.IsSized := Argon2.length_derive
  have start : Lifecycle keys [{ id := "t1", key := "old" }] before := .start rfl
  obtain ⟨first, firstSecret, _, firstMade⟩ :=
    generate_returns readable [1, 2, 3] (List.replicate 16 7) rfl
  obtain ⟨second, secondSecret, _, secondMade⟩ :=
    generate_returns readable [1, 2, 3] (List.replicate 16 8) rfl
  let holders : List (KeyHolder keys.hasher.derivation) :=
    [{ id := "t1", key := "old" },
      { id := "t2", key := "shop", isActive := false, hash := some first },
      { id := "t3", key := "desk", hash := some second }]
  have run : Lifecycle keys holders _ :=
    issue "t3" "desk" "" (deactivate 1 (issue "t2" "shop" "" start firstMade)) secondMade
  have tells : ∀ holder ∈ holders, holder.Tells (keyOf [1, 2, 3]) := by
    intro holder member hash stored _
    simp only [holders, List.mem_cons, List.not_mem_nil, or_false] at member
    rcases member with rfl | rfl | rfl
    · cases stored
    · cases stored
      exact firstSecret
    · cases stored
      exact secondSecret
  have owned : granted holders (keyOf [1, 2, 3]) = .tenant "t3" := by
    simp [granted, holders, KeyHolder.Holds, secondSecret]
  obtain ⟨_, outcome, ended, answer, _, _, searched, _⟩ :=
    classifies readable sized run (keyOf [1, 2, 3]) tells
  refine ⟨keys, holders, _, run, rfl, ?_⟩
  rw [answer, searched (filled_keyOf _) (by decide), owned]
  rfl

end Lifecycle

end AccessGate
