import AccessGate.Cache.Memory

/-!
# Entries and indexes

The indexes by user and by tenant list exactly the pairs of a user and a tenant that have an entry.
Walking along an index therefore drops every entry that an invalidation covers, and no other.
-/

namespace AccessGate

/-- A request to drop entries of the cache: those of a user, within one tenant or within all, or
those of a tenant. -/
inductive Invalidation where
  | ofUser (user : String) (tenant : Option String)
  | ofTenant (tenant : String)
  deriving DecidableEq, Repr

/-- Whether an invalidation drops the entry of a pair of a user and a tenant. -/
def Invalidation.covers : Invalidation → String × String → Bool
  | .ofUser user none, pair => pair.1 = user
  | .ofUser user (some tenant), pair => pair = (user, tenant)
  | .ofTenant tenant, pair => pair.2 = tenant

namespace MemoryCache

/-- Drops the entries that an invalidation covers. -/
def invalidate (cache : MemoryCache) : Invalidation → MemoryCache
  | .ofUser user tenant => cache.invalidateUser user tenant
  | .ofTenant tenant => cache.invalidateTenant tenant

/-! ## Indexes -/

theorem mem_members_enlist {index : Table String TextSet} {key other member found : String} :
    found ∈ members (enlist index key member) other ↔
      (key = other ∧ found = member) ∨ found ∈ members index other := by
  by_cases same : key = other
  · subst same
    simp [members, enlist]
  · simp [members, enlist, same]

theorem isEmpty_iff {set : TextSet} : set.isEmpty = true ↔ ∀ text, ¬ text ∈ set := by
  rw [TextSet.isEmpty, List.isEmpty_iff, List.eq_nil_iff_forall_not_mem]
  exact Iff.rfl

theorem mem_members_strike {index : Table String TextSet} {key other member found : String} :
    found ∈ members (strike index key member) other ↔
      found ∈ members index other ∧ ¬ (key = other ∧ found = member) := by
  unfold strike
  cases listed : index.get? key with
  | none =>
      constructor
      · intro member'
        refine ⟨member', ?_⟩
        rintro ⟨rfl, rfl⟩
        simp [members, listed] at member'
      · exact And.left
  | some set =>
      by_cases same : key = other
      · subst same
        have known : members index key = set := by simp [members, listed]
        by_cases last : (set.erase member).isEmpty = true
        · have gone := isEmpty_iff.mp last found
          simp [members, last, listed] at gone ⊢
          exact gone
        · simp [members, last, listed]
      · by_cases last : (set.erase member).isEmpty = true <;> simp [members, last, same]

/-- The indexes list exactly the pairs that have an entry. -/
structure Mirrored (cache : MemoryCache) : Prop where
  byUser : ∀ user tenant,
    tenant ∈ members cache.byUser user ↔ (cache.entries.get? (user, tenant)).isSome
  byTenant : ∀ user tenant,
    user ∈ members cache.byTenant tenant ↔ (cache.entries.get? (user, tenant)).isSome

theorem mirrored_empty (lifetime : Int) : ({ lifetime } : MemoryCache).Mirrored := by
  constructor <;> intro user tenant <;> simp [members]

/-! ## Entries -/

theorem entries_drop (cache : MemoryCache) (user tenant : String) (pair : String × String) :
    (cache.drop user tenant).entries.get? pair =
      if (user, tenant) = pair then none else cache.entries.get? pair :=
  Table.get?_erase ..

theorem entries_set (cache : MemoryCache) (now : Int) (user tenant : String)
    (codes : List String) (pair : String × String) :
    (cache.set now user tenant codes).entries.get? pair =
      if (user, tenant) = pair then some ⟨now + cache.lifetime, .ofList codes⟩
      else cache.entries.get? pair :=
  Table.get?_put ..

theorem Mirrored.drop {cache : MemoryCache} (mirrored : cache.Mirrored) (user tenant : String) :
    (cache.drop user tenant).Mirrored := by
  constructor
  · intro other place
    rw [entries_drop, MemoryCache.drop, mem_members_strike, mirrored.byUser]
    by_cases same : user = other ∧ tenant = place
    · simp [same]
    · simp [same, eq_comm (a := place)]
  · intro other place
    rw [entries_drop, MemoryCache.drop, mem_members_strike, mirrored.byTenant]
    by_cases same : user = other ∧ tenant = place
    · simp [same]
    · have apart : ¬ (tenant = place ∧ other = user) := fun both => same ⟨both.2.symm, both.1⟩
      simp [same, apart]

theorem Mirrored.set {cache : MemoryCache} (mirrored : cache.Mirrored) (now : Int)
    (user tenant : String) (codes : List String) :
    (cache.set now user tenant codes).Mirrored := by
  constructor
  · intro other place
    rw [entries_set, MemoryCache.set, mem_members_enlist, mirrored.byUser]
    by_cases same : user = other ∧ tenant = place
    · simp [same]
    · simp [same, eq_comm (a := place)]
  · intro other place
    rw [entries_set, MemoryCache.set, mem_members_enlist, mirrored.byTenant]
    by_cases same : user = other ∧ tenant = place
    · simp [same]
    · have apart : ¬ (tenant = place ∧ other = user) := fun both => same ⟨both.2.symm, both.1⟩
      simp [same, apart]

/-- A lookup finds the entry and leaves the cache alone, finds no entry, or finds an expired entry
and drops it. -/
theorem get_cases (cache : MemoryCache) (now : Int) (user tenant : String) :
    (∃ entry, cache.entries.get? (user, tenant) = some entry ∧ now < entry.expiresAt ∧
      cache.get now user tenant = (some entry.codes, cache)) ∨
    (cache.entries.get? (user, tenant) = none ∧ cache.get now user tenant = (none, cache)) ∨
    (∃ entry, cache.entries.get? (user, tenant) = some entry ∧ entry.expiresAt ≤ now ∧
      cache.get now user tenant = (none, cache.drop user tenant)) := by
  unfold get
  cases found : cache.entries.get? (user, tenant) with
  | none => exact .inr (.inl ⟨rfl, rfl⟩)
  | some entry =>
      by_cases expired : entry.expiresAt ≤ now
      · exact .inr (.inr ⟨entry, rfl, expired, by simp [expired]⟩)
      · exact .inl ⟨entry, rfl, Int.not_le.mp expired, by simp [expired]⟩

/-! ## Invalidations -/

/-- Drops the entries of several pairs. -/
def dropAll (cache : MemoryCache) (pairs : List (String × String)) : MemoryCache :=
  pairs.foldl (fun cache pair => cache.drop pair.1 pair.2) cache

theorem invalidateUser_eq_dropAll (cache : MemoryCache) (user : String) :
    cache.invalidateUser user none =
      cache.dropAll ((members cache.byUser user).items.map fun tenant => (user, tenant)) := by
  simp [invalidateUser, dropAll, List.foldl_map]

theorem invalidateTenant_eq_dropAll (cache : MemoryCache) (tenant : String) :
    cache.invalidateTenant tenant =
      cache.dropAll ((members cache.byTenant tenant).items.map fun user => (user, tenant)) := by
  simp [invalidateTenant, dropAll, List.foldl_map]

theorem Mirrored.dropAll {cache : MemoryCache} (mirrored : cache.Mirrored)
    (pairs : List (String × String)) : (cache.dropAll pairs).Mirrored := by
  induction pairs generalizing cache with
  | nil => exact mirrored
  | cons pair pairs induction => exact induction (mirrored.drop pair.1 pair.2)

private theorem entries_dropAll (cache : MemoryCache) (pairs : List (String × String))
    (pair : String × String) :
    (cache.dropAll pairs).entries.get? pair =
      if pair ∈ pairs then none else cache.entries.get? pair := by
  induction pairs generalizing cache with
  | nil => simp [dropAll]
  | cons first pairs induction =>
      have step : (cache.dropAll (first :: pairs)).entries.get? pair =
          ((cache.drop first.1 first.2).dropAll pairs).entries.get? pair := rfl
      rw [step, induction, entries_drop]
      by_cases same : first = pair
      · simp [same]
      · simp [same, Ne.symm same]

theorem Mirrored.invalidate {cache : MemoryCache} (mirrored : cache.Mirrored)
    (request : Invalidation) : (cache.invalidate request).Mirrored := by
  cases request with
  | ofUser user tenant =>
      cases tenant with
      | none =>
          rw [MemoryCache.invalidate, invalidateUser_eq_dropAll]
          exact mirrored.dropAll _
      | some tenant => exact mirrored.drop user tenant
  | ofTenant tenant =>
      rw [MemoryCache.invalidate, invalidateTenant_eq_dropAll]
      exact mirrored.dropAll _

theorem entries_dropAll_of_listed {cache : MemoryCache} {pairs : List (String × String)}
    {covered : Bool} {pair : String × String}
    (listed : pair ∈ pairs ↔ covered = true ∧ (cache.entries.get? pair).isSome = true) :
    (cache.dropAll pairs).entries.get? pair =
      if covered then none else cache.entries.get? pair := by
  rw [entries_dropAll]
  by_cases present : (cache.entries.get? pair).isSome = true
  · simp [listed, present]
  · rw [if_neg fun member => present (listed.mp member).2]
    rw [Option.not_isSome_iff_eq_none] at present
    simp [present]

/-- An invalidation drops exactly the entries of the pairs that it covers. -/
theorem Mirrored.entries_invalidate {cache : MemoryCache} (mirrored : cache.Mirrored)
    (request : Invalidation) (pair : String × String) :
    (cache.invalidate request).entries.get? pair =
      if request.covers pair then none else cache.entries.get? pair := by
  obtain ⟨owner, place⟩ := pair
  cases request with
  | ofUser user tenant =>
      cases tenant with
      | none =>
          rw [MemoryCache.invalidate, invalidateUser_eq_dropAll]
          apply entries_dropAll_of_listed
          rw [← mirrored.byUser]
          constructor
          · intro member
            obtain ⟨tenant, listed, equality⟩ := List.mem_map.mp member
            cases equality
            exact ⟨by simp [Invalidation.covers], listed⟩
          · rintro ⟨covered, listed⟩
            have own : owner = user := by simpa [Invalidation.covers] using covered
            subst own
            exact List.mem_map.mpr ⟨place, listed, rfl⟩
      | some tenant =>
          rw [MemoryCache.invalidate, invalidateUser, entries_drop]
          have covers : (Invalidation.ofUser user (some tenant)).covers (owner, place) =
              decide ((owner, place) = (user, tenant)) := rfl
          by_cases same : (user, tenant) = (owner, place)
          · rw [covers, if_pos same, if_pos (decide_eq_true same.symm)]
          · rw [covers, if_neg same, if_neg fun covered => same (of_decide_eq_true covered).symm]
  | ofTenant tenant =>
      rw [MemoryCache.invalidate, invalidateTenant_eq_dropAll]
      apply entries_dropAll_of_listed
      rw [← mirrored.byTenant]
      constructor
      · intro member
        obtain ⟨user, listed, equality⟩ := List.mem_map.mp member
        cases equality
        exact ⟨by simp [Invalidation.covers], listed⟩
      · rintro ⟨covered, listed⟩
        have here : place = tenant := by simpa [Invalidation.covers] using covered
        subst here
        exact List.mem_map.mpr ⟨owner, listed, rfl⟩

/-! ## Entries that tell the truth -/

/-- The entries of all pairs that are not stale tell the truth. -/
structure Coherent (truth : String → String → TextSet) (stale : String × String → Prop)
    (cache : MemoryCache) : Prop where
  mirrored : cache.Mirrored
  truthful : ∀ user tenant entry, cache.entries.get? (user, tenant) = some entry →
    ¬ stale (user, tenant) → entry.codes = truth user tenant

section Coherent

variable {truth : String → String → TextSet} {stale : String × String → Prop} {cache : MemoryCache}

theorem coherent_empty (lifetime : Int) :
    ({ lifetime } : MemoryCache).Coherent truth stale :=
  ⟨mirrored_empty lifetime, by simp⟩

/-- A lookup keeps the cache coherent, and what it finds for a pair that is not stale is the
truth. -/
theorem Coherent.get (coherent : cache.Coherent truth stale) (now : Int) (user tenant : String) :
    (cache.get now user tenant).2.Coherent truth stale ∧
      ∀ codes, (cache.get now user tenant).1 = some codes → ¬ stale (user, tenant) →
        codes = truth user tenant := by
  rcases get_cases cache now user tenant with
    ⟨entry, present, _, found⟩ | ⟨_, missed⟩ | ⟨_, _, _, dropped⟩
  · rw [found]
    refine ⟨coherent, ?_⟩
    rintro codes equality fresh
    obtain rfl : entry.codes = codes := Option.some.inj equality
    exact coherent.truthful user tenant entry present fresh
  · rw [missed]
    exact ⟨coherent, by simp⟩
  · rw [dropped]
    refine ⟨⟨coherent.mirrored.drop user tenant, ?_⟩, by simp⟩
    intro other place entry present fresh
    rw [entries_drop] at present
    split at present
    · cases present
    · exact coherent.truthful other place entry present fresh

theorem Coherent.set (coherent : cache.Coherent truth stale) (now : Int) (user tenant : String) :
    (cache.set now user tenant (truth user tenant).items).Coherent truth stale := by
  refine ⟨coherent.mirrored.set now user tenant _, ?_⟩
  intro other place entry present fresh
  rw [entries_set] at present
  split at present
  · next same =>
    cases same
    cases present
    exact TextSet.ofList_items _
  · exact coherent.truthful other place entry present fresh

/-- An invalidation makes the pairs that it covers fresh again. -/
theorem Coherent.invalidate (coherent : cache.Coherent truth stale) (request : Invalidation) :
    (cache.invalidate request).Coherent truth
      fun pair => stale pair ∧ request.covers pair = false := by
  refine ⟨coherent.mirrored.invalidate request, ?_⟩
  intro user tenant entry present fresh
  rw [coherent.mirrored.entries_invalidate] at present
  split at present
  · cases present
  · next uncovered =>
    apply coherent.truthful user tenant entry present
    intro known
    exact fresh ⟨known, Bool.eq_false_iff.mpr uncovered⟩

/-- A change of the truth makes the pairs stale that it concerns. -/
theorem Coherent.change (coherent : cache.Coherent truth stale)
    (other : String → String → TextSet) :
    cache.Coherent other fun pair => stale pair ∨ truth pair.1 pair.2 ≠ other pair.1 pair.2 := by
  refine ⟨coherent.mirrored, ?_⟩
  intro user tenant entry present fresh
  have unstale : ¬ stale (user, tenant) := fun known => fresh (.inl known)
  have unchanged : truth user tenant = other user tenant :=
    Decidable.byContradiction fun changed => fresh (.inr changed)
  rw [coherent.truthful user tenant entry present unstale, unchanged]

end Coherent

end MemoryCache

end AccessGate
