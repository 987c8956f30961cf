import AccessGate.Proofs.Cache.Trace

/-!
# The indexes mirror the entries

Whatever is done to the cache, and whatever time its clock tells, a pair has an entry exactly if the
index by user lists it, and exactly if the index by tenant does.  A key leaves an index together with
its last member, so that users and tenants without entries leave nothing behind, and dropping a pair
that has no entry changes nothing at all.
-/

namespace AccessGate

/-- A step takes an entry away: it invalidates it, or looks it up once it has expired. -/
def CacheStep.TakesAway (step : CacheStep) (pair : String × String) (entry : CacheEntry) : Prop :=
  match step.use with
  | .get user tenant => (user, tenant) = pair ∧ entry.expiresAt ≤ step.now
  | .set _ _ _ => False
  | .invalidate request => request.covers pair = true

namespace MemoryCache

/-- A state that the cache reaches from empty.  The clock may go back between the steps. -/
inductive Reached (lifetime : Int) : MemoryCache → Prop where
  | start : Reached lifetime { lifetime }
  | step {cache : MemoryCache} (step : CacheStep) :
      Reached lifetime cache → Reached lifetime (cache.after step)

/-- Steps that set no entry of the given pairs and take all entries of theirs away. -/
structure Clears (steps : List CacheStep) (concerned : String × String → Prop)
    (cache : MemoryCache) : Prop where
  unset : ∀ step ∈ steps, ∀ pair, concerned pair → ∀ codes, step.use ≠ .set pair.1 pair.2 codes
  takenAway : ∀ pair entry, concerned pair → cache.entries.get? pair = some entry →
    ∃ step ∈ steps, step.TakesAway pair entry

/-! ## Indexes without empty sets -/

/-- An index lists at least one member for each of its keys. -/
def Filled (index : Table String TextSet) : Prop :=
  ∀ key set, index.get? key = some set → set.isEmpty = false

section Filled

variable {index : Table String TextSet} {key member : String}

theorem filled_empty : Filled .empty := by
  intro key set found
  cases found

theorem Filled.enlist (filled : Filled index) (key member : String) :
    Filled (enlist index key member) := by
  intro other set found
  rw [MemoryCache.enlist, Table.get?_put] at found
  split at found
  · obtain rfl := Option.some.inj found
    apply Bool.eq_false_iff.mpr
    intro none
    exact isEmpty_iff.mp none member (by simp)
  · exact filled other set found

theorem Filled.strike (filled : Filled index) (key member : String) :
    Filled (strike index key member) := by
  intro other set found
  unfold MemoryCache.strike at found
  split at found
  · exact filled other set found
  · dsimp only at found
    split at found
    · rw [Table.get?_erase] at found
      split at found
      · cases found
      · exact filled other set found
    · next remains =>
      rw [Table.get?_put] at found
      split at found
      · obtain rfl := Option.some.inj found
        exact Bool.eq_false_iff.mpr remains
      · exact filled other set found

theorem Filled.get?_eq_none (filled : Filled index)
    (unlisted : ∀ member, ¬ member ∈ members index key) : index.get? key = none := by
  cases found : index.get? key with
  | none => rfl
  | some set =>
      have listed : members index key = set := by rw [members, found, Option.getD_some]
      rw [listed] at unlisted
      have remains := filled key set found
      rw [isEmpty_iff.mpr unlisted] at remains
      cases remains

theorem Filled.strike_of_unlisted (filled : Filled index)
    (unlisted : ¬ member ∈ members index key) : MemoryCache.strike index key member = index := by
  unfold MemoryCache.strike
  cases found : index.get? key with
  | none => rfl
  | some set =>
      have listed : members index key = set := by rw [members, found, Option.getD_some]
      rw [listed] at unlisted
      simp only [TextSet.erase_of_not_mem unlisted, filled key set found, Bool.false_eq_true,
        if_false]
      exact Table.put_of_get? found

end Filled

/-! ## Steps -/

/-- The indexes list exactly the pairs that have an entry, and no key without members. -/
structure Indexed (cache : MemoryCache) : Prop where
  mirrored : cache.Mirrored
  users : Filled cache.byUser
  tenants : Filled cache.byTenant

private theorem indexed_empty (lifetime : Int) : ({ lifetime } : MemoryCache).Indexed :=
  ⟨mirrored_empty lifetime, filled_empty, filled_empty⟩

section Indexed

variable {cache : MemoryCache}

theorem Indexed.drop (indexed : cache.Indexed) (user tenant : String) :
    (cache.drop user tenant).Indexed where
  mirrored := indexed.mirrored.drop user tenant
  users := indexed.users.strike user tenant
  tenants := indexed.tenants.strike tenant user

theorem Indexed.set (indexed : cache.Indexed) (now : Int) (user tenant : String)
    (codes : List String) : (cache.set now user tenant codes).Indexed where
  mirrored := indexed.mirrored.set now user tenant codes
  users := indexed.users.enlist user tenant
  tenants := indexed.tenants.enlist tenant user

theorem Indexed.get (indexed : cache.Indexed) (now : Int) (user tenant : String) :
    (cache.get now user tenant).2.Indexed := by
  rcases get_cases cache now user tenant with
    ⟨_, _, _, found⟩ | ⟨_, missed⟩ | ⟨_, _, _, dropped⟩
  · rw [found]
    exact indexed
  · rw [missed]
    exact indexed
  · rw [dropped]
    exact indexed.drop user tenant

theorem Indexed.dropAll (indexed : cache.Indexed) (pairs : List (String × String)) :
    (cache.dropAll pairs).Indexed := by
  induction pairs generalizing cache with
  | nil => exact indexed
  | cons pair pairs induction => exact induction (indexed.drop pair.1 pair.2)

theorem Indexed.invalidate (indexed : cache.Indexed) (request : Invalidation) :
    (cache.invalidate request).Indexed := by
  cases request with
  | ofUser user tenant =>
      cases tenant with
      | none =>
          rw [MemoryCache.invalidate, invalidateUser_eq_dropAll]
          exact indexed.dropAll _
      | some tenant => exact indexed.drop user tenant
  | ofTenant tenant =>
      rw [MemoryCache.invalidate, invalidateTenant_eq_dropAll]
      exact indexed.dropAll _

theorem Indexed.after (indexed : cache.Indexed) (step : CacheStep) :
    (cache.after step).Indexed := by
  obtain ⟨now, use⟩ := step
  cases use with
  | get user tenant => exact indexed.get now user tenant
  | set user tenant codes => exact indexed.set now user tenant codes
  | invalidate request => exact indexed.invalidate request

theorem Indexed.byUser_eq_none_iff (indexed : cache.Indexed) (user : String) :
    cache.byUser.get? user = none ↔ ∀ tenant, cache.entries.get? (user, tenant) = none := by
  constructor
  · intro gone tenant
    rw [← Option.not_isSome_iff_eq_none, ← indexed.mirrored.byUser, members, gone]
    exact TextSet.mem_empty tenant
  · intro absent
    apply indexed.users.get?_eq_none
    intro tenant
    rw [indexed.mirrored.byUser, absent tenant]
    exact Bool.false_ne_true

theorem Indexed.byTenant_eq_none_iff (indexed : cache.Indexed) (tenant : String) :
    cache.byTenant.get? tenant = none ↔ ∀ user, cache.entries.get? (user, tenant) = none := by
  constructor
  · intro gone user
    rw [← Option.not_isSome_iff_eq_none, ← indexed.mirrored.byTenant, members, gone]
    exact TextSet.mem_empty user
  · intro absent
    apply indexed.tenants.get?_eq_none
    intro user
    rw [indexed.mirrored.byTenant, absent user]
    exact Bool.false_ne_true

theorem Indexed.drop_of_absent (indexed : cache.Indexed) {user tenant : String}
    (absent : cache.entries.get? (user, tenant) = none) : cache.drop user tenant = cache := by
  have byUser : strike cache.byUser user tenant = cache.byUser := by
    apply indexed.users.strike_of_unlisted
    rw [indexed.mirrored.byUser, absent]
    exact Bool.false_ne_true
  have byTenant : strike cache.byTenant tenant user = cache.byTenant := by
    apply indexed.tenants.strike_of_unlisted
    rw [indexed.mirrored.byTenant, absent]
    exact Bool.false_ne_true
  rw [MemoryCache.drop, byUser, byTenant, Table.erase_of_get? absent]

end Indexed

/-! ## Runs -/

theorem Reached.indexed {lifetime : Int} {cache : MemoryCache} (reached : Reached lifetime cache) :
    cache.Indexed := by
  induction reached with
  | start => exact indexed_empty lifetime
  | step step _ induction => exact induction.after step

def afterAll (cache : MemoryCache) (steps : List CacheStep) : MemoryCache :=
  steps.foldl after cache

theorem Indexed.afterAll {cache : MemoryCache} (indexed : cache.Indexed) (steps : List CacheStep) :
    (cache.afterAll steps).Indexed := by
  induction steps generalizing cache with
  | nil => exact indexed
  | cons step steps induction => exact induction (indexed.after step)

/-- What stands for a pair after a step that does not set it stood before, and the step did not take
it away. -/
theorem Indexed.entries_after {cache : MemoryCache} (indexed : cache.Indexed) {step : CacheStep}
    {pair : String × String} {entry : CacheEntry}
    (unset : ∀ codes, step.use ≠ .set pair.1 pair.2 codes)
    (present : (cache.after step).entries.get? pair = some entry) :
    cache.entries.get? pair = some entry ∧ ¬ step.TakesAway pair entry := by
  obtain ⟨now, use⟩ := step
  cases use with
  | get user tenant =>
      change (cache.get now user tenant).2.entries.get? pair = some entry at present
      rcases get_cases cache now user tenant with
        ⟨found, standing, live, answer⟩ | ⟨absent, answer⟩ | ⟨found, standing, expired, answer⟩
      · rw [answer] at present
        refine ⟨present, ?_⟩
        rintro ⟨rfl, expired⟩
        obtain rfl := Option.some.inj (standing.symm.trans present)
        exact absurd live (Int.not_lt.mpr expired)
      · rw [answer] at present
        refine ⟨present, ?_⟩
        rintro ⟨rfl, _⟩
        rw [absent] at present
        cases present
      · rw [answer, entries_drop] at present
        split at present
        · cases present
        · next other => exact ⟨present, fun both => other both.1⟩
  | set user tenant codes =>
      change (cache.set now user tenant codes).entries.get? pair = some entry at present
      rw [entries_set] at present
      split at present
      · next same =>
        subst same
        exact absurd rfl (unset codes)
      · exact ⟨present, id⟩
  | invalidate request =>
      change (cache.invalidate request).entries.get? pair = some entry at present
      rw [indexed.mirrored.entries_invalidate] at present
      split at present
      · cases present
      · next uncovered => exact ⟨present, uncovered⟩

/-- What stands for a pair after steps that do not set it stood before, and none of the steps took it
away. -/
theorem Indexed.entries_afterAll {cache : MemoryCache} (indexed : cache.Indexed)
    {steps : List CacheStep} {pair : String × String} {entry : CacheEntry}
    (unset : ∀ step ∈ steps, ∀ codes, step.use ≠ .set pair.1 pair.2 codes)
    (present : (cache.afterAll steps).entries.get? pair = some entry) :
    cache.entries.get? pair = some entry ∧ ∀ step ∈ steps, ¬ step.TakesAway pair entry := by
  induction steps generalizing cache with
  | nil => exact ⟨present, by simp⟩
  | cons step steps induction =>
      rw [List.forall_mem_cons] at unset ⊢
      obtain ⟨between, spared⟩ := induction (indexed.after step) unset.2 present
      obtain ⟨before, kept⟩ := indexed.entries_after unset.1 between
      exact ⟨before, kept, spared⟩

theorem Clears.entries_eq_none {cache : MemoryCache} {steps : List CacheStep}
    {concerned : String × String → Prop} (clears : Clears steps concerned cache)
    (indexed : cache.Indexed) {pair : String × String} (concerns : concerned pair) :
    (cache.afterAll steps).entries.get? pair = none := by
  apply Option.eq_none_iff_forall_ne_some.mpr
  intro entry present
  obtain ⟨before, spared⟩ := indexed.entries_afterAll
    (fun step member => clears.unset step member pair concerns) present
  obtain ⟨step, member, takes⟩ := clears.takenAway pair entry concerns before
  exact spared step member takes

/-- In every state that the cache reaches, the entries and both indexes list the same pairs, no index
holds an empty set, and dropping a pair without an entry changes nothing.  Once all entries of a
user or of a tenant have been invalidated or found expired, no index is left for it. -/
theorem Reached.indexes_mirror_entries {lifetime : Int} {cache : MemoryCache}
    (reached : Reached lifetime cache) :
    (∀ user tenant,
      (tenant ∈ members cache.byUser user ↔ (cache.entries.get? (user, tenant)).isSome) ∧
      ((cache.entries.get? (user, tenant)).isSome ↔ user ∈ members cache.byTenant tenant) ∧
      (cache.entries.get? (user, tenant) = none → cache.drop user tenant = cache)) ∧
    Filled cache.byUser ∧ Filled cache.byTenant ∧
    (∀ user steps, Clears steps (fun pair => pair.1 = user) cache →
      (cache.afterAll steps).byUser.get? user = none) ∧
    ∀ tenant steps, Clears steps (fun pair => pair.2 = tenant) cache →
      (cache.afterAll steps).byTenant.get? tenant = none := by
  have indexed := reached.indexed
  refine ⟨?_, indexed.users, indexed.tenants, ?_, ?_⟩
  · intro user tenant
    exact ⟨indexed.mirrored.byUser user tenant, (indexed.mirrored.byTenant user tenant).symm,
      indexed.drop_of_absent⟩
  · intro user steps clears
    rw [(indexed.afterAll steps).byUser_eq_none_iff]
    intro tenant
    exact clears.entries_eq_none indexed rfl
  · intro tenant steps clears
    rw [(indexed.afterAll steps).byTenant_eq_none_iff]
    intro user
    exact clears.entries_eq_none indexed rfl

/-- Two users share a tenant, and the clock goes back before the entry of one of them is found
expired: the user leaves no index behind, and the tenant still lists the other one. -/
theorem Reached.indexes_mirror_entries_of_overlap :
    ∃ cache, Reached 900 cache ∧ "bob" ∈ members cache.byTenant "t1" ∧
      cache.byTenant.get? "t2" = none ∧ cache.drop "ann" "t1" = cache ∧
      (cache.afterAll [⟨950, .get "bob" "t1"⟩]).byUser.get? "bob" = none := by
  have empty : Reached 900 _ := .start
  have first := empty.step ⟨100, .set "ann" "t1" ["shop.catalog.read"]⟩
  have second := first.step ⟨50, .set "bob" "t1" []⟩
  have third := second.step ⟨20, .set "ann" "t2" []⟩
  have fourth := third.step ⟨1000, .get "ann" "t1"⟩
  have reached := fourth.step ⟨0, .invalidate (.ofTenant "t2")⟩
  obtain ⟨mirrored, _, _, userGone, _⟩ := reached.indexes_mirror_entries
  refine ⟨_, reached, (mirrored "bob" "t1").2.1.mp rfl, rfl, (mirrored "ann" "t1").2.2 rfl, ?_⟩
  apply userGone
  constructor
  · simp
  · intro pair entry _ present
    have only := List.mem_singleton.mp ((Table.get?_eq_some_iff _ pair entry).mp present)
    obtain ⟨rfl, rfl⟩ := Prod.mk.inj only
    exact ⟨_, List.mem_singleton_self _, rfl, Int.le_refl _⟩

end MemoryCache

end AccessGate
