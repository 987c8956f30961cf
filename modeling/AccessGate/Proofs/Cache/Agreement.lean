import AccessGate.Cache.Permissions
import AccessGate.Proofs.Cache.Shared

/-!
# The two caches agree

Used with plain names, on a store that refuses no command and while the clock stands still, the
cache in the shared store cannot be told from the cache in memory.  The relation between the two
says that every stored text belongs to a plain pair, and that a plain pair has a text exactly when
it has an entry, which the text then lists.
-/

namespace AccessGate

/-- What a use of a permission cache tells. -/
inductive CacheAnswer where
  | found (codes : Except NestedTooDeep (Option TextSet))
  | stored
  | dropped (outcome : Except Disconnected Unit)

namespace PermissionCache

def answer (cache : PermissionCache) (now : Int) : CacheUse → CacheAnswer × PermissionCache
  | .get user tenant => (cache.get now user tenant).map .found id
  | .set user tenant codes => (.stored, cache.set now user tenant codes)
  | .invalidate (.ofUser user tenant) => (cache.invalidateUser user tenant).map .dropped id
  | .invalidate (.ofTenant tenant) => (cache.invalidateTenant tenant).map .dropped id

/-- Uses a cache several times while the clock stands still. -/
def answers (cache : PermissionCache) (now : Int) :
    List CacheUse → List CacheAnswer × PermissionCache
  | [] => ([], cache)
  | use :: uses =>
      let (first, cache) := cache.answer now use
      (cache.answers now uses).map (first :: ·) id

private theorem answer_invalidate_memory (cache : MemoryCache) (now : Int)
    (request : Invalidation) :
    (memory cache).answer now (.invalidate request) =
      (.dropped (.ok ()), memory (cache.invalidate request)) := by
  cases request <;> rfl

private theorem answer_invalidate_shared (cache : SharedCache) (now : Int)
    (request : Invalidation) :
    (shared cache).answer now (.invalidate request) =
      (.dropped (cache.invalidate request).1, shared (cache.invalidate request).2) := by
  cases request <;> rfl

end PermissionCache

def IsPlainPair (pair : String × String) : Prop :=
  IsPlain pair.1 ∧ IsPlain pair.2

/-- A use that mentions plain names only. -/
def CacheUse.IsPlain : CacheUse → Prop
  | get user tenant => IsPlainPair (user, tenant)
  | set user tenant _ => IsPlainPair (user, tenant)
  | invalidate request => request.IsPlain

theorem IsPlainPair.cacheKey_eq_iff {first : String × String} (plain : IsPlainPair first)
    (second : String × String) :
    cacheKey first.1 first.2 = cacheKey second.1 second.2 ↔ first = second := by
  rw [AccessGate.cacheKey_eq_iff]
  constructor
  · intro shares
    exact (shares.eq_of_plain plain.1 plain.2).symm
  · intro same
    exact .inl same

/-- A text is what the shared cache stores for an entry. -/
def CacheEntry.Lists (entry : CacheEntry) (text : String) : Prop :=
  SharedCache.decode text = .ok (some entry.codes)

/-- The shared cache stores the entries of the cache in memory, all of them for plain pairs and none
of them expired. -/
structure Agree (now : Int) (memory : MemoryCache) (shared : SharedCache) : Prop where
  mirrored : memory.Mirrored
  reliable : shared.store.IsReliable
  lasting : 0 < memory.lifetime
  live : ∀ pair entry, memory.entries.get? pair = some entry →
    IsPlainPair pair ∧ now < entry.expiresAt
  known : ∀ key text, shared.store.entries.get? key = some text →
    ∃ pair, IsPlainPair pair ∧ key = cacheKey pair.1 pair.2
  told : ∀ pair, IsPlainPair pair →
    Option.Rel CacheEntry.Lists (memory.entries.get? pair)
      (shared.store.entries.get? (cacheKey pair.1 pair.2))

namespace Agree

open PermissionCache

variable {now : Int} {memory : MemoryCache} {shared : SharedCache}

theorem start (now : Int) {lifetime : Int} (lasting : 0 < lifetime) :
    Agree now { lifetime } { store := {}, lifetime } where
  mirrored := MemoryCache.mirrored_empty lifetime
  reliable _ _ := rfl
  lasting := lasting
  live _ _ found := by cases found
  known _ _ found := by cases found
  told _ _ := .none

theorem mem_keys_iff (agree : Agree now memory shared) (key : String) :
    key ∈ shared.store.entries.keys ↔
      ∃ pair ∈ memory.entries.keys, key = cacheKey pair.1 pair.2 := by
  rw [Table.mem_keys_iff]
  constructor
  · intro stored
    obtain ⟨text, stored⟩ := stored
    obtain ⟨pair, plain, rfl⟩ := agree.known key text stored
    have told := agree.told pair plain
    rw [stored] at told
    cases present : memory.entries.get? pair with
    | none =>
        rw [present] at told
        cases told
    | some entry => exact ⟨pair, (Table.mem_keys_iff _ pair).mpr ⟨entry, present⟩, rfl⟩
  · intro listed
    obtain ⟨pair, member, rfl⟩ := listed
    obtain ⟨entry, present⟩ := (Table.mem_keys_iff _ pair).mp member
    have told := agree.told pair (agree.live pair entry present).1
    rw [present] at told
    cases stored : shared.store.entries.get? (cacheKey pair.1 pair.2) with
    | none =>
        rw [stored] at told
        cases told
    | some text => exact ⟨text, rfl⟩

theorem lists (agree : Agree now memory shared) {pair : String × String} {entry : CacheEntry}
    (present : memory.entries.get? pair = some entry) :
    ∃ text, shared.store.entries.get? (cacheKey pair.1 pair.2) = some text ∧
      entry.Lists text := by
  have told := agree.told pair (agree.live pair entry present).1
  rw [present] at told
  cases stored : shared.store.entries.get? (cacheKey pair.1 pair.2) with
  | none =>
      rw [stored] at told
      cases told
  | some text =>
      rw [stored] at told
      cases told with
      | some lists => exact ⟨text, rfl, lists⟩

/-! ## Uses -/

/-- Agreement depends on the entries and on the stored texts alone. -/
theorem keep (agree : Agree now memory shared) {after : SharedCache}
    (reliable : after.store.IsReliable)
    (same : after.store.entries = shared.store.entries) : Agree now memory after where
  mirrored := agree.mirrored
  reliable := reliable
  lasting := agree.lasting
  live := agree.live
  known := same ▸ agree.known
  told := same ▸ agree.told

/-- A lookup finds the same codes in both caches and leaves them in agreement. -/
theorem get (agree : Agree now memory shared) {user tenant : String}
    (plain : IsPlainPair (user, tenant)) :
    (shared.get user tenant).1 = .ok (memory.get now user tenant).1 ∧
      Agree now (memory.get now user tenant).2 (shared.get user tenant).2 := by
  have told : Option.Rel CacheEntry.Lists (memory.entries.get? (user, tenant))
      (shared.store.entries.get? (cacheKey user tenant)) := agree.told (user, tenant) plain
  rw [SharedCache.get_of_reliable agree.reliable]
  rcases memory.get_cases now user tenant with
    ⟨entry, present, _, found⟩ | ⟨absent, missed⟩ | ⟨entry, present, expired, _⟩
  · obtain ⟨text, stored, lists⟩ := agree.lists present
    rw [stored, found]
    exact ⟨lists, agree.keep agree.reliable rfl⟩
  · rw [absent] at told
    rw [missed]
    refine ⟨?_, agree.keep agree.reliable rfl⟩
    cases stored : shared.store.entries.get? (cacheKey user tenant) with
    | none => rfl
    | some text =>
        rw [stored] at told
        cases told
  · have live := (agree.live (user, tenant) entry present).2
    omega

theorem set (agree : Agree now memory shared) {user tenant : String}
    (plain : IsPlainPair (user, tenant)) (codes : List String) :
    Agree now (memory.set now user tenant codes) (shared.set user tenant codes) := by
  obtain ⟨reliable, stored⟩ := SharedCache.set_of_reliable agree.reliable user tenant codes
  refine ⟨agree.mirrored.set now user tenant codes, reliable, agree.lasting, ?_, ?_, ?_⟩
  · intro pair entry found
    rw [MemoryCache.entries_set] at found
    split at found
    · next same =>
      cases same
      cases found
      exact ⟨plain, Int.lt_add_of_pos_right now agree.lasting⟩
    · exact agree.live pair entry found
  · intro key text found
    rw [stored, Table.get?_put] at found
    split at found
    · next same => exact ⟨(user, tenant), plain, same.symm⟩
    · exact agree.known key text found
  · intro pair plainPair
    have iff : cacheKey user tenant = cacheKey pair.1 pair.2 ↔ (user, tenant) = pair :=
      plain.cacheKey_eq_iff pair
    rw [MemoryCache.entries_set, stored, Table.get?_put]
    by_cases same : (user, tenant) = pair
    · rw [if_pos same, if_pos (iff.mpr same)]
      exact .some (SharedCache.decode_encode codes)
    · rw [if_neg same, if_neg (mt iff.mp same)]
      exact agree.told pair plainPair

theorem invalidate (agree : Agree now memory shared) {request : Invalidation}
    (plain : request.IsPlain) :
    (shared.invalidate request).1 = .ok () ∧
      Agree now (memory.invalidate request) (shared.invalidate request).2 := by
  obtain ⟨succeeds, reliable, gone, kept⟩ :=
    SharedCache.invalidate_of_reliable agree.reliable request
  refine ⟨succeeds, agree.mirrored.invalidate request, reliable, ?_, ?_, ?_, ?_⟩
  · rw [MemoryCache.lifetime_invalidate]
    exact agree.lasting
  · intro pair entry found
    rw [agree.mirrored.entries_invalidate] at found
    split at found
    · cases found
    · exact agree.live pair entry found
  · intro key text found
    by_cases struck : request.Strikes key
    · rw [gone key struck] at found
      cases found
    · rw [kept key struck] at found
      exact agree.known key text found
  · -- Among plain names the keys that are struck are those of the pairs that are covered.
    intro pair plainPair
    have iff := Invalidation.strikes_cacheKey_iff_covers plain plainPair.1 plainPair.2
    rw [agree.mirrored.entries_invalidate]
    by_cases covered : request.covers pair = true
    · rw [if_pos covered, gone _ (iff.mpr covered)]
      exact .none
    · rw [if_neg covered, kept _ (mt iff.mp covered)]
      exact agree.told pair plainPair

/-! ## Runs -/

theorem answer (agree : Agree now memory shared) {use : CacheUse} (plain : use.IsPlain) :
    ∃ told memory' shared',
      (PermissionCache.memory memory).answer now use = (told, .memory memory') ∧
      (PermissionCache.shared shared).answer now use = (told, .shared shared') ∧
      Agree now memory' shared' := by
  cases use with
  | get user tenant =>
      obtain ⟨same, after⟩ := agree.get plain
      refine ⟨.found (.ok (memory.get now user tenant).1), _, _, rfl, ?_, after⟩
      rw [← same]
      rfl
  | set user tenant codes => exact ⟨.stored, _, _, rfl, rfl, agree.set plain codes⟩
  | invalidate request =>
      obtain ⟨succeeds, after⟩ := agree.invalidate plain
      refine ⟨.dropped (.ok ()), _, _, answer_invalidate_memory memory now request, ?_, after⟩
      rw [answer_invalidate_shared, succeeds]

theorem answers (agree : Agree now memory shared) {uses : List CacheUse}
    (plain : ∀ use ∈ uses, use.IsPlain) :
    ∃ told memory' shared',
      (PermissionCache.memory memory).answers now uses = (told, .memory memory') ∧
      (PermissionCache.shared shared).answers now uses = (told, .shared shared') ∧
      Agree now memory' shared' := by
  induction uses generalizing memory shared with
  | nil => exact ⟨[], memory, shared, rfl, rfl, agree⟩
  | cons use uses induction =>
      obtain ⟨first, memory₁, shared₁, inMemory, inStore, after⟩ :=
        agree.answer (plain use List.mem_cons_self)
      obtain ⟨told, memory₂, shared₂, restInMemory, restInStore, last⟩ :=
        induction after fun other later => plain other (List.mem_cons_of_mem _ later)
      refine ⟨first :: told, memory₂, shared₂, ?_, ?_, last⟩
      · simp only [PermissionCache.answers, inMemory, restInMemory, Prod.map, id]
      · simp only [PermissionCache.answers, inStore, restInStore, Prod.map, id]

end Agree

namespace PermissionCache

/-- Two caches that start empty and are used in the same way, with plain names and while the clock
stands still, answer alike; and then the keys in the shared store are those of the entries in
memory, and every text lists the codes of its entry. -/
theorem answers_agree (now lifetime : Int) (lasting : 0 < lifetime) (uses : List CacheUse)
    (plain : ∀ use ∈ uses, use.IsPlain) :
    ∃ told inMemory inStore,
      (memory { lifetime }).answers now uses = (told, memory inMemory) ∧
      (shared { store := {}, lifetime }).answers now uses = (told, shared inStore) ∧
      (∀ key, key ∈ inStore.store.entries.keys ↔
        ∃ pair ∈ inMemory.entries.keys, key = cacheKey pair.1 pair.2) ∧
      ∀ pair entry, inMemory.entries.get? pair = some entry →
        ∃ text, inStore.store.entries.get? (cacheKey pair.1 pair.2) = some text ∧
          SharedCache.decode text = .ok (some entry.codes) := by
  obtain ⟨told, inMemory, inStore, toldOfMemory, toldOfStore, agree⟩ :=
    (Agree.start now lasting).answers plain
  refine ⟨told, inMemory, inStore, toldOfMemory, toldOfStore, agree.mem_keys_iff, ?_⟩
  intro pair entry present
  exact agree.lists present

/-- Two users of two tenants, of whom one is dropped and one has codes with signs that the stored
text has to escape. -/
theorem answers_agree_of_escapes :
    ∃ uses told inMemory inStore,
      uses = [.set "ann" "t1" ["say \"😀\"\n", "say \"😀\"\n"], .set "bob" "t2" ["b"],
        .invalidate (.ofUser "bob" none), .get "ann" "t1", .get "bob" "t2"] ∧
      (memory { lifetime := 900 }).answers 0 uses = (told, memory inMemory) ∧
      (shared { store := {}, lifetime := 900 }).answers 0 uses = (told, shared inStore) ∧
      told = [.stored, .stored, .dropped (.ok ()),
        .found (.ok (some (.ofList ["say \"😀\"\n"]))), .found (.ok none)] := by
  have ann : IsPlain "ann" := ⟨by decide, by decide⟩
  have bob : IsPlain "bob" := ⟨by decide, by decide⟩
  have first : IsPlain "t1" := ⟨by decide, by decide⟩
  have second : IsPlain "t2" := ⟨by decide, by decide⟩
  let uses : List CacheUse :=
    [.set "ann" "t1" ["say \"😀\"\n", "say \"😀\"\n"], .set "bob" "t2" ["b"],
      .invalidate (.ofUser "bob" none), .get "ann" "t1", .get "bob" "t2"]
  have plain : ∀ use ∈ uses, use.IsPlain := by
    intro use member
    simp only [uses, List.mem_cons, List.not_mem_nil, or_false] at member
    rcases member with rfl | rfl | rfl | rfl | rfl
    · exact ⟨ann, first⟩
    · exact ⟨bob, second⟩
    · exact bob
    · exact ⟨ann, first⟩
    · exact ⟨bob, second⟩
  obtain ⟨told, inMemory, inStore, toldOfMemory, toldOfStore, _⟩ :=
    answers_agree 0 900 (by decide) uses plain
  refine ⟨uses, told, inMemory, inStore, rfl, toldOfMemory, toldOfStore, ?_⟩
  exact (congrArg Prod.fst toldOfMemory).symm

end PermissionCache

end AccessGate
