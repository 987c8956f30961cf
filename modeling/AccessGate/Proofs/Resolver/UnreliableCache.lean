import AccessGate.Proofs.Cache.Shared
import AccessGate.Proofs.Resolver.Run

/-!
# The resolver on an unreliable cache

The shared cache may fail any of its commands, and other programs may leave texts under its keys
that are no lists of codes.  Neither changes an answer: a lookup that fails or finds such a text
counts as a miss, and whatever is written is the full set of codes.  The invariant is that the text
of every pair in question, if there is one, is corrupted or lists the codes of the pair.
-/

namespace AccessGate

namespace SharedCache

/-- A stored text is no list, and does not nest too deep to tell so. -/
structure IsCorrupted (text : String) : Prop where
  readable : Json.readUnmarked text ≠ .error .tooDeep
  notList : ∀ items, Json.readUnmarked text ≠ .ok (.list items)

theorem decode_eq_none_iff {text : String} : decode text = .ok none ↔ IsCorrupted text := by
  unfold decode
  constructor
  · intro missed
    constructor
    · intro tooDeep
      rw [tooDeep] at missed
      cases missed
    · intro items list
      rw [list] at missed
      cases missed
  · intro corrupted
    split
    · next items list => exact absurd list (corrupted.notList items)
    · next tooDeep => exact absurd tooDeep corrupted.readable
    · rfl

/-- What is stored for a pair with the given codes cannot lead to other codes. -/
def IsHarmless (codes : TextSet) (stored : Option String) : Prop :=
  ∀ text, stored = some text → IsCorrupted text ∨ decode text = .ok (some codes)

private theorem isHarmless_encode (codes : TextSet) :
    IsHarmless codes (some (encode codes.items)) := by
  intro text stored
  cases stored
  right
  rw [decode_encode, TextSet.ofList_items]

variable {cache : SharedCache} {user tenant : String} {codes : TextSet}

/-- A lookup fails and finds nothing, or it tells what is stored under the key of the pair. -/
theorem get_cases (cache : SharedCache) (user tenant : String) :
    ∃ issued,
      cache.get user tenant = (.ok none, { cache with store := cache.store.issue issued }) ∨
        cache.get user tenant =
          (remembered (cache.store.entries.get? (cacheKey user tenant)),
            { cache with store := cache.store.issue issued }) := by
  refine ⟨[.get (cacheKey user tenant)], ?_⟩
  unfold get KeyValueStore.get
  rcases cache.store.carryOut_cases (.get (cacheKey user tenant)) fun entries =>
      (entries.get? (cacheKey user tenant), entries) with ⟨_, outcome⟩ | ⟨_, outcome⟩
  · left
    rw [outcome]
  · right
    rw [outcome]
    cases cache.store.entries.get? (cacheKey user tenant) <;> rfl

/-- A lookup of a harmless text returns.  It finds nothing or the codes, and stores nothing. -/
theorem get_of_isHarmless
    (harmless : IsHarmless codes (cache.store.entries.get? (cacheKey user tenant))) :
    ∃ found issued,
      cache.get user tenant = (.ok found, { cache with store := cache.store.issue issued }) ∧
        ∀ held, found = some held → held = codes := by
  have ofNone : ∀ held, (none : Option TextSet) = some held → held = codes := by
    intro held found
    cases found
  obtain ⟨issued, missed | told⟩ := cache.get_cases user tenant
  · exact ⟨none, issued, missed, ofNone⟩
  · cases stored : cache.store.entries.get? (cacheKey user tenant) with
    | none =>
        rw [stored] at told
        exact ⟨none, issued, told, ofNone⟩
    | some text =>
        rw [stored, remembered] at told
        rcases harmless text stored with corrupted | listed
        · rw [decode_eq_none_iff.mpr corrupted] at told
          exact ⟨none, issued, told, ofNone⟩
        · rw [listed] at told
          refine ⟨some codes, issued, told, ?_⟩
          intro held found
          cases found
          rfl

/-- A write fails without an effect or puts the codes under the key of the pair. -/
theorem entries_set_cases (cache : SharedCache) (user tenant : String) (codes : List String) :
    (cache.set user tenant codes).store.entries = cache.store.entries ∨
      (cache.set user tenant codes).store.entries =
        cache.store.entries.put (cacheKey user tenant) (encode codes) := by
  rcases cache.store.carryOut_cases
      (.set (cacheKey user tenant) (encode codes) (Quantity.whole cache.lifetime))
      fun entries => ((), entries.put (cacheKey user tenant) (encode codes)) with
    ⟨_, outcome⟩ | ⟨_, outcome⟩
  · left
    exact congrArg (fun result => result.2.entries) outcome
  · right
    exact congrArg (fun result => result.2.entries) outcome

end SharedCache

/-- Different pairs have different keys in the shared cache. -/
def KeepsApart (pairs : String × String → Prop) : Prop :=
  ∀ first second, pairs first → pairs second →
    cacheKey first.1 first.2 = cacheKey second.1 second.2 → first = second

/-- The directory answers every question, and the shared cache holds nothing harmful about the
pairs. -/
structure Engine.Unharmed (directory : Directory) (pairs : String × String → Prop)
    (engine : Engine) : Prop where
  same : engine.store.directory = directory
  online : ∀ query, engine.store.outage query = none
  cached : ∃ cache, engine.cache = .shared cache ∧ ∀ user tenant, pairs (user, tenant) →
    SharedCache.IsHarmless (directory.codesOf user tenant)
      (cache.store.entries.get? (cacheKey user tenant))

namespace Resolver

open AccessGate.Action

variable {α : Type} {directory : Directory} {pairs : String × String → Prop}
  {failed : Engine → Prop}

private theorem unharmed_ask (query : Query) (answer : Directory → α) :
    Leads (Engine.Unharmed directory pairs) (Engine.Unharmed directory pairs) failed
      (ask query answer) fun value => value = answer directory := by
  apply Leads.ask
  · intro engine asked unharmed _
    refine ⟨⟨unharmed.same, unharmed.online, unharmed.cached⟩, ?_⟩
    rw [unharmed.same]
  · intro engine asked fault unharmed refused
    rw [unharmed.online] at refused
    cases refused

private theorem unharmed_cachedCodes {user tenantId : String} (known : pairs (user, tenantId)) :
    Leads (Engine.Unharmed directory pairs) (Engine.Unharmed directory pairs) failed
      (cachedCodes user tenantId) fun found =>
        ∀ codes, found = some codes → codes = directory.codesOf user tenantId := by
  apply Leads.lookup
  intro engine unharmed
  obtain ⟨cache, kept, harmless⟩ := unharmed.cached
  obtain ⟨found, issued, looked, told⟩ :=
    SharedCache.get_of_isHarmless (harmless user tenantId known)
  refine ⟨found, .shared { cache with store := cache.store.issue issued }, ?_, ?_, told⟩
  · rw [kept]
    simp only [PermissionCache.get, looked, Prod.map, id]
  · exact ⟨unharmed.same, unharmed.online, _, rfl, harmless⟩

/-- A write leaves the texts of all other pairs as they are, because their keys differ. -/
theorem unharmed_cacheCodes (apart : KeepsApart pairs) {user tenantId : String}
    (known : pairs (user, tenantId)) :
    Leads (Engine.Unharmed directory pairs) (Engine.Unharmed directory pairs) failed
      (cacheCodes user tenantId (directory.codesOf user tenantId)) fun _ => True := by
  apply Leads.cacheCodes
  intro engine unharmed
  obtain ⟨cache, kept, harmless⟩ := unharmed.cached
  refine ⟨unharmed.same, unharmed.online,
    cache.set user tenantId (directory.codesOf user tenantId).items, ?_, ?_⟩
  · rw [kept]
    rfl
  · intro other place otherKnown
    rcases cache.entries_set_cases user tenantId (directory.codesOf user tenantId).items with
      unchanged | written
    · rw [unchanged]
      exact harmless other place otherKnown
    · rw [written, Table.get?_put]
      split
      · next sameKey =>
        cases apart _ _ known otherKnown sameKey
        exact SharedCache.isHarmless_encode _
      · exact harmless other place otherKnown

/-- A cache without harmful texts sustains the resolver, whatever commands fail. -/
theorem sustains_unharmed (apart : KeepsApart pairs) :
    Sustains directory (Engine.Unharmed directory pairs) failed pairs fun _ => True where
  ask := unharmed_ask
  noted := fun _ _ unharmed => ⟨unharmed.same, unharmed.online, unharmed.cached⟩
  cachedCodes := fun _ _ known =>
    (unharmed_cachedCodes known).weaken fun _ told codes found _ => told codes found
  cacheCodes := fun _ _ known => unharmed_cacheCodes apart known

end Resolver

/-! ## Runs -/

/-- The engines that a run over the shared cache can reach.  Which commands fail is up to the store
of the start.  Between two inquiries the stored texts may change: keys may expire, and other
programs may write texts that do no harm. -/
inductive SharedRun (pairs : String × String → Prop) (start : Engine) : Engine → Prop where
  | start : SharedRun pairs start start
  | inquire {engine : Engine} {α : Type} (inquiry : Inquiry α) :
      SharedRun pairs start engine →
      (∀ pair ∈ inquiry.about start.store.directory, pairs pair) →
      SharedRun pairs start (inquiry.perform engine).2
  | rewrite {engine : Engine} {cache : SharedCache} (entries : Table String String) :
      SharedRun pairs start engine → engine.cache = .shared cache →
      (∀ user tenant, pairs (user, tenant) →
        SharedCache.IsHarmless (start.store.directory.codesOf user tenant)
          (entries.get? (cacheKey user tenant))) →
      SharedRun pairs start
        { engine with cache := .shared { cache with store := { cache.store with entries } } }

theorem SharedRun.unharmed {pairs : String × String → Prop} {start engine : Engine}
    (apart : KeepsApart pairs) (isScoped : start.store.directory.IsScoped)
    (unharmed : start.Unharmed start.store.directory pairs)
    (run : SharedRun pairs start engine) : engine.Unharmed start.store.directory pairs := by
  induction run with
  | start => exact unharmed
  | inquire inquiry _ concerned induction =>
      -- A missing tenant makes an inquiry fail, but it does no harm to the cache.
      have leads := inquiry.leads (Resolver.sustains_unharmed apart) isScoped concerned
        fun _ _ kept => kept
      exact leads.ends (fun _ kept => kept) (fun _ kept => kept) induction
  | rewrite entries _ kept harmless induction =>
      exact ⟨induction.same, induction.online, _, rfl, harmless⟩

/-! ## Comparison with no cache -/

/-- The engine without a cache: every command to the store of the cache fails. -/
def Engine.uncached (engine : Engine) : Engine :=
  { engine with cache := .shared { store := { fails := fun _ _ => true }, lifetime := 0 } }

theorem Engine.Unharmed.uncached {directory : Directory} {pairs : String × String → Prop}
    {engine : Engine} (unharmed : engine.Unharmed directory pairs) :
    engine.uncached.Unharmed directory pairs := by
  refine ⟨unharmed.same, unharmed.online, _, rfl, ?_⟩
  intro user tenant _ text stored
  cases stored

namespace Inquiry

/-- Two answers agree, where the evidence of a check does not count. -/
def Agree : {α : Type} → Inquiry α → α → α → Prop
  | _, check _ _ _ _, first, second => first.granted = second.granted
  | _, checkAll _ _ _, first, second => first = second
  | _, codes _ _, first, second => first = second
  | _, list _ _ _, first, second => first = second

/-- There is only one true answer. -/
theorem Truth.agree {α : Type} {directory : Directory} {inquiry : Inquiry α} {first second : α}
    (firstTrue : inquiry.Truth directory first) (secondTrue : inquiry.Truth directory second) :
    inquiry.Agree first second := by
  cases inquiry with
  | check user tenantKey module action =>
      obtain ⟨tenant, resolved, firstGranted⟩ := firstTrue
      obtain ⟨other, otherResolved, secondGranted⟩ := secondTrue
      rw [resolved] at otherResolved
      cases otherResolved
      apply Bool.eq_iff_iff.mpr
      rw [firstGranted, secondGranted]
  | checkAll user tenantKey items =>
      obtain ⟨tenant, resolved, firstResults⟩ := firstTrue
      obtain ⟨other, otherResolved, secondResults⟩ := secondTrue
      rw [resolved] at otherResolved
      cases otherResolved
      exact firstResults.trans secondResults.symm
  | codes user tenantId => exact Eq.trans firstTrue (Eq.symm secondTrue)
  | list user tenantKey module =>
      obtain ⟨tenant, resolved, firstSorted, firstMembers⟩ := firstTrue
      obtain ⟨other, otherResolved, secondSorted, secondMembers⟩ := secondTrue
      rw [resolved] at otherResolved
      cases otherResolved
      have same : (⟨first, firstSorted⟩ : TextSet) = ⟨second, secondSorted⟩ := by
        apply TextSet.eq_of_mem_iff
        intro code
        exact (firstMembers code).trans (secondMembers code).symm
      exact congrArg TextSet.items same

end Inquiry

/-- In every run over the shared cache, an inquiry about a known tenant returns.  Its answer is true
of the directory, and agrees with the answer without a cache. -/
theorem SharedRun.answers_as_uncached {pairs : String × String → Prop} {start engine : Engine}
    (apart : KeepsApart pairs) (isScoped : start.store.directory.IsScoped)
    (unharmed : start.Unharmed start.store.directory pairs) (run : SharedRun pairs start engine)
    {α : Type} (inquiry : Inquiry α) {pair : String × String}
    (about : inquiry.about start.store.directory = some pair) (known : pairs pair) :
    ∃ value reached uncached ended,
      inquiry.perform engine = (.ok value, reached) ∧
        inquiry.perform engine.uncached = (.ok uncached, ended) ∧
        inquiry.Agree value uncached ∧ inquiry.Truth start.store.directory value := by
  let unharmedStart := Engine.Unharmed start.store.directory pairs
  have sustains : Resolver.Sustains start.store.directory unharmedStart (fun _ => False) pairs
      fun _ => True := Resolver.sustains_unharmed apart
  have leads := inquiry.leads sustains isScoped
    (by rw [about]; intro _ found; cases found; exact known)
    (by rw [about]; intro missing; cases missing)
  have reached := run.unharmed apart isScoped unharmed
  obtain ⟨value, ended, answer, _, truthful⟩ := leads.returns reached
  obtain ⟨uncached, left, uncachedAnswer, _, uncachedTruthful⟩ := leads.returns reached.uncached
  have truth := truthful fun _ _ => trivial
  have uncachedTruth := uncachedTruthful fun _ _ => trivial
  exact ⟨value, ended, uncached, left, answer, uncachedAnswer, truth.agree uncachedTruth, truth⟩

/-- The text of one user is cut off, that of another one is fine, and the store fails its second
command. -/
theorem SharedRun.answers_despite_corruption :
    ∃ start engine : Engine, ∃ cache pairs,
      start.store.directory = .shop "ann" "t1" ∧ start.cache = .shared cache ∧
      cache.store.entries.get? (cacheKey "ann" "t1") = some "[\"shop.cat" ∧
      cache.store.fails 1 (.get (cacheKey "ann" "t1")) = true ∧
      SharedRun pairs start engine ∧
      ∃ value reached uncached ended,
        (Inquiry.list "ann" "SHOP" (some "Catalog")).perform engine = (.ok value, reached) ∧
          (Inquiry.list "ann" "SHOP" (some "Catalog")).perform engine.uncached =
            (.ok uncached, ended) ∧
          value = uncached := by
  let cache : SharedCache :=
    { store :=
        { entries := .ofList [(cacheKey "ann" "t1", "[\"shop.cat"), (cacheKey "bob" "t1", "[]")]
          fails := fun position _ => position = 1 }
      lifetime := 900 }
  let start : Engine := { store := { directory := .shop "ann" "t1" }, cache := .shared cache }
  let pairs : String × String → Prop := fun pair => pair = ("ann", "t1") ∨ pair = ("bob", "t1")
  have apart : KeepsApart pairs := by
    rintro first second (rfl | rfl) (rfl | rfl) same
    · rfl
    · exact absurd same (by decide)
    · exact absurd same (by decide)
    · rfl
  have corrupted : SharedCache.IsCorrupted "[\"shop.cat" :=
    SharedCache.decode_eq_none_iff.mp (by decide +kernel)
  have unharmed : start.Unharmed start.store.directory pairs := by
    refine ⟨rfl, fun _ => rfl, cache, rfl, ?_⟩
    intro user tenant known text stored
    rcases known with known | known
    · cases known
      have found : cache.store.entries.get? (cacheKey "ann" "t1") = some "[\"shop.cat" := by
        decide +kernel
      cases found.symm.trans stored
      exact .inl corrupted
    · cases known
      have found : cache.store.entries.get? (cacheKey "bob" "t1") = some "[]" := by
        decide +kernel
      cases found.symm.trans stored
      exact .inr (by decide +kernel)
  have inShop (tenantKey : String) (shop : tenantKey = "shop" ∨ tenantKey = "SHOP") :
      ((Directory.shop "ann" "t1").tenantByKey tenantKey).map (fun found => ("ann", found.id)) =
        some ("ann", "t1") := by
    rcases shop with rfl | rfl <;> decide +kernel
  have run : SharedRun pairs start _ :=
    SharedRun.start.inquire (.check "ann" "shop" "catalog" "read") (by
      intro pair concerned
      have same : some ("ann", "t1") = some pair :=
        (inShop "shop" (.inl rfl)).symm.trans concerned
      cases same
      exact .inl rfl)
  obtain ⟨value, reached, uncached, ended, answer, uncachedAnswer, agree, _⟩ :=
    run.answers_as_uncached apart (by decide) unharmed (.list "ann" "SHOP" (some "Catalog"))
      (inShop "SHOP" (.inr rfl)) (.inl rfl)
  exact ⟨start, _, cache, pairs, rfl, rfl, by decide +kernel, by decide +kernel, run, value,
    reached, uncached, ended, answer, uncachedAnswer, agree⟩

end AccessGate
