import AccessGate.Proofs.Cache.Memory

/-!
# Runs of the cache

A trace is a run of lookups, entries and invalidations in order of time.  What stands for a pair of
a user and a tenant after a run is what was last set for the pair, unless an invalidation that
covers the pair came later.  `Trace.get_eq_some_iff` says that a lookup finds exactly what stands
and has not expired; that entries are dropped late, when a lookup finds them expired, does not show.
-/

namespace AccessGate

inductive CacheUse where
  | get (user tenant : String)
  | set (user tenant : String) (codes : List String)
  | invalidate (request : Invalidation)
  deriving DecidableEq, Repr

/-- Whether a use settles what stands for a pair, whatever stood before. -/
def CacheUse.settles (pair : String × String) : CacheUse → Bool
  | get _ _ => false
  | set user tenant _ => (user, tenant) = pair
  | invalidate request => request.covers pair

/-- A use of the cache at a time. -/
structure CacheStep where
  now : Int
  use : CacheUse
  deriving DecidableEq, Repr

namespace MemoryCache

def after (cache : MemoryCache) (step : CacheStep) : MemoryCache :=
  match step.use with
  | .get user tenant => (cache.get step.now user tenant).2
  | .set user tenant codes => cache.set step.now user tenant codes
  | .invalidate request => cache.invalidate request

/-- A run of steps in order of time, on a cache that starts empty. -/
inductive Trace (lifetime : Int) : List CacheStep → MemoryCache → Prop where
  | start : Trace lifetime [] { lifetime }
  | step {past : List CacheStep} {cache : MemoryCache} (step : CacheStep) :
      Trace lifetime past cache →
      (∀ earlier ∈ past, earlier.now ≤ step.now) →
      Trace lifetime (past ++ [step]) (cache.after step)

/-- The codes that were last set for a pair, at a time, and that no later step took back. -/
def Stands (past : List CacheStep) (pair : String × String) (time : Int) (codes : TextSet) :
    Prop :=
  ∃ earlier listed later, past = earlier ++ ⟨time, .set pair.1 pair.2 listed⟩ :: later ∧
    codes = .ofList listed ∧ ∀ step ∈ later, step.use.settles pair = false

/-! ## What stands after one step more -/

variable {past : List CacheStep} {cache : MemoryCache} {pair : String × String} {time : Int}
  {codes : TextSet}

private theorem not_stands_nil : ¬ Stands [] pair time codes := by
  rintro ⟨earlier, listed, later, equality, _⟩
  simp at equality

theorem Stands.of_set (past : List CacheStep) (time : Int) (user tenant : String)
    (listed : List String) :
    Stands (past ++ [⟨time, .set user tenant listed⟩]) (user, tenant) time (.ofList listed) :=
  ⟨past, listed, [], rfl, rfl, by simp⟩

theorem Stands.keep {step : CacheStep} (stands : Stands past pair time codes)
    (other : step.use.settles pair = false) : Stands (past ++ [step]) pair time codes := by
  obtain ⟨earlier, listed, later, rfl, rfl, unsettled⟩ := stands
  refine ⟨earlier, listed, later ++ [step], by simp, rfl, ?_⟩
  intro follower found
  rcases List.mem_append.mp found with old | new
  · exact unsettled follower old
  · rw [List.mem_singleton.mp new]
    exact other

/-- What stands after a step was set by the step itself, or stood before and was left alone. -/
theorem Stands.cases {step : CacheStep} (stands : Stands (past ++ [step]) pair time codes) :
    (∃ listed, step = ⟨time, .set pair.1 pair.2 listed⟩ ∧ codes = .ofList listed) ∨
      (Stands past pair time codes ∧ step.use.settles pair = false) := by
  obtain ⟨earlier, listed, later, equality, rfl, unsettled⟩ := stands
  rcases List.eq_nil_or_concat later with rfl | ⟨before, last, rfl⟩
  · obtain ⟨_, same⟩ := List.append_inj' equality rfl
    exact .inl ⟨listed, List.singleton_inj.mp same, rfl⟩
  · rw [List.concat_eq_append] at equality unsettled
    rw [← List.cons_append, ← List.append_assoc] at equality
    obtain ⟨rfl, same⟩ := List.append_inj' equality rfl
    obtain rfl := List.singleton_inj.mp same
    refine .inr ⟨⟨earlier, listed, before, rfl, rfl, ?_⟩, unsettled step (by simp)⟩
    intro follower found
    exact unsettled follower (List.mem_append_left _ found)

/-! ## Entries and what stands -/

/-- Every entry tells what stands, and what stands without an entry has expired within the run. -/
structure Recalls (lifetime : Int) (past : List CacheStep) (cache : MemoryCache) : Prop where
  mirrored : cache.Mirrored
  lifetime_eq : cache.lifetime = lifetime
  stands : ∀ pair entry, cache.entries.get? pair = some entry →
    ∃ time, Stands past pair time entry.codes ∧ entry.expiresAt = time + lifetime
  present : ∀ pair time codes, Stands past pair time codes →
    cache.entries.get? pair = some ⟨time + lifetime, codes⟩ ∨
      ∃ step ∈ past, time + lifetime ≤ step.now

section Recalls

variable {lifetime : Int}

private theorem recalls_start : Recalls lifetime [] { lifetime } :=
  ⟨mirrored_empty lifetime, rfl, by simp, fun _ _ _ stands => (not_stands_nil stands).elim⟩

/-- A step that settles nothing keeps the recollection, if it keeps all entries that have not
expired. -/
theorem Recalls.keep (recalls : Recalls lifetime past cache) {after : MemoryCache}
    (step : CacheStep) (mirrored : after.Mirrored) (lifetime_eq : after.lifetime = cache.lifetime)
    (unsettled : ∀ pair, step.use.settles pair = false)
    (kept : ∀ pair, after.entries.get? pair = cache.entries.get? pair ∨
      (after.entries.get? pair = none ∧
        ∃ entry, cache.entries.get? pair = some entry ∧ entry.expiresAt ≤ step.now)) :
    Recalls lifetime (past ++ [step]) after := by
  refine ⟨mirrored, lifetime_eq.trans recalls.lifetime_eq, ?_, ?_⟩
  · intro pair entry found
    rcases kept pair with same | ⟨gone, _⟩
    · rw [same] at found
      obtain ⟨time, stands, expiry⟩ := recalls.stands pair entry found
      exact ⟨time, stands.keep (unsettled pair), expiry⟩
    · rw [gone] at found
      cases found
  · intro pair time codes stands
    rcases stands.cases with ⟨listed, rfl, _⟩ | ⟨stood, _⟩
    · have settled := unsettled pair
      simp [CacheUse.settles] at settled
    · rcases recalls.present pair time codes stood with present | ⟨earlier, old, expired⟩
      · rcases kept pair with same | ⟨_, entry, found, expired⟩
        · exact .inl (same.trans present)
        · rw [present] at found
          cases found
          exact .inr ⟨step, by simp, expired⟩
      · exact .inr ⟨earlier, List.mem_append_left _ old, expired⟩

theorem Recalls.get (recalls : Recalls lifetime past cache) (now : Int) (user tenant : String) :
    Recalls lifetime (past ++ [⟨now, .get user tenant⟩]) (cache.get now user tenant).2 := by
  rcases get_cases cache now user tenant with
    ⟨_, _, _, found⟩ | ⟨_, missed⟩ | ⟨entry, found, expired, dropped⟩
  · rw [found]
    exact recalls.keep _ recalls.mirrored rfl (fun _ => rfl) fun _ => .inl rfl
  · rw [missed]
    exact recalls.keep _ recalls.mirrored rfl (fun _ => rfl) fun _ => .inl rfl
  · rw [dropped]
    refine recalls.keep _ (recalls.mirrored.drop user tenant) rfl (fun _ => rfl) ?_
    intro pair
    by_cases same : (user, tenant) = pair
    · subst same
      refine .inr ⟨?_, entry, found, expired⟩
      rw [entries_drop, if_pos rfl]
    · left
      rw [entries_drop, if_neg same]

/-- A step that settles some pairs gives each of them the entry that it sets, if any. -/
theorem Recalls.settle (recalls : Recalls lifetime past cache) {after : MemoryCache}
    (step : CacheStep) (mirrored : after.Mirrored) (lifetime_eq : after.lifetime = cache.lifetime)
    (kept : ∀ pair, step.use.settles pair = false →
      after.entries.get? pair = cache.entries.get? pair)
    (settled : ∀ pair entry, step.use.settles pair = true → after.entries.get? pair = some entry →
      ∃ listed, step.use = .set pair.1 pair.2 listed ∧
        entry = ⟨step.now + lifetime, .ofList listed⟩)
    (entered : ∀ pair listed, step.use = .set pair.1 pair.2 listed →
      after.entries.get? pair = some ⟨step.now + lifetime, .ofList listed⟩) :
    Recalls lifetime (past ++ [step]) after := by
  refine ⟨mirrored, lifetime_eq.trans recalls.lifetime_eq, ?_, ?_⟩
  · intro pair entry found
    cases concerned : step.use.settles pair with
    | false =>
        rw [kept pair concerned] at found
        obtain ⟨time, stands, expiry⟩ := recalls.stands pair entry found
        exact ⟨time, stands.keep concerned, expiry⟩
    | true =>
        obtain ⟨listed, use, rfl⟩ := settled pair entry concerned found
        obtain ⟨now, _⟩ := step
        cases use
        exact ⟨now, .of_set past now pair.1 pair.2 listed, rfl⟩
  · intro pair time codes stands
    rcases stands.cases with ⟨listed, rfl, rfl⟩ | ⟨stood, unconcerned⟩
    · exact .inl (entered pair listed rfl)
    · rw [kept pair unconcerned]
      rcases recalls.present pair time codes stood with present | ⟨earlier, old, expired⟩
      · exact .inl present
      · exact .inr ⟨earlier, List.mem_append_left _ old, expired⟩

theorem Recalls.set (recalls : Recalls lifetime past cache) (now : Int) (user tenant : String)
    (listed : List String) :
    Recalls lifetime (past ++ [⟨now, .set user tenant listed⟩])
      (cache.set now user tenant listed) := by
  refine recalls.settle _ (recalls.mirrored.set now user tenant listed) rfl ?_ ?_ ?_
  · intro pair unconcerned
    have different : ¬ (user, tenant) = pair := of_decide_eq_false unconcerned
    rw [entries_set, if_neg different]
  · intro pair entry concerned found
    have same : (user, tenant) = pair := of_decide_eq_true concerned
    subst same
    rw [entries_set, if_pos rfl, recalls.lifetime_eq] at found
    cases found
    exact ⟨listed, rfl, rfl⟩
  · intro pair entered use
    cases use
    rw [entries_set, if_pos rfl, recalls.lifetime_eq]

theorem lifetime_dropAll (cache : MemoryCache) (pairs : List (String × String)) :
    (cache.dropAll pairs).lifetime = cache.lifetime := by
  induction pairs generalizing cache with
  | nil => rfl
  | cons first pairs induction => exact induction (cache.drop first.1 first.2)

theorem lifetime_invalidate (cache : MemoryCache) (request : Invalidation) :
    (cache.invalidate request).lifetime = cache.lifetime := by
  cases request with
  | ofUser user tenant =>
      cases tenant with
      | none =>
          rw [invalidate, invalidateUser_eq_dropAll]
          exact lifetime_dropAll cache _
      | some tenant => rfl
  | ofTenant tenant =>
      rw [invalidate, invalidateTenant_eq_dropAll]
      exact lifetime_dropAll cache _

theorem Recalls.invalidate (recalls : Recalls lifetime past cache) (now : Int)
    (request : Invalidation) :
    Recalls lifetime (past ++ [⟨now, .invalidate request⟩]) (cache.invalidate request) := by
  refine recalls.settle _ (recalls.mirrored.invalidate request)
    (lifetime_invalidate cache request) ?_ ?_ ?_
  · intro pair uncovered
    have spared : request.covers pair = false := uncovered
    rw [recalls.mirrored.entries_invalidate, spared, if_neg Bool.false_ne_true]
  · intro pair entry concerned found
    have covered : request.covers pair = true := concerned
    rw [recalls.mirrored.entries_invalidate, covered, if_pos rfl] at found
    cases found
  · intro pair listed use
    cases use

end Recalls

theorem Trace.recalls {lifetime : Int} (trace : Trace lifetime past cache) :
    Recalls lifetime past cache := by
  induction trace with
  | start => exact recalls_start
  | step step _ _ induction =>
      obtain ⟨now, use⟩ := step
      cases use with
      | get user tenant => exact induction.get now user tenant
      | set user tenant codes => exact induction.set now user tenant codes
      | invalidate request => exact induction.invalidate now request

/-! ## Lookups -/

theorem get_fst_eq_some_iff (cache : MemoryCache) (now : Int) (user tenant : String)
    (codes : TextSet) :
    (cache.get now user tenant).1 = some codes ↔
      ∃ entry, cache.entries.get? (user, tenant) = some entry ∧ now < entry.expiresAt ∧
        entry.codes = codes := by
  rcases get_cases cache now user tenant with
    ⟨entry, present, live, found⟩ | ⟨absent, missed⟩ | ⟨entry, present, expired, dropped⟩
  · rw [found, present]
    constructor
    · intro same
      exact ⟨entry, rfl, live, Option.some.inj same⟩
    · rintro ⟨other, same, _, rfl⟩
      cases same
      rfl
  · rw [missed, absent]
    simp
  · rw [dropped, present]
    constructor
    · intro none
      cases none
    · rintro ⟨other, same, live, _⟩
      cases same
      omega

/-- A lookup at the end of a run finds the codes that were last set for the pair, unless they have
expired or were taken back by an invalidation, and nothing else.  An invalidation takes from the
lookups that follow all that it covers, and nothing else. -/
theorem Trace.get_eq_some_iff {lifetime : Int} (trace : Trace lifetime past cache) (now : Int)
    (ordered : ∀ step ∈ past, step.now ≤ now) (user tenant : String) :
    (∀ codes, (cache.get now user tenant).1 = some codes ↔
      ∃ time, Stands past (user, tenant) time codes ∧ now < time + lifetime) ∧
    ∀ request : Invalidation, ((cache.invalidate request).get now user tenant).1 =
      if request.covers (user, tenant) then none else (cache.get now user tenant).1 := by
  have recalls := trace.recalls
  constructor
  · intro codes
    rw [get_fst_eq_some_iff]
    constructor
    · rintro ⟨entry, present, live, rfl⟩
      obtain ⟨time, stands, expiry⟩ := recalls.stands (user, tenant) entry present
      exact ⟨time, stands, expiry ▸ live⟩
    · rintro ⟨time, stands, live⟩
      rcases recalls.present (user, tenant) time codes stands with present | ⟨step, old, expired⟩
      · exact ⟨_, present, live, rfl⟩
      · have earlier := ordered step old
        omega
  · intro request
    apply Option.ext
    intro codes
    rw [get_fst_eq_some_iff, recalls.mirrored.entries_invalidate]
    split
    · simp
    · rw [get_fst_eq_some_iff]

/-- An entry outlives the invalidation of another user and the lookup of another tenant, and is gone
once its own tenant is invalidated. -/
theorem Trace.get_eq_some_of_overlap :
    ∃ past cache, Trace 900 past cache ∧ past.length = 4 ∧
      (cache.get 800 "ann" "t1").1 = some (.ofList ["shop.catalog.read"]) ∧
      ((cache.invalidate (.ofTenant "t1")).get 800 "ann" "t1").1 = none := by
  have empty : Trace 900 [] _ := .start
  have cached := empty.step ⟨0, .set "ann" "t1" ["shop.catalog.read"]⟩ (by decide)
  have both := cached.step ⟨10, .set "bob" "t1" []⟩ (by decide)
  have missed := both.step ⟨20, .get "ann" "t2"⟩ (by decide)
  have trace := missed.step ⟨30, .invalidate (.ofUser "bob" none)⟩ (by decide)
  obtain ⟨found, invalidated⟩ := trace.get_eq_some_iff 800 (by decide) "ann" "t1"
  refine ⟨_, _, trace, rfl, ?_, invalidated (.ofTenant "t1")⟩
  exact (found _).mpr ⟨0, ⟨[], _, _, rfl, rfl, by decide⟩, by decide⟩

end MemoryCache

end AccessGate
