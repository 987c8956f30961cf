import AccessGate.Cache.Shared
import AccessGate.Proofs.Cache.Memory
import AccessGate.Proofs.Text.Wildcard

/-!
# Keys of the shared cache

A key joins a user and a tenant by a mark, so pairs share a key if one user goes on with the mark
where the other one ends.  An invalidation names the pairs that it is about, but it finds them by a
pattern: a star within its own name then stands for names that it does not mean.
-/

namespace AccessGate

/-- The user of the second pair goes on behind the user of the first one, and takes what it adds
from the mark and the tenant of the first pair. -/
def Shifts (first second : String × String) : Prop :=
  ∃ middle, second.1 = first.1 ++ ":app" ++ middle ∧
    ":" ++ first.2 = middle ++ ":app:" ++ second.2

/-- Two pairs of a user and a tenant are stored under one key. -/
def SharesKey (first second : String × String) : Prop :=
  first = second ∨ Shifts first second ∨ Shifts second first

namespace SharesKey

theorem refl (pair : String × String) : SharesKey pair pair :=
  .inl rfl

theorem symm {first second : String × String} (shares : SharesKey first second) :
    SharesKey second first := by
  rcases shares with rfl | shifts | shifts
  · exact refl first
  · exact .inr (.inr shifts)
  · exact .inr (.inl shifts)

end SharesKey

/-! ## Equal keys -/

theorem cacheKey_eq_append (user tenant : String) :
    cacheKey user tenant = "permissions:user:" ++ (user ++ (":app:" ++ tenant)) := by
  unfold cacheKey
  simp only [String.append_assoc]

/-- What stands in front of a mark and starts with a mark of its own contains that mark, up to the
last sign, which may be the first sign of the other mark. -/
theorem mark_eq_append {added tenant other : List Char} (more : added ≠ [])
    (split : [':', 'a', 'p', 'p', ':'] ++ tenant = added ++ ([':', 'a', 'p', 'p', ':'] ++ other)) :
    ∃ middle, added = [':', 'a', 'p', 'p'] ++ middle ∧
      ':' :: tenant = middle ++ ([':', 'a', 'p', 'p', ':'] ++ other) := by
  have regrouped : [':', 'a', 'p', 'p'] ++ ':' :: tenant =
      added ++ ([':', 'a', 'p', 'p', ':'] ++ other) := split
  rcases List.append_eq_append_iff.mp regrouped with
    ⟨middle, equality, rest⟩ | ⟨last, equality, rest⟩
  · exact ⟨middle, equality, rest⟩
  · cases last with
    | nil =>
        rw [List.append_nil] at equality
        exact ⟨[], equality.symm, rest.symm⟩
    | cons sign last =>
        -- The rest of the mark would start with a colon, but it has none before its end.
        obtain ⟨first, added, rfl⟩ := List.exists_cons_of_ne_nil more
        have within : ['a', 'p', 'p'] = added ++ sign :: last := (List.cons.inj equality).2
        have member : sign ∈ ['a', 'p', 'p'] := within ▸ by simp
        have colon : ':' = sign := (List.cons.inj rest).1
        rw [← colon] at member
        exact absurd member (by decide)

theorem toList_cacheKey (user tenant : String) :
    (cacheKey user tenant).toList =
      "permissions:user:".toList ++
        (user.toList ++ ([':', 'a', 'p', 'p', ':'] ++ tenant.toList)) := by
  have mark : ":app:".toList = [':', 'a', 'p', 'p', ':'] := rfl
  rw [cacheKey_eq_append]
  simp only [String.toList_append, mark]

theorem shifts_iff {first second : String × String} :
    Shifts first second ↔ ∃ middle,
      second.1.toList = first.1.toList ++ ([':', 'a', 'p', 'p'] ++ middle) ∧
        ':' :: first.2.toList = middle ++ ([':', 'a', 'p', 'p', ':'] ++ second.2.toList) := by
  have mark : ":app:".toList = [':', 'a', 'p', 'p', ':'] := rfl
  have start : ":app".toList = [':', 'a', 'p', 'p'] := rfl
  have colon : ":".toList = [':'] := rfl
  have read (middle : String) :
      (second.1 = first.1 ++ ":app" ++ middle ∧ ":" ++ first.2 = middle ++ ":app:" ++ second.2) ↔
        (second.1.toList = first.1.toList ++ ([':', 'a', 'p', 'p'] ++ middle.toList) ∧
          ':' :: first.2.toList =
            middle.toList ++ ([':', 'a', 'p', 'p', ':'] ++ second.2.toList)) := by
    rw [← String.toList_inj, ← String.toList_inj]
    simp only [String.toList_append, mark, start, colon, List.append_assoc, List.singleton_append]
  constructor
  · rintro ⟨middle, shifted⟩
    exact ⟨middle.toList, (read middle).mp shifted⟩
  · rintro ⟨middle, shifted⟩
    refine ⟨.ofList middle, (read _).mpr ?_⟩
    rwa [String.toList_ofList]

theorem Shifts.cacheKey_eq {first second : String × String} (shifts : Shifts first second) :
    cacheKey first.1 first.2 = cacheKey second.1 second.2 := by
  obtain ⟨middle, users, tenants⟩ := shifts_iff.mp shifts
  apply String.toList_inj.mp
  rw [toList_cacheKey, toList_cacheKey, users, List.append_assoc, List.append_assoc, ← tenants]
  rfl

/-- If the user of the second pair goes on behind the user of the first one, equal keys only leave
the pairs the same or shifted. -/
theorem sharesKey_of_append {first second : String × String} {added : List Char}
    (users : second.1.toList = first.1.toList ++ added)
    (rest : [':', 'a', 'p', 'p', ':'] ++ first.2.toList =
      added ++ ([':', 'a', 'p', 'p', ':'] ++ second.2.toList)) :
    first = second ∨ Shifts first second := by
  by_cases none : added = []
  · subst none
    rw [List.append_nil, String.toList_inj] at users
    rw [List.nil_append, List.append_cancel_left_eq, String.toList_inj] at rest
    exact .inl (Prod.ext users.symm rest)
  · obtain ⟨middle, rfl, tenants⟩ := mark_eq_append none rest
    exact .inr (shifts_iff.mpr ⟨middle, users, tenants⟩)

/-- Keys are equal if and only if the pairs are the same, or one of them is shifted against the
other. -/
theorem cacheKey_eq_iff (first second : String × String) :
    cacheKey first.1 first.2 = cacheKey second.1 second.2 ↔ SharesKey first second := by
  constructor
  · intro same
    have parts := congrArg String.toList same
    rw [toList_cacheKey, toList_cacheKey, List.append_cancel_left_eq] at parts
    rcases List.append_eq_append_iff.mp parts with ⟨added, users, rest⟩ | ⟨added, users, rest⟩
    · rcases sharesKey_of_append users rest with same | shifts
      · exact .inl same
      · exact .inr (.inl shifts)
    · rcases sharesKey_of_append users rest with same | shifts
      · exact .inl same.symm
      · exact .inr (.inr shifts)
  · rintro (rfl | shifts | shifts)
    · rfl
    · exact shifts.cacheKey_eq
    · exact shifts.cacheKey_eq.symm

/-! ## Plain names -/

/-- A name that contains neither a colon nor a star. -/
structure IsPlain (name : String) : Prop where
  colon : ':' ∉ name.toList
  star : '*' ∉ name.toList

theorem SharesKey.eq_of_plain {pair other : String × String} (user : IsPlain pair.1)
    (tenant : IsPlain pair.2) (shares : SharesKey pair other) : other = pair := by
  rcases shares with same | shifts | shifts
  · exact same.symm
  · obtain ⟨middle, _, tenants⟩ := shifts_iff.mp shifts
    refine absurd ?_ tenant.colon
    cases middle with
    | nil =>
        rw [List.nil_append, List.cons_append, List.cons.injEq] at tenants
        rw [tenants.2]
        simp
    | cons sign middle =>
        rw [List.cons_append, List.cons.injEq] at tenants
        rw [tenants.2]
        simp
  · obtain ⟨middle, users, _⟩ := shifts_iff.mp shifts
    refine absurd ?_ user.colon
    rw [users]
    simp

/-! ## Patterns -/

/-- The pairs that an invalidation names, where the name of a user or of a tenant on its own is read
as a pattern. -/
def Invalidation.Names : Invalidation → String × String → Prop
  | .ofUser user none, pair => Text.fits user pair.1 = true
  | .ofUser user (some tenant), pair => pair = (user, tenant)
  | .ofTenant tenant, pair => Text.fits tenant pair.2 = true

/-- The keys of the pairs that an invalidation names. -/
def Invalidation.Strikes (request : Invalidation) (key : String) : Prop :=
  ∃ pair, request.Names pair ∧ key = cacheKey pair.1 pair.2

/-- The names that an invalidation is made of. -/
def Invalidation.IsPlain : Invalidation → Prop
  | .ofUser user none => AccessGate.IsPlain user
  | .ofUser user (some tenant) => AccessGate.IsPlain user ∧ AccessGate.IsPlain tenant
  | .ofTenant tenant => AccessGate.IsPlain tenant

namespace Invalidation

variable {request : Invalidation} {pair : String × String}

theorem names_of_covers (covered : request.covers pair = true) : request.Names pair := by
  cases request with
  | ofUser user tenant =>
      cases tenant with
      | none =>
          obtain rfl : pair.1 = user := of_decide_eq_true covered
          exact Text.fits_self pair.1
      | some tenant =>
          have same : pair = (user, tenant) := of_decide_eq_true covered
          exact same
  | ofTenant tenant =>
      obtain rfl : pair.2 = tenant := of_decide_eq_true covered
      exact Text.fits_self pair.2

private theorem covers_of_names (plain : request.IsPlain) (named : request.Names pair) :
    request.covers pair = true := by
  cases request with
  | ofUser user tenant =>
      cases tenant with
      | none => exact decide_eq_true ((Text.fits_of_literal plain.star).mp named)
      | some tenant =>
          obtain rfl : pair = (user, tenant) := named
          exact decide_eq_true rfl
  | ofTenant tenant => exact decide_eq_true ((Text.fits_of_literal plain.star).mp named)

theorem strikes_cacheKey_iff :
    request.Strikes (cacheKey pair.1 pair.2) ↔
      ∃ other, request.Names other ∧ SharesKey other pair := by
  constructor
  · rintro ⟨other, named, same⟩
    exact ⟨other, named, (cacheKey_eq_iff other pair).mp same.symm⟩
  · rintro ⟨other, named, shares⟩
    exact ⟨other, named, ((cacheKey_eq_iff other pair).mpr shares).symm⟩

/-- Among plain names an invalidation strikes exactly the keys of the pairs that it covers. -/
theorem strikes_cacheKey_iff_covers (plain : request.IsPlain) (user : AccessGate.IsPlain pair.1)
    (tenant : AccessGate.IsPlain pair.2) :
    request.Strikes (cacheKey pair.1 pair.2) ↔ request.covers pair = true := by
  rw [strikes_cacheKey_iff]
  constructor
  · rintro ⟨other, named, shares⟩
    obtain rfl := shares.symm.eq_of_plain user tenant
    exact covers_of_names plain named
  · intro covered
    exact ⟨pair, names_of_covers covered, .refl pair⟩

end Invalidation

theorem fits_cacheKey {user tenant key : String} :
    Text.fits (cacheKey user tenant) key = true ↔
      ∃ pair : String × String, Text.fits user pair.1 = true ∧ Text.fits tenant pair.2 = true ∧
        key = cacheKey pair.1 pair.2 := by
  rw [cacheKey_eq_append, Text.fits_literal_append (by decide)]
  constructor
  · rintro ⟨rest, rfl, fitsRest⟩
    obtain ⟨name, behind, rfl, fitsUser, fitsBehind⟩ := Text.fits_append.mp fitsRest
    obtain ⟨place, rfl, fitsTenant⟩ := (Text.fits_literal_append (by decide)).mp fitsBehind
    exact ⟨(name, place), fitsUser, fitsTenant, (cacheKey_eq_append name place).symm⟩
  · rintro ⟨pair, fitsUser, fitsTenant, rfl⟩
    refine ⟨pair.1 ++ (":app:" ++ pair.2), cacheKey_eq_append pair.1 pair.2, ?_⟩
    refine Text.fits_append.mpr ⟨pair.1, ":app:" ++ pair.2, rfl, fitsUser, ?_⟩
    exact (Text.fits_literal_append (by decide)).mpr ⟨pair.2, rfl, fitsTenant⟩

/-- The pattern for a user finds the keys of all users who fit the user's name. -/
theorem fits_userPattern {user key : String} :
    Text.fits ("permissions:user:" ++ user ++ ":app:*") key = true ↔
      (Invalidation.ofUser user none).Strikes key := by
  have pattern : "permissions:user:" ++ user ++ ":app:*" = cacheKey user "*" := by
    rw [cacheKey_eq_append, String.append_assoc]
    rfl
  rw [pattern, fits_cacheKey]
  constructor
  · rintro ⟨pair, fitsUser, _, same⟩
    exact ⟨pair, fitsUser, same⟩
  · rintro ⟨pair, fitsUser, same⟩
    exact ⟨pair, fitsUser, Text.fits_star pair.2, same⟩

theorem fits_tenantPattern {tenant key : String} :
    Text.fits ("permissions:user:*:app:" ++ tenant) key = true ↔
      (Invalidation.ofTenant tenant).Strikes key := by
  have pattern : "permissions:user:*:app:" ++ tenant = cacheKey "*" tenant := by
    rw [cacheKey_eq_append, ← String.append_assoc, ← String.append_assoc]
    rfl
  rw [pattern, fits_cacheKey]
  constructor
  · rintro ⟨pair, _, fitsTenant, same⟩
    exact ⟨pair, fitsTenant, same⟩
  · rintro ⟨pair, fitsTenant, same⟩
    exact ⟨pair, Text.fits_star pair.1, fitsTenant, same⟩

end AccessGate
