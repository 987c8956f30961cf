import AccessGate.Proofs.Resolver.Run

/-!
# All or nothing

An inquiry that fails, wherever it fails, leaves the live entries of the cache and the journal as
they were.  An inquiry that returns changes at most the entry of the pair that it is about, and then
to the full set of codes; a check is reported once, and nothing else is reported.  Entries that have
expired do not count: a lookup may drop them.
-/

namespace AccessGate

namespace MemoryCache

/-- The entry of a pair, unless it has expired. -/
def live (memory : MemoryCache) (now : Int) (pair : String × String) : Option CacheEntry :=
  (memory.entries.get? pair).bind fun entry =>
    if now < entry.expiresAt then some entry else none

variable {memory : MemoryCache} {now : Int} {user tenant : String}

private theorem fst_get_eq_live :
    (memory.get now user tenant).1 = (memory.live now (user, tenant)).map CacheEntry.codes := by
  unfold live
  rcases memory.get_cases now user tenant with
    ⟨entry, found, lives, outcome⟩ | ⟨found, outcome⟩ | ⟨entry, found, expired, outcome⟩
  · simp [outcome, found, lives]
  · simp [outcome, found]
  · have dead : ¬ now < entry.expiresAt := Int.not_lt.mpr expired
    simp [outcome, found, dead]

private theorem live_get (pair : String × String) :
    (memory.get now user tenant).2.live now pair = memory.live now pair := by
  rcases memory.get_cases now user tenant with
    ⟨_, _, _, outcome⟩ | ⟨_, outcome⟩ | ⟨entry, found, expired, outcome⟩
  · rw [outcome]
  · rw [outcome]
  · rw [outcome, live, live, entries_drop]
    split
    · next same =>
      have dead : ¬ now < entry.expiresAt := Int.not_lt.mpr expired
      rw [← same, found]
      simp [dead]
    · rfl

private theorem lifetime_get : (memory.get now user tenant).2.lifetime = memory.lifetime := by
  rcases memory.get_cases now user tenant with
    ⟨_, _, _, outcome⟩ | ⟨_, outcome⟩ | ⟨_, _, _, outcome⟩
  all_goals rw [outcome]
  rfl

/-- The entry that is live once codes have been stored, if their lifetime lets them live at all. -/
def freshEntry (now lifetime : Int) (codes : TextSet) : Option CacheEntry :=
  if 0 < lifetime then some ⟨now + lifetime, codes⟩ else none

private theorem live_set (codes : TextSet) (pair : String × String) :
    (memory.set now user tenant codes.items).live now pair =
      if (user, tenant) = pair then freshEntry now memory.lifetime codes
      else memory.live now pair := by
  rw [live, entries_set]
  split
  · have lives : now < now + memory.lifetime ↔ 0 < memory.lifetime := by omega
    simp [freshEntry, lives]
  · rfl

end MemoryCache

/-- The engine works on a directory at a time, has written a journal, and its cache in memory has
the given live entries. -/
structure Engine.Shows (directory : Directory) (now lifetime : Int) (journal : Journal)
    (live : String × String → Option CacheEntry) (engine : Engine) : Prop where
  same : engine.store.directory = directory
  time : engine.now = now
  written : engine.journal = journal
  cached : ∃ memory, engine.cache = .memory memory ∧ memory.lifetime = lifetime ∧
    ∀ pair, memory.live now pair = live pair

/-- The live entries once the codes of a pair have been resolved and stored. -/
def Directory.fill (directory : Directory) (now lifetime : Int)
    (live : String × String → Option CacheEntry) (filled : String × String) :
    String × String → Option CacheEntry :=
  fun pair =>
    if filled = pair then
      MemoryCache.freshEntry now lifetime (directory.codesOf filled.1 filled.2)
    else live pair

/-- The live entries are unchanged, or those of a pair without one have been resolved, which
`filling` must have allowed. -/
def Engine.Settled (directory : Directory) (now lifetime : Int) (journal : Journal)
    (live : String × String → Option CacheEntry) (pair : String × String) (filling : Prop)
    (engine : Engine) : Prop :=
  engine.Shows directory now lifetime journal live ∨
    (filling ∧ live pair = none ∧
      engine.Shows directory now lifetime journal (directory.fill now lifetime live pair))

namespace Resolver

open AccessGate.Action

variable {α : Type} {directory : Directory} {now lifetime : Int} {journal : Journal}
  {live : String × String → Option CacheEntry} {user : String}

/-! ## Primitive actions -/

theorem shows_ask (query : Query) (answer : Directory → α) :
    Ensures (Engine.Shows directory now lifetime journal live) (ask query answer)
      (fun value ended => ended.Shows directory now lifetime journal live ∧
        value = answer directory)
      (Engine.Shows directory now lifetime journal live) := by
  apply Leads.ensures
  apply Leads.ask
  · intro engine asked shown _
    refine ⟨⟨shown.same, shown.time, shown.written, shown.cached⟩, ?_⟩
    rw [shown.same]
  · intro engine asked fault shown _
    exact ⟨shown.same, shown.time, shown.written, shown.cached⟩

theorem shows_cachedCodes (tenantId : String) {failed : Engine → Prop} :
    Ensures (Engine.Shows directory now lifetime journal live) (cachedCodes user tenantId)
      (fun found ended => ended.Shows directory now lifetime journal live ∧
        found = (live (user, tenantId)).map CacheEntry.codes) failed := by
  apply Leads.ensures
  apply Leads.cachedCodes
  intro engine shown
  obtain ⟨memory, kept, lasting, same⟩ := shown.cached
  refine ⟨memory, kept, ⟨shown.same, shown.time, shown.written, _, rfl, ?_, ?_⟩, ?_⟩
  · rw [MemoryCache.lifetime_get, lasting]
  · intro pair
    rw [shown.time, MemoryCache.live_get, same]
  · rw [shown.time, MemoryCache.fst_get_eq_live, same]

private theorem shows_cacheCodes (tenantId : String) {failed : Engine → Prop} :
    Ensures (Engine.Shows directory now lifetime journal live)
      (cacheCodes user tenantId (directory.codesOf user tenantId))
      (fun _ ended => ended.Shows directory now lifetime journal
        (directory.fill now lifetime live (user, tenantId))) failed := by
  intro engine shown
  obtain ⟨memory, kept, lasting, same⟩ := shown.cached
  refine ⟨shown.same, shown.time, shown.written,
    memory.set engine.now user tenantId (directory.codesOf user tenantId).items, ?_, lasting, ?_⟩
  · change engine.cache.set .. = _
    rw [kept]
    rfl
  · intro pair
    rw [shown.time, MemoryCache.live_set, lasting, same]
    rfl

def reported (user : String) (tenant : Tenant) (code : String) (result : CheckResult)
    (journal : Journal) : Journal :=
  (journal.count (.permissionCheck result.evidence result.granted)).note .permissionChecked .debug
    [("tenant_key", .text tenant.key), ("user_id", .text user), ("permission_code", .text code),
      ("source", .text result.evidence.name)]

private theorem settled_report {tenant : Tenant} {code : String} {pair : String × String}
    {filling : Prop}
    {result : CheckResult} {failed : Engine → Prop} :
    Ensures (Engine.Settled directory now lifetime journal live pair filling)
      (report user tenant code result)
      (fun _ ended => ended.Settled directory now lifetime
        (reported user tenant code result journal) live pair filling) failed := by
  intro engine settled
  have written {earlier : Journal} (same : engine.journal = earlier) :=
    congrArg (reported user tenant code result) same
  rcases settled with shown | ⟨allowed, absent, shown⟩
  · exact .inl ⟨shown.same, shown.time, written shown.written, shown.cached⟩
  · exact .inr ⟨allowed, absent, shown.same, shown.time, written shown.written, shown.cached⟩

/-! ## Queries -/

theorem shows_tenant (key : String) :
    Ensures (Engine.Shows directory now lifetime journal live) (tenant key)
      (fun found ended => ended.Shows directory now lifetime journal live ∧
        directory.tenantByKey key = some found)
      (Engine.Shows directory now lifetime journal live) := by
  unfold tenant
  apply Ensures.bind (shows_ask _ _)
  intro found
  apply Ensures.assuming
  intro answered
  subst answered
  cases resolved : directory.tenantByKey key with
  | none => exact fun _ shown => shown
  | some tenant => exact Ensures.pure fun _ shown => ⟨shown, rfl⟩

/-- Codes that are not live are resolved in three questions, and stored after the last of them. -/
theorem settled_codes (tenantId : String) :
    Ensures (Engine.Shows directory now lifetime journal live) (codes user tenantId)
      (fun _ ended => ended.Settled directory now lifetime journal live (user, tenantId) True)
      (Engine.Shows directory now lifetime journal live) := by
  unfold codes
  apply Ensures.bind (shows_cachedCodes tenantId)
  intro found
  apply Ensures.assuming
  intro looked
  cases found with
  | some codes => exact Ensures.pure fun _ shown => .inl shown
  | none =>
      have absent : live (user, tenantId) = none := Option.map_eq_none_iff.mp looked.symm
      apply Ensures.bind (shows_ask _ _)
      intro roles
      apply Ensures.assuming
      intro answered
      subst answered
      apply Ensures.bind (shows_ask _ _)
      intro fromRoles
      apply Ensures.assuming
      intro answered
      subst answered
      apply Ensures.bind (shows_ask _ _)
      intro direct
      apply Ensures.assuming
      intro answered
      subst answered
      apply Ensures.bind (shows_cacheCodes tenantId)
      intro _
      exact Ensures.pure fun _ shown => .inr ⟨trivial, absent, shown⟩

private theorem settled_checkDirectory {tenant : Tenant} (code : String) :
    Ensures (Engine.Shows directory now lifetime journal live) (checkDirectory user tenant code)
      (fun result ended => ended.Settled directory now lifetime journal live (user, tenant.id)
        (result.granted = true))
      (Engine.Shows directory now lifetime journal live) := by
  have denied {evidence : Evidence} {failed : Engine → Prop} :
      Ensures (Engine.Shows directory now lifetime journal live)
        (pure ⟨false, evidence⟩ : Action CheckResult)
        (fun result ended => ended.Settled directory now lifetime journal live (user, tenant.id)
          (result.granted = true)) failed :=
    Ensures.pure fun _ shown => .inl shown
  have granted {evidence : Evidence} :
      Ensures (Engine.Shows directory now lifetime journal live)
        (codes user tenant.id >>= fun _ => pure (⟨true, evidence⟩ : CheckResult))
        (fun result ended => ended.Settled directory now lifetime journal live (user, tenant.id)
          (result.granted = true))
        (Engine.Shows directory now lifetime journal live) := by
    apply Ensures.bind (settled_codes tenant.id)
    intro _
    apply Ensures.pure
    intro engine settled
    exact settled.imp_right fun filled => ⟨rfl, filled.2⟩
  unfold checkDirectory
  apply Ensures.bind (shows_ask _ _)
  intro found
  apply Ensures.assuming
  intro _
  cases found with
  | none => exact denied
  | some permission =>
      apply Ensures.bind (shows_ask _ _)
      intro throughRole
      apply Ensures.assuming
      intro _
      cases throughRole with
      | true => exact granted
      | false =>
          apply Ensures.bind (shows_ask _ _)
          intro directly
          apply Ensures.assuming
          intro _
          cases directly with
          | true => exact granted
          | false => exact denied

/-! ## Inquiries -/

private theorem settled_check {tenantKey : String} (module action : String) :
    Ensures (Engine.Shows directory now lifetime journal live) (check user tenantKey module action)
      (fun result ended => ∃ tenant, directory.tenantByKey tenantKey = some tenant ∧
        ended.Settled directory now lifetime
          (reported user tenant (permissionCode tenantKey module action) result journal) live
          (user, tenant.id) (result.granted = true))
      (Engine.Shows directory now lifetime journal live) := by
  unfold check
  apply Ensures.bind (shows_tenant tenantKey)
  intro tenant
  apply Ensures.assuming
  intro resolved
  have noted {result : CheckResult} {failed : Engine → Prop} :
      Ensures (Engine.Settled directory now lifetime journal live (user, tenant.id)
          (result.granted = true))
        (report user tenant (permissionCode tenantKey module action) result >>= fun _ =>
          pure result)
        (fun result ended => ∃ tenant, directory.tenantByKey tenantKey = some tenant ∧
          ended.Settled directory now lifetime
            (reported user tenant (permissionCode tenantKey module action) result journal) live
            (user, tenant.id) (result.granted = true)) failed :=
    Ensures.bind settled_report fun _ => Ensures.pure fun _ settled => ⟨tenant, resolved, settled⟩
  apply Ensures.bind (shows_cachedCodes tenant.id)
  intro found
  apply Ensures.assuming
  intro _
  cases found with
  | some codes =>
      refine Ensures.bind ?_ fun _ => noted
      exact Ensures.pure fun _ shown => .inl shown
  | none =>
      exact Ensures.bind (settled_checkDirectory _) fun _ => noted

theorem settled_held (tenantKey : String) :
    Ensures (Engine.Shows directory now lifetime journal live) (held user tenantKey)
      (fun _ ended => ∃ tenant, directory.tenantByKey tenantKey = some tenant ∧
        ended.Settled directory now lifetime journal live (user, tenant.id) True)
      (Engine.Shows directory now lifetime journal live) := by
  unfold held
  apply Ensures.bind (shows_tenant tenantKey)
  intro tenant
  apply Ensures.assuming
  intro resolved
  apply Ensures.weaken (settled_codes tenant.id)
  intro codes ended settled
  exact ⟨tenant, resolved, settled⟩

private theorem settled_checkAll {tenantKey : String} (items : List CheckItem) :
    Ensures (Engine.Shows directory now lifetime journal live) (checkAll user tenantKey items)
      (fun _ ended => ∃ tenant, directory.tenantByKey tenantKey = some tenant ∧
        ended.Settled directory now lifetime journal live (user, tenant.id) True)
      (Engine.Shows directory now lifetime journal live) := by
  rw [checkAll_eq]
  exact Ensures.bind (settled_held tenantKey) fun _ => Ensures.pure fun _ settled => settled

private theorem settled_list {tenantKey : String} (module : Option String) :
    Ensures (Engine.Shows directory now lifetime journal live) (list user tenantKey module)
      (fun _ ended => ∃ tenant, directory.tenantByKey tenantKey = some tenant ∧
        ended.Settled directory now lifetime journal live (user, tenant.id) True)
      (Engine.Shows directory now lifetime journal live) := by
  rw [list_eq]
  exact Ensures.bind (settled_held tenantKey) fun _ => Ensures.pure fun _ settled => settled

end Resolver

namespace Inquiry

variable {α : Type}

/-- The journal with the report of an inquiry.  Only checks are reported. -/
def reported (directory : Directory) : {α : Type} → Inquiry α → α → Journal → Journal
  | _, check user tenantKey module action, result, journal =>
      match directory.tenantByKey tenantKey with
      | some tenant =>
          Resolver.reported user tenant (permissionCode tenantKey module action) result journal
      | none => journal
  | _, checkAll _ _ _, _, journal => journal
  | _, codes _ _, _, journal => journal
  | _, list _ _ _, _, journal => journal

/-- An answer that may come with newly stored codes: any but the denial of a single check. -/
def MayFill : {α : Type} → Inquiry α → α → Prop
  | _, check _ _ _ _, result => result.granted = true
  | _, checkAll _ _ _, _ => True
  | _, codes _ _, _ => True
  | _, list _ _ _, _ => True

theorem settles (directory : Directory) (now lifetime : Int) (journal : Journal)
    (live : String × String → Option CacheEntry) (inquiry : Inquiry α) :
    Action.Ensures (Engine.Shows directory now lifetime journal live) inquiry.perform
      (fun value ended => ∃ pair, inquiry.about directory = some pair ∧
        ended.Settled directory now lifetime (inquiry.reported directory value journal) live pair
          (inquiry.MayFill value))
      (Engine.Shows directory now lifetime journal live) := by
  cases inquiry with
  | check user tenantKey module action =>
      apply Action.Ensures.weaken (Resolver.settled_check module action)
      intro result ended found
      obtain ⟨tenant, resolved, settled⟩ := found
      exact ⟨(user, tenant.id), by simp [about, resolved],
        by simpa [reported, resolved, MayFill] using settled⟩
  | checkAll user tenantKey items =>
      apply Action.Ensures.weaken (Resolver.settled_checkAll items)
      intro results ended found
      obtain ⟨tenant, resolved, settled⟩ := found
      exact ⟨(user, tenant.id), by simp [about, resolved], settled⟩
  | codes user tenantId =>
      apply Action.Ensures.weaken (Resolver.settled_codes tenantId)
      intro held ended settled
      exact ⟨(user, tenantId), rfl, settled⟩
  | list user tenantKey module =>
      apply Action.Ensures.weaken (Resolver.settled_list module)
      intro listed ended found
      obtain ⟨tenant, resolved, settled⟩ := found
      exact ⟨(user, tenant.id), by simp [about, resolved], settled⟩

/-- An inquiry that fails leaves every live entry and the journal as they were.  One that returns is
reported if it is a check, leaves all live entries but its own as they were, and its own too, unless
it has stored the full set of codes, which a denied check does not do. -/
theorem all_or_nothing {engine : Engine} {memory : MemoryCache}
    (kept : engine.cache = .memory memory) (inquiry : Inquiry α) :
    (∀ fault ended, inquiry.perform engine = (.error fault, ended) →
      ∃ after, ended.cache = .memory after ∧
        (∀ pair, after.live engine.now pair = memory.live engine.now pair) ∧
        ended.journal = engine.journal) ∧
    (∀ value ended, inquiry.perform engine = (.ok value, ended) →
      ∃ user tenantId after,
        inquiry.about engine.store.directory = some (user, tenantId) ∧
        ended.cache = .memory after ∧
        ended.journal = inquiry.reported engine.store.directory value engine.journal ∧
        (∀ pair, pair ≠ (user, tenantId) →
          after.live engine.now pair = memory.live engine.now pair) ∧
        (after.live engine.now (user, tenantId) = memory.live engine.now (user, tenantId) ∨
          (inquiry.MayFill value ∧ after.live engine.now (user, tenantId) =
            some ⟨engine.now + memory.lifetime,
              engine.store.directory.codesOf user tenantId⟩))) := by
  have ensures := inquiry.settles engine.store.directory engine.now memory.lifetime engine.journal
    (memory.live engine.now)
  have start : engine.Shows engine.store.directory engine.now memory.lifetime engine.journal
      (memory.live engine.now) := ⟨rfl, rfl, rfl, memory, kept, rfl, fun _ => rfl⟩
  constructor
  · intro fault ended failure
    have shown := ensures.of_error start failure
    obtain ⟨after, held, _, same⟩ := shown.cached
    exact ⟨after, held, same, shown.written⟩
  · intro value ended answer
    obtain ⟨⟨user, tenantId⟩, about, settled⟩ := ensures.of_ok start answer
    rcases settled with shown | ⟨allowed, absent, shown⟩
    · obtain ⟨after, held, _, same⟩ := shown.cached
      exact ⟨user, tenantId, after, about, held, shown.written, fun pair _ => same pair,
        .inl (same _)⟩
    · obtain ⟨after, held, _, filled⟩ := shown.cached
      refine ⟨user, tenantId, after, about, held, shown.written, ?_, ?_⟩
      · intro pair other
        rw [filled, Directory.fill, if_neg other.symm]
      · rw [filled, Directory.fill, if_pos rfl, MemoryCache.freshEntry, absent]
        by_cases lives : 0 < memory.lifetime
        · exact .inr ⟨allowed, if_pos lives⟩
        · exact .inl (if_neg lives)

/-- The store fails the last question of a check that is already sure to grant.  The entry of
another user is left alone, and nothing is reported. -/
theorem nothing_of_late_failure :
    ∃ engine : Engine, ∃ memory ended fault, engine.cache = .memory memory ∧
      engine.store.directory.holdsThroughRole "ann" "p1" = true ∧
      memory.live engine.now ("bob", "t1") = some ⟨900, .empty⟩ ∧
      (Inquiry.check "ann" "shop" "catalog" "read").perform engine = (.error fault, ended) ∧
      ∃ after, ended.cache = .memory after ∧
        (∀ pair, after.live engine.now pair = memory.live engine.now pair) ∧
        ended.journal = engine.journal := by
  let memory := ({ lifetime := 900 } : MemoryCache).set 0 "bob" "t1" []
  let outage : Query → Option Fault := fun query =>
    if query = .directCodes "ann" "t1" then some .storeFailure else none
  let engine : Engine :=
    { store := { directory := .shop "ann" "t1", outage }, cache := .memory memory }
  have kept : engine.cache = .memory memory := rfl
  have failure : (Inquiry.check "ann" "shop" "catalog" "read").perform engine =
      (.error .storeFailure, _) := rfl
  exact ⟨engine, memory, _, _, kept, by decide, by decide, failure,
    (all_or_nothing kept _).1 _ _ failure⟩

end Inquiry

end AccessGate
