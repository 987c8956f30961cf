import AccessGate.Proofs.Cache.Memory
import AccessGate.Proofs.Directory.Grants
import AccessGate.Proofs.Engine
import AccessGate.Resolver

/-!
# Cold and warm checks

A cold check asks the directory for a single grant; a warm check looks the code up among the cached
codes of the user.  The two disagree where a role reaches beyond its tenant: the single grant does
not care for the tenant of the role, and the codes do not care for the tenant of the permission.
-/

namespace AccessGate

/-- The engine has a directory that answers every question, and a cache in memory. -/
structure Engine.Serves (directory : Directory) (now : Int) (memory : MemoryCache)
    (engine : Engine) : Prop where
  same : engine.store.directory = directory
  online : ∀ query, engine.store.outage query = none
  time : engine.now = now
  kept : engine.cache = .memory memory

theorem Engine.Serves.noted {directory : Directory} {now : Int} {memory : MemoryCache}
    (engine : Engine) (journal : Journal) (serves : engine.Serves directory now memory) :
    ({ engine with journal } : Engine).Serves directory now memory :=
  ⟨serves.same, serves.online, serves.time, serves.kept⟩

/-- A user has an entry that has not expired. -/
def MemoryCache.Knows (memory : MemoryCache) (now : Int) (user tenantId : String)
    (codes : TextSet) : Prop :=
  memory.get now user tenantId = (some codes, memory)

theorem MemoryCache.get_of_absent {memory : MemoryCache} {now : Int} {user tenantId : String}
    (absent : memory.entries.get? (user, tenantId) = none) :
    memory.get now user tenantId = (none, memory) := by
  simp [MemoryCache.get, absent]

theorem MemoryCache.knows_set {memory : MemoryCache} {now : Int} {user tenantId : String}
    {codes : TextSet} (lives : 0 < memory.lifetime) :
    (memory.set now user tenantId codes.items).Knows now user tenantId codes := by
  have present := entries_set memory now user tenantId codes.items (user, tenantId)
  rw [if_pos rfl, TextSet.ofList_items] at present
  have unexpired : ¬ now + memory.lifetime ≤ now := by omega
  simp [Knows, MemoryCache.get, present, unexpired]

namespace Resolver

open AccessGate.Action

variable {α β : Type} {directory : Directory} {now : Int} {memory reached : MemoryCache}
  {user : String}

/-- An action returns a value of which `holds` is true, and leaves a given cache behind. -/
abbrev Turns (directory : Directory) (now : Int) (memory reached : MemoryCache) (action : Action α)
    (holds : α → Prop) : Prop :=
  Leads (Engine.Serves directory now memory) (Engine.Serves directory now reached) (fun _ => False)
    action holds

/-! ## Primitive actions -/

theorem turns_ask {query : Query} {answer : Directory → α} :
    Turns directory now memory memory (ask query answer) fun value => value = answer directory := by
  apply Leads.ask
  · rintro engine asked ⟨rfl, online, time, kept⟩ _
    exact ⟨⟨rfl, online, time, kept⟩, rfl⟩
  · rintro engine asked fault ⟨_, online, _, _⟩ refused
    rw [online] at refused
    cases refused

theorem turns_reported {code : String} {tenant : Tenant} {result : CheckResult}
    {holds : CheckResult → Prop} (known : holds result) :
    Turns directory now memory memory
      (report user tenant code result >>= fun _ => pure result) holds := by
  have reported :
      Turns directory now memory memory (report user tenant code result) fun _ => True :=
    Leads.bind (Leads.count Engine.Serves.noted) fun _ _ => Leads.note Engine.Serves.noted
  exact Leads.bind reported fun _ _ => Leads.pure known

theorem turns_cachedCodes {tenantId : String} {found : Option TextSet}
    (looked : memory.get now user tenantId = (found, memory)) :
    Turns directory now memory memory (cachedCodes user tenantId) fun value => value = found := by
  apply Leads.cachedCodes
  rintro engine ⟨same, online, rfl, kept⟩
  refine ⟨memory, kept, ?_⟩
  rw [looked]
  exact ⟨⟨same, online, rfl, rfl⟩, rfl⟩

private theorem turns_cacheCodes {tenantId : String} {codes : TextSet} :
    Turns directory now memory (memory.set now user tenantId codes.items)
      (cacheCodes user tenantId codes) fun _ => True := by
  apply Leads.cacheCodes
  rintro engine ⟨same, online, rfl, kept⟩
  refine ⟨same, online, rfl, ?_⟩
  rw [kept]
  rfl

/-! ## Queries -/

theorem turns_tenant {key : String} {tenant : Tenant}
    (resolved : directory.tenantByKey key = some tenant) :
    Turns directory now memory memory (Resolver.tenant key) fun value => value = tenant := by
  unfold Resolver.tenant
  refine Leads.bind turns_ask ?_
  rintro found rfl
  rw [resolved]
  exact Leads.pure rfl

/-- The cache after all codes of a user have been resolved. -/
def filled (directory : Directory) (now : Int) (memory : MemoryCache) (user tenantId : String) :
    MemoryCache :=
  memory.set now user tenantId (directory.codesOf user tenantId).items

theorem turns_codes {tenantId : String}
    (absent : memory.entries.get? (user, tenantId) = none) :
    Turns directory now memory (filled directory now memory user tenantId) (codes user tenantId)
      fun value => value = directory.codesOf user tenantId := by
  unfold codes
  refine Leads.bind (turns_cachedCodes (MemoryCache.get_of_absent absent)) ?_
  rintro found rfl
  refine Leads.bind turns_ask ?_
  rintro roles rfl
  refine Leads.bind turns_ask ?_
  rintro fromRoles rfl
  refine Leads.bind turns_ask ?_
  rintro direct rfl
  exact Leads.bind turns_cacheCodes fun _ _ => Leads.pure rfl

private theorem turns_checkDirectory {tenant : Tenant} {code : String}
    (absent : memory.entries.get? (user, tenant.id) = none) :
    Turns directory now memory
      (if directory.grants user tenant.id code then filled directory now memory user tenant.id
        else memory)
      (checkDirectory user tenant code)
      fun result => result.granted = directory.grants user tenant.id code := by
  unfold checkDirectory
  refine Leads.bind turns_ask ?_
  rintro found rfl
  cases defined : directory.permissionByCode tenant.id code with
  | none =>
      have denied : directory.grants user tenant.id code = false := by
        simp [Directory.grants, defined]
      rw [denied]
      exact Leads.pure rfl
  | some permission =>
      refine Leads.bind turns_ask ?_
      rintro throughRole rfl
      cases byRole : directory.holdsThroughRole user permission.id with
      | true =>
          have granted : directory.grants user tenant.id code = true := by
            simp [Directory.grants, defined, byRole]
          rw [granted]
          exact Leads.bind (turns_codes absent) fun _ _ => Leads.pure rfl
      | false =>
          refine Leads.bind turns_ask ?_
          rintro directly rfl
          cases byGrant : directory.holdsDirectly user permission.id with
          | true =>
              have granted : directory.grants user tenant.id code = true := by
                simp [Directory.grants, defined, byGrant]
              rw [granted]
              exact Leads.bind (turns_codes absent) fun _ _ => Leads.pure rfl
          | false =>
              have denied : directory.grants user tenant.id code = false := by
                simp [Directory.grants, defined, byRole, byGrant]
              rw [denied]
              exact Leads.pure rfl

theorem turns_check_cold {tenantKey : String} (module action : String) {tenant : Tenant}
    (resolved : directory.tenantByKey tenantKey = some tenant)
    (absent : memory.entries.get? (user, tenant.id) = none) :
    Turns directory now memory
      (if directory.grants user tenant.id (permissionCode tenantKey module action) then
        filled directory now memory user tenant.id else memory)
      (check user tenantKey module action)
      fun result => result.granted =
        directory.grants user tenant.id (permissionCode tenantKey module action) := by
  unfold check
  refine Leads.bind (turns_tenant resolved) ?_
  rintro found rfl
  refine Leads.bind (turns_cachedCodes (MemoryCache.get_of_absent absent)) ?_
  rintro cached rfl
  exact Leads.bind (turns_checkDirectory absent) fun _ known => turns_reported known

private theorem turns_check_warm {tenantKey : String} (module action : String) {tenant : Tenant}
    {held : TextSet} (resolved : directory.tenantByKey tenantKey = some tenant)
    (knows : memory.Knows now user tenant.id held) :
    Turns directory now memory memory (check user tenantKey module action)
      fun result => result.granted =
        decide (permissionCode tenantKey module action ∈ held) := by
  unfold check
  refine Leads.bind (turns_tenant resolved) ?_
  rintro found rfl
  refine Leads.bind (turns_cachedCodes knows) ?_
  rintro cached rfl
  refine Leads.bind (Leads.pure rfl) ?_
  rintro result rfl
  exact turns_reported rfl

/-! ## Agreement -/

/-- A check on a cache without an entry and the check after all codes have been cached agree if and
only if the tenant's own grants decide, or if both readings go astray or neither does.  Repeated
right away, a check that was granted answers what the warm check does. -/
theorem cold_eq_warm_iff {engine : Engine} {tenantKey : String} (module action : String)
    {tenant : Tenant} (serves : engine.Serves directory now memory)
    (absent : memory.entries.get? (user, tenant.id) = none) (lives : 0 < memory.lifetime)
    (distinct : directory.HasDistinctCodes)
    (resolved : directory.tenantByKey tenantKey = some tenant) :
    ∃ cold checked, check user tenantKey module action engine = (.ok cold, checked) ∧
      ∃ held cached, codes user tenant.id engine = (.ok held, cached) ∧
      ∃ warm warmed, check user tenantKey module action cached = (.ok warm, warmed) ∧
      ∃ again repeated, check user tenantKey module action checked = (.ok again, repeated) ∧
        again.granted = (cold.granted && warm.granted) ∧
        (cold.granted = warm.granted ↔
          directory.OwnGrant user tenant.id (permissionCode tenantKey module action) ∨
            (directory.StrayRole user tenant.id (permissionCode tenantKey module action) ↔
              directory.StrayPermission user tenant.id
                (permissionCode tenantKey module action))) := by
  obtain ⟨cold, checked, coldAnswer, checkedServes, coldGranted⟩ :=
    (turns_check_cold module action resolved absent).returns serves
  obtain ⟨held, cached, codesAnswer, cachedServes, rfl⟩ := (turns_codes absent).returns serves
  have knows : (filled directory now memory user tenant.id).Knows now user tenant.id
      (directory.codesOf user tenant.id) := MemoryCache.knows_set lives
  have warmCheck := turns_check_warm module action resolved knows
  obtain ⟨warm, warmed, warmAnswer, _, warmGranted⟩ := warmCheck.returns cachedServes
  have repetition : ∃ again repeated,
      check user tenantKey module action checked = (.ok again, repeated) ∧
        again.granted = (cold.granted && warm.granted) := by
    rw [← coldGranted] at checkedServes
    cases granted : cold.granted with
    | true =>
        rw [granted] at checkedServes
        obtain ⟨again, repeated, answer, _, known⟩ := warmCheck.returns checkedServes
        exact ⟨again, repeated, answer, by rw [known, warmGranted, Bool.true_and]⟩
    | false =>
        rw [granted] at checkedServes
        obtain ⟨again, repeated, answer, _, known⟩ :=
          (turns_check_cold module action resolved absent).returns
            checkedServes
        exact ⟨again, repeated, answer, by rw [known, ← coldGranted, granted, Bool.false_and]⟩
  obtain ⟨again, repeated, againAnswer, againGranted⟩ := repetition
  refine ⟨cold, checked, coldAnswer, _, cached, codesAnswer, warm, warmed, warmAnswer, again,
    repeated, againAnswer, againGranted, ?_⟩
  rw [Bool.eq_iff_iff, coldGranted, warmGranted, decide_eq_true_eq,
    Directory.grants_iff distinct, Directory.mem_codesOf_iff]
  by_cases own : directory.OwnGrant user tenant.id (permissionCode tenantKey module action)
  · simp [own]
  · simp [own]

/-- A role of the tenant itself is granted cold and warm. -/
theorem cold_eq_warm_of_own_role :
    ∃ engine : Engine, engine.store.directory = .shop "ann" "t1" ∧
      ∃ cold checked, check "ann" "shop" "catalog" "read" engine = (.ok cold, checked) ∧
        ∃ held cached, codes "ann" "t1" engine = (.ok held, cached) ∧
        ∃ warm warmed, check "ann" "shop" "catalog" "read" cached = (.ok warm, warmed) ∧
          cold.granted = warm.granted := by
  let engine : Engine :=
    { store := { directory := .shop "ann" "t1" }, cache := .memory { lifetime := 900 } }
  have serves : engine.Serves (.shop "ann" "t1") 0 { lifetime := 900 } :=
    ⟨rfl, fun _ => rfl, rfl, rfl⟩
  have absent : ({ lifetime := 900 } : MemoryCache).entries.get? ("ann", "t1") = none := rfl
  have resolved : (Directory.shop "ann" "t1").tenantByKey "shop" =
      some { id := "t1", key := "shop" } := rfl
  obtain ⟨cold, checked, coldAnswer, held, cached, codesAnswer, warm, warmed, warmAnswer,
      _, _, _, _, agreement⟩ :=
    cold_eq_warm_iff "catalog" "read" serves absent (by decide) (by decide) resolved
  exact ⟨engine, rfl, cold, checked, coldAnswer, held, cached, codesAnswer, warm, warmed,
    warmAnswer, agreement.mpr (.inl (by decide))⟩

/-- A role of another tenant is granted cold, but neither warm nor when the check is repeated. -/
theorem granted_cold_denied_warm :
    (Directory.shop "ann" "t2").HasDistinctCodes ∧
      ∃ engine : Engine, engine.store.directory = .shop "ann" "t2" ∧
        engine.cache = .memory { lifetime := 900 } ∧
        ∃ checked, check "ann" "shop" "catalog" "read" engine = (.ok ⟨true, .role⟩, checked) ∧
          ∃ repeated, check "ann" "shop" "catalog" "read" checked =
            (.ok ⟨false, .cache⟩, repeated) ∧
          ∃ cached, codes "ann" "t1" engine = (.ok .empty, cached) ∧
          ∃ warmed, check "ann" "shop" "catalog" "read" cached =
            (.ok ⟨false, .cache⟩, warmed) := by
  let engine : Engine :=
    { store := { directory := .shop "ann" "t2" }, cache := .memory { lifetime := 900 } }
  exact ⟨by decide, engine, rfl, rfl, _, rfl, _, rfl, _, rfl, _, rfl⟩

end Resolver

end AccessGate
