import AccessGate.Proofs.Resolver.Coherence

/-!
# Runs of the resolver

A run mixes inquiries with changes of the directory, invalidations, outages of the store and moves
of the clock, in any order.  A pair of a user and a tenant is stale from a change of its codes until
an invalidation that covers it.  `Reachable.truthful` says that an inquiry about a pair that is not
stale is answered by the directory as it is now, whatever the run did before.
-/

namespace AccessGate

/-- A question that the resolver answers, by the type of its answer. -/
inductive Inquiry : Type → Type where
  | check (user tenantKey module action : String) : Inquiry CheckResult
  | checkAll (user tenantKey : String) (items : List CheckItem) : Inquiry (List (CheckItem × Bool))
  | codes (user tenantId : String) : Inquiry TextSet
  | list (user tenantKey : String) (module : Option String) : Inquiry (List String)

namespace Inquiry

variable {α : Type}

/-- Asks the resolver. -/
def perform : {α : Type} → Inquiry α → Action α
  | _, check user tenantKey module action => Resolver.check user tenantKey module action
  | _, checkAll user tenantKey items => Resolver.checkAll user tenantKey items
  | _, codes user tenantId => Resolver.codes user tenantId
  | _, list user tenantKey module => Resolver.list user tenantKey module

/-- The user and the tenant that an inquiry is about, unless its key names no tenant. -/
def about (directory : Directory) : {α : Type} → Inquiry α → Option (String × String)
  | _, check user tenantKey _ _ =>
      (directory.tenantByKey tenantKey).map fun found => (user, found.id)
  | _, checkAll user tenantKey _ =>
      (directory.tenantByKey tenantKey).map fun found => (user, found.id)
  | _, codes user tenantId => some (user, tenantId)
  | _, list user tenantKey _ =>
      (directory.tenantByKey tenantKey).map fun found => (user, found.id)

/-- An answer is true of a directory. -/
def Truth (directory : Directory) : {α : Type} → Inquiry α → α → Prop
  | _, check user tenantKey module action, result =>
      ∃ tenant, directory.tenantByKey tenantKey = some tenant ∧
        (result.granted = true ↔
          permissionCode tenantKey module action ∈ directory.codesOf user tenant.id)
  | _, checkAll user tenantKey items, results =>
      ∃ tenant, directory.tenantByKey tenantKey = some tenant ∧
        results = items.map fun item => (item, decide
          (permissionCode tenantKey item.module item.action ∈ directory.codesOf user tenant.id))
  | _, codes user tenantId, held => held = directory.codesOf user tenantId
  | _, list user tenantKey module, listed =>
      ∃ tenant, directory.tenantByKey tenantKey = some tenant ∧
        listed.Pairwise (· < ·) ∧
        ∀ code, code ∈ listed ↔
          code ∈ directory.codesOf user tenant.id ∧ Resolver.shows tenantKey module code = true

/-- Under an invariant that sustains the resolver, an answer about a fresh pair is true.  An inquiry
about no pair, because its key names no tenant, may fail. -/
theorem leads {directory : Directory} {kept failed : Engine → Prop}
    {concerns fresh : String × String → Prop}
    (sustains : Resolver.Sustains directory kept failed concerns fresh)
    (isScoped : directory.IsScoped) (inquiry : Inquiry α)
    (concerned : ∀ pair ∈ inquiry.about directory, concerns pair)
    (missing : inquiry.about directory = none → ∀ engine, kept engine → failed engine) :
    Action.Leads kept kept failed inquiry.perform fun value =>
      (∀ pair ∈ inquiry.about directory, fresh pair) → inquiry.Truth directory value := by
  cases inquiry with
  | check user tenantKey module action =>
      apply Action.Leads.weaken (sustains.check isScoped
        (fun tenant resolved => concerned _ (by simp [about, resolved]))
        (fun resolved => missing (by simp [about, resolved])))
      intro result ⟨tenant, resolved, truthful⟩ isFresh
      exact ⟨tenant, resolved, truthful (isFresh (user, tenant.id) (by simp [about, resolved]))⟩
  | checkAll user tenantKey items =>
      apply Action.Leads.weaken (sustains.checkAll
        (fun tenant resolved => concerned _ (by simp [about, resolved]))
        (fun resolved => missing (by simp [about, resolved])))
      intro results ⟨tenant, resolved, truthful⟩ isFresh
      exact ⟨tenant, resolved, truthful (isFresh (user, tenant.id) (by simp [about, resolved]))⟩
  | codes user tenantId =>
      apply Action.Leads.weaken (sustains.codes (concerned _ rfl))
      intro held truthful isFresh
      exact truthful (isFresh (user, tenantId) rfl)
  | list user tenantKey module =>
      apply Action.Leads.weaken (sustains.list
        (fun tenant resolved => concerned _ (by simp [about, resolved]))
        (fun resolved => missing (by simp [about, resolved])))
      intro listed ⟨tenant, resolved, truthful⟩ isFresh
      obtain rfl := truthful (isFresh (user, tenant.id) (by simp [about, resolved]))
      exact ⟨tenant, resolved, TextSet.sorted _, fun code => TextSet.mem_filter ..⟩

/-- Every inquiry keeps the engine coherent, and an answer about a pair that is not stale is
true. -/
theorem keeps {directory : Directory} {stale : String × String → Prop}
    (isScoped : directory.IsScoped) (inquiry : Inquiry α) :
    Resolver.Keeps directory stale inquiry.perform fun value =>
      (∀ pair ∈ inquiry.about directory, ¬ stale pair) → inquiry.Truth directory value :=
  inquiry.leads Resolver.sustains_coherent isScoped (fun _ _ => trivial)
    fun _ _ coherent => coherent

end Inquiry

/-- Asks the resolver for an invalidation. -/
def Invalidation.perform : Invalidation → Action Unit
  | ofUser user tenant => Resolver.invalidateUser user tenant
  | ofTenant tenant => Resolver.invalidateTenant tenant

/-- An invalidation returns, and makes the pairs that it covers fresh again. -/
theorem Invalidation.leads {directory : Directory} {stale : String × String → Prop}
    (request : Invalidation) :
    Action.Leads (Engine.Coherent directory stale)
      (Engine.Coherent directory fun pair => stale pair ∧ request.covers pair = false)
      (fun _ => False) request.perform fun _ => True := by
  cases request with
  | ofUser user tenant =>
      refine Action.Leads.bind (Action.Leads.dropCodes ?_) fun _ _ =>
        Action.Leads.note Engine.Coherent.noted
      rintro engine ⟨same, memory, kept, coherent⟩
      refine ⟨.memory (memory.invalidateUser user tenant), by rw [kept]; rfl, same, _, rfl, ?_⟩
      exact coherent.invalidate (.ofUser user tenant)
  | ofTenant tenant =>
      refine Action.Leads.bind (Action.Leads.dropCodes ?_) fun _ _ =>
        Action.Leads.note Engine.Coherent.noted
      rintro engine ⟨same, memory, kept, coherent⟩
      refine ⟨.memory (memory.invalidateTenant tenant), by rw [kept]; rfl, same, _, rfl, ?_⟩
      exact coherent.invalidate (.ofTenant tenant)

/-- The engines that a run can reach, with the pairs that are stale. -/
inductive Reachable : Engine → (String × String → Prop) → Prop where
  /-- The cache starts empty. -/
  | start {engine : Engine} {lifetime : Int} :
      engine.cache = .memory { lifetime } → engine.store.directory.IsScoped →
      Reachable engine fun _ => False
  /-- The clock may show anything.  A lifetime that changes as well stands for a clock that moves on
  within an inquiry, between its lookup and its entry. -/
  | clock {engine : Engine} {stale : String × String → Prop} {memory : MemoryCache}
      (now lifetime : Int) :
      Reachable engine stale → engine.cache = .memory memory →
      Reachable { engine with now, cache := .memory { memory with lifetime } } stale
  /-- Any questions to the store may fail from now on. -/
  | outage {engine : Engine} {stale : String × String → Prop} (outage : Query → Option Fault) :
      Reachable engine stale →
      Reachable { engine with store := { engine.store with outage } } stale
  /-- Any change of the directory makes the pairs stale whose codes it changes. -/
  | edit {engine : Engine} {stale : String × String → Prop} (change : Directory → Directory) :
      Reachable engine stale → (change engine.store.directory).IsScoped →
      Reachable (engine.edit change) fun pair =>
        stale pair ∨ engine.store.directory.codesOf pair.1 pair.2 ≠
          (change engine.store.directory).codesOf pair.1 pair.2
  | invalidate {engine : Engine} {stale : String × String → Prop} (request : Invalidation) :
      Reachable engine stale →
      Reachable (request.perform engine).2 fun pair => stale pair ∧ request.covers pair = false
  | inquire {engine : Engine} {stale : String × String → Prop} {α : Type} (inquiry : Inquiry α) :
      Reachable engine stale → Reachable (inquiry.perform engine).2 stale

/-- The cache of a run tells the truth about all pairs that are not stale. -/
theorem Reachable.coherent {engine : Engine} {stale : String × String → Prop}
    (reachable : Reachable engine stale) :
    engine.Coherent engine.store.directory stale ∧ engine.store.directory.IsScoped := by
  induction reachable with
  | start empty isScoped =>
      exact ⟨⟨rfl, _, empty, MemoryCache.coherent_empty _⟩, isScoped⟩
  | clock now lifetime _ kept induction =>
      obtain ⟨⟨_, memory, present, coherent⟩, isScoped⟩ := induction
      rw [kept] at present
      cases present
      refine ⟨⟨rfl, _, rfl, ?_⟩, isScoped⟩
      exact ⟨⟨coherent.mirrored.byUser, coherent.mirrored.byTenant⟩, coherent.truthful⟩
  | outage _ _ induction =>
      obtain ⟨⟨_, cached⟩, isScoped⟩ := induction
      exact ⟨⟨rfl, cached⟩, isScoped⟩
  | edit change _ isScoped induction =>
      obtain ⟨⟨_, memory, kept, coherent⟩, _⟩ := induction
      exact ⟨⟨rfl, memory, kept, coherent.change _⟩, isScoped⟩
  | @invalidate engine stale request _ induction =>
      obtain ⟨coherent, isScoped⟩ := induction
      have reached : ((request.perform engine).2 : Engine).Coherent engine.store.directory
          fun pair => stale pair ∧ request.covers pair = false :=
        request.leads.ends (fun _ holds => holds) (fun _ holds => holds.elim) coherent
      rw [reached.same]
      exact ⟨reached, isScoped⟩
  | @inquire engine stale _ inquiry _ induction =>
      obtain ⟨coherent, isScoped⟩ := induction
      have reached : ((inquiry.perform engine).2 : Engine).Coherent engine.store.directory stale :=
        (inquiry.keeps isScoped).ends (fun _ holds => holds) (fun _ holds => holds) coherent
      rw [reached.same]
      exact ⟨reached, isScoped⟩

/-- In every run, an inquiry about a pair that is not stale is answered, if at all, by the directory
as it is. -/
theorem Reachable.truthful {engine reached : Engine} {stale : String × String → Prop}
    (reachable : Reachable engine stale) {α : Type} (inquiry : Inquiry α)
    (fresh : ∀ pair ∈ inquiry.about engine.store.directory, ¬ stale pair) {value : α}
    (answer : inquiry.perform engine = (.ok value, reached)) :
    inquiry.Truth engine.store.directory value := by
  obtain ⟨coherent, isScoped⟩ := reachable.coherent
  exact ((inquiry.keeps isScoped).answers coherent answer).2 fresh

/-- A user whose codes are cached loses a role, and is denied what the role granted. -/
theorem Reachable.truthful_of_revocation :
    ∃ engine stale reached, Reachable engine stale ∧
      (Inquiry.check "ann" "shop" "catalog" "read").perform engine = (.ok ⟨false, .none⟩, reached) ∧
      (Inquiry.check "ann" "shop" "catalog" "read").Truth engine.store.directory
        ⟨false, .none⟩ := by
  let engine : Engine :=
    { store := { directory := .shop "ann" "t1" }, cache := .memory { lifetime := 900 } }
  have start : Reachable engine fun _ => False := .start rfl (by decide)
  have cached := Reachable.inquire (.codes "ann" "t1") start
  have revoked := Reachable.edit (fun directory => directory.unassignRole "ann" "r1") cached
    (by decide)
  have dropped := Reachable.invalidate (.ofUser "ann" none) revoked
  refine ⟨_, _, _, dropped, rfl, ?_⟩
  refine dropped.truthful (.check "ann" "shop" "catalog" "read") ?_ rfl
  intro pair concerned stale
  cases concerned
  exact absurd stale.2 (by decide)

end AccessGate
