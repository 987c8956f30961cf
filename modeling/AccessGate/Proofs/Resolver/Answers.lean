import AccessGate.Proofs.Directory.Grants
import AccessGate.Proofs.Engine
import AccessGate.Resolver

/-!
# Answers of the resolver

Whatever cache the resolver works on, its answers are those of the directory if three things are
sure: questions are answered from the directory, a lookup finds nothing or the codes of the
directory, and caching these codes does not upset any of that.  `Sustains` states the three for an
invariant of the engine; the lemmas below follow every query of the resolver through to its answer.
-/

namespace AccessGate.Resolver

open AccessGate.Action

/-! ## Held codes -/

/-- The codes of a user within the tenant of a key. -/
def held (user tenantKey : String) : Action TextSet := do
  let tenant ← tenant tenantKey
  codes user tenant.id

/-- Whether a listing for a module, if it names one, shows a code. -/
def shows (tenantKey : String) (module : Option String) (code : String) : Bool :=
  match module.filter fun module => !module.isEmpty with
  | some module => belongsTo tenantKey module code
  | none => true

theorem checkAll_eq (user tenantKey : String) (items : List CheckItem) :
    checkAll user tenantKey items = held user tenantKey >>= fun codes =>
      pure (items.map fun item =>
        (item, decide (permissionCode tenantKey item.module item.action ∈ codes))) :=
  (bind_assoc _ _ _).symm

theorem list_eq (user tenantKey : String) (module : Option String) :
    list user tenantKey module = held user tenantKey >>= fun codes =>
      pure (codes.filter (shows tenantKey module)).items := by
  rw [held, bind_assoc, list]
  congr 1
  funext tenant
  congr 1
  funext codes
  unfold shows
  cases module.filter fun module => !module.isEmpty with
  | some module => rfl
  | none => exact congrArg pure (List.filter_eq_self.mpr fun _ _ => rfl).symm

/-! ## Trust -/

/-- An invariant of the engine under which the resolver can be trusted.  It only has to stand
lookups of the pairs that the inquiries concern, and what they find only counts for fresh pairs. -/
structure Sustains (directory : Directory) (kept failed : Engine → Prop)
    (concerns fresh : String × String → Prop) : Prop where
  ask : ∀ {α : Type} (query : Query) (answer : Directory → α),
    Leads kept kept failed (ask query answer) fun value => value = answer directory
  noted : ∀ engine journal, kept engine → kept { engine with journal }
  cachedCodes : ∀ user tenantId, concerns (user, tenantId) →
    Leads kept kept failed (cachedCodes user tenantId) fun found =>
      ∀ codes, found = some codes → fresh (user, tenantId) →
        codes = directory.codesOf user tenantId
  cacheCodes : ∀ user tenantId, concerns (user, tenantId) →
    Leads kept kept failed (cacheCodes user tenantId (directory.codesOf user tenantId))
      fun _ => True

namespace Sustains

variable {directory : Directory} {kept failed : Engine → Prop}
  {concerns fresh : String × String → Prop} {user tenantKey : String}

theorem reported (sustains : Sustains directory kept failed concerns fresh) {code : String}
    {tenant : Tenant} {result : CheckResult} {holds : CheckResult → Prop} (known : holds result) :
    Leads kept kept failed (report user tenant code result >>= fun _ => pure result) holds := by
  have reported : Leads kept kept failed (report user tenant code result) fun _ => True :=
    Leads.bind (Leads.count sustains.noted) fun _ _ => Leads.note sustains.noted
  exact Leads.bind reported fun _ _ => Leads.pure known

/-! ## Queries -/

theorem tenant (sustains : Sustains directory kept failed concerns fresh) {key : String}
    (missing : directory.tenantByKey key = none → ∀ engine, kept engine → failed engine) :
    Leads kept kept failed (tenant key) fun tenant =>
      directory.tenantByKey key = some tenant := by
  unfold Resolver.tenant
  apply Leads.bind (sustains.ask _ _)
  intro found answered
  subst answered
  cases resolved : directory.tenantByKey key with
  | none =>
      intro engine start
      exact missing resolved engine start
  | some tenant => exact Leads.pure rfl

theorem codes (sustains : Sustains directory kept failed concerns fresh) {tenantId : String}
    (concerned : concerns (user, tenantId)) :
    Leads kept kept failed (codes user tenantId) fun codes =>
      fresh (user, tenantId) → codes = directory.codesOf user tenantId := by
  unfold Resolver.codes
  apply Leads.bind (sustains.cachedCodes user tenantId concerned)
  intro found known
  cases found with
  | some codes => exact Leads.pure (known codes rfl)
  | none =>
      apply Leads.bind (sustains.ask _ _)
      intro roles answered
      subst answered
      apply Leads.bind (sustains.ask _ _)
      intro fromRoles answered
      subst answered
      apply Leads.bind (sustains.ask _ _)
      intro direct answered
      subst answered
      apply Leads.bind (sustains.cacheCodes user tenantId concerned)
      intro _ _
      exact Leads.pure fun _ => rfl

theorem checkDirectory (sustains : Sustains directory kept failed concerns fresh) {code : String}
    {tenant : Tenant} (concerned : concerns (user, tenant.id)) :
    Leads kept kept failed (checkDirectory user tenant code) fun result =>
      result.granted = directory.grants user tenant.id code := by
  unfold Resolver.checkDirectory
  apply Leads.bind (sustains.ask _ _)
  intro found answered
  subst answered
  cases defined : directory.permissionByCode tenant.id code with
  | none => exact Leads.pure (by simp [Directory.grants, defined])
  | some permission =>
      apply Leads.bind (sustains.ask _ _)
      intro throughRole answered
      subst answered
      cases byRole : directory.holdsThroughRole user permission.id with
      | true =>
          apply Leads.bind (sustains.codes concerned)
          intro _ _
          exact Leads.pure (by simp [Directory.grants, defined, byRole])
      | false =>
          apply Leads.bind (sustains.ask _ _)
          intro directly answered
          subst answered
          cases byGrant : directory.holdsDirectly user permission.id with
          | true =>
              apply Leads.bind (sustains.codes concerned)
              intro _ _
              exact Leads.pure (by simp [Directory.grants, defined, byGrant])
          | false => exact Leads.pure (by simp [Directory.grants, defined, byRole, byGrant])

/-! ## Inquiries -/

theorem check_either (sustains : Sustains directory kept failed concerns fresh)
    {module action : String}
    (concerned : ∀ tenant, directory.tenantByKey tenantKey = some tenant →
      concerns (user, tenant.id))
    (missing : directory.tenantByKey tenantKey = none → ∀ engine, kept engine → failed engine) :
    Leads kept kept failed (Resolver.check user tenantKey module action) fun result =>
      ∃ tenant, directory.tenantByKey tenantKey = some tenant ∧
        (fresh (user, tenant.id) →
          (result.granted = true ↔
            directory.grants user tenant.id (permissionCode tenantKey module action) = true) ∨
          (result.granted = true ↔
            permissionCode tenantKey module action ∈ directory.codesOf user tenant.id)) := by
  unfold Resolver.check
  apply Leads.bind (sustains.tenant missing)
  intro tenant resolved
  apply Leads.bind (sustains.cachedCodes user tenant.id (concerned tenant resolved))
  intro found known
  cases found with
  | some codes =>
      refine Leads.bind (Leads.pure ?_) fun _ truthful =>
        sustains.reported ⟨tenant, resolved, truthful⟩
      intro isFresh
      right
      rw [decide_eq_true_eq, known codes rfl isFresh]
  | none =>
      apply Leads.bind (sustains.checkDirectory (concerned tenant resolved))
      intro result answer
      apply sustains.reported
      exact ⟨tenant, resolved, fun _ => .inl (by rw [answer])⟩

theorem check (sustains : Sustains directory kept failed concerns fresh)
    (isScoped : directory.IsScoped) {module action : String}
    (concerned : ∀ tenant, directory.tenantByKey tenantKey = some tenant →
      concerns (user, tenant.id))
    (missing : directory.tenantByKey tenantKey = none → ∀ engine, kept engine → failed engine) :
    Leads kept kept failed (check user tenantKey module action) fun result =>
      ∃ tenant, directory.tenantByKey tenantKey = some tenant ∧
        (fresh (user, tenant.id) → (result.granted = true ↔
          permissionCode tenantKey module action ∈ directory.codesOf user tenant.id)) := by
  apply Leads.weaken (sustains.check_either concerned missing)
  intro result ⟨tenant, resolved, either⟩
  refine ⟨tenant, resolved, fun isFresh => ?_⟩
  rcases either isFresh with granted | told
  · exact granted.trans isScoped.grants_iff_mem_codesOf
  · exact told

theorem held (sustains : Sustains directory kept failed concerns fresh)
    (concerned : ∀ tenant, directory.tenantByKey tenantKey = some tenant →
      concerns (user, tenant.id))
    (missing : directory.tenantByKey tenantKey = none → ∀ engine, kept engine → failed engine) :
    Leads kept kept failed (held user tenantKey) fun codes =>
      ∃ tenant, directory.tenantByKey tenantKey = some tenant ∧
        (fresh (user, tenant.id) → codes = directory.codesOf user tenant.id) := by
  unfold Resolver.held
  apply Leads.bind (sustains.tenant missing)
  intro tenant resolved
  apply Leads.weaken (sustains.codes (concerned tenant resolved))
  intro codes known
  exact ⟨tenant, resolved, known⟩

theorem checkAll (sustains : Sustains directory kept failed concerns fresh)
    {items : List CheckItem}
    (concerned : ∀ tenant, directory.tenantByKey tenantKey = some tenant →
      concerns (user, tenant.id))
    (missing : directory.tenantByKey tenantKey = none → ∀ engine, kept engine → failed engine) :
    Leads kept kept failed (checkAll user tenantKey items) fun results =>
      ∃ tenant, directory.tenantByKey tenantKey = some tenant ∧
        (fresh (user, tenant.id) → results = items.map fun item =>
          (item, decide (permissionCode tenantKey item.module item.action ∈
            directory.codesOf user tenant.id))) := by
  rw [checkAll_eq]
  apply Leads.bind (sustains.held concerned missing)
  intro codes ⟨tenant, resolved, known⟩
  apply Leads.pure
  exact ⟨tenant, resolved, fun isFresh => by rw [known isFresh]⟩

theorem list (sustains : Sustains directory kept failed concerns fresh) {module : Option String}
    (concerned : ∀ tenant, directory.tenantByKey tenantKey = some tenant →
      concerns (user, tenant.id))
    (missing : directory.tenantByKey tenantKey = none → ∀ engine, kept engine → failed engine) :
    Leads kept kept failed (list user tenantKey module) fun listed =>
      ∃ tenant, directory.tenantByKey tenantKey = some tenant ∧
        (fresh (user, tenant.id) → listed =
          ((directory.codesOf user tenant.id).filter (shows tenantKey module)).items) := by
  rw [list_eq]
  apply Leads.bind (sustains.held concerned missing)
  intro codes ⟨tenant, resolved, known⟩
  apply Leads.pure
  exact ⟨tenant, resolved, fun isFresh => by rw [known isFresh]⟩

end Sustains

end AccessGate.Resolver
