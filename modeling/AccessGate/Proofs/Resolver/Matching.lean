import AccessGate.Proofs.Resolver.Listing

/-!
# Matching without regard to letter case

Keys, modules and actions may be given in any letter case.  The resolver then finds the same tenant,
and from there on it depends on the code alone, whatever the store, the cache and the user.  So
checks and listings answer alike if and only if the codes are equal, that is if their parts fit
alike.  Sigmas at the seams are the only exception to matching without regard to letter case.
-/

namespace AccessGate

/-! ## Questions on record -/

/-- The engine with other questions on record. -/
def Engine.recall (engine : Engine) (asked : List Query) : Engine :=
  { engine with store := { engine.store with asked } }

/-- The store looks up both of two keys or neither of them. -/
def Engine.TakesAlike (engine : Engine) (key otherKey : String) : Prop :=
  (engine.store.outage (.tenantByKey key)).isSome =
    (engine.store.outage (.tenantByKey otherKey)).isSome

namespace Action

variable {α β : Type}

/-- What an action returns, if it returns. -/
def answer (action : Action α) (engine : Engine) : Option α :=
  (action engine : Except Fault α × Engine).1.toOption

/-- An action goes its way whatever questions are on record. -/
def Blind (action : Action α) : Prop :=
  ∀ (engine : Engine) (asked : List Query), ∃ later,
    (action (engine.recall asked) : Except Fault α × Engine) =
      ((action engine : Except Fault α × Engine).1,
        (action engine : Except Fault α × Engine).2.recall later)

theorem Blind.pure (value : α) : Blind (Pure.pure value : Action α) :=
  fun _ asked => ⟨asked, rfl⟩

theorem Blind.bind {action : Action α} {next : α → Action β} (first : Blind action)
    (rest : ∀ value, Blind (next value)) : Blind (action >>= next) := by
  intro engine asked
  obtain ⟨later, recalled⟩ := first engine asked
  rw [bind_apply, bind_apply, recalled]
  match (action engine : Except Fault α × Engine) with
  | (.ok value, ended) => exact rest value ended later
  | (.error fault, ended) => exact ⟨later, rfl⟩

theorem Blind.ask (query : Query) (reply : Directory → α) : Blind (ask query reply) := by
  intro engine asked
  refine ⟨asked ++ [query], ?_⟩
  cases outage : engine.store.outage query with
  | none => simp [Action.ask, Store.ask, Engine.recall, outage]
  | some fault => simp [Action.ask, Store.ask, Engine.recall, outage]

theorem Blind.note (event : AuditEvent) (level : LogLevel) (fields : List (String × Json)) :
    Blind (note event level fields) :=
  fun _ asked => ⟨asked, rfl⟩

theorem Blind.count (tally : Count) : Blind (count tally) :=
  fun _ asked => ⟨asked, rfl⟩

theorem Blind.cachedCodes (user tenantId : String) : Blind (cachedCodes user tenantId) :=
  fun _ asked => ⟨asked, rfl⟩

theorem Blind.cacheCodes (user tenantId : String) (codes : TextSet) :
    Blind (cacheCodes user tenantId codes) :=
  fun _ asked => ⟨asked, rfl⟩

theorem answer_of_ok {action : Action α} {engine ended : Engine} {value : α}
    (returned : action engine = (.ok value, ended)) : action.answer engine = some value := by
  rw [answer, returned]
  rfl

theorem answer_bind_pure (action : Action α) (calculate : α → β) (engine : Engine) :
    (action >>= fun value => pure (calculate value)).answer engine =
      (action.answer engine).map calculate := by
  unfold answer
  rw [bind_apply]
  match (action engine : Except Fault α × Engine) with
  | (.ok value, ended) => rfl
  | (.error fault, ended) => rfl

end Action

namespace Resolver

open AccessGate.Action AccessGate.Text

/-! ## Behind the tenant -/

theorem blind_codes (user tenantId : String) : Blind (codes user tenantId) := by
  unfold codes
  apply Blind.bind (Blind.cachedCodes user tenantId)
  intro found
  cases found with
  | some codes => exact Blind.pure codes
  | none =>
      apply Blind.bind (Blind.ask _ _)
      intro roles
      apply Blind.bind (Blind.ask _ _)
      intro fromRoles
      apply Blind.bind (Blind.ask _ _)
      intro direct
      exact Blind.bind (Blind.cacheCodes _ _ _) fun _ => Blind.pure _

private theorem blind_checkDirectory (user : String) (tenant : Tenant) (code : String) :
    Blind (checkDirectory user tenant code) := by
  have granted (evidence : Evidence) :
      Blind (codes user tenant.id >>= fun _ => pure (⟨true, evidence⟩ : CheckResult)) :=
    Blind.bind (blind_codes user tenant.id) fun _ => Blind.pure _
  unfold checkDirectory
  apply Blind.bind (Blind.ask _ _)
  intro found
  cases found with
  | none => exact Blind.pure _
  | some permission =>
      apply Blind.bind (Blind.ask _ _)
      intro throughRole
      cases throughRole with
      | true => exact granted .role
      | false =>
          apply Blind.bind (Blind.ask _ _)
          intro directly
          cases directly with
          | true => exact granted .direct
          | false => exact Blind.pure _

/-- A check once its tenant is known. -/
def checkCode (user code : String) (tenant : Tenant) : Action CheckResult := do
  let result ← match ← cachedCodes user tenant.id with
    | some codes => pure ⟨decide (code ∈ codes), .cache⟩
    | none => checkDirectory user tenant code
  report user tenant code result
  return result

theorem check_eq (user tenantKey module action : String) :
    check user tenantKey module action =
      tenant tenantKey >>= checkCode user (permissionCode tenantKey module action) :=
  rfl

private theorem blind_checkCode (user code : String) (tenant : Tenant) :
    Blind (checkCode user code tenant) := by
  have reported (result : CheckResult) :
      Blind (report user tenant code result >>= fun _ => pure result) :=
    Blind.bind (Blind.bind (Blind.count _) fun _ => Blind.note _ _ _) fun _ => Blind.pure _
  unfold checkCode
  apply Blind.bind (Blind.cachedCodes user tenant.id)
  intro found
  cases found with
  | some codes => exact Blind.bind (Blind.pure _) reported
  | none => exact Blind.bind (blind_checkDirectory user tenant code) reported

/-! ## Keys in any letter case -/

variable {α : Type} {key otherKey module otherModule action otherAction : String} {engine : Engine}

theorem tenant_apply (key : String) (engine : Engine) :
    tenant key engine =
      (match engine.store.outage (.tenantByKey key), engine.store.directory.tenantByKey key with
        | some fault, _ => .error fault
        | none, some found => .ok found
        | none, none => .error (.service (.notFound s!"Application '{key}' not found.")),
        engine.recall (engine.store.asked ++ [.tenantByKey key])) := by
  rw [tenant, bind_apply]
  cases outage : engine.store.outage (.tenantByKey key) with
  | some fault => simp [ask, Store.ask, outage, Engine.recall]
  | none =>
      cases found : engine.store.directory.tenantByKey key with
      | some found => simp [ask, Store.ask, outage, found]; rfl
      | none => simp [ask, Store.ask, outage, found]; rfl

/-- Keys that differ in letter case alone name the same tenant, and all that goes on in its name
goes on alike. -/
theorem answer_alike (sameKey : Text.lower key = Text.lower otherKey)
    (alike : engine.TakesAlike key otherKey) {next : Tenant → Action α}
    (blind : ∀ tenant, Blind (next tenant)) :
    (tenant key >>= next).answer engine = (tenant otherKey >>= next).answer engine := by
  have sameTenant : engine.store.directory.tenantByKey key =
      engine.store.directory.tenantByKey otherKey := by
    simp only [Directory.tenantByKey, sameKey]
  unfold answer
  rw [bind_apply, bind_apply, tenant_apply, tenant_apply, sameTenant]
  unfold Engine.TakesAlike at alike
  cases outage : engine.store.outage (.tenantByKey key) with
  | some fault =>
      rw [outage, Option.isSome_some, eq_comm, Option.isSome_iff_exists] at alike
      obtain ⟨otherFault, otherOutage⟩ := alike
      rw [otherOutage]
      rfl
  | none =>
      rw [outage, Option.isSome_none, eq_comm, Option.isSome_eq_false_iff,
        Option.isNone_iff_eq_none] at alike
      rw [alike]
      cases engine.store.directory.tenantByKey otherKey with
      | none => rfl
      | some found =>
          obtain ⟨_, recalled⟩ := blind found engine (engine.store.asked ++ [.tenantByKey key])
          obtain ⟨_, otherRecalled⟩ :=
            blind found engine (engine.store.asked ++ [.tenantByKey otherKey])
          simp only [recalled, otherRecalled]

/-! ## Agreement -/

/-- Two actions give the same answer, of which a part is looked at, or both fail, in every engine
whose store takes two keys alike. -/
def AnswerAlike {β : Type} (key otherKey : String) (part : α → β) (first second : Action α) :
    Prop :=
  ∀ engine : Engine, engine.TakesAlike key otherKey →
    (first.answer engine).map part = (second.answer engine).map part

private theorem checks_alike_iff (user : String) (sameKey : Text.lower key = Text.lower otherKey)
    (sameModule : Text.lower module = Text.lower otherModule)
    (sameAction : Text.lower action = Text.lower otherAction) :
    AnswerAlike key otherKey CheckResult.granted (check user key module action)
        (check user otherKey otherModule otherAction) ↔
      JoinAlike key module action otherKey otherModule otherAction := by
  rw [← permissionCode_eq_iff sameKey sameModule sameAction]
  constructor
  · intro alike
    obtain ⟨result, _, told, granted⟩ := check_granting rfl module action
    obtain ⟨other, _, otherTold, otherGranted⟩ := check_granting sameKey otherModule otherAction
    have agreed := alike (.granting user key module action) rfl
    rw [answer_of_ok told, answer_of_ok otherTold, Option.map_some, Option.map_some,
      Option.some.injEq, Bool.eq_iff_iff, granted, otherGranted] at agreed
    exact (agreed.mp rfl).symm
  · intro sameCode engine alike
    rw [check_eq, check_eq, sameCode]
    exact congrArg _ (answer_alike sameKey alike (blind_checkCode user _))

theorem held_alike (user : String) (sameKey : Text.lower key = Text.lower otherKey)
    (alike : engine.TakesAlike key otherKey) :
    (held user key).answer engine = (held user otherKey).answer engine :=
  answer_alike sameKey alike fun tenant => blind_codes user tenant.id

/-- Each of several actions is checked by its own code. -/
theorem bulk_alike_iff (user : String) (sameKey : Text.lower key = Text.lower otherKey)
    {pairs : List (CheckItem × CheckItem)}
    (same : ∀ pair ∈ pairs, Text.lower pair.1.module = Text.lower pair.2.module ∧
      Text.lower pair.1.action = Text.lower pair.2.action) :
    AnswerAlike key otherKey (List.map Prod.snd) (checkAll user key (pairs.map Prod.fst))
        (checkAll user otherKey (pairs.map Prod.snd)) ↔
      ∀ pair ∈ pairs, JoinAlike key pair.1.module pair.1.action
        otherKey pair.2.module pair.2.action := by
  constructor
  · intro alike pair listed
    obtain ⟨_, results⟩ := checkAll_granting rfl (pairs.map Prod.fst)
    obtain ⟨_, otherResults⟩ := checkAll_granting sameKey (pairs.map Prod.snd)
    have agreed := alike (.granting user key pair.1.module pair.1.action) rfl
    rw [answer_of_ok results, answer_of_ok otherResults] at agreed
    simp only [Option.map_some, Option.some.injEq, List.map_map, List.map_inj_left,
      Function.comp_apply] at agreed
    rw [← permissionCode_eq_iff sameKey (same pair listed).1 (same pair listed).2]
    exact (of_decide_eq_true ((agreed pair listed).symm.trans (decide_eq_true rfl))).symm
  · intro joined engine alike
    rw [checkAll_eq, checkAll_eq, answer_bind_pure, answer_bind_pure, held_alike user sameKey alike]
    cases (held user otherKey).answer engine with
    | none => rfl
    | some codes =>
        simp only [Option.map_some, List.map_map, Option.some.injEq]
        apply List.map_congr_left
        intro pair listed
        have sameCode := (permissionCode_eq_iff sameKey (same pair listed).1
          (same pair listed).2).mpr (joined pair listed)
        simp only [Function.comp_apply, sameCode]

private theorem shows_alike (sameKey : Text.lower key = Text.lower otherKey)
    (sameModule : Text.lower module = Text.lower otherModule)
    (joined : module = "" ∨ JoinAlike key module "" otherKey otherModule "") :
    shows key (some module) = shows otherKey (some otherModule) := by
  by_cases named : module = ""
  · rw [named, (Text.eq_empty_iff_of_lower_eq sameModule).mp named]
    rfl
  · have otherNamed : otherModule ≠ "" := mt (Text.eq_empty_iff_of_lower_eq sameModule).mpr named
    have sameStart := (permissionCode_eq_iff sameKey sameModule rfl).mpr
      (joined.resolve_left named)
    funext code
    rw [shows_some named, shows_some otherNamed, belongsTo, belongsTo, moduleStart_eq,
      moduleStart_eq, sameStart]

private theorem moduleStart_eq_of_belongsTo (sameKey : Text.lower key = Text.lower otherKey)
    (sameModule : Text.lower module = Text.lower otherModule)
    (belongs : belongsTo otherKey otherModule (moduleStart key module) = true) :
    moduleStart otherKey otherModule = moduleStart key module := by
  have lower : lowerCharacters (moduleStart key module).toList =
      (moduleStart key module).toList := by
    rw [toList_moduleStart, lowerCharacters_lowerCharacters]
  rw [belongsTo, List.isPrefixOf_iff_prefix, lower] at belongs
  apply String.toList_inj.mp
  apply belongs.eq_of_length
  rw [moduleStart_eq, moduleStart_eq, length_permissionCode, length_permissionCode, sameKey,
    sameModule]

private theorem lists_alike_iff (user : String) (sameKey : Text.lower key = Text.lower otherKey)
    (sameModule : Text.lower module = Text.lower otherModule) :
    AnswerAlike key otherKey id (list user key (some module))
        (list user otherKey (some otherModule)) ↔
      module = "" ∨ JoinAlike key module "" otherKey otherModule "" := by
  constructor
  · intro alike
    obtain ⟨_, codes⟩ := list_granting rfl (some module)
    obtain ⟨_, otherCodes⟩ := list_granting sameKey (some otherModule)
    have agreed := alike (.granting user key module "") rfl
    rw [answer_of_ok codes, answer_of_ok otherCodes] at agreed
    by_cases named : module = ""
    · exact .inl named
    · have otherNamed : otherModule ≠ "" := mt (Text.eq_empty_iff_of_lower_eq sameModule).mpr named
      right
      have shown : shows key (some module) (permissionCode key module "") = true := by
        rw [shows_some named, belongsTo_permissionCode_iff]
        exact fun seam => absurd seam.2 Bool.false_ne_true
      have member := List.mem_filter.mpr ⟨List.mem_singleton_self _, shown⟩
      simp only [Option.map_some, id, Option.some.injEq] at agreed
      rw [agreed, List.mem_filter, shows_some otherNamed, ← moduleStart_eq] at member
      rw [← permissionCode_eq_iff sameKey sameModule rfl, ← moduleStart_eq, ← moduleStart_eq,
        moduleStart_eq_of_belongsTo sameKey sameModule member.2]
  · intro joined engine alike
    rw [list_eq, list_eq, answer_bind_pure, answer_bind_pure, held_alike user sameKey alike,
      shows_alike sameKey sameModule joined]

/-- Keys, modules and actions that differ in letter case alone are matched alike exactly where they
fit alike: in a check, in each of several checks, and in the listing of a module.  All codes of a
tenant are always listed alike. -/
theorem matches_alike_iff (sameKey : Text.lower key = Text.lower otherKey) (user : String) :
    (∀ module otherModule action otherAction, Text.lower module = Text.lower otherModule →
      Text.lower action = Text.lower otherAction →
      (AnswerAlike key otherKey CheckResult.granted (check user key module action)
          (check user otherKey otherModule otherAction) ↔
        JoinAlike key module action otherKey otherModule otherAction)) ∧
    (∀ pairs : List (CheckItem × CheckItem),
      (∀ pair ∈ pairs, Text.lower pair.1.module = Text.lower pair.2.module ∧
        Text.lower pair.1.action = Text.lower pair.2.action) →
      (AnswerAlike key otherKey (List.map Prod.snd) (checkAll user key (pairs.map Prod.fst))
          (checkAll user otherKey (pairs.map Prod.snd)) ↔
        ∀ pair ∈ pairs, JoinAlike key pair.1.module pair.1.action
          otherKey pair.2.module pair.2.action)) ∧
    (∀ module otherModule, Text.lower module = Text.lower otherModule →
      (AnswerAlike key otherKey id (list user key (some module))
          (list user otherKey (some otherModule)) ↔
        module = "" ∨ JoinAlike key module "" otherKey otherModule "")) ∧
    AnswerAlike key otherKey id (list user key none) (list user otherKey none) := by
  refine ⟨?_, ?_, ?_, ?_⟩
  · intro module otherModule action otherAction sameModule sameAction
    exact checks_alike_iff user sameKey sameModule sameAction
  · intro pairs same
    exact bulk_alike_iff user sameKey same
  · intro module otherModule sameModule
    exact lists_alike_iff user sameKey sameModule
  · intro engine alike
    rw [list_eq, list_eq, answer_bind_pure, answer_bind_pure, held_alike user sameKey alike]
    rfl

/-- Both keys end in a capital sigma, which takes the same form in both codes. -/
theorem matches_alike_of_two_sigmas :
    Text.lower "ΟΔΟΣ" = Text.lower "οδοΣ" ∧
      AnswerAlike "ΟΔΟΣ" "οδοΣ" CheckResult.granted (check "ann" "ΟΔΟΣ" "Catalog" "READ")
        (check "ann" "οδοΣ" "catalog" "read") ∧
      AnswerAlike "ΟΔΟΣ" "οδοΣ" id (list "ann" "ΟΔΟΣ" (some "Catalog"))
        (list "ann" "οδοΣ" (some "CATALOG")) := by
  have sameKey : Text.lower "ΟΔΟΣ" = Text.lower "οδοΣ" := by decide +kernel
  obtain ⟨checks, _, lists, _⟩ := matches_alike_iff sameKey "ann"
  refine ⟨sameKey, ?_, ?_⟩
  · exact (checks _ _ _ _ (by decide +kernel) (by decide +kernel)).mpr (by decide +kernel)
  · exact (lists _ _ (by decide +kernel)).mpr (.inr (by decide +kernel))

/-- The capital sigma of the one key becomes a small one in the code, where the other key has a
final one. -/
theorem unlike_of_final_sigma :
    Text.lower "ΑΣ" = Text.lower "ας" ∧
      permissionCode "ΑΣ" "catalog" "read" = "ασ.catalog.read" ∧
      permissionCode "ας" "catalog" "read" = "ας.catalog.read" ∧
      ∃ engine : Engine, engine = .granting "ann" "ΑΣ" "catalog" "read" ∧
        (∃ result ended, check "ann" "ΑΣ" "catalog" "read" engine = (.ok result, ended) ∧
          result.granted = true) ∧
        (∃ result ended, check "ann" "ας" "catalog" "read" engine = (.ok result, ended) ∧
          result.granted = false) ∧
        (∃ ended, list "ann" "ΑΣ" (some "catalog") engine = (.ok ["ασ.catalog.read"], ended)) ∧
        (∃ ended, list "ann" "ας" (some "catalog") engine = (.ok [], ended)) := by
  have sameKey : Text.lower "ΑΣ" = Text.lower "ας" := by decide +kernel
  have code : permissionCode "ΑΣ" "catalog" "read" = "ασ.catalog.read" := by decide +kernel
  have otherCode : permissionCode "ας" "catalog" "read" = "ας.catalog.read" := by decide +kernel
  refine ⟨sameKey, code, otherCode, _, rfl, ?_, ?_, ?_, ?_⟩
  · obtain ⟨result, ended, told, granted⟩ := check_granting rfl "catalog" "read"
    exact ⟨result, ended, told, granted.mpr rfl⟩
  · obtain ⟨result, ended, told, granted⟩ := check_granting sameKey "catalog" "read"
    refine ⟨result, ended, told, ?_⟩
    rw [← Bool.not_eq_true, granted, code, otherCode]
    decide
  · obtain ⟨ended, codes⟩ := list_granting rfl (some "catalog")
    refine ⟨ended, codes.trans ?_⟩
    rw [code, List.filter_eq_self.mpr]
    decide +kernel
  · obtain ⟨ended, codes⟩ := list_granting sameKey (some "catalog")
    refine ⟨ended, codes.trans ?_⟩
    rw [code, List.filter_eq_nil_iff.mpr]
    decide +kernel

end Resolver

end AccessGate
