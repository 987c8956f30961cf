import AccessGate.Proofs.Resolver.Matching
import AccessGate.Proofs.Resolver.UnreliableCache
import AccessGate.Proofs.Text.Steady

/-!
# Grants of a module and an action

A permission is granted for a module and an action, but the resolver only looks at its code, in
which the two are joined by a dot and lower-cased.  Dots within them, and sigmas at their ends, may
give the same code to another module and action, whose checks the grant then answers as well.
`answersOwnPair_iff` says that all others are answered by grants of their own.
-/

namespace AccessGate

/-! ## Codes -/

namespace Text

variable {behind ahead : Bool}

private theorem dot_mem_of_smallLetter {character : Char} (dot : smallLetter character = '.') :
    character = '.' := by
  rcases smallLetter_cases character with same | ⟨_, cased, _, _⟩
  · rw [← same, dot]
  · rw [dot] at cased
    exact absurd cased (by decide +kernel)

theorem dot_mem_of_mem_lowerWithin {characters : List Char}
    (member : '.' ∈ lowerWithin behind ahead characters) : '.' ∈ characters := by
  rcases mem_settle member with small | final | ⟨listed, _⟩
  · exact absurd small (by decide)
  · exact absurd final (by decide)
  · obtain ⟨origin, found, lowered⟩ := List.mem_flatMap.mp listed
    unfold lowerOther lowerCharacter at lowered
    split at lowered
    · exact absurd lowered (by decide)
    · split at lowered
      · exact absurd lowered (by decide)
      · rwa [dot_mem_of_smallLetter (List.mem_singleton.mp lowered).symm] at found

private theorem eq_of_append_dot {start rest otherStart otherRest : List Char} (first : '.' ∉ start)
    (second : '.' ∉ rest) (same : otherStart ++ '.' :: otherRest = start ++ '.' :: rest) :
    otherStart = start ∧ otherRest = rest := by
  rcases List.append_eq_append_iff.mp same with ⟨between, rfl, later⟩ | ⟨between, rfl, later⟩
  · cases between with
    | nil => exact ⟨(List.append_nil _).symm, (List.cons.inj later).2⟩
    | cons character between =>
        obtain ⟨rfl, _⟩ := List.cons.inj later
        exact absurd (List.mem_append_right _ List.mem_cons_self) first
  · cases between with
    | nil => exact ⟨List.append_nil _, ((List.cons.inj later).2).symm⟩
    | cons character between =>
        obtain ⟨rfl, rfl⟩ := List.cons.inj later
        exact absurd (List.mem_append_right _ List.mem_cons_self) second

end Text

open AccessGate.Text

variable {key otherKey module otherModule action otherAction : String}

theorem permissionCode_parts :
    (permissionCode key module action).toList =
      lowerWithin false (letterAhead (module ++ "." ++ action).toList false) key.toList ++
        '.' :: (lowerWithin (letterBehind key.toList false) (letterAhead action.toList false)
            module.toList ++
          '.' :: lowerWithin (letterBehind (key ++ "." ++ module).toList false) false
            action.toList) := by
  rw [toList_permissionCode, toList_join, toList_join, lowerWithin_join, lowerWithin_join,
    letterBehind_append key.toList, letterBehind_dot]

/-- No other module and action, whatever the letter case, have the same code as these. -/
def IsUnmistakable (key module action : String) : Prop :=
  ∀ otherKey otherModule otherAction, Text.lower otherKey = Text.lower key →
    permissionCode otherKey otherModule otherAction = permissionCode key module action →
    Text.lower otherModule = Text.lower module ∧ Text.lower otherAction = Text.lower action

/-- Module and action have no dots, and are steady between their neighbours in the code. -/
structure IsPlainCode (key module action : String) : Prop where
  dotlessModule : '.' ∉ module.toList
  dotlessAction : '.' ∉ action.toList
  steadyModule :
    Steady (letterBehind key.toList false) (letterAhead action.toList false) module.toList
  steadyAction : Steady (letterBehind (key ++ "." ++ module).toList false) false action.toList

instance : Decidable (IsPlainCode key module action) :=
  decidable_of_iff
    ('.' ∉ module.toList ∧ '.' ∉ action.toList ∧
      Steady (letterBehind key.toList false) (letterAhead action.toList false) module.toList ∧
      Steady (letterBehind (key ++ "." ++ module).toList false) false action.toList)
    ⟨fun ⟨first, second, third, fourth⟩ => ⟨first, second, third, fourth⟩,
      fun plain => ⟨plain.1, plain.2, plain.3, plain.4⟩⟩

theorem letterBehind_join :
    letterBehind (key ++ "." ++ module).toList false =
      letterBehind module.toList (letterBehind key.toList false) := by
  rw [toList_join, letterBehind_append, letterBehind_dot]

private theorem isUnmistakable_of_isPlainCode (plain : IsPlainCode key module action) :
    IsUnmistakable key module action := by
  intro otherKey otherModule otherAction sameKey sameCode
  rw [Text.lower_eq_iff] at sameKey
  rw [← String.toList_inj, permissionCode_parts, permissionCode_parts] at sameCode
  obtain ⟨_, later⟩ := List.append_inj sameCode
    (by rw [length_lowerWithin, length_lowerWithin, sameKey])
  obtain ⟨sameModule, sameAction⟩ := eq_of_append_dot
    (mt dot_mem_of_mem_lowerWithin plain.dotlessModule)
    (mt dot_mem_of_mem_lowerWithin plain.dotlessAction) (List.cons.inj later).2
  -- Letters show through, so that both parts have the same neighbours as well.
  have sameBehind : letterBehind otherKey.toList false = letterBehind key.toList false :=
    letterBehind_eq_of_lowerCharacters_eq sameKey false
  have sameAhead : letterAhead otherAction.toList false = letterAhead action.toList false := by
    rw [← letterAhead_lowerWithin otherAction.toList, sameAction, letterAhead_lowerWithin]
  have sameBetween : letterBehind (otherKey ++ "." ++ otherModule).toList false =
      letterBehind (key ++ "." ++ module).toList false := by
    rw [letterBehind_join, letterBehind_join, ← letterBehind_lowerWithin otherModule.toList,
      sameModule, letterBehind_lowerWithin, sameBehind]
  rw [sameBehind, sameAhead] at sameModule
  rw [sameBetween] at sameAction
  rw [Text.lower_eq_iff, Text.lower_eq_iff]
  exact ⟨steady_iff.mp plain.steadyModule _ sameModule,
    steady_iff.mp plain.steadyAction _ sameAction⟩

/-! ## Codes that are mistaken -/

theorem exists_join_of_dot_mem {text : String} (member : '.' ∈ text.toList) :
    ∃ start rest : String, text = start ++ "." ++ rest := by
  obtain ⟨start, rest, parts⟩ := List.append_of_mem member
  refine ⟨String.ofList start, String.ofList rest, ?_⟩
  rw [← String.toList_inj, toList_join, String.toList_ofList, String.toList_ofList, parts]

theorem lower_join_ne (text other : String) :
    Text.lower (text ++ "." ++ other) ≠ Text.lower text := by
  intro same
  rw [Text.lower_eq_iff, toList_join, lowerCharacters_eq, lowerWithin_join] at same
  have lengths := congrArg List.length same
  rw [List.length_append, List.length_cons, length_lowerWithin] at lengths
  omega

/-- A dot within the module or the action can be taken for the one that joins them. -/
theorem IsUnmistakable.dotless (unmistakable : IsUnmistakable key module action) :
    '.' ∉ module.toList ∧ '.' ∉ action.toList := by
  constructor
  · intro member
    obtain ⟨start, rest, rfl⟩ := exists_join_of_dot_mem member
    have sameCode : permissionCode key start (rest ++ "." ++ action) =
        permissionCode key (start ++ "." ++ rest) action := by
      simp only [permissionCode, String.append_assoc]
    exact lower_join_ne start rest (unmistakable _ _ _ rfl sameCode).1.symm
  · intro member
    obtain ⟨start, rest, rfl⟩ := exists_join_of_dot_mem member
    have sameCode : permissionCode key (module ++ "." ++ start) rest =
        permissionCode key module (start ++ "." ++ rest) := by
      simp only [permissionCode, String.append_assoc]
    exact lower_join_ne module start (unmistakable _ _ _ rfl sameCode).1

theorem permissionCode_eq_of_parts
    (sameModule : lowerWithin (letterBehind key.toList false) (letterAhead action.toList false)
        otherModule.toList =
      lowerWithin (letterBehind key.toList false) (letterAhead action.toList false) module.toList)
    (sameAction : lowerWithin (letterBehind (key ++ "." ++ module).toList false) false
        otherAction.toList =
      lowerWithin (letterBehind (key ++ "." ++ module).toList false) false action.toList) :
    permissionCode key otherModule otherAction = permissionCode key module action := by
  have sameAhead : letterAhead otherAction.toList false = letterAhead action.toList false := by
    rw [← letterAhead_lowerWithin otherAction.toList, sameAction, letterAhead_lowerWithin]
  have sameBehind : letterBehind (key ++ "." ++ otherModule).toList false =
      letterBehind (key ++ "." ++ module).toList false := by
    rw [letterBehind_join, letterBehind_join, ← letterBehind_lowerWithin otherModule.toList,
      sameModule, letterBehind_lowerWithin]
  have sameBeyond : letterAhead (otherModule ++ "." ++ otherAction).toList false =
      letterAhead (module ++ "." ++ action).toList false := by
    rw [toList_join, toList_join, letterAhead_append, letterAhead_append, letterAhead_dot,
      letterAhead_dot, sameAhead, ← letterAhead_lowerWithin otherModule.toList, sameModule,
      letterAhead_lowerWithin]
  rw [← String.toList_inj, permissionCode_parts, permissionCode_parts, sameBeyond, sameAhead,
    sameBehind, sameModule, sameAction]

/-- Exactly the plain codes can belong to one module and action only, up to letter case. -/
theorem isUnmistakable_iff :
    IsUnmistakable key module action ↔ IsPlainCode key module action := by
  refine ⟨fun unmistakable => ?_, isUnmistakable_of_isPlainCode⟩
  refine ⟨unmistakable.dotless.1, unmistakable.dotless.2, ?_, ?_⟩
  · rw [steady_iff]
    intro others same
    have sameCode : permissionCode key (String.ofList others) action =
        permissionCode key module action :=
      permissionCode_eq_of_parts (by rw [String.toList_ofList, same]) rfl
    have known := (unmistakable _ _ _ rfl sameCode).1
    rwa [Text.lower_eq_iff, String.toList_ofList] at known
  · rw [steady_iff]
    intro others same
    have sameCode : permissionCode key module (String.ofList others) =
        permissionCode key module action :=
      permissionCode_eq_of_parts rfl (by rw [String.toList_ofList, same])
    have known := (unmistakable _ _ _ rfl sameCode).2
    rwa [Text.lower_eq_iff, String.toList_ofList] at known

/-! ## Grants -/

namespace Directory

/-- The code of every permission joins its module and action to the key of its tenant. -/
def IsCoded (directory : Directory) : Prop :=
  ∀ permission ∈ directory.permissions, ∀ tenant ∈ directory.tenants,
    tenant.id = permission.tenantId →
      permission.code = permissionCode tenant.key permission.module permission.action

/-- A user holds, directly or through a role of the tenant, a permission of the tenant for a module
and an action, up to letter case. -/
def OwnPair (directory : Directory) (user tenantId module action : String) : Prop :=
  ∃ permission ∈ directory.permissions,
    permission.tenantId = tenantId ∧ Text.lower permission.module = Text.lower module ∧
      Text.lower permission.action = Text.lower action ∧
      (permission.id ∈ directory.permissionsHeld user ∨
        ∃ roleId ∈ directory.rolesHeld user,
          directory.Lists roleId permission.id ∧ directory.Within roleId tenantId)

variable {directory : Directory} {user : String} {tenant : Tenant}

private theorem tenantByKey_eq_some (resolved : directory.tenantByKey key = some tenant) :
    tenant ∈ directory.tenants ∧ Text.lower tenant.key = Text.lower key := by
  have found := List.find?_some resolved
  simp only [Bool.and_eq_true, decide_eq_true_eq] at found
  exact ⟨List.mem_of_find?_eq_some resolved, found.2⟩

theorem IsCoded.ownPair (isCoded : directory.IsCoded)
    (resolved : directory.tenantByKey key = some tenant)
    (unmistakable : IsUnmistakable key module action)
    (own : directory.OwnGrant user tenant.id (permissionCode key module action)) :
    directory.OwnPair user tenant.id module action := by
  obtain ⟨permission, known, belongs, code, held⟩ := own
  obtain ⟨registered, sameKey⟩ := tenantByKey_eq_some resolved
  rw [isCoded permission known tenant registered belongs.symm] at code
  obtain ⟨sameModule, sameAction⟩ := unmistakable _ _ _ sameKey code
  exact ⟨permission, known, belongs, sameModule, sameAction, held⟩

end Directory

/-- The cache, in memory or shared, holds nothing about a user within a tenant but what the directory
says. -/
def Engine.Truthful (engine : Engine) (user tenantId : String) : Prop :=
  engine.Coherent engine.store.directory (· ≠ (user, tenantId)) ∨
    engine.Unharmed engine.store.directory (· = (user, tenantId))

theorem Engine.truthful_of_empty {engine : Engine} (user tenantId : String)
    (empty : (∃ lifetime, engine.cache = .memory { lifetime }) ∨
      (∃ cache, engine.cache = .shared cache ∧ cache.store.entries = .empty) ∧
        ∀ query, engine.store.outage query = none) : engine.Truthful user tenantId := by
  rcases empty with ⟨lifetime, kept⟩ | ⟨⟨cache, kept, none⟩, online⟩
  · exact .inl ⟨rfl, _, kept, MemoryCache.coherent_empty lifetime⟩
  · refine .inr ⟨rfl, online, cache, kept, ?_⟩
    rintro _ _ _ text stored
    rw [none] at stored
    cases stored

/-- A truthful cache stays so when all codes of the user are resolved, and the cache is filled. -/
theorem Engine.Truthful.codes {engine : Engine} {user tenantId : String}
    (truthful : engine.Truthful user tenantId) :
    (Resolver.codes user tenantId engine : Except Fault TextSet × Engine).2.Truthful user
      tenantId := by
  rcases truthful with coherent | unharmed
  · have sustains : Resolver.Sustains engine.store.directory _ _ _
        fun pair => ¬ pair ≠ (user, tenantId) := Resolver.sustains_coherent
    have leads : Action.Leads _ _ _ (Resolver.codes user tenantId) _ := sustains.codes trivial
    have kept := leads.ends (fun _ kept => kept) (fun _ kept => kept) coherent
    exact .inl (kept.same ▸ kept)
  · have apart : KeepsApart (· = (user, tenantId)) :=
      fun _ _ first second _ => first.trans second.symm
    have sustains : Resolver.Sustains engine.store.directory _
        (Engine.Unharmed engine.store.directory (· = (user, tenantId))) _ _ :=
      Resolver.sustains_unharmed apart
    have leads : Action.Leads _ _ _ (Resolver.codes user tenantId) _ := sustains.codes rfl
    have kept := leads.ends (fun _ kept => kept) (fun _ kept => kept) unharmed
    exact .inr (kept.same ▸ kept)

theorem Action.eq_ok_of_answer {α : Type} {action : Action α} {engine : Engine} {value : α}
    (answered : action.answer engine = some value) :
    ∃ ended, action engine = (.ok value, ended) := by
  unfold answer at answered
  match outcome : (action engine : Except Fault α × Engine) with
  | (.ok other, ended) =>
      rw [outcome] at answered
      cases answered
      exact ⟨ended, rfl⟩
  | (.error fault, ended) =>
      rw [outcome] at answered
      cases answered

namespace Resolver

open AccessGate.Action

/-- A check of a module and an action, alone or among others, is only answered by a permission for
this module and this action. -/
def AnswersOwnPair (key module action : String) : Prop :=
  ∀ (engine : Engine) (user : String) (tenant : Tenant),
    engine.store.directory.HasOwnPermissions → engine.store.directory.IsCoded →
    engine.store.directory.tenantByKey key = some tenant → engine.Truthful user tenant.id →
    (∀ result, (check user key module action).answer engine = some result →
      result.granted = true → engine.store.directory.OwnPair user tenant.id module action) ∧
    ∀ items results, (checkAll user key items).answer engine = some results →
      (⟨module, action⟩, true) ∈ results →
      engine.store.directory.OwnPair user tenant.id module action

section Sustained

variable {directory : Directory} {kept failed : Engine → Prop}
  {concerns fresh : String × String → Prop} {user : String} {tenant : Tenant} {engine : Engine}

theorem ownGrant_of_check (sustains : Sustains directory kept failed concerns fresh)
    (isOwn : directory.HasOwnPermissions) (resolved : directory.tenantByKey key = some tenant)
    (concerned : concerns (user, tenant.id)) (isFresh : fresh (user, tenant.id))
    (start : kept engine) {result : CheckResult}
    (answered : (check user key module action).answer engine = some result)
    (granted : result.granted = true) :
    directory.OwnGrant user tenant.id (permissionCode key module action) := by
  have leads : Leads kept kept failed (check user key module action) _ :=
    sustains.check_either (by rw [resolved]; rintro _ ⟨⟩; exact concerned) (by rw [resolved]; nofun)
  obtain ⟨ended, told⟩ := eq_ok_of_answer answered
  obtain ⟨_, found, same, either⟩ := leads.answers start told
  rw [resolved] at same
  cases same
  exact isOwn.ownGrant ((either isFresh).imp (·.mp granted) (·.mp granted))

theorem ownGrant_of_checkAll (sustains : Sustains directory kept failed concerns fresh)
    (isOwn : directory.HasOwnPermissions) (resolved : directory.tenantByKey key = some tenant)
    (concerned : concerns (user, tenant.id)) (isFresh : fresh (user, tenant.id))
    (start : kept engine) {items : List CheckItem} {results : List (CheckItem × Bool)}
    (answered : (checkAll user key items).answer engine = some results)
    (granted : (⟨module, action⟩, true) ∈ results) :
    directory.OwnGrant user tenant.id (permissionCode key module action) := by
  have leads : Leads kept kept failed (checkAll user key items) _ :=
    sustains.checkAll (by rw [resolved]; rintro _ ⟨⟩; exact concerned) (by rw [resolved]; nofun)
  obtain ⟨ended, told⟩ := eq_ok_of_answer answered
  obtain ⟨_, found, same, known⟩ := leads.answers start told
  rw [resolved] at same
  cases same
  rw [known isFresh] at granted
  obtain ⟨item, _, equality⟩ := List.mem_map.mp granted
  obtain ⟨rfl, member⟩ := Prod.mk.inj equality
  exact isOwn.ownGrant (.inr (of_decide_eq_true member))

end Sustained

private theorem answersOwnPair_of_isUnmistakable (unmistakable : IsUnmistakable key module action) :
    AnswersOwnPair key module action := by
  intro engine user tenant isOwn isCoded resolved truthful
  have pair : engine.store.directory.OwnGrant user tenant.id (permissionCode key module action) →
      engine.store.directory.OwnPair user tenant.id module action :=
    isCoded.ownPair resolved unmistakable
  rcases truthful with coherent | unharmed
  · have fresh : ¬ (user, tenant.id) ≠ (user, tenant.id) := not_not_intro rfl
    have sustains : Sustains engine.store.directory _ _ _ fun pair => ¬ pair ≠ (user, tenant.id) :=
      sustains_coherent
    exact ⟨fun _ answered granted => pair (ownGrant_of_check sustains isOwn resolved trivial fresh
        coherent answered granted),
      fun _ _ answered granted => pair (ownGrant_of_checkAll sustains isOwn resolved trivial fresh
        coherent answered granted)⟩
  · have apart : KeepsApart (· = (user, tenant.id)) :=
      fun _ _ first second _ => first.trans second.symm
    have sustains : Sustains engine.store.directory _ (fun _ => True) _ _ :=
      sustains_unharmed apart
    exact ⟨fun _ answered granted => pair (ownGrant_of_check sustains isOwn resolved rfl trivial
        unharmed answered granted),
      fun _ _ answered granted => pair (ownGrant_of_checkAll sustains isOwn resolved rfl trivial
        unharmed answered granted)⟩

/-! ## Grants of other pairs -/

theorem truthful_granting (user key module action other tenantId : String) :
    (Engine.granting user key module action).Truthful other tenantId :=
  Engine.truthful_of_empty other tenantId (.inl ⟨900, rfl⟩)

theorem isCoded_granting (user key module action : String) :
    (Directory.granting user key module action).IsCoded := by
  intro permission known tenant registered _
  rw [List.mem_singleton.mp known, List.mem_singleton.mp registered]

theorem ownPair_granting {user otherUser tenantId : String}
    (own : (Directory.granting user key module action).OwnPair otherUser tenantId otherModule
      otherAction) :
    Text.lower module = Text.lower otherModule ∧ Text.lower action = Text.lower otherAction := by
  obtain ⟨permission, known, _, sameModule, sameAction, _⟩ := own
  rw [List.mem_singleton.mp known] at sameModule sameAction
  exact ⟨sameModule, sameAction⟩

private theorem isUnmistakable_of_answersOwnPair (answers : AnswersOwnPair key module action) :
    IsUnmistakable key module action := by
  intro otherKey otherModule otherAction sameKey sameCode
  let engine : Engine := .granting "ann" otherKey otherModule otherAction
  obtain ⟨result, ended, told, granted⟩ : ∃ result ended,
      check "ann" key module action engine = (.ok result, ended) ∧ _ :=
    check_granting sameKey module action
  obtain ⟨checks, _⟩ := answers engine "ann" _ Directory.isScoped_granting.ownPermissions
    (isCoded_granting "ann" otherKey otherModule otherAction)
    (Directory.tenantByKey_granting sameKey) (truthful_granting ..)
  exact ownPair_granting (checks result (answer_of_ok told) (granted.mpr sameCode.symm))

/-- The actions that are only answered by permissions of their own are those with plain codes. -/
theorem answersOwnPair_iff (key module action : String) :
    AnswersOwnPair key module action ↔ IsPlainCode key module action := by
  rw [← isUnmistakable_iff]
  exact ⟨isUnmistakable_of_answersOwnPair, answersOwnPair_of_isUnmistakable⟩

/-- Capital sigmas within a module do no harm, but one at its end does if a letter follows. -/
example : IsPlainCode "shop" "ΣΥΝΟΔΟΙ" "Read" ∧ ¬ IsPlainCode "shop" "ΟΔΟΣ" "Read" := by
  decide +kernel

/-- The permission to read items of the catalog answers for items that are read in the catalog. -/
theorem granted_for_other_pair :
    ∃ engine : Engine, engine = .granting "ann" "shop" "catalog.items" "read" ∧
      engine.store.directory.HasOwnPermissions ∧ engine.store.directory.IsCoded ∧
      engine.Truthful "ann" "t1" ∧
      (∃ result ended, check "ann" "shop" "catalog" "items.read" engine = (.ok result, ended) ∧
        result.granted = true) ∧
      (∃ ended, checkAll "ann" "shop" [⟨"catalog", "items.read"⟩] engine =
        (.ok [(⟨"catalog", "items.read"⟩, true)], ended)) ∧
      ¬ engine.store.directory.OwnPair "ann" "t1" "catalog" "items.read" := by
  have sameCode : permissionCode "shop" "catalog" "items.read" =
      permissionCode "shop" "catalog.items" "read" := by decide +kernel
  refine ⟨_, rfl, Directory.isScoped_granting.ownPermissions,
    isCoded_granting "ann" "shop" "catalog.items" "read", truthful_granting .., ?_, ?_, ?_⟩
  · obtain ⟨result, ended, told, granted⟩ := check_granting rfl "catalog" "items.read"
    exact ⟨result, ended, told, granted.mpr sameCode⟩
  · obtain ⟨ended, told⟩ := checkAll_granting rfl [⟨"catalog", "items.read"⟩]
    refine ⟨ended, told.trans ?_⟩
    rw [List.map_singleton, sameCode, decide_eq_true rfl]
  · intro own
    exact absurd (ownPair_granting own).1 (by decide +kernel)

end Resolver

end AccessGate
