import AccessGate.Proofs.Resolver.Answers
import AccessGate.Proofs.Resolver.Codes
import AccessGate.Proofs.Resolver.ColdAndWarm

/-!
# Listings and checks

Checks and listings start from the same codes.  A check looks for one code among them; the listing
of a module keeps those that start like the module.  The two agree on an action of the module unless
the module ends in a capital sigma and the action starts with a letter: the sigma then takes its
final form in the start of the module, but not in the code.
-/

namespace AccessGate

/-! ## A single permission -/

/-- A tenant, and a permission that it defines and a user holds directly. -/
def Directory.granting (user key module action : String) : Directory where
  tenants := [{ id := "t1", key }]
  permissions :=
    [{ id := "p1", tenantId := "t1", module, action, code := permissionCode key module action }]
  userPermissions := Table.empty.put user ["p1"]

/-- The engine that works on a single permission, with nothing in its cache. -/
def Engine.granting (user key module action : String) : Engine where
  store := { directory := .granting user key module action }
  cache := .memory { lifetime := 900 }

variable {user key otherKey module action : String}

theorem Engine.serves_granting :
    (Engine.granting user key module action).Serves (.granting user key module action) 0
      { lifetime := 900 } :=
  ⟨rfl, fun _ => rfl, rfl, rfl⟩

namespace Directory

theorem tenantByKey_granting (same : Text.lower key = Text.lower otherKey) :
    (granting user key module action).tenantByKey otherKey = some { id := "t1", key } := by
  simp [tenantByKey, granting, same]

theorem isScoped_granting : (granting user key module action).IsScoped := by
  constructor
  · intro first known second otherKnown _ _
    rw [List.mem_singleton.mp known, List.mem_singleton.mp otherKnown]
  · intro role known
    cases known

theorem codesOf_granting :
    (granting user key module action).codesOf user "t1" =
      .ofList [permissionCode key module action] := by
  apply TextSet.eq_of_mem_iff
  intro code
  rw [mem_codesOf_iff, TextSet.mem_ofList, List.mem_singleton]
  constructor
  · rintro (⟨permission, known, _, equality, _⟩ | stray)
    · rw [← equality, List.mem_singleton.mp known]
    · exact absurd stray isScoped_granting.ownPermissions.not_strayPermission
  · rintro rfl
    refine .inl ⟨_, List.mem_singleton_self _, rfl, rfl, .inl ?_⟩
    simp [permissionsHeld, granting]

end Directory

namespace Resolver

open AccessGate.Action AccessGate.Text

/-! ## Answers about a single permission -/

private theorem turns_held {directory : Directory} {now : Int} {memory : MemoryCache}
    {tenant : Tenant}
    (resolved : directory.tenantByKey key = some tenant)
    (absent : memory.entries.get? (user, tenant.id) = none) :
    Turns directory now memory (filled directory now memory user tenant.id) (held user key)
      fun codes => codes = directory.codesOf user tenant.id := by
  refine Leads.bind (turns_tenant resolved) ?_
  rintro found rfl
  exact turns_codes absent

theorem check_granting (same : Text.lower key = Text.lower otherKey)
    (otherModule otherAction : String) :
    ∃ result ended, check user otherKey otherModule otherAction
        (.granting user key module action) = (.ok result, ended) ∧
      (result.granted = true ↔ permissionCode otherKey otherModule otherAction =
        permissionCode key module action) := by
  obtain ⟨result, ended, answer, _, granted⟩ :=
    (turns_check_cold otherModule otherAction (Directory.tenantByKey_granting same) rfl).returns
      Engine.serves_granting
  refine ⟨result, ended, answer, ?_⟩
  rw [granted, Directory.isScoped_granting.grants_iff_mem_codesOf, Directory.codesOf_granting,
    TextSet.mem_ofList, List.mem_singleton]

theorem held_granting (same : Text.lower key = Text.lower otherKey) (module action : String) :
    ∃ ended, held user otherKey (.granting user key module action) =
      (.ok (.ofList [permissionCode key module action]), ended) := by
  obtain ⟨codes, ended, answer, _, rfl⟩ :=
    (turns_held (Directory.tenantByKey_granting same) rfl).returns Engine.serves_granting
  rw [Directory.codesOf_granting] at answer
  exact ⟨ended, answer⟩

theorem checkAll_granting (same : Text.lower key = Text.lower otherKey) (items : List CheckItem) :
    ∃ ended, checkAll user otherKey items (.granting user key module action) =
      (.ok (items.map fun item => (item, decide (permissionCode otherKey item.module item.action =
        permissionCode key module action))), ended) := by
  obtain ⟨ended, answer⟩ := held_granting same module action
  refine ⟨ended, ?_⟩
  rw [checkAll_eq, bind_apply, answer]
  simp only [TextSet.mem_ofList, List.mem_singleton]
  rfl

theorem list_granting (same : Text.lower key = Text.lower otherKey) (filter : Option String) :
    ∃ ended, list user otherKey filter (.granting user key module action) =
      (.ok ([permissionCode key module action].filter (shows otherKey filter)), ended) := by
  obtain ⟨ended, answer⟩ := held_granting same module action
  refine ⟨ended, ?_⟩
  rw [list_eq, bind_apply, answer]
  rfl

/-! ## Agreement -/

/-- What a check of several permissions tells of an action, the listing of its module tells as well,
and both fail alike. -/
def ListingAgrees (tenantKey module action : String) : Prop :=
  ∀ (engine : Engine) (user : String) (items : List CheckItem),
    match (checkAll user tenantKey items engine : Except Fault _ × Engine).1,
      (list user tenantKey (some module) engine : Except Fault _ × Engine).1 with
    | .ok results, .ok listed =>
        ∀ granted, (⟨module, action⟩, granted) ∈ results →
          (granted = true ↔ permissionCode tenantKey module action ∈ listed)
    | .error first, .error second => first = second
    | _, _ => False

theorem shows_some (named : module ≠ "") (code : String) :
    shows key (some module) code = belongsTo key module code := by
  have kept : (some module).filter (fun module => !module.isEmpty) = some module := by
    simp [Option.filter, named]
  rw [shows, kept]

private theorem listingAgrees_of_belongsTo (named : module ≠ "")
    (belongs : belongsTo key module (permissionCode key module action) = true) :
    ListingAgrees key module action := by
  intro engine user items
  rw [checkAll_eq, list_eq, bind_apply, bind_apply]
  match (held user key engine : Except Fault TextSet × Engine) with
  | (.error fault, ended) => rfl
  | (.ok codes, ended) =>
      intro granted member
      obtain ⟨item, _, equality⟩ := List.mem_map.mp member
      cases equality
      rw [decide_eq_true_eq]
      change _ ↔ _ ∈ codes.filter _
      rw [TextSet.mem_filter, shows_some named, belongs]
      simp

theorem belongsTo_of_listingAgrees (named : module ≠ "")
    (agrees : ListingAgrees key module action) :
    belongsTo key module (permissionCode key module action) = true := by
  have outcome := agrees (.granting "ann" key module action) "ann" [⟨module, action⟩]
  obtain ⟨checked, results⟩ := checkAll_granting rfl [⟨module, action⟩]
  obtain ⟨listed, codes⟩ := list_granting rfl (some module)
  rw [results, codes] at outcome
  have found := (outcome true (by simp)).mp rfl
  rw [List.mem_filter, shows_some named] at found
  exact found.2

/-- A module that is listed shows exactly what checks of the module grant, unless key and module end
in a capital sigma behind a letter and the action starts with a letter. -/
theorem listingAgrees_iff (named : module ≠ "") :
    ListingAgrees key module action ↔
      ¬ (endsInSigma false (key ++ "." ++ module).toList = true ∧
        startsWithLetter action.toList = true) := by
  rw [startsWithLetter_eq, ← belongsTo_permissionCode_iff]
  exact ⟨belongsTo_of_listingAgrees named, listingAgrees_of_belongsTo named⟩

/-- A sigma within the module, or at its start, does no harm. -/
theorem listingAgrees_of_inner_sigma :
    "ΣΥΝΟΔΟΙ" ≠ "" ∧ ListingAgrees "SHOP" "ΣΥΝΟΔΟΙ" "Read" :=
  ⟨by decide, (listingAgrees_iff (by decide)).mpr (by decide +kernel)⟩

/-- The code of the action has a small sigma, the start of the module a final one. -/
theorem granted_but_not_listed :
    permissionCode "shop" "ΑΣ" "read" = "shop.ασ.read" ∧ moduleStart "shop" "ΑΣ" = "shop.ας." ∧
      ¬ ListingAgrees "shop" "ΑΣ" "read" ∧
      ∃ engine : Engine, engine = .granting "ann" "shop" "ΑΣ" "read" ∧
        ∃ checked, checkAll "ann" "shop" [⟨"ΑΣ", "read"⟩] engine =
          (.ok [(⟨"ΑΣ", "read"⟩, true)], checked) ∧
        ∃ listed, list "ann" "shop" (some "ΑΣ") engine = (.ok [], listed) := by
  refine ⟨by decide +kernel, by decide +kernel, ?_, _, rfl, ?_⟩
  · intro agrees
    exact absurd (belongsTo_of_listingAgrees (by decide) agrees) (by decide +kernel)
  · obtain ⟨checked, results⟩ := checkAll_granting rfl [⟨"ΑΣ", "read"⟩]
    obtain ⟨listed, codes⟩ := list_granting rfl (some "ΑΣ")
    refine ⟨checked, results.trans ?_, listed, codes.trans ?_⟩
    · simp
    · rw [List.filter_eq_nil_iff.mpr]
      decide +kernel

end Resolver

end AccessGate
