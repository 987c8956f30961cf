import AccessGate.Directory.Basic

/-!
# Two readings of the directory

A single grant is looked up by the permission alone, while the codes of a user are collected from
the roles of one tenant.  The two readings agree on what a tenant grants by its own roles; they
differ where a role and a permission that it lists belong to different tenants.
-/

namespace AccessGate.Directory

variable {directory : Directory} {user tenantId code : String}

/-- A role, given by its id, lists a permission. -/
def Lists (directory : Directory) (roleId permissionId : String) : Prop :=
  ∃ role ∈ directory.roles, role.id = roleId ∧ permissionId ∈ role.permissions

/-- A role, given by its id, belongs to a tenant. -/
def Within (directory : Directory) (roleId tenantId : String) : Prop :=
  ∃ role ∈ directory.roles, role.id = roleId ∧ role.tenantId = tenantId

/-- A user holds a permission of a tenant, directly or through a role of the same tenant. -/
def OwnGrant (directory : Directory) (user tenantId code : String) : Prop :=
  ∃ permission ∈ directory.permissions,
    permission.tenantId = tenantId ∧ permission.code = code ∧
      (permission.id ∈ directory.permissionsHeld user ∨
        ∃ roleId ∈ directory.rolesHeld user,
          directory.Lists roleId permission.id ∧ directory.Within roleId tenantId)

/-- A user holds a permission of a tenant through a role that does not belong to the tenant. -/
def StrayRole (directory : Directory) (user tenantId code : String) : Prop :=
  ∃ permission ∈ directory.permissions,
    permission.tenantId = tenantId ∧ permission.code = code ∧
      ∃ roleId ∈ directory.rolesHeld user,
        directory.Lists roleId permission.id ∧ ¬ directory.Within roleId tenantId

/-- A user holds, through a role of a tenant, a permission of another tenant. -/
def StrayPermission (directory : Directory) (user tenantId code : String) : Prop :=
  ∃ permission ∈ directory.permissions,
    permission.tenantId ≠ tenantId ∧ permission.code = code ∧
      ∃ roleId ∈ directory.rolesHeld user,
        directory.Lists roleId permission.id ∧ directory.Within roleId tenantId

/-- Within a tenant, the rows with one code are one permission. -/
def HasDistinctCodes (directory : Directory) : Prop :=
  ∀ first ∈ directory.permissions, ∀ second ∈ directory.permissions,
    first.tenantId = second.tenantId → first.code = second.code → first.id = second.id

/-- Roles list permissions of their own tenants only, where all rows with one id are one role. -/
def HasOwnPermissions (directory : Directory) : Prop :=
  ∀ role ∈ directory.roles, ∀ row ∈ directory.roles, row.id = role.id →
    ∀ permission ∈ directory.permissions, permission.id ∈ row.permissions →
      permission.tenantId = role.tenantId

/-- A directory in which no role reaches beyond its tenant and no code is ambiguous. -/
structure IsScoped (directory : Directory) : Prop where
  distinctCodes : directory.HasDistinctCodes
  ownPermissions : directory.HasOwnPermissions

section Decidability

instance (roleId permissionId : String) : Decidable (directory.Lists roleId permissionId) :=
  inferInstanceAs (Decidable (∃ role ∈ directory.roles, _))

instance (roleId : String) : Decidable (directory.Within roleId tenantId) :=
  inferInstanceAs (Decidable (∃ role ∈ directory.roles, _))

instance : Decidable (directory.OwnGrant user tenantId code) :=
  inferInstanceAs (Decidable (∃ permission ∈ directory.permissions, _))

instance : Decidable (directory.StrayRole user tenantId code) :=
  inferInstanceAs (Decidable (∃ permission ∈ directory.permissions, _))

instance : Decidable (directory.StrayPermission user tenantId code) :=
  inferInstanceAs (Decidable (∃ permission ∈ directory.permissions, _))

instance : Decidable directory.HasDistinctCodes :=
  inferInstanceAs (Decidable (∀ first ∈ directory.permissions, _))

instance : Decidable directory.HasOwnPermissions :=
  inferInstanceAs (Decidable (∀ role ∈ directory.roles, _))

instance : Decidable directory.IsScoped :=
  decidable_of_iff (directory.HasDistinctCodes ∧ directory.HasOwnPermissions)
    ⟨fun holds => ⟨holds.1, holds.2⟩, fun holds => ⟨holds.distinctCodes, holds.ownPermissions⟩⟩

end Decidability

/-- A shop, and a role of the given tenant that lets a user read the catalog of the shop. -/
def shop (reader roleTenant : String) : Directory where
  tenants := [{ id := "t1", key := "shop" }, { id := "t2", key := "desk" }]
  permissions :=
    [{ id := "p1", tenantId := "t1", module := "catalog", action := "read",
       code := "shop.catalog.read" }]
  roles := [{ id := "r1", tenantId := roleTenant, permissions := ["p1"] }]
  userRoles := .ofList [(reader, ["r1"])]

/-! ## Collected codes -/

theorem mem_rolesById {id : String} {role : Role} :
    role ∈ directory.rolesById id ↔ role ∈ directory.roles ∧ role.id = id := by
  simp [rolesById]

theorem mem_permissionsById {id : String} {permission : Permission} :
    permission ∈ directory.permissionsById id ↔
      permission ∈ directory.permissions ∧ permission.id = id := by
  simp [permissionsById]

theorem mem_rolesOfUser {roleId : String} :
    roleId ∈ directory.rolesOfUser user tenantId ↔
      roleId ∈ directory.rolesHeld user ∧ directory.Within roleId tenantId := by
  simp only [rolesOfUser, Within, List.mem_filter, List.any_eq_true, mem_rolesById,
    decide_eq_true_eq, and_assoc]

private theorem mem_codesOfRoles {roleIds : List String} :
    code ∈ directory.codesOfRoles roleIds ↔
      ∃ permission ∈ directory.permissions, permission.code = code ∧
        ∃ roleId ∈ roleIds, directory.Lists roleId permission.id := by
  simp only [codesOfRoles, Lists, TextSet.mem_ofList, List.mem_flatMap, List.mem_map,
    mem_rolesById, mem_permissionsById]
  constructor
  · rintro ⟨roleId, given, role, ⟨found, rfl⟩, _, listed, permission, ⟨known, rfl⟩, equality⟩
    exact ⟨permission, known, equality, role.id, given, role, found, rfl, listed⟩
  · rintro ⟨permission, known, equality, _, given, role, found, rfl, listed⟩
    exact ⟨role.id, given, role, ⟨found, rfl⟩, permission.id, listed, permission, ⟨known, rfl⟩,
      equality⟩

private theorem mem_directCodes :
    code ∈ directory.directCodes user tenantId ↔
      ∃ permission ∈ directory.permissions, permission.tenantId = tenantId ∧
        permission.code = code ∧ permission.id ∈ directory.permissionsHeld user := by
  simp only [directCodes, TextSet.mem_ofList, List.mem_flatMap, List.mem_map, List.mem_filter,
    mem_permissionsById, decide_eq_true_eq]
  constructor
  · rintro ⟨_, held, permission, ⟨⟨known, rfl⟩, own⟩, equality⟩
    exact ⟨permission, known, own, equality, held⟩
  · rintro ⟨permission, known, own, equality, held⟩
    exact ⟨permission.id, held, permission, ⟨⟨known, rfl⟩, own⟩, equality⟩

/-- The codes of a user within a tenant come from the tenant's own grants, and from permissions of
other tenants that its roles list. -/
theorem mem_codesOf_iff :
    code ∈ directory.codesOf user tenantId ↔
      directory.OwnGrant user tenantId code ∨ directory.StrayPermission user tenantId code := by
  rw [codesOf, TextSet.mem_union, mem_codesOfRoles, mem_directCodes]
  constructor
  · rintro (⟨permission, known, equality, roleId, held, listed⟩ |
      ⟨permission, known, own, equality, held⟩)
    · obtain ⟨held, within⟩ := mem_rolesOfUser.mp held
      by_cases own : permission.tenantId = tenantId
      · exact .inl ⟨permission, known, own, equality, .inr ⟨roleId, held, listed, within⟩⟩
      · exact .inr ⟨permission, known, own, equality, roleId, held, listed, within⟩
    · exact .inl ⟨permission, known, own, equality, .inl held⟩
  · rintro (⟨permission, known, own, equality, held | ⟨roleId, held, listed, within⟩⟩ |
      ⟨permission, known, _, equality, roleId, held, listed, within⟩)
    · exact .inr ⟨permission, known, own, equality, held⟩
    · exact .inl ⟨permission, known, equality, roleId, mem_rolesOfUser.mpr ⟨held, within⟩, listed⟩
    · exact .inl ⟨permission, known, equality, roleId, mem_rolesOfUser.mpr ⟨held, within⟩, listed⟩

/-! ## Single grants -/

theorem holdsThroughRole_iff {permissionId : String} :
    directory.holdsThroughRole user permissionId = true ↔
      ∃ roleId ∈ directory.rolesHeld user, directory.Lists roleId permissionId := by
  simp only [holdsThroughRole, Lists, List.any_eq_true, mem_rolesById, List.contains_iff_mem,
    and_assoc]

theorem holdsDirectly_iff {permissionId : String} :
    directory.holdsDirectly user permissionId = true ↔
      permissionId ∈ directory.permissionsHeld user := by
  simp [holdsDirectly]

theorem permissionByCode_eq_some {permission : Permission}
    (found : directory.permissionByCode tenantId code = some permission) :
    permission ∈ directory.permissions ∧ permission.tenantId = tenantId ∧
      permission.code = code := by
  refine ⟨List.mem_of_find?_eq_some found, ?_⟩
  simpa using List.find?_some found

private theorem permissionByCode_eq_none_iff :
    directory.permissionByCode tenantId code = none ↔
      ∀ permission ∈ directory.permissions, permission.tenantId = tenantId →
        permission.code ≠ code := by
  simp [permissionByCode]

/-- The permission with a code is looked up first, and then whether the user holds it, through any
role or directly. -/
def grants (directory : Directory) (user tenantId code : String) : Bool :=
  match directory.permissionByCode tenantId code with
  | none => false
  | some permission =>
      directory.holdsThroughRole user permission.id || directory.holdsDirectly user permission.id

theorem own_or_stray_of_grants (granted : directory.grants user tenantId code = true) :
    directory.OwnGrant user tenantId code ∨ directory.StrayRole user tenantId code := by
  unfold grants at granted
  cases found : directory.permissionByCode tenantId code with
  | none =>
      rw [found] at granted
      cases granted
  | some permission =>
      obtain ⟨known, own, equality⟩ := permissionByCode_eq_some found
      simp only [found, Bool.or_eq_true, holdsThroughRole_iff, holdsDirectly_iff] at granted
      rcases granted with ⟨roleId, held, listed⟩ | held
      · by_cases within : directory.Within roleId tenantId
        · exact .inl ⟨permission, known, own, equality, .inr ⟨roleId, held, listed, within⟩⟩
        · exact .inr ⟨permission, known, own, equality, roleId, held, listed, within⟩
      · exact .inl ⟨permission, known, own, equality, .inl held⟩

/-- A single grant comes from the tenant's own grants, and from roles of other tenants. -/
theorem grants_iff (distinct : directory.HasDistinctCodes) :
    directory.grants user tenantId code = true ↔
      directory.OwnGrant user tenantId code ∨ directory.StrayRole user tenantId code := by
  refine ⟨own_or_stray_of_grants, ?_⟩
  unfold grants
  cases found : directory.permissionByCode tenantId code with
  | none =>
      have absent := permissionByCode_eq_none_iff.mp found
      rintro (⟨permission, known, own, equality, _⟩ | ⟨permission, known, own, equality, _⟩)
      · exact absurd equality (absent permission known own)
      · exact absurd equality (absent permission known own)
  | some permission =>
      obtain ⟨known, own, equality⟩ := permissionByCode_eq_some found
      simp only [Bool.or_eq_true, holdsThroughRole_iff, holdsDirectly_iff]
      -- Any other row with the code has the same id.
      have same : ∀ other ∈ directory.permissions, other.tenantId = tenantId →
          other.code = code → other.id = permission.id := by
        intro other otherKnown otherOwn otherEquality
        exact distinct other otherKnown permission known (otherOwn.trans own.symm)
          (otherEquality.trans equality.symm)
      rintro (⟨other, otherKnown, otherOwn, otherEquality, held | ⟨roleId, held, listed, _⟩⟩ |
        ⟨other, otherKnown, otherOwn, otherEquality, roleId, held, listed, _⟩)
      · rw [same other otherKnown otherOwn otherEquality] at held
        exact .inr held
      · rw [same other otherKnown otherOwn otherEquality] at listed
        exact .inl ⟨roleId, held, listed⟩
      · rw [same other otherKnown otherOwn otherEquality] at listed
        exact .inl ⟨roleId, held, listed⟩

/-! ## Scoped directories -/

theorem HasOwnPermissions.not_strayRole (isOwn : directory.HasOwnPermissions) :
    ¬ directory.StrayRole user tenantId code := by
  rintro ⟨permission, known, own, _, roleId, _, ⟨role, found, named, listed⟩, outside⟩
  have same := isOwn role found role found rfl permission known listed
  exact outside ⟨role, found, named, same.symm.trans own⟩

theorem HasOwnPermissions.not_strayPermission (isOwn : directory.HasOwnPermissions) :
    ¬ directory.StrayPermission user tenantId code := by
  rintro ⟨permission, known, foreign, _, roleId, _, ⟨row, rowFound, rowNamed, listed⟩,
    role, found, named, rfl⟩
  exact foreign (isOwn role found row rowFound (rowNamed.trans named.symm) permission known listed)

/-- If roles keep to their tenants, both readings tell of own grants only. -/
theorem HasOwnPermissions.ownGrant (isOwn : directory.HasOwnPermissions)
    (told : directory.grants user tenantId code = true ∨ code ∈ directory.codesOf user tenantId) :
    directory.OwnGrant user tenantId code := by
  rcases told with granted | member
  · exact (own_or_stray_of_grants granted).resolve_right isOwn.not_strayRole
  · exact (mem_codesOf_iff.mp member).resolve_right isOwn.not_strayPermission

theorem IsScoped.grants_iff_mem_codesOf (isScoped : directory.IsScoped) :
    directory.grants user tenantId code = true ↔ code ∈ directory.codesOf user tenantId := by
  rw [grants_iff isScoped.distinctCodes, mem_codesOf_iff]
  simp only [isScoped.ownPermissions.not_strayRole, isScoped.ownPermissions.not_strayPermission]

end AccessGate.Directory
