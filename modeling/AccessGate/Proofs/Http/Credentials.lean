import AccessGate.Proofs.Http.Isolation

/-!
# Two ways to present a key

A key can be presented in a header of its own or as a bearer credential.  Both ways come to the same
principal and the same response, unless the key has exactly two full stops: as a bearer credential
it is then taken for a token, and a token never gives access of its own.  `presented_alike` tells
both, so that the full stops are the only difference.
-/

namespace AccessGate

namespace Request

def withHeader (request : Request) (name value : String) : Request :=
  { request with headers := (name, value) :: request.headers }

/-- A request that presents a key in a header of its own. -/
def withKey (request : Request) (key : String) : Request :=
  request.withHeader "X-API-Key" key

def withBearer (request : Request) (text : String) : Request :=
  request.withHeader "Authorization" ("Bearer " ++ text)

def PresentsNothing (request : Request) : Prop :=
  request.header? "x-api-key" = none ∧ request.header? "authorization" = none

variable {request : Request} {name value sought : String}

theorem header?_withHeader (same : Text.lower name = sought) :
    (request.withHeader name value).header? sought = some value := by
  simp [header?, withHeader, same]

theorem header?_withHeader_of_ne (different : Text.lower name ≠ sought) :
    (request.withHeader name value).header? sought = request.header? sought := by
  simp [header?, withHeader, different]

end Request

namespace Credential

open Rules

variable {request : Request} {key : String}

theorem presentedKey?_of_filled (header : request.header? "x-api-key" = some key)
    (filled : ¬ Text.isBlankText key = true) : presentedKey? request = some key := by
  rw [presentedKey?, header, Option.filter_some]
  simp [Text.ne_empty_of_filled filled]

theorem ofRequest?_withKey (filled : ¬ Text.isBlankText key = true) :
    ofRequest? (request.withKey key) = some (.key key) := by
  have header : (request.withKey key).header? "x-api-key" = some key :=
    Request.header?_withHeader (by decide)
  rw [ofRequest?, presentedKey?_of_filled header filled]

private theorem bearer?_withBearer (filled : ¬ Text.isBlankText key = true)
    (trimmed : Text.trim key = key) : bearer? (request.withBearer key) = some key := by
  have header : (request.withBearer key).header? "authorization" = some ("Bearer " ++ key) :=
    Request.header?_withHeader (by decide)
  have lower : Text.lowerCharacters ['B', 'e', 'a', 'r', 'e', 'r', ' '] = "bearer ".toList := by
    decide
  have value : String.ofList (Text.trimCharacters key.toList) = key := trimmed
  simp [bearer?, header, lower, value, Text.ne_empty_of_filled filled]

theorem ofRequest?_withBearer (bare : request.PresentsNothing)
    (filled : ¬ Text.isBlankText key = true) (trimmed : Text.trim key = key) :
    ofRequest? (request.withBearer key) =
      some (if isTokenShaped key then .token key else .key key) := by
  have header : (request.withBearer key).header? "x-api-key" = request.header? "x-api-key" :=
    Request.header?_withHeader_of_ne (by decide)
  have none : presentedKey? (request.withBearer key) = none := by
    rw [presentedKey?, header, bare.1, Option.filter_none]
  rw [ofRequest?, none, bearer?_withBearer filled trimmed, Option.map_some]

end Credential

/-- A request for permissions without a credential. -/
def Request.forAnn : Request where
  path := "/api/v1/users/ann/permissions"
  query := "applicationKey=desk"

/-- A service without tenants that was just started. -/
def ServerState.withoutTenants : ServerState where
  engine := { store := { directory := {} }, cache := .memory { lifetime := 900 } }
  now := ⟨63907952400000000, some .universal, by decide⟩
  freshId := ""

namespace AuthGate

open Serving Server

variable {gate : AuthGate} {request other : Request} {state : ServerState} {key : String}

private theorem pass_congr (address : request.addressPath = other.addressPath)
    (credential : Credential.ofRequest? request = Credential.ofRequest? other)
    (id : request.header? "x-request-id" = other.header? "x-request-id")
    (inner : Option Caller → Serving Response) :
    gate.pass request inner = gate.pass other inner := by
  unfold pass
  rw [address, credential, id]

/-- Hands a request on for the principal that a credential belongs to, or refuses it. -/
def answerFor (request : Request) (inner : Option Caller → Serving Response) :
    Option Principal → Serving Response
  | some principal => inner (some { principal, requestId := request.header? "x-request-id" })
  | none => return .refusal 401 "Invalid or expired credentials"

theorem pass_of_identified {credential : Credential} {found : Option Principal}
    {ended : ServerState} (required : gate.required = true)
    (closed : isOpen request.addressPath = false)
    (presented : Credential.ofRequest? request = some credential)
    (identified : (gate.identify credential state :
      Except Fault (Option Principal) × ServerState) = (.ok found, ended))
    (inner : Option Caller → Serving Response) :
    gate.pass request inner state = answerFor request inner found ended := by
  unfold pass
  rw [if_neg (by simp [closed]), if_neg (by simp [required]), presented]
  simp only
  rw [bind_apply, attempt, identified]
  cases found <;> rfl

/-- A gate knows a key: it is an admin key or the key of a tenant. -/
def Knows (gate : AuthGate) (key : String) (state : ServerState) (access : KeyAccess) : Prop :=
  access.isValid = true ∧
    (gate.keys.classify key state.engine : Except Fault KeyAccess × Engine).1 = .ok access

def callerOf (request : Request) (access : KeyAccess) : Caller :=
  { principal := .ofKey access, requestId := request.header? "x-request-id" }

theorem pass_of_known {access : KeyAccess} (required : gate.required = true)
    (closed : isOpen request.addressPath = false)
    (presented : Credential.ofRequest? request = some (.key key))
    (knows : gate.Knows key state access) (inner : Option Caller → Serving Response) :
    ∃ engine, gate.pass request inner state =
      inner (some (callerOf request access)) { state with engine } := by
  obtain ⟨valid, classified⟩ := knows
  match answer : (gate.keys.classify key state.engine : Except Fault KeyAccess × Engine) with
  | (.error fault, engine) =>
      rw [answer] at classified
      cases classified
  | (.ok found, engine) =>
      rw [answer] at classified
      cases classified
      have acted : (act (gate.keys.classify key) state : Except Fault KeyAccess × ServerState) =
          (.ok access, { state with engine }) := by
        rw [act, answer]
      have identified : (gate.identify (.key key) state :
          Except Fault (Option Principal) × ServerState) =
            (.ok (some (.ofKey access)), { state with engine }) := by
        rw [identify, bind_apply, acted]
        simp only [valid, if_true]
        rfl
      exact ⟨engine, pass_of_identified required closed presented identified inner⟩

def serveAccess (caller : Option Caller) : Serving Response :=
  return if (caller.map fun known => known.principal.level).getD .none = .none then
    .refusal 403 "Access required" else .text 200 "OK"

theorem serveAccess_of_level {caller : Caller} (level : caller.principal.level ≠ .none)
    (state : ServerState) :
    (serveAccess (some caller) state : Except Fault Response × ServerState) =
      (.ok (.text 200 "OK"), state) := by
  rw [serveAccess, Option.map_some, Option.getD_some, if_neg level]
  rfl

theorem level_of_valid {access : KeyAccess} (valid : access.isValid = true) :
    (Principal.ofKey access).level ≠ .none := by
  cases access with
  | invalid => cases valid
  | tenant _ => exact nofun
  | admin => exact nofun

/-- A token does not give access, whatever key it is besides. -/
theorem unserved_of_token {token : String} (required : gate.required = true)
    (presented : Credential.ofRequest? request = some (.token token)) :
    Unserved (gate.pass request serveAccess state : Except Fault Response × ServerState).1 := by
  have refused {caller : Option Caller} {ended : ServerState}
      (none : (caller.map fun known => known.principal.level).getD .none = .none) :
      Refrains (serveAccess caller) ended Unserved := by
    rw [serveAccess, if_pos none]
    exact .pure (unserved_ok (by decide))
  refine (refrains_authGate required (refused rfl) ?_).outcome
  intro caller ended recognised _
  by_cases level : caller.principal.level = .none
  · exact refused level
  · obtain ⟨key, _, presentsKey, _⟩ := recognised level
    rw [presented] at presentsKey
    cases presentsKey

/-- A key gives the same caller and the same response whether it is presented in a header of its own
or as a bearer credential, unless it has the shape of a token.  In that case the two ways come apart
for every key that gives access. -/
theorem presented_alike (gate : AuthGate) (request : Request) (bare : request.PresentsNothing)
    (key : String) (filled : ¬ Text.isBlankText key = true) (trimmed : Text.trim key = key) :
    (Credential.isTokenShaped key = false →
      (∀ inner, gate.pass (request.withKey key) inner = gate.pass (request.withBearer key) inner) ∧
      (gate.required = true → isOpen request.addressPath = false →
        ∀ state access, gate.Knows key state access → ∀ inner, ∃ engine,
          gate.pass (request.withBearer key) inner state =
            inner (some (callerOf request access)) { state with engine })) ∧
    (Credential.isTokenShaped key = true →
      gate.required = true → isOpen request.addressPath = false →
        ∀ state access, gate.Knows key state access → ∃ inner,
          gate.pass (request.withKey key) inner state ≠
            gate.pass (request.withBearer key) inner state) := by
  have withKey : Credential.ofRequest? (request.withKey key) = some (.key key) :=
    Credential.ofRequest?_withKey filled
  have withBearer := Credential.ofRequest?_withBearer bare filled trimmed
  have id : (request.withBearer key).header? "x-request-id" = request.header? "x-request-id" :=
    Request.header?_withHeader_of_ne (by decide)
  constructor
  · intro plain
    rw [plain, if_neg Bool.false_ne_true] at withBearer
    constructor
    · refine pass_congr rfl (withKey.trans withBearer.symm) ?_
      exact (Request.header?_withHeader_of_ne (by decide)).trans id.symm
    · intro required closed state access knows inner
      have closed : isOpen (request.withBearer key).addressPath = false := closed
      obtain ⟨engine, passed⟩ := pass_of_known required closed withBearer knows inner
      have caller : callerOf (request.withBearer key) access = callerOf request access := by
        rw [callerOf, callerOf, id]
      rw [caller] at passed
      exact ⟨engine, passed⟩
  · intro shaped required closed state access knows
    rw [shaped, if_pos rfl] at withBearer
    refine ⟨serveAccess, ?_⟩
    intro same
    have closed : isOpen (request.withKey key).addressPath = false := closed
    obtain ⟨engine, passed⟩ := pass_of_known required closed withKey knows serveAccess
    rw [serveAccess_of_level (level_of_valid knows.1)] at passed
    have unserved : Unserved (gate.pass (request.withBearer key) serveAccess state :
        Except Fault Response × ServerState).1 := unserved_of_token required withBearer
    rw [← same, passed] at unserved
    exact unserved _ rfl rfl

def withAdminKey (key : String) : AuthGate where
  keys := { adminKeys := .ofList [key] }
  files := {}

theorem knows_adminKey {key : String} (filled : ¬ Text.isBlankText key = true)
    (member : key ∈ (withAdminKey key).keys.adminKeys) (state : ServerState) :
    (withAdminKey key).Knows key state .admin :=
  ⟨rfl, ApiKeys.classify_of_admin filled member _⟩

/-- An admin key with one full stop is presented either way. -/
theorem presented_alike_of_one_full_stop :
    Request.forAnn.PresentsNothing ∧ ¬ Text.isBlankText "desk.key" = true ∧
      Text.trim "desk.key" = "desk.key" ∧
      (withAdminKey "desk.key").Knows "desk.key" .withoutTenants .admin ∧
      (∀ inner, (withAdminKey "desk.key").pass (Request.forAnn.withKey "desk.key") inner =
        (withAdminKey "desk.key").pass (Request.forAnn.withBearer "desk.key") inner) ∧
      ∀ inner, ∃ engine,
        (withAdminKey "desk.key").pass (Request.forAnn.withBearer "desk.key") inner
            ServerState.withoutTenants =
          inner (some (callerOf .forAnn .admin)) { ServerState.withoutTenants with engine } := by
  have bare : Request.forAnn.PresentsNothing := ⟨rfl, rfl⟩
  have filled : ¬ Text.isBlankText "desk.key" = true := by decide +kernel
  have trimmed : Text.trim "desk.key" = "desk.key" := by decide +kernel
  have plain : Credential.isTokenShaped "desk.key" = false := by decide +kernel
  have closed : isOpen Request.forAnn.addressPath = false := by decide +kernel
  have knows : (withAdminKey "desk.key").Knows "desk.key" .withoutTenants .admin :=
    knows_adminKey filled (by decide +kernel) _
  obtain ⟨alike, known⟩ :=
    (presented_alike (withAdminKey "desk.key") .forAnn bare "desk.key" filled trimmed).1 plain
  exact ⟨bare, filled, trimmed, knows, alike, known rfl closed .withoutTenants .admin knows⟩

/-- An admin key with two full stops is not accepted as a bearer credential. -/
theorem refused_for_two_full_stops :
    Request.forAnn.PresentsNothing ∧ ¬ Text.isBlankText "a.b.c" = true ∧
      Text.trim "a.b.c" = "a.b.c" ∧ "a.b.c" ∈ (withAdminKey "a.b.c").keys.adminKeys ∧
      ((withAdminKey "a.b.c").pass (Request.forAnn.withKey "a.b.c") serveAccess
          ServerState.withoutTenants : Except Fault Response × ServerState).1 =
        .ok (.text 200 "OK") ∧
      ((withAdminKey "a.b.c").pass (Request.forAnn.withBearer "a.b.c") serveAccess
          ServerState.withoutTenants : Except Fault Response × ServerState).1 =
        .ok (.refusal 401 "Invalid or expired credentials") := by
  have bare : Request.forAnn.PresentsNothing := ⟨rfl, rfl⟩
  have filled : ¬ Text.isBlankText "a.b.c" = true := by decide +kernel
  have trimmed : Text.trim "a.b.c" = "a.b.c" := by decide +kernel
  have member : "a.b.c" ∈ (withAdminKey "a.b.c").keys.adminKeys := by decide +kernel
  refine ⟨bare, filled, trimmed, member, ?_, ?_⟩
  · have closed : isOpen (Request.forAnn.withKey "a.b.c").addressPath = false := by
      decide +kernel
    have knows : (withAdminKey "a.b.c").Knows "a.b.c" .withoutTenants .admin :=
      knows_adminKey filled member _
    obtain ⟨engine, passed⟩ :=
      pass_of_known rfl closed (Credential.ofRequest?_withKey filled) knows serveAccess
    rw [passed, serveAccess_of_level (level_of_valid knows.1)]
  · have closed : isOpen (Request.forAnn.withBearer "a.b.c").addressPath = false := by
      decide +kernel
    have shaped : Credential.isTokenShaped "a.b.c" = true := by decide +kernel
    have presented := Credential.ofRequest?_withBearer bare filled trimmed
    rw [shaped, if_pos rfl] at presented
    have identified : ((withAdminKey "a.b.c").identify (.token "a.b.c")
        ServerState.withoutTenants : Except Fault (Option Principal) × ServerState) =
          (.ok none, .withoutTenants) := rfl
    rw [pass_of_identified rfl closed presented identified serveAccess]
    rfl

end AuthGate

end AccessGate
