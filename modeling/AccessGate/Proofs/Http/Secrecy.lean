import AccessGate.Proofs.Http.Credentials

/-!
# Secrecy of the keys

Of a key that a request presents in a header of its own, a server tells no more than its first eight
characters, whether it is exempt from limits, and what it grants.  `conceals_keys` compares two runs
whose requests differ in such keys only: all responses are the same, and so is everything that the
server keeps, from the journal to the rate windows and the permission cache.
-/

namespace AccessGate

/-! ## Keys that are alike -/

namespace Server

/-- Two keys start alike, are both exempt from limits or not, and grant the same. -/
structure KeysAlike (server : Server) (engine : Engine) (key other : String) : Prop where
  filled : ¬ Text.isBlankText key = true
  otherFilled : ¬ Text.isBlankText other = true
  start : key.toList.take 8 = other.toList.take 8
  exempt : key ∈ server.rateGate.rules.exemptKeys ↔ other ∈ server.rateGate.rules.exemptKeys
  access : (server.authGate.keys.classify key engine : Except Fault KeyAccess × Engine).1 =
    (server.authGate.keys.classify other engine : Except Fault KeyAccess × Engine).1

def owner? (server : Server) (engine : Engine) (key : String) : Except Fault (Option Tenant) :=
  ApiKeys.owner? server.authGate.keys.hasher key engine.store.directory.tenantsWithKeys

/-- If the tenants that two keys are looked up as share an id, the directory calls them by the same
key.  Admin keys are not looked up. -/
def OwnersAlike (server : Server) (engine : Engine) (key other : String) : Prop :=
  ¬ key ∈ server.authGate.keys.adminKeys → ∀ first second,
    server.owner? engine key = .ok (some first) → server.owner? engine other = .ok (some second) →
      first.id = second.id → first.key = second.key

/-- Two headers are the same, or they present keys that are alike. -/
structure HeadersAlike (server : Server) (engine : Engine) (header other : String × String) :
    Prop where
  name : header.1 = other.1
  value : header.2 = other.2 ∨ Text.lower header.1 = "x-api-key" ∧
    server.KeysAlike engine header.2 other.2 ∧ server.OwnersAlike engine header.2 other.2

/-- Two requests differ at most in keys that are alike. -/
structure RequestsAlike (server : Server) (engine : Engine) (request other : Request) : Prop where
  rest : other = { request with headers := other.headers }
  headers : List.Forall₂ (server.HeadersAlike engine) request.headers other.headers

end Server

/-! ## Classification -/

namespace ApiKeys

open AccessGate.Action

/-- What is journaled and granted once the owner of a key is known by id and by key. -/
def conclude : Option (String × String) → Action KeyAccess
  | some (id, tenantKey) => do
      note .apiKeyValidated .debug
        [("access_level", .text (KeyAccess.tenant id).level), ("tenant_id", .text id),
          ("tenant_key", .text tenantKey)]
      return .tenant id
  | none => do
      note .apiKeyInvalid .warning []
      return .invalid

/-- How the owner of a key is known. -/
def names? (keys : ApiKeys) (key : String) (tenants : List Tenant) :
    Except Fault (Option (String × String)) :=
  (owner? keys.hasher key tenants).map (Option.map fun owner => (owner.id, owner.key))

variable {keys : ApiKeys} {engine : Engine} {key other : String}

theorem classify_of_names (filled : ¬ Text.isBlankText key = true)
    (unknown : ¬ key ∈ keys.adminKeys) (online : engine.store.outage .tenantsWithKeys = none) :
    (keys.classify key engine : Except Fault KeyAccess × Engine) =
      ((liftM (keys.names? key engine.store.directory.tenantsWithKeys) >>= conclude :
          Action KeyAccess)
        { engine with
          store := { engine.store with asked := engine.store.asked ++ [.tenantsWithKeys] } } :
        Except Fault KeyAccess × Engine) := by
  rw [classify, if_neg filled, if_neg unknown, bind_apply]
  simp only [ask, Store.ask, online]
  rw [bind_apply, bind_apply, lift_apply, lift_apply, names?]
  cases owner? keys.hasher key engine.store.directory.tenantsWithKeys with
  | error fault => rfl
  | ok owner => cases owner <;> rfl

theorem mem_adminKeys_of_classify
    (admin : (keys.classify key engine : Except Fault KeyAccess × Engine).1 = .ok .admin) :
    key ∈ keys.adminKeys := by
  by_contra unknown
  by_cases blank : Text.isBlankText key = true
  · rw [classify_of_blank blank] at admin
    cases admin
  cases outage : engine.store.outage .tenantsWithKeys with
  | some fault =>
      rw [classify_of_offline blank unknown outage] at admin
      cases admin
  | none =>
      rw [classify_of_unknown blank unknown outage] at admin
      obtain ⟨owner, _, granted⟩ := map_eq_ok.mp admin
      cases owner <;> cases granted

end ApiKeys

namespace Server

variable {server : Server} {engine : Engine} {key other : String}

private theorem names?_eq (keysAlike : server.KeysAlike engine key other)
    (ownersAlike : server.OwnersAlike engine key other)
    (online : engine.store.outage .tenantsWithKeys = none)
    (unknown : ¬ key ∈ server.authGate.keys.adminKeys)
    (otherUnknown : ¬ other ∈ server.authGate.keys.adminKeys) :
    server.authGate.keys.names? key engine.store.directory.tenantsWithKeys =
      server.authGate.keys.names? other engine.store.directory.tenantsWithKeys := by
  have access := keysAlike.access
  rw [ApiKeys.classify_of_unknown keysAlike.filled unknown online,
    ApiKeys.classify_of_unknown keysAlike.otherFilled otherUnknown online] at access
  replace ownersAlike := ownersAlike unknown
  unfold owner? at ownersAlike
  rw [ApiKeys.names?, ApiKeys.names?]
  generalize ApiKeys.owner? server.authGate.keys.hasher key
    engine.store.directory.tenantsWithKeys = found at access ownersAlike ⊢
  generalize ApiKeys.owner? server.authGate.keys.hasher other
    engine.store.directory.tenantsWithKeys = otherFound at access ownersAlike ⊢
  match found, otherFound with
  | .error _, .error _ =>
      cases access
      rfl
  | .error _, .ok _ => cases access
  | .ok _, .error _ => cases access
  | .ok none, .ok none => rfl
  | .ok none, .ok (some _) => cases access
  | .ok (some _), .ok none => cases access
  | .ok (some owner), .ok (some otherOwner) =>
      simp only [Except.map, ApiKeys.accessOf, Except.ok.injEq, KeyAccess.tenant.injEq] at access
      have sameKey : owner.key = otherOwner.key := ownersAlike owner otherOwner rfl rfl access
      simp only [Except.map, Option.map_some, access, sameKey]

private theorem classify_alike (keysAlike : server.KeysAlike engine key other)
    (ownersAlike : server.OwnersAlike engine key other) :
    (server.authGate.keys.classify key engine : Except Fault KeyAccess × Engine) =
      server.authGate.keys.classify other engine := by
  have filled := keysAlike.filled
  have otherFilled := keysAlike.otherFilled
  have access := keysAlike.access
  by_cases known : key ∈ server.authGate.keys.adminKeys
  · have otherKnown : other ∈ server.authGate.keys.adminKeys := by
      rw [ApiKeys.classify_of_admin filled known] at access
      exact ApiKeys.mem_adminKeys_of_classify access.symm
    rw [ApiKeys.classify, ApiKeys.classify, if_neg filled, if_neg otherFilled, if_pos known,
      if_pos otherKnown]
  have otherUnknown : ¬ other ∈ server.authGate.keys.adminKeys := by
    intro otherKnown
    rw [ApiKeys.classify_of_admin otherFilled otherKnown] at access
    exact known (ApiKeys.mem_adminKeys_of_classify access)
  cases outage : engine.store.outage .tenantsWithKeys with
  | some fault =>
      rw [ApiKeys.classify_of_outage filled known outage,
        ApiKeys.classify_of_outage otherFilled otherUnknown outage]
  | none =>
      rw [ApiKeys.classify_of_names filled known outage,
        ApiKeys.classify_of_names otherFilled otherUnknown outage,
        names?_eq keysAlike ownersAlike outage known otherUnknown]

end Server

/-! ## Headers -/

namespace Server.RequestsAlike

open Serving

variable {server : Server} {engine : Engine} {request other : Request}

/-- A header is missing in both of two requests that are alike, or its values are the same, or they
are keys that are alike. -/
theorem header?_cases (alike : server.RequestsAlike engine request other) (name : String) :
    request.header? name = other.header? name ∨
      name = "x-api-key" ∧ ∃ key otherKey, request.header? name = some key ∧
        other.header? name = some otherKey ∧ server.KeysAlike engine key otherKey ∧
        server.OwnersAlike engine key otherKey := by
  have headers := alike.headers
  unfold Request.header?
  generalize request.headers = own at headers ⊢
  generalize other.headers = others at headers ⊢
  induction headers with
  | nil => exact .inl rfl
  | @cons header otherHeader headers otherHeaders first _ induction =>
      by_cases named : Text.lower header.1 = name
      · have otherNamed : Text.lower otherHeader.1 = name := first.name ▸ named
        rw [List.find?_cons_of_pos (by simpa using named),
          List.find?_cons_of_pos (by simpa using otherNamed)]
        rcases first.value with same | ⟨ofKey, keysAlike, ownersAlike⟩
        · exact .inl (congrArg some same)
        · exact .inr ⟨named.symm.trans ofKey, _, _, rfl, rfl, keysAlike, ownersAlike⟩
      · have otherNamed : ¬ Text.lower otherHeader.1 = name := first.name ▸ named
        rw [List.find?_cons_of_neg (by simpa using named),
          List.find?_cons_of_neg (by simpa using otherNamed)]
        exact induction

theorem header?_eq (alike : server.RequestsAlike engine request other) {name : String}
    (notKey : name ≠ "x-api-key") : request.header? name = other.header? name :=
  (alike.header?_cases name).resolve_right fun ofKey => notKey ofKey.1

theorem presentedKey?_cases (alike : server.RequestsAlike engine request other) :
    Rules.presentedKey? request = Rules.presentedKey? other ∨
      ∃ key otherKey, Rules.presentedKey? request = some key ∧
        Rules.presentedKey? other = some otherKey ∧ server.KeysAlike engine key otherKey ∧
        server.OwnersAlike engine key otherKey := by
  rcases alike.header?_cases "x-api-key" with
    same | ⟨_, key, otherKey, own, foreign, keysAlike, ownersAlike⟩
  · exact .inl (by rw [Rules.presentedKey?, Rules.presentedKey?, same])
  · exact .inr ⟨key, otherKey, Credential.presentedKey?_of_filled own keysAlike.filled,
      Credential.presentedKey?_of_filled foreign keysAlike.otherFilled, keysAlike, ownersAlike⟩

/-! ## What the gates look at -/

theorem addressPath_eq (alike : server.RequestsAlike engine request other) :
    request.addressPath = other.addressPath := by
  rw [alike.rest]
  rfl

theorem clientIp_eq (alike : server.RequestsAlike engine request other) :
    Rules.clientIp request = Rules.clientIp other := by
  have peer : request.peer = other.peer := by rw [alike.rest]
  unfold Rules.clientIp Rules.clientIp.peer
  rw [alike.header?_eq (by decide), alike.header?_eq (by decide), peer]

private theorem clientName_eq (alike : server.RequestsAlike engine request other) :
    Rules.clientName request = Rules.clientName other := by
  unfold Rules.clientName
  rw [alike.clientIp_eq]
  rcases alike.presentedKey?_cases with same | ⟨key, otherKey, own, foreign, keysAlike, _⟩
  · rw [same]
  · rw [own, foreign]
    simp only [keysAlike.start]

private theorem exempts_eq (alike : server.RequestsAlike engine request other) :
    server.rateGate.rules.exempts request = server.rateGate.rules.exempts other := by
  unfold Rules.exempts
  rw [alike.clientIp_eq]
  rcases alike.presentedKey?_cases with same | ⟨key, otherKey, own, foreign, keysAlike, _⟩
  · rw [same]
  · rw [own, foreign]
    simp only [Option.map_some, Option.getD_some, keysAlike.exempt]

private theorem ofRequest?_cases (alike : server.RequestsAlike engine request other) :
    Credential.ofRequest? request = Credential.ofRequest? other ∨
      ∃ key otherKey, Credential.ofRequest? request = some (.key key) ∧
        Credential.ofRequest? other = some (.key otherKey) ∧
        server.KeysAlike engine key otherKey ∧ server.OwnersAlike engine key otherKey := by
  unfold Credential.ofRequest?
  rcases alike.presentedKey?_cases with same | ⟨key, otherKey, own, foreign, keysAlike, ownersAlike⟩
  · left
    rw [same, Credential.bearer?, Credential.bearer?, alike.header?_eq (by decide)]
  · right
    rw [own, foreign]
    exact ⟨key, otherKey, rfl, rfl, keysAlike, ownersAlike⟩

private theorem read_eq (alike : server.RequestsAlike engine request other) :
    RequestBody.read request = RequestBody.read other := by
  have body : request.body = other.body := by rw [alike.rest]
  unfold RequestBody.read
  rw [body, alike.header?_eq (by decide)]

private theorem redirect?_eq (alike : server.RequestsAlike engine request other) :
    Route.redirect? request = Route.redirect? other := by
  have path : request.path = other.path := by rw [alike.rest]
  have query : request.query = other.query := by rw [alike.rest]
  have host : request.host = other.host := by
    have listening : request.server = other.server := by rw [alike.rest]
    rw [Request.host, Request.host, alike.header?_eq (by decide), listening]
  simp only [Route.redirect?, path, query, host]

private theorem serveRoute_eq (alike : server.RequestsAlike engine request other)
    (caller : Option Caller)
    (route : Route) :
    server.serveRoute request caller route = server.serveRoute other caller route := by
  have parameter (name : String) : request.parameter? name = other.parameter? name := by
    rw [alike.rest]
    rfl
  cases route with
  | check | bulkCheck => simp only [serveRoute, answerBody, alike.read_eq]
  | permissionsOf user => simp only [serveRoute, queriedTenant, parameter]
  | keyDocument | health | page | description => rfl

private theorem dispatch_eq (alike : server.RequestsAlike engine request other)
    (caller : Option Caller) :
    server.dispatch request caller = server.dispatch other caller := by
  have path : request.path = other.path := by rw [alike.rest]
  have method : request.method = other.method := by rw [alike.rest]
  simp only [dispatch, path, method, alike.serveRoute_eq, alike.redirect?_eq]

end Server.RequestsAlike

theorem Server.requestsAlike_withKey {server : Server} {engine : Engine} {key other : String}
    (request : Request) (keysAlike : server.KeysAlike engine key other)
    (ownersAlike : server.OwnersAlike engine key other) :
    server.RequestsAlike engine (request.withKey key) (request.withKey other) where
  rest := rfl
  headers := by
    have named : Text.lower "X-API-Key" = "x-api-key" := by decide
    have others : List.Forall₂ (server.HeadersAlike engine) request.headers request.headers :=
      List.forall₂_same.mpr fun _ _ => ⟨rfl, .inl rfl⟩
    exact .cons ⟨rfl, .inr ⟨named, keysAlike, ownersAlike⟩⟩ others

/-! ## Serving -/

namespace Serving

variable {α β : Type} {engine : Engine}

/-- Two actions do the same while the engine is as given. -/
def AgreeAt (engine : Engine) (action other : Serving α) : Prop :=
  ∀ state : ServerState, state.engine = engine →
    (action state : Except Fault α × ServerState) = other state

theorem AgreeAt.refl (action : Serving α) : AgreeAt engine action action :=
  fun _ _ => rfl

theorem AgreeAt.bind {action other : Serving α} (agree : AgreeAt engine action other)
    (next : α → Serving β) : AgreeAt engine (action >>= next) (other >>= next) := by
  intro state same
  rw [bind_apply, bind_apply, agree state same]

theorem AgreeAt.behind {action : Serving α} {next other : α → Serving β}
    (keeps : ∀ state, (action state : Except Fault α × ServerState).2.engine = state.engine)
    (agree : ∀ value, AgreeAt engine (next value) (other value)) :
    AgreeAt engine (action >>= next) (action >>= other) := by
  intro state same
  rw [bind_apply, bind_apply]
  have kept := (keeps state).trans same
  match answer : (action state : Except Fault α × ServerState) with
  | (.error fault, ended) => rfl
  | (.ok value, ended) =>
      rw [answer] at kept
      exact agree value ended kept

theorem AgreeAt.attempt {action other : Serving α} (agree : AgreeAt engine action other) :
    AgreeAt engine (attempt action) (attempt other) := by
  intro state same
  simp only [Serving.attempt, agree state same]

theorem AgreeAt.act {action other : Action α}
    (agree : (action engine : Except Fault α × Engine) = other engine) :
    AgreeAt engine (act action) (act other) := by
  rintro state rfl
  simp only [Serving.act, agree]

end Serving

namespace Server.RequestsAlike

open Serving

variable {server : Server} {engine : Engine} {request other : Request}

private theorem identify_agree {key otherKey : String}
    (keysAlike : server.KeysAlike engine key otherKey)
    (ownersAlike : server.OwnersAlike engine key otherKey) :
    AgreeAt engine (server.authGate.identify (.key key))
      (server.authGate.identify (.key otherKey)) :=
  (AgreeAt.act (classify_alike keysAlike ownersAlike)).bind _

private theorem authGate_agree (alike : server.RequestsAlike engine request other)
    (inner : Option Caller → Serving Response) :
    AgreeAt engine (server.authGate.pass request inner) (server.authGate.pass other inner) := by
  unfold AuthGate.pass
  rw [alike.addressPath_eq, alike.header?_eq (by decide)]
  split
  · exact .refl _
  split
  · exact .refl _
  rcases alike.ofRequest?_cases with same | ⟨key, otherKey, own, foreign, keysAlike, ownersAlike⟩
  · rw [same]
    exact .refl _
  · rw [own, foreign]
    exact (identify_agree keysAlike ownersAlike).attempt.bind _

private theorem rateGate_agree (alike : server.RequestsAlike engine request other)
    {inner otherInner : Serving Response} (agree : AgreeAt engine inner otherInner) :
    AgreeAt engine (server.rateGate.pass request inner)
      (server.rateGate.pass other otherInner) := by
  unfold RateGate.pass
  rw [alike.exempts_eq, alike.clientName_eq, alike.addressPath_eq]
  split
  · exact agree
  refine .behind (fun _ => rfl) ?_
  intro decision
  split
  · exact agree.bind _
  · exact .refl _

private theorem permission_eq (alike : server.RequestsAlike engine request other)
    (method : String) :
    CrossOrigin.permission request method = CrossOrigin.permission other method := by
  unfold CrossOrigin.permission CrossOrigin.disallowed
  rw [alike.header?_eq (by decide), alike.header?_eq (by decide)]

private theorem crossOrigin_agree (alike : server.RequestsAlike engine request other)
    {inner otherInner : Serving Response} (agree : AgreeAt engine inner otherInner) :
    AgreeAt engine (CrossOrigin.pass request inner) (CrossOrigin.pass other otherInner) := by
  have method : request.method = other.method := by rw [alike.rest]
  unfold CrossOrigin.pass
  rw [alike.header?_eq (by decide), alike.header?_eq (by decide), method]
  split
  · exact agree.bind _
  · split
    · rw [alike.permission_eq]
      exact .refl _
    · exact agree.bind _
  · exact agree.bind _

/-- Requests that are alike are served alike, and the server keeps the same of them. -/
theorem serve_eq {state : ServerState} (alike : server.RequestsAlike state.engine request other) :
    server.serve request state = server.serve other state := by
  have inner : (fun caller => tellFaults (server.dispatch request caller)) =
      fun caller => tellFaults (server.dispatch other caller) := by
    funext caller
    rw [alike.dispatch_eq]
  have handled : (server.handle request state : Except Fault Response × ServerState) =
      server.handle other state := by
    refine alike.crossOrigin_agree (alike.rateGate_agree ?_) state rfl
    rw [inner]
    exact alike.authGate_agree _
  rw [serve, serve, handled]

end Server.RequestsAlike

/-! ## Runs -/

/-- A request, and what happens to the service in front of it. -/
structure Visit where
  before : ServerState → ServerState := id
  request : Request

namespace Server

/-- Serves requests one after the other. -/
def run (server : Server) (state : ServerState) :
    List Visit → List (Response × Option Fault) × ServerState
  | [] => ([], state)
  | visit :: visits =>
      let (answer, state) := server.serve visit.request (visit.before state)
      let (answers, state) := server.run state visits
      (answer :: answers, state)

theorem run_cons (server : Server) (state : ServerState) (before : ServerState → ServerState)
    (request : Request) (visits : List Visit) :
    server.run state (⟨before, request⟩ :: visits) =
      ((server.serve request (before state)).1 ::
          (server.run (server.serve request (before state)).2 visits).1,
        (server.run (server.serve request (before state)).2 visits).2) :=
  rfl

/-- The requests of two runs are alike, each of them as of the time when it is served in the first
run. -/
inductive VisitsAlike (server : Server) : ServerState → List Visit → List Visit → Prop
  | done {state : ServerState} : VisitsAlike server state [] []
  | visit {state : ServerState} {before : ServerState → ServerState} {request other : Request}
      {visits others : List Visit}
      (alike : server.RequestsAlike (before state).engine request other)
      (later : VisitsAlike server (server.serve request (before state)).2 visits others) :
      VisitsAlike server state (⟨before, request⟩ :: visits) (⟨before, other⟩ :: others)

/-- Two runs whose requests differ only in keys that are alike have the same responses, and leave
the server in the same state: the audit records and the counts of its journal, its rate windows, its
permission cache, and what the directory was asked. -/
theorem conceals_keys (server : Server) (state : ServerState) (visits others : List Visit)
    (alike : server.VisitsAlike state visits others) :
    server.run state visits = server.run state others := by
  induction alike with
  | done => rfl
  | visit alike _ induction => rw [run_cons, run_cons, ← alike.serve_eq, induction]

/-- A server with two admin keys that start alike. -/
def withTwoAdmins : Server where
  serviceName := "authsmith"
  rateGate := { enabled := true, rules := .ofOptions {} {} }
  authGate := { keys := { adminKeys := .ofList ["ask_key-of-ann", "ask_key-of-bob"] }, files := {} }
  tokens := .ofOptions {} {}

/-- Requests for permissions that present one key after the other. -/
def visitsWith (keys : List String) : List Visit :=
  keys.map fun key => { request := Request.forAnn.withKey key }

/-- Neither shows in a run which of the admins asks, nor which of the invalid keys is tried. -/
theorem conceals_keys_of_admins :
    withTwoAdmins.VisitsAlike .withoutTenants (visitsWith ["ask_key-of-ann", "ask_key-lost"])
        (visitsWith ["ask_key-of-bob", "ask_key-found"]) ∧
      withTwoAdmins.run .withoutTenants (visitsWith ["ask_key-of-ann", "ask_key-lost"]) =
        withTwoAdmins.run .withoutTenants (visitsWith ["ask_key-of-bob", "ask_key-found"]) ∧
      (withTwoAdmins.run .withoutTenants (visitsWith ["ask_key-of-ann", "ask_key-lost"])).1.map
        (fun answer => answer.1.status) = [404, 401] := by
  have nobody {engine : Engine} (empty : engine.store.directory.tenantsWithKeys = [])
      (key other : String) : withTwoAdmins.OwnersAlike engine key other := by
    intro _ first second owner
    rw [owner?, empty] at owner
    cases owner
  have admins : withTwoAdmins.KeysAlike ServerState.withoutTenants.engine "ask_key-of-ann"
      "ask_key-of-bob" := by
    have filled : ¬ Text.isBlankText "ask_key-of-ann" = true := by decide +kernel
    have otherFilled : ¬ Text.isBlankText "ask_key-of-bob" = true := by decide +kernel
    refine ⟨filled, otherFilled, by decide +kernel, by decide +kernel, ?_⟩
    rw [ApiKeys.classify_of_admin filled (by decide +kernel),
      ApiKeys.classify_of_admin otherFilled (by decide +kernel)]
  let served := (withTwoAdmins.serve (Request.forAnn.withKey "ask_key-of-ann") .withoutTenants).2
  have empty : served.engine.store.directory.tenantsWithKeys = [] := by
    rw [← List.isEmpty_iff]
    decide +kernel
  have online : served.engine.store.outage .tenantsWithKeys = none := by
    rw [← Option.isNone_iff_eq_none]
    decide +kernel
  have invalid : withTwoAdmins.KeysAlike served.engine "ask_key-lost" "ask_key-found" := by
    have filled : ¬ Text.isBlankText "ask_key-lost" = true := by decide +kernel
    have otherFilled : ¬ Text.isBlankText "ask_key-found" = true := by decide +kernel
    refine ⟨filled, otherFilled, by decide +kernel, by decide +kernel, ?_⟩
    rw [ApiKeys.classify_of_unknown filled (by decide +kernel) online,
      ApiKeys.classify_of_unknown otherFilled (by decide +kernel) online, empty]
    rfl
  have alike : withTwoAdmins.VisitsAlike .withoutTenants
      (visitsWith ["ask_key-of-ann", "ask_key-lost"])
      (visitsWith ["ask_key-of-bob", "ask_key-found"]) :=
    .visit (requestsAlike_withKey .forAnn admins (nobody rfl _ _)) <|
      .visit (requestsAlike_withKey .forAnn invalid (nobody empty _ _)) .done
  exact ⟨alike, conceals_keys _ _ _ _ alike, by decide +kernel⟩

/-- A server for tenants whose digests repeat the last byte of the secret. -/
def ofLastBytes : Server :=
  { withTwoAdmins with
    authGate :=
      { keys :=
          { adminKeys := .empty
            hasher :=
              { derivation := fun secret _ _ length => .replicate length (secret.getLastD 0) } }
        files := {} } }

/-- A service with two tenants that share an id. -/
def withSharedId : ServerState :=
  let shop : Tenant :=
    { id := "t1", key := "shop"
      keyHash := some "$argon2id$v=19$m=8,t=1,p=1$c2FsdHNhbHQ$MTExMTExMTExMTExMTExMQ==" }
  let desk : Tenant :=
    { id := "t1", key := "desk"
      keyHash := some "$argon2id$v=19$m=8,t=1,p=1$c2FsdHNhbHQ$MjIyMjIyMjIyMjIyMjIyMg==" }
  { ServerState.withoutTenants with
    engine :=
      { store := { directory := { tenants := [shop, desk] } }
        cache := .memory { lifetime := 900 } } }

/-- The keys by which the audit records of a service call tenants. -/
def tenantKeys (state : ServerState) : List String :=
  state.engine.journal.records.filterMap fun record =>
    match Json.fieldOf? "tenant_key" record.fields with
    | some (.text key) => some key
    | _ => none

/-- Of two active tenants that share an id, the journal tells by their key in the directory whose
key is presented, although both keys are classified alike. -/
theorem owner_shows_of_shared_id :
    ofLastBytes.KeysAlike withSharedId.engine "ask_key-1" "ask_key-2" ∧
      (ofLastBytes.authGate.keys.classify "ask_key-1" withSharedId.engine :
        Except Fault KeyAccess × Engine).1 = .ok (.tenant "t1") ∧
      tenantKeys (ofLastBytes.run withSharedId (visitsWith ["ask_key-1"])).2 = ["shop"] ∧
      tenantKeys (ofLastBytes.run withSharedId (visitsWith ["ask_key-2"])).2 = ["desk"] := by
  have ok_of_toOption {outcome : Except Fault KeyAccess} {access : KeyAccess}
      (some : outcome.toOption = some access) : outcome = .ok access := by
    cases outcome with
    | error _ => cases some
    | ok _ =>
        cases some
        rfl
  have first : (ofLastBytes.authGate.keys.classify "ask_key-1" withSharedId.engine :
      Except Fault KeyAccess × Engine).1 = .ok (.tenant "t1") :=
    ok_of_toOption (by decide +kernel)
  have second : (ofLastBytes.authGate.keys.classify "ask_key-2" withSharedId.engine :
      Except Fault KeyAccess × Engine).1 = .ok (.tenant "t1") :=
    ok_of_toOption (by decide +kernel)
  have alike : ofLastBytes.KeysAlike withSharedId.engine "ask_key-1" "ask_key-2" :=
    ⟨by decide +kernel, by decide +kernel, by decide +kernel, by decide +kernel,
      first.trans second.symm⟩
  exact ⟨alike, first, by decide +kernel, by decide +kernel⟩

end Server

end AccessGate
