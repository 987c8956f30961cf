import AccessGate.Http.Server
import AccessGate.Proofs.ApiKeys
import AccessGate.Proofs.Http.Serving

/-!
# Isolation of the tenants

A request for permissions is only served to the holder of an admin key, or of the key of the tenant
that it asks about.  `isolates_tenants` covers everything on the way of a request: the cross-origin
rules, the rate gate, the choice of the credential and its classification, open paths, and the
tenant that the message names.  Whoever is refused has learned nothing about permissions, since
neither the store nor the cache was asked for any.
-/

namespace AccessGate

def Route.TellsPermissions : Route → Prop
  | .check | .bulkCheck | .permissionsOf _ => True
  | _ => False

/-- A browser's question whether a page may send a request.  It is not a request to a route. -/
def CrossOrigin.IsQuestion (request : Request) : Prop :=
  request.method = "OPTIONS" ∧ (request.header? "origin").isSome = true ∧
    (request.header? "access-control-request-method").isSome = true

/-- No failure of the store is an answer that tells of success. -/
def Store.FailsPlainly (store : Store) : Prop :=
  ∀ query reason, store.outage query ≠ some (.refused 200 reason)

namespace Server

/-- The tenant key in a valid message in a request's body. -/
def applicationIn? {α : Type} (validate : List (String × Json) → Validated α)
    (application : α → String) (request : Request) : Option String :=
  match RequestBody.read request with
  | .error _ => none
  | .ok body =>
      match body.message validate with
      | .error _ => none
      | .ok message => some (application message)

/-- The tenant key that a request to a route asks about, if its message is valid. -/
def application? (request : Request) : Route → Option String
  | .check => applicationIn? CheckRequest.read CheckRequest.application request
  | .bulkCheck => applicationIn? (BulkRequest.read .notRecordBody) BulkRequest.application request
  | .permissionsOf _ =>
      match queriedTenant request with
      | .error _ => none
      | .ok application => some application
  | _ => none

/-- A request for permissions comes with an admin key, or with the key of an active tenant which is
the active tenant that it asks about. -/
def Permits (server : Server) (engine : Engine) (request : Request) (route : Route) : Prop :=
  ∃ key application, Credential.ofRequest? request = some (.key key) ∧
    application? request route = some application ∧
    ((server.authGate.keys.classify key engine : Except Fault KeyAccess × Engine).1 = .ok .admin ∨
      ∃ owner tenant,
        (server.authGate.keys.classify key engine : Except Fault KeyAccess × Engine).1 =
          .ok (.tenant owner.id) ∧
        owner ∈ engine.store.directory.tenants ∧ owner.isActive = true ∧
        owner.Owns server.authGate.keys.hasher key ∧
        engine.store.directory.tenantByKey application = some tenant ∧
        tenant.isActive = true ∧ tenant.id = owner.id)

open Serving

variable {state : ServerState} {request : Request}

/-- A request was not served. -/
def Unserved (outcome : Except Fault Response) : Prop :=
  ∀ response, outcome = .ok response → response.status ≠ 200

/-- A request was not served, and telling its fault does not make it so. -/
def Declined (outcome : Except Fault Response) : Prop :=
  Unserved outcome ∧ ∀ reason, outcome ≠ .error (.refused 200 reason)

/-- Access was not granted. -/
def Denied {α : Type} (outcome : Except Fault α) : Prop :=
  ∃ fault, outcome = .error fault ∧ ∀ reason, fault ≠ .refused 200 reason

theorem unserved_error {fault : Fault} : Unserved (.error fault) := by
  intro response equality
  cases equality

theorem unserved_ok {response : Response} (status : response.status ≠ 200) :
    Unserved (.ok response) := by
  rintro _ ⟨⟩
  exact status

theorem declined_ok {response : Response} (status : response.status ≠ 200) :
    Declined (.ok response) :=
  ⟨unserved_ok status, by simp⟩

private theorem declined_of_denied {α : Type} {fault : Fault}
    (denied : Denied (.error fault : Except Fault α)) : Declined (.error fault) := by
  obtain ⟨_, ⟨⟩, plain⟩ := denied
  exact ⟨unserved_error, by simpa using plain⟩

theorem not_denied_ok {α : Type} {value : α} : ¬ Denied (.ok value) := by
  rintro ⟨fault, equality, _⟩
  cases equality

private theorem refrains_of_denied {α β : Type} {action : Action α} {next : α → Action β}
    (refrains : Refrains (act action) state Denied) :
    Refrains (act (action >>= next)) state Denied := by
  rw [act_bind]
  refine Refrains.bind refrains ?_ ?_
  · rintro fault ⟨_, ⟨⟩, plain⟩
    exact ⟨fault, rfl, plain⟩
  · intro value ended _ denied _
    exact absurd denied not_denied_ok

/-! ## Access -/

private theorem anyTenant_cases (principal : Principal) :
    (Gate.anyTenant principal = .ok principal ∧ principal.level ≠ .none) ∨
      Denied (Gate.anyTenant principal) := by
  rw [Gate.anyTenant]
  split
  case isTrue allowed =>
      left
      refine ⟨rfl, ?_⟩
      intro level
      simp [Principal.mayAccess, Principal.isAdmin, level] at allowed
  case isFalse =>
      right
      exact ⟨_, rfl, by simp⟩

private theorem principalOf_cases (caller : Option Caller) :
    (∃ known, caller = some known ∧ principalOf caller = .ok known.principal ∧
      known.principal.level ≠ .none) ∨
    Denied (principalOf caller) := by
  cases caller with
  | none =>
      right
      exact ⟨_, rfl, by simp⟩
  | some known =>
      have gated : principalOf (some known) = Gate.anyTenant known.principal := rfl
      rw [gated]
      rcases anyTenant_cases known.principal with ⟨allowed, level⟩ | denied
      · exact .inl ⟨known, rfl, allowed, level⟩
      · exact .inr denied

private theorem refrains_tenant {key : String} (plain : state.engine.store.FailsPlainly) :
    Refrains (act (Resolver.tenant key)) state fun outcome =>
      Denied outcome ∨ ∃ tenant, outcome = .ok tenant ∧
        state.engine.store.directory.tenantByKey key = some tenant := by
  unfold Resolver.tenant
  rw [act_bind]
  refine Refrains.bind (Refrains.act_ask trivial) ?_ ?_
  · rintro fault (equality | ⟨_, refused, ⟨⟩⟩)
    · cases equality
    · exact .inl ⟨fault, rfl, fun reason equality => plain _ reason (by rw [refused, equality])⟩
  · rintro _ ended _ (⟨⟨⟩⟩ | ⟨_, _, equality⟩) _
    · cases state.engine.store.directory.tenantByKey key with
      | none => exact .throw (.inl ⟨_, rfl, by simp⟩)
      | some tenant => exact .act_pure (.inr ⟨tenant, rfl, rfl⟩)
    · cases equality

/-- Only administrators and holders of the key of the tenant itself are granted access to it. -/
theorem refrains_authorize {principal : Principal} {application : String}
    (plain : state.engine.store.FailsPlainly) (ordinary : principal.isAdmin = false)
    (stranger : ∀ tenant, state.engine.store.directory.tenantByKey application = some tenant →
      principal.mayAccess (some tenant.id) = false) :
    Refrains (act (authorize principal application)) state Denied := by
  have asks : authorize principal application =
      Resolver.tenant application >>= fun tenant =>
        liftM (Gate.tenant principal (some tenant.id)) := by
    simp [authorize, ordinary]
  rw [asks, act_bind]
  refine Refrains.bind (refrains_tenant plain) ?_ ?_
  · rintro fault (denied | ⟨tenant, equality, _⟩)
    · exact ⟨fault, rfl, by obtain ⟨_, ⟨⟩, plain⟩ := denied; exact plain⟩
    · cases equality
  · rintro tenant ended _ (denied | ⟨_, ⟨⟩, resolved⟩) _
    · exact absurd denied not_denied_ok
    · rw [act_lift]
      refine Refrains.lift.weaken ?_
      rintro _ rfl
      rw [Gate.tenant, stranger tenant resolved]
      exact ⟨_, rfl, by simp⟩

/-! ## Routes -/

/-- Whoever calls has no access to what a request to a route asks about. -/
def Excludes (state : ServerState) (request : Request) (route : Route) (caller : Option Caller) :
    Prop :=
  ∀ known application, caller = some known → known.principal.level ≠ .none →
    application? request route = some application →
    Refrains (act (authorize known.principal application)) state Denied

/-- A message is answered once access is granted to the tenant that it names. -/
def AuthorizesFirst {α : Type} (answer : Principal → α → Action Json) (application : α → String) :
    Prop :=
  ∀ principal message, ∃ rest : Unit → Action Json,
    answer principal message = authorize principal (application message) >>= rest

theorem refrains_answerValid {α : Type} {caller : Option Caller} {message : Validated α}
    {answer : Principal → α → Action Json} {application : α → String}
    (authorized : AuthorizesFirst answer application)
    (excluded : ∀ known valid, caller = some known → known.principal.level ≠ .none →
      message = .ok valid →
      Refrains (act (authorize known.principal (application valid))) state Denied) :
    Refrains (answerValid caller message answer) state Declined := by
  unfold answerValid
  rcases principalOf_cases caller with ⟨known, rfl, allowed, level⟩ | denied
  · rw [allowed]
    refine Refrains.bind Refrains.lift ?_ ?_
    · intro fault equality
      cases equality
    · rintro _ ended answered ⟨⟩ _
      cases answered
      cases message with
      | error flaws => exact .pure (declined_ok (by simp [Response.invalid, Response.json]))
      | ok valid =>
          have refused : Refrains (act (answer known.principal valid)) state Denied := by
            obtain ⟨rest, equality⟩ := authorized known.principal valid
            rw [equality]
            exact refrains_of_denied (excluded known valid rfl level rfl)
          refine Refrains.bind refused (fun fault denied => declined_of_denied denied) ?_
          intro value ended _ denied _
          exact absurd denied not_denied_ok
  · obtain ⟨fault, failed, plain⟩ := denied
    rw [failed]
    exact .throw ⟨unserved_error, by simpa using plain⟩

private theorem status_of_unreadable {response : Response}
    (unreadable : RequestBody.read request = .error response) : response.status ≠ 200 := by
  rw [RequestBody.read] at unreadable
  split at unreadable
  · cases unreadable
  split at unreadable
  · rw [RequestBody.readJson] at unreadable
    split at unreadable <;> cases unreadable <;>
      simp [Response.invalid, Response.refusal, Response.json]
  · cases unreadable

theorem refrains_answerBody {α : Type} {caller : Option Caller}
    {validate : List (String × Json) → Validated α} {answer : Principal → α → Action Json}
    {application : α → String} (authorized : AuthorizesFirst answer application)
    (excluded : ∀ known named, caller = some known → known.principal.level ≠ .none →
      applicationIn? validate application request = some named →
      Refrains (act (authorize known.principal named)) state Denied) :
    Refrains (answerBody request caller validate answer) state Declined := by
  rw [answerBody]
  cases read : RequestBody.read request with
  | error response => exact .pure (declined_ok (status_of_unreadable read))
  | ok body =>
      refine refrains_answerValid authorized ?_
      intro known valid called level message
      exact excluded known _ called level (by simp [applicationIn?, read, message])

private theorem refrains_serveRoute {server : Server} {route : Route} {caller : Option Caller}
    (tells : route.TellsPermissions) (excludes : Excludes state request route caller) :
    Refrains (server.serveRoute request caller route) state Declined := by
  cases route with
  | check => exact refrains_answerBody (fun _ _ => ⟨_, rfl⟩) excludes
  | bulkCheck => exact refrains_answerBody (fun _ _ => ⟨_, rfl⟩) excludes
  | permissionsOf user =>
      refine refrains_answerValid (fun _ _ => ⟨_, rfl⟩) ?_
      intro known application called level valid
      exact excludes known application called level (by simp [application?, valid])
  | keyDocument => exact tells.elim
  | health => exact tells.elim
  | page => exact tells.elim
  | description => exact tells.elim

theorem refrains_dispatch {server : Server} {route : Route} {caller : Option Caller}
    (routed : Route.ofPath? request.path = some route) (tells : route.TellsPermissions)
    (excludes : Excludes state request route caller) :
    Refrains (server.dispatch request caller) state Declined := by
  simp only [dispatch, routed]
  split
  · exact refrains_serveRoute tells excludes
  · exact .pure (declined_ok (by simp [Response.withHeaders, Response.refusal, Response.json]))

theorem status_of_fault (fault : ServiceFault) : fault.status ≠ 200 := by
  rw [ServiceFault.status]
  cases fault.kind <;> decide

theorem refrains_tellFaults {action : Serving Response}
    (refrains : Refrains action state Declined) : Refrains (tellFaults action) state Unserved := by
  refine Refrains.bind refrains.attempt (fun _ _ => unserved_error) ?_
  rintro outcome ended _ ⟨_, ⟨⟩, unserved, plain⟩ _
  match outcome with
  | .ok response => exact .pure unserved
  | .error (.service fault) =>
      refine .tell fun response status => unserved_ok ?_
      rw [status]
      exact status_of_fault fault
  | .error (.refused status reason) =>
      refine .pure (unserved_ok ?_)
      rintro rfl
      exact plain reason rfl
  | .error (.time _) | .error (.costs _) | .error .unfinishedHash | .error .storeFailure
  | .error .disconnected | .error .nestedTooDeep | .error .noPath | .error .overlongPath
  | .error (.unusableKey _ _) | .error .unsuitableValue | .error .unsettableItems
  | .error .shortRow => exact .throw unserved_error

/-! ## Gates -/

/-- A principal of a caller: that of a key, or one without access of its own. -/
def Recognised (gate : AuthGate) (engine : Engine) (request : Request) (principal : Principal) :
    Prop :=
  principal.level ≠ .none →
    ∃ key access, Credential.ofRequest? request = some (.key key) ∧
      (gate.keys.classify key engine : Except Fault KeyAccess × Engine).1 = .ok access ∧
      principal = .ofKey access

private theorem refrains_classify {keys : ApiKeys} {key : String} :
    Refrains (act (keys.classify key)) state fun outcome =>
      outcome = (keys.classify key state.engine : Except Fault KeyAccess × Engine).1 := by
  have course : Refrains (act (keys.classify key)) state fun _ => True := by
    unfold ApiKeys.classify
    split
    · exact .act_pure trivial
    split
    · rw [act_bind]
      exact .bind .act_note (fun _ _ => trivial) fun _ _ _ _ _ => .act_pure trivial
    · rw [act_bind]
      refine .bind (.act_ask trivial) (fun _ _ => trivial) ?_
      intro tenants ended _ _ _
      rw [act_bind, act_lift]
      refine .bind .lift (fun _ _ => trivial) ?_
      intro owner ended _ _ _
      cases owner with
      | some tenant =>
          rw [act_bind]
          exact .bind .act_note (fun _ _ => trivial) fun _ _ _ _ _ => .act_pure trivial
      | none =>
          rw [act_bind]
          exact .bind .act_note (fun _ _ => trivial) fun _ _ _ _ _ => .act_pure trivial
  exact ⟨course.asks, course.blind, rfl⟩

private theorem level_ofToken {payload : TokenPayload} {principal : Principal}
    (accepted : Principal.ofToken payload = .ok principal) : principal.level = .none := by
  rw [Principal.ofToken] at accepted
  split at accepted
  · cases accepted
    rfl
  · cases accepted

private theorem level_of_token {gate : AuthGate} {token : String} {now : Moment}
    {principal : Principal}
    (accepted : gate.ofToken token now = .ok (some principal)) : principal.level = .none := by
  rw [AuthGate.ofToken] at accepted
  split at accepted
  · cases accepted
  split at accepted
  · cases accepted
  · rename_i payload _
    cases known : Principal.ofToken payload with
    | error fault => simp [known, Except.map] at accepted
    | ok owner =>
        simp only [known, Except.map, Except.ok.injEq, Option.some.injEq] at accepted
        exact accepted ▸ level_ofToken known
  · split at accepted <;> cases accepted
  · cases accepted

private theorem refrains_identify {gate : AuthGate} {credential : Credential}
    (presented : Credential.ofRequest? request = some credential) :
    Refrains (gate.identify credential) state fun outcome =>
      ∀ principal, outcome = .ok (some principal) →
        Recognised gate state.engine request principal := by
  cases credential with
  | key key =>
      refine .bind refrains_classify (fun _ _ _ => nofun) ?_
      intro access ended _ classified _
      refine .pure ?_
      intro principal equality level
      refine ⟨key, access, presented, classified.symm, ?_⟩
      split at equality
      · cases equality
        rfl
      · cases equality
  | token token =>
      refine .bind .now (fun _ _ _ => nofun) ?_
      intro now ended _ _ _
      refine Refrains.lift.weaken ?_
      rintro _ rfl principal accepted level
      exact absurd (level_of_token accepted) level

theorem refrains_authGate {gate : AuthGate} {inner : Option Caller → Serving Response}
    (required : gate.required = true)
    (anonymous : Refrains (inner none) state Unserved)
    (known : ∀ caller ended, Recognised gate state.engine request caller.principal →
      state.engine.store.OnlyTenantsAsked ended.engine.store →
      Refrains (inner (some caller)) ended Unserved) :
    Refrains (gate.pass request inner) state Unserved := by
  unfold AuthGate.pass
  split
  · exact anonymous
  split
  case isTrue open_ => simp [required] at open_
  cases presented : Credential.ofRequest? request with
  | none => exact .pure (unserved_ok (by decide))
  | some credential =>
      refine .bind (refrains_identify presented).attempt (fun _ _ => unserved_error) ?_
      rintro outcome ended _ ⟨_, ⟨⟩, recognised⟩ asked
      match outcome with
      | .ok (some principal) => exact known _ ended (recognised principal rfl) asked
      | .ok none => exact .pure (unserved_ok (by decide))
      | .error (.service fault) =>
          refine .tell fun response status => unserved_ok ?_
          rw [status]
          exact status_of_fault fault
      | .error (.refused _ _) | .error (.time _) | .error (.costs _) | .error .unfinishedHash
      | .error .storeFailure | .error .disconnected | .error .nestedTooDeep | .error .noPath
      | .error .overlongPath | .error (.unusableKey _ _) | .error .unsuitableValue
      | .error .unsettableItems | .error .shortRow => exact .throw unserved_error

theorem refrains_withHeaders {action : Serving Response} {headers : List (String × String)}
    (refrains : Refrains action state Unserved) :
    Refrains (do return (← action).withHeaders headers) state Unserved := by
  refine .bind refrains (fun _ _ => unserved_error) ?_
  intro response ended _ unserved _
  exact .pure (unserved_ok (unserved response rfl))

private theorem refrains_report {client path : String} {policy : Policy} :
    Refrains (act (RateGate.report client path policy)) state fun _ => True := by
  rw [RateGate.report, act_bind]
  exact .bind .act_count (fun _ _ => trivial) fun _ _ _ _ _ => .act_note

private theorem refrains_rateGate {gate : RateGate} {inner : Serving Response}
    (refrains : ∀ windows, Refrains inner { state with windows } Unserved) :
    Refrains (gate.pass request inner) state Unserved := by
  unfold RateGate.pass
  split
  · exact refrains state.windows
  have counted (client : String) (policy : Policy) :
      Refrains (RateGate.hit client policy) state fun _ => True :=
    ⟨.refl _, fun _ => rfl, trivial⟩
  refine .bind (counted _ _) (fun _ _ => unserved_error) ?_
  intro decision ended hit _ _
  have moved : (RateGate.hit (Rules.clientName request)
      (gate.rules.policyFor request.addressPath) state : Except Fault Decision × ServerState).2 =
        { state with windows := (RateGate.hit (Rules.clientName request)
          (gate.rules.policyFor request.addressPath) state :
            Except Fault Decision × ServerState).2.windows } := rfl
  rw [hit] at moved
  split
  · refine refrains_withHeaders ?_
    rw [show ended = _ from moved]
    exact refrains ended.windows
  · refine .bind .now (fun _ _ => unserved_error) ?_
    intro now ended _ _ _
    refine .bind .lift (fun _ _ => unserved_error) ?_
    intro retryAfter ended _ _ _
    refine .bind refrains_report (fun _ _ => unserved_error) ?_
    intro _ ended _ _ _
    exact .pure (unserved_ok (by simp [RateGate.rejection, Response.withHeaders, Response.json]))

private theorem refrains_crossOrigin {inner : Serving Response}
    (served : ¬ CrossOrigin.IsQuestion request) (refrains : Refrains inner state Unserved) :
    Refrains (CrossOrigin.pass request inner) state Unserved := by
  unfold CrossOrigin.pass
  split
  · exact refrains_withHeaders refrains
  · rename_i _ _ _ method origin asked
    split
    · rename_i options
      exact absurd ⟨options, by simp [origin], by simp [asked]⟩ served
    · exact refrains_withHeaders refrains
  · exact refrains_withHeaders refrains

/-! ## Requests -/

private theorem active_of_tenantByKey {directory : Directory} {key : String} {tenant : Tenant}
    (resolved : directory.tenantByKey key = some tenant) : tenant.isActive = true := by
  have fits := List.find?_some resolved
  simp only [Bool.and_eq_true] at fits
  exact fits.1

private theorem excludes_of_not_permitted {server : Server} {route : Route} {caller : Caller}
    {ended : ServerState} (plain : state.engine.store.FailsPlainly)
    (recognised : Recognised server.authGate state.engine request caller.principal)
    (asked : state.engine.store.OnlyTenantsAsked ended.engine.store)
    (unpermitted : ¬ server.Permits state.engine request route) :
    Excludes ended request route (some caller) := by
  rintro _ application ⟨⟩ level named
  obtain ⟨key, access, presented, classified, identity⟩ := recognised level
  have stillPlain : ended.engine.store.FailsPlainly := by
    rw [Store.FailsPlainly, asked.outage_eq]
    exact plain
  rw [identity] at level ⊢
  cases access with
  | invalid => exact absurd rfl level
  | admin => exact absurd ⟨key, application, presented, named, .inl classified⟩ unpermitted
  | tenant id =>
      refine refrains_authorize stillPlain rfl ?_
      intro tenant resolved
      rw [asked.directory_eq] at resolved
      obtain ⟨owner, listed, owns, rfl⟩ := ApiKeys.owner_of_classify classified
      obtain ⟨member, active⟩ := List.mem_filter.mp listed
      have stranger : ¬ owner.id = tenant.id := by
        intro same
        refine unpermitted ⟨key, application, presented, named, .inr ?_⟩
        exact ⟨owner, tenant, classified, member, (Bool.and_eq_true _ _ ▸ active).1, owns, resolved,
          active_of_tenantByKey resolved, same.symm⟩
      simp [Principal.mayAccess, Principal.isAdmin, Principal.ofKey, KeyAccess.accessLevel,
        KeyAccess.tenantId?, stranger]

private theorem refrains_handle {server : Server} {route : Route}
    (required : server.authGate.required = true)
    (routed : Route.ofPath? request.path = some route) (tells : route.TellsPermissions)
    (served : ¬ CrossOrigin.IsQuestion request) (plain : state.engine.store.FailsPlainly)
    (unpermitted : ¬ server.Permits state.engine request route) :
    Refrains (server.handle request) state Unserved := by
  refine refrains_crossOrigin served (refrains_rateGate fun windows => ?_)
  refine refrains_authGate required ?_ ?_
  · refine refrains_tellFaults (refrains_dispatch routed tells ?_)
    rintro known application ⟨⟩
  · intro caller ended recognised asked
    refine refrains_tellFaults (refrains_dispatch routed tells ?_)
    exact excludes_of_not_permitted plain recognised asked unpermitted

/-- A request for permissions is answered with success only if it comes with an admin key, or with
the key of an active tenant which is the active tenant that it asks about.  Any other request is
refused without asking for permissions: the store is asked for tenants only, and whatever the cache
holds, the response is the same and the cache is left as it is. -/
theorem isolates_tenants (server : Server) (required : server.authGate.required = true)
    (request : Request) (state : ServerState) (route : Route)
    (routed : Route.ofPath? request.path = some route) (tells : route.TellsPermissions)
    (served : ¬ CrossOrigin.IsQuestion request) (plain : state.engine.store.FailsPlainly) :
    ((server.serve request state).1.1.status = 200 →
      server.Permits state.engine request route) ∧
    (¬ server.Permits state.engine request route →
      (server.serve request state).1.1.status ≠ 200 ∧
      state.engine.store.OnlyTenantsAsked (server.serve request state).2.engine.store ∧
      ∀ cache, server.serve request (state.withCache cache) =
        ((server.serve request state).1, (server.serve request state).2.withCache cache)) := by
  have refused (unpermitted : ¬ server.Permits state.engine request route) :
      (server.serve request state).1.1.status ≠ 200 ∧
      state.engine.store.OnlyTenantsAsked (server.serve request state).2.engine.store ∧
      ∀ cache, server.serve request (state.withCache cache) =
        ((server.serve request state).1, (server.serve request state).2.withCache cache) := by
    obtain ⟨asks, blind, unserved⟩ :=
      refrains_handle required routed tells served plain unpermitted
    match answer : (server.handle request state : Except Fault Response × ServerState) with
    | (.ok response, ended) =>
        simp only [serve, blind, answer]
        rw [answer] at asks unserved
        exact ⟨unserved response rfl, asks, fun _ => trivial⟩
    | (.error fault, ended) =>
        simp only [serve, blind, answer]
        rw [answer] at asks
        exact ⟨by decide, asks, fun _ => trivial⟩
  refine ⟨fun success => Classical.byContradiction fun unpermitted => ?_, refused⟩
  exact (refused unpermitted).1 success

/-- The key of one tenant serves for that tenant, and is refused for another one. -/
theorem isolates_tenants_of_neighbours :
    ∃ server : Server, ∃ state : ServerState, ∃ own foreign : Request,
      own.headers = [("x-api-key", "key")] ∧ own.query = "applicationKey=desk" ∧
      foreign.headers = [("x-api-key", "key")] ∧ foreign.query = "applicationKey=shop" ∧
      server.Permits state.engine own (.permissionsOf "ann") ∧
      (server.serve foreign state).1.1.status ≠ 200 ∧
      state.engine.store.OnlyTenantsAsked (server.serve foreign state).2.engine.store := by
  let shop : Tenant := { id := "t1", key := "shop" }
  let desk : Tenant :=
    { id := "t2", key := "desk"
      keyHash := some "$argon2id$v=19$m=8,t=1,p=1$c2FsdHNhbHQ$AAAAAAAAAAAAAAAAAAAAAA" }
  let server : Server :=
    { serviceName := "authsmith"
      rateGate := { enabled := false, rules := .ofOptions {} {} }
      authGate :=
        { keys :=
            { adminKeys := .empty
              hasher := { derivation := fun _ _ _ length => List.replicate length 0 } }
          files := {} }
      tokens := .ofOptions {} {} }
  let state : ServerState :=
    { engine :=
        { store := { directory := { tenants := [shop, desk] } }
          cache := .memory { lifetime := 900 } }
      now := ⟨0, some .universal, by decide⟩, freshId := "" }
  let request (application : String) : Request :=
    { path := "/api/v1/users/ann/permissions", query := "applicationKey=" ++ application
      headers := [("x-api-key", "key")] }
  have routed : Route.ofPath? "/api/v1/users/ann/permissions" = some (.permissionsOf "ann") := by
    decide +kernel
  have isolated (application : String) :=
    isolates_tenants server rfl (request application) state (.permissionsOf "ann") routed trivial
      (fun question => absurd question.1 (by simp [request])) (by simp [Store.FailsPlainly, state])
  have served : (server.serve (request "desk") state).1.1.status = 200 := by decide +kernel
  have owner : (server.authGate.keys.classify "key" state.engine :
      Except Fault KeyAccess × Engine).1.toOption = some (.tenant "t2") := by decide +kernel
  have asked : application? (request "shop") (.permissionsOf "ann") = some "shop" := by
    decide +kernel
  have found : state.engine.store.directory.tenantByKey "shop" = some shop := by decide +kernel
  have unpermitted : ¬ server.Permits state.engine (request "shop") (.permissionsOf "ann") := by
    rintro ⟨key, application, presented, named, access⟩
    cases presented
    rw [asked] at named
    cases named
    rcases access with admin | ⟨other, tenant, tenants, _, _, _, resolved, _, same⟩
    · rw [admin] at owner
      cases owner
    · rw [tenants] at owner
      rw [found] at resolved
      cases resolved
      simp only [Except.toOption, Option.some.injEq, KeyAccess.tenant.injEq] at owner
      simp [owner, shop] at same
  exact ⟨server, state, request "desk", request "shop", rfl, rfl, rfl, rfl,
    (isolated "desk").1 served, ((isolated "shop").2 unpermitted).1,
    ((isolated "shop").2 unpermitted).2.1⟩

end Server

end AccessGate
