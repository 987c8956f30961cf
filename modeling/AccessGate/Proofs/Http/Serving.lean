import AccessGate.Http.Serving
import AccessGate.Proofs.Engine

/-!
# Serving without the permissions

Where a request is refused, the permissions are left alone: the store is only asked for tenants, and
the cache is neither read nor changed.  That a cache is not read shows in a run with another cache,
which takes the same course.
-/

namespace AccessGate

/-- A question that asks for tenants only. -/
def Question.IsOfTenants {ι : Type} : Question ι → Prop
  | .tenantByKey _ | .tenantsWithKeys => True
  | _ => False

/-- A store is later only changed by questions for tenants. -/
def Store.OnlyTenantsAsked (before after : Store) : Prop :=
  ∃ queries, (∀ query ∈ queries, query.IsOfTenants) ∧
    after = { before with asked := before.asked ++ queries }

namespace Store.OnlyTenantsAsked

theorem refl (store : Store) : store.OnlyTenantsAsked store :=
  ⟨[], by simp, by simp⟩

theorem trans {first second third : Store} (earlier : first.OnlyTenantsAsked second)
    (later : second.OnlyTenantsAsked third) : first.OnlyTenantsAsked third := by
  obtain ⟨asked, ofTenants, rfl⟩ := earlier
  obtain ⟨more, alsoOfTenants, rfl⟩ := later
  refine ⟨asked ++ more, ?_, by simp⟩
  intro query member
  rcases List.mem_append.mp member with found | found
  · exact ofTenants query found
  · exact alsoOfTenants query found

theorem directory_eq {before after : Store} (asked : before.OnlyTenantsAsked after) :
    after.directory = before.directory := by
  obtain ⟨_, _, rfl⟩ := asked
  rfl

theorem outage_eq {before after : Store} (asked : before.OnlyTenantsAsked after) :
    after.outage = before.outage := by
  obtain ⟨_, _, rfl⟩ := asked
  rfl

end Store.OnlyTenantsAsked

def ServerState.withCache (state : ServerState) (cache : PermissionCache) : ServerState :=
  { state with engine := { state.engine with cache } }

namespace Serving

/-- Started in a state, an action asks the store only for tenants, takes the same course whatever is
in the cache, which it leaves as it is, and `holds` is true of its outcome. -/
structure Refrains {α : Type} (action : Serving α) (state : ServerState)
    (holds : Except Fault α → Prop) : Prop where
  asks : state.engine.store.OnlyTenantsAsked
    (action state : Except Fault α × ServerState).2.engine.store
  blind : ∀ cache, (action (state.withCache cache) : Except Fault α × ServerState) =
    ((action state : Except Fault α × ServerState).1,
      (action state : Except Fault α × ServerState).2.withCache cache)
  outcome : holds (action state : Except Fault α × ServerState).1

variable {α β : Type} {state : ServerState}

theorem Refrains.weaken {action : Serving α} {stronger weaker : Except Fault α → Prop}
    (refrains : Refrains action state stronger)
    (implies : ∀ outcome, stronger outcome → weaker outcome) : Refrains action state weaker :=
  ⟨refrains.asks, refrains.blind, implies _ refrains.outcome⟩

/-! ## Composition -/

theorem Refrains.pure {value : α} {holds : Except Fault α → Prop} (known : holds (.ok value)) :
    Refrains (Pure.pure value) state holds :=
  ⟨.refl _, fun _ => rfl, known⟩

theorem Refrains.throw {fault : Fault} {holds : Except Fault α → Prop}
    (known : holds (.error fault)) : Refrains (MonadExcept.throw fault) state holds :=
  ⟨.refl _, fun _ => rfl, known⟩

theorem Refrains.lift {outcome : Except Fault α} :
    Refrains (liftM outcome) state fun reached => reached = outcome := by
  cases outcome with
  | ok value => exact .pure rfl
  | error fault => exact .throw rfl

theorem bind_apply (action : Serving α) (next : α → Serving β) (state : ServerState) :
    ((action >>= next) state : Except Fault β × ServerState) =
      match (action state : Except Fault α × ServerState) with
      | (.ok value, ended) => next value ended
      | (.error fault, ended) => (.error fault, ended) := by
  have continued : ((action >>= next) state : Except Fault β × ServerState) =
      ExceptT.bindCont next (action state : Except Fault α × ServerState).1
        (action state : Except Fault α × ServerState).2 := rfl
  rw [continued]
  obtain ⟨value | fault, ended⟩ := (action state : Except Fault α × ServerState) <;> rfl

theorem Refrains.bind {action : Serving α} {next : α → Serving β}
    {middle : Except Fault α → Prop} {holds : Except Fault β → Prop}
    (first : Refrains action state middle)
    (broken : ∀ fault, middle (.error fault) → holds (.error fault))
    (rest : ∀ value ended, (action state : Except Fault α × ServerState) = (.ok value, ended) →
      middle (.ok value) → state.engine.store.OnlyTenantsAsked ended.engine.store →
      Refrains (next value) ended holds) :
    Refrains (action >>= next) state holds := by
  obtain ⟨asks, blind, outcome⟩ := first
  match answer : (action state : Except Fault α × ServerState) with
  | (.ok value, ended) =>
      rw [answer] at asks outcome
      have later := rest value ended answer outcome asks
      constructor
      · rw [bind_apply, answer]
        exact asks.trans later.asks
      · intro cache
        rw [bind_apply, bind_apply, blind, answer]
        exact later.blind cache
      · rw [bind_apply, answer]
        exact later.outcome
  | (.error fault, ended) =>
      rw [answer] at asks outcome
      constructor
      · rw [bind_apply, answer]
        exact asks
      · intro cache
        rw [bind_apply, bind_apply, blind, answer]
      · rw [bind_apply, answer]
        exact broken fault outcome

theorem Refrains.attempt {action : Serving α} {holds : Except Fault α → Prop}
    (refrains : Refrains action state holds) :
    Refrains (attempt action) state fun outcome => ∃ value, outcome = .ok value ∧ holds value := by
  refine ⟨refrains.asks, ?_, _, rfl, refrains.outcome⟩
  intro cache
  simp only [Serving.attempt, refrains.blind]
  rfl

theorem Refrains.tell {fault : ServiceFault} {holds : Except Fault Response → Prop}
    (known : ∀ response, response.status = fault.status → holds (.ok response)) :
    Refrains (tell fault) state holds :=
  ⟨.refl _, fun _ => rfl, known _ rfl⟩

theorem Refrains.now : Refrains now state fun outcome => outcome = .ok state.now :=
  ⟨.refl _, fun _ => rfl, rfl⟩

/-! ## Actions on the engine -/

theorem act_bind (action : Action α) (next : α → Action β) :
    act (action >>= next) = act action >>= fun value => act (next value) := by
  funext state
  rw [bind_apply]
  simp only [act, Action.bind_apply]
  match answer : (action state.engine : Except Fault α × Engine) with
  | (.ok value, ended) => rfl
  | (.error fault, ended) => rfl

theorem Refrains.act_pure {value : α} {holds : Except Fault α → Prop}
    (known : holds (.ok value)) : Refrains (act (Pure.pure value)) state holds :=
  ⟨.refl _, fun _ => rfl, known⟩

theorem act_lift (outcome : Except Fault α) :
    (act (liftM outcome) : Serving α) = liftM outcome := by
  cases outcome <;> rfl

theorem Refrains.act_ask {query : Query} {answer : Directory → α} (ofTenants : query.IsOfTenants) :
    Refrains (act (Action.ask query answer)) state fun outcome =>
      outcome = .ok (answer state.engine.store.directory) ∨
        ∃ fault, state.engine.store.outage query = some fault ∧ outcome = .error fault := by
  have asked : state.engine.store.OnlyTenantsAsked
      { state.engine.store with asked := state.engine.store.asked ++ [query] } :=
    ⟨[query], by simpa using ofTenants, rfl⟩
  cases outage : state.engine.store.outage query with
  | none =>
      constructor
      · simpa only [act, Action.ask, Store.ask, outage] using asked
      · intro cache
        simp only [act, Action.ask, Store.ask, ServerState.withCache, outage]
      · simp [act, Action.ask, Store.ask, outage]
  | some fault =>
      constructor
      · simpa only [act, Action.ask, Store.ask, outage] using asked
      · intro cache
        simp only [act, Action.ask, Store.ask, ServerState.withCache, outage]
      · simp [act, Action.ask, Store.ask, outage]

theorem Refrains.act_note {event : AuditEvent} {level : LogLevel}
    {fields : List (String × Json)} :
    Refrains (act (Action.note event level fields)) state fun _ => True :=
  ⟨.refl _, fun _ => rfl, trivial⟩

theorem Refrains.act_count {tally : Count} :
    Refrains (act (Action.count tally)) state fun _ => True :=
  ⟨.refl _, fun _ => rfl, trivial⟩

end Serving

end AccessGate
