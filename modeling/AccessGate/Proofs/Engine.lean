import AccessGate.Engine

/-!
# Specifications of actions

A specification tells where an action ends that starts in a given state, both if it returns and if
it fails.  What an action did before it failed stays done, so a failure has a state of its own.
`Ensures` relates the value to the state in which it is returned; `Leads` is the common case where
the two are described apart.
-/

namespace AccessGate.Action

variable {α β : Type} {before between reached failed : Engine → Prop}

theorem bind_apply (action : Action α) (next : α → Action β) (engine : Engine) :
    ((action >>= next) engine : Except Fault β × Engine) =
      match (action engine : Except Fault α × Engine) with
      | (.ok value, ended) => next value ended
      | (.error fault, ended) => (.error fault, ended) := by
  change (match (action engine : Except Fault α × Engine) with
    | (outcome, ended) => ExceptT.bindCont next outcome ended) = _
  match answer : (action engine : Except Fault α × Engine) with
  | (.ok value, ended) => rfl
  | (.error fault, ended) => rfl

theorem lift_apply (outcome : Except Fault α) (engine : Engine) :
    ((liftM outcome : Action α) engine : Except Fault α × Engine) = (outcome, engine) := by
  cases outcome <;> rfl

/-! ## Postconditions on value and state -/

/-- Started where `before` holds, an action returns a value in a state such that `returned` is true
of the two, or it fails where `failed` holds. -/
def Ensures (before : Engine → Prop) (action : Action α) (returned : α → Engine → Prop)
    (failed : Engine → Prop) : Prop :=
  ∀ engine, before engine →
    match (action engine : Except Fault α × Engine) with
    | (.ok value, ended) => returned value ended
    | (.error _, ended) => failed ended

theorem Ensures.of_ok {action : Action α} {returned : α → Engine → Prop}
    (ensures : Ensures before action returned failed) {engine ended : Engine} {value : α}
    (start : before engine) (answer : action engine = (.ok value, ended)) :
    returned value ended := by
  have outcome := ensures engine start
  rwa [answer] at outcome

theorem Ensures.of_error {action : Action α} {returned : α → Engine → Prop}
    (ensures : Ensures before action returned failed) {engine ended : Engine} {fault : Fault}
    (start : before engine) (answer : action engine = (.error fault, ended)) : failed ended := by
  have outcome := ensures engine start
  rwa [answer] at outcome

theorem Ensures.weaken {action : Action α} {stronger weaker : α → Engine → Prop}
    (ensures : Ensures before action stronger failed)
    (implies : ∀ value engine, stronger value engine → weaker value engine) :
    Ensures before action weaker failed := by
  intro engine start
  have outcome := ensures engine start
  match answer : (action engine : Except Fault α × Engine) with
  | (.ok value, ended) =>
      rw [answer] at outcome
      exact implies value ended outcome
  | (.error fault, ended) =>
      rw [answer] at outcome
      exact outcome

theorem Ensures.assuming {action : Action α} {returned : α → Engine → Prop} {known : Prop}
    (ensures : known → Ensures before action returned failed) :
    Ensures (fun engine => before engine ∧ known) action returned failed :=
  fun engine start => ensures start.2 engine start.1

theorem Ensures.pure {value : α} {returned : α → Engine → Prop}
    (known : ∀ engine, before engine → returned value engine) :
    Ensures before (Pure.pure value) returned failed :=
  known

theorem Ensures.bind {action : Action α} {next : α → Action β} {middle : α → Engine → Prop}
    {returned : β → Engine → Prop} (first : Ensures before action middle failed)
    (rest : ∀ value, Ensures (middle value) (next value) returned failed) :
    Ensures before (action >>= next) returned failed := by
  intro engine start
  have outcome := first engine start
  rw [bind_apply]
  match answer : (action engine : Except Fault α × Engine) with
  | (.ok value, ended) =>
      rw [answer] at outcome
      exact rest value ended outcome
  | (.error fault, ended) =>
      rw [answer] at outcome
      exact outcome

/-! ## Postconditions on value and state apart -/

/-- Started where `before` holds, an action returns where `reached` holds, and `holds` is true of
its value, or it fails where `failed` holds. -/
def Leads {α : Type} (before reached failed : Engine → Prop) (action : Action α)
    (holds : α → Prop) : Prop :=
  ∀ engine, before engine →
    match (action engine : Except Fault α × Engine) with
    | (.ok value, ended) => reached ended ∧ holds value
    | (.error _, ended) => failed ended

theorem Leads.ensures {action : Action α} {holds : α → Prop}
    (leads : Leads before reached failed action holds) :
    Ensures before action (fun value ended => reached ended ∧ holds value) failed :=
  leads

theorem Leads.answers {action : Action α} {holds : α → Prop}
    (leads : Leads before reached failed action holds) {engine ended : Engine} {value : α}
    (start : before engine) (answer : action engine = (.ok value, ended)) :
    reached ended ∧ holds value :=
  leads.ensures.of_ok start answer

theorem Leads.returns {action : Action α} {holds : α → Prop}
    (leads : Leads before reached (fun _ => False) action holds) {engine : Engine}
    (start : before engine) :
    ∃ value ended, action engine = (.ok value, ended) ∧ reached ended ∧ holds value := by
  have outcome := leads engine start
  match answer : (action engine : Except Fault α × Engine) with
  | (.ok value, ended) =>
      rw [answer] at outcome
      exact ⟨value, ended, rfl, outcome⟩
  | (.error fault, ended) =>
      rw [answer] at outcome
      exact outcome.elim

theorem Leads.ends {action : Action α} {holds : α → Prop} {lasting : Engine → Prop}
    (leads : Leads before reached failed action holds)
    (returned : ∀ engine, reached engine → lasting engine)
    (broken : ∀ engine, failed engine → lasting engine) {engine : Engine}
    (start : before engine) : lasting (action engine : Except Fault α × Engine).2 := by
  have outcome := leads engine start
  match answer : (action engine : Except Fault α × Engine) with
  | (.ok value, ended) =>
      rw [answer] at outcome
      exact returned ended outcome.1
  | (.error fault, ended) =>
      rw [answer] at outcome
      exact broken ended outcome

theorem Leads.weaken {action : Action α} {stronger weaker : α → Prop}
    (leads : Leads before reached failed action stronger)
    (implies : ∀ value, stronger value → weaker value) :
    Leads before reached failed action weaker :=
  leads.ensures.weaken fun value _ outcome => ⟨outcome.1, implies value outcome.2⟩

theorem Leads.pure {value : α} {holds : α → Prop} (known : holds value) :
    Leads before before failed (Pure.pure value) holds :=
  fun _ start => ⟨start, known⟩

theorem Leads.bind {action : Action α} {next : α → Action β} {middle : α → Prop}
    {holds : β → Prop} (first : Leads before between failed action middle)
    (rest : ∀ value, middle value → Leads between reached failed (next value) holds) :
    Leads before reached failed (action >>= next) holds :=
  first.ensures.bind fun value => Ensures.assuming fun known => (rest value known).ensures

/-! ## Primitive actions -/

/-- Answers come from the directory of the engine.  Only the list of questions asked changes. -/
theorem Leads.ask {query : Query} {answer : Directory → α} {holds : α → Prop}
    (answered : ∀ engine asked, before engine → engine.store.outage query = none →
      reached { engine with store := { engine.store with asked } } ∧
        holds (answer engine.store.directory))
    (refused : ∀ engine asked fault, before engine → engine.store.outage query = some fault →
      failed { engine with store := { engine.store with asked } }) :
    Leads before reached failed (ask query answer) holds := by
  intro engine start
  cases outage : engine.store.outage query with
  | none =>
      simp only [Action.ask, Store.ask, outage]
      exact answered engine _ start outage
  | some fault =>
      simp only [Action.ask, Store.ask, outage]
      exact refused engine _ fault start outage

theorem Leads.note {event : AuditEvent} {level : LogLevel} {fields : List (String × Json)}
    (noted : ∀ engine journal, before engine → reached { engine with journal }) :
    Leads before reached failed (note event level fields) fun _ => True :=
  fun engine start => ⟨noted engine _ start, trivial⟩

theorem Leads.count {tally : Count}
    (counted : ∀ engine journal, before engine → reached { engine with journal }) :
    Leads before reached failed (count tally) fun _ => True :=
  fun engine start => ⟨counted engine _ start, trivial⟩

theorem Leads.lookup {user tenant : String} {holds : Option TextSet → Prop}
    (found : ∀ engine, before engine → ∃ codes cache,
      engine.cache.get engine.now user tenant = (.ok codes, cache) ∧
        reached { engine with cache } ∧ holds codes) :
    Leads before reached failed (cachedCodes user tenant) holds := by
  intro engine start
  obtain ⟨codes, cache, equality, outcome⟩ := found engine start
  simp only [Action.cachedCodes, equality]
  exact outcome

theorem Leads.cachedCodes {user tenant : String} {holds : Option TextSet → Prop}
    (found : ∀ engine, before engine → ∃ memory, engine.cache = .memory memory ∧
      reached { engine with cache := .memory (memory.get engine.now user tenant).2 } ∧
        holds (memory.get engine.now user tenant).1) :
    Leads before reached failed (cachedCodes user tenant) holds := by
  apply Leads.lookup
  intro engine start
  obtain ⟨memory, kept, outcome⟩ := found engine start
  exact ⟨_, _, by rw [kept]; rfl, outcome⟩

theorem Leads.cacheCodes {user tenant : String} {codes : TextSet}
    (cached : ∀ engine, before engine →
      reached { engine with cache := engine.cache.set engine.now user tenant codes.items }) :
    Leads before reached failed (cacheCodes user tenant codes) fun _ => True :=
  fun engine start => ⟨cached engine start, trivial⟩

theorem Leads.dropCodes {drop : PermissionCache → Except Disconnected Unit × PermissionCache}
    (dropped : ∀ engine, before engine → ∃ cache, drop engine.cache = (.ok (), cache) ∧
      reached { engine with cache }) :
    Leads before reached failed (dropCodes drop) fun _ => True := by
  intro engine start
  obtain ⟨cache, equality, outcome⟩ := dropped engine start
  simp only [Action.dropCodes, equality]
  exact ⟨outcome, trivial⟩

end AccessGate.Action
