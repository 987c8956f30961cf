import AccessGate.Proofs.RateLimit.Trace

/-!
# The store implements the sliding window

A client whose hits all ask for windows of one length is answered from its own history alone: the
hits of other clients, whatever their policies, and the sweeps they trigger do not show.
-/

namespace AccessGate.MemoryWindows

theorem Trace.admitted_ordered {sweepMicros : Int} {past : List Served} {store : MemoryWindows}
    (trace : Trace sweepMicros past store) (client : String) :
    (admitted client past).Pairwise fun earlier later => earlier.instant ≤ later.instant := by
  induction trace with
  | start => simp [admitted]
  | @hit past store after other policy now decision trace ordered answer induction =>
      rw [admitted_append, List.pairwise_append]
      refine ⟨induction, ?_, ?_⟩
      · by_cases same : other = client
        · subst same
          rw [admitted_same]
          split <;> simp
        · rw [admitted_other same]
          simp
      · intro earlier old later new
        obtain ⟨served, found, rfl⟩ := List.mem_map.mp old
        obtain ⟨latest, latestFound, rfl⟩ := List.mem_map.mp new
        have latestEquality := List.mem_singleton.mp (List.mem_filter.mp latestFound).1
        subst latestEquality
        exact (ordered served (List.mem_filter.mp found).1).instant_le

/-- A hit of a client whose windows all have the same length succeeds unless a time that it
calculates is out of range, and then follows the rule of the sliding window on the hits that the
client was admitted for. -/
theorem Trace.decision_of_history {sweepMicros : Int} {past : List Served} {store : MemoryWindows}
    (trace : Trace sweepMicros past store) (client : String) (policy : Policy) (now : Moment)
    (ordered : ∀ served ∈ past, served.now.NotAfter now)
    (single : ∀ served ∈ past, served.client = client →
      served.policy.windowSeconds = policy.windowSeconds) :
    ((admitted client past).Pairwise fun earlier later => earlier.instant ≤ later.instant) ∧
      (∀ decision after, store.hit client policy now = (.ok decision, after) →
        decision.Follows policy ((admitted client past).filter (policy.counts now)) now) ∧
      (Fits sweepMicros policy now →
        ∃ decision after, store.hit client policy now = (.ok decision, after)) := by
  refine ⟨trace.admitted_ordered client, ?_, ?_⟩
  · intro decision after answer
    apply trace.follows_history ordered _ answer
    intro served found own
    exact Int.le_of_eq (congrArg Quantity.span (single served found own).symm)
  · exact trace.hit_succeeds ordered single

/-- A third hit of a client under a limit of three, after a hit of another client under a shorter
window: the two earlier hits of the client itself count. -/
theorem Trace.decision_amid_others :
    ∃ past store decision after, Trace (60 * microsPerSecond) past store ∧ past.length = 3 ∧
      store.hit "a" ⟨3, .whole 60⟩ (.middle 30000000) = (.ok decision, after) ∧
      decision.Follows ⟨3, .whole 60⟩ [.middle 0, .middle 20000000] (.middle 30000000) := by
  have empty : Trace (60 * microsPerSecond) [] _ := .start
  have once := empty.next "a" ⟨2, .whole 60⟩ (.middle 0) (by decide) rfl
  have between := once.next "b" ⟨1, .whole 5⟩ (.middle 10000000) (by decide) rfl
  have trace := between.next "a" ⟨2, .whole 60⟩ (.middle 20000000) (by decide) rfl
  have rule := trace.decision_of_history "a" ⟨3, .whole 60⟩ (.middle 30000000) (by decide)
    (by decide)
  have fits : Fits (60 * microsPerSecond) ⟨3, .whole 60⟩ (.middle 30000000) := by
    refine ⟨⟨_, rfl⟩, ?_, ?_⟩
    · exact Moment.addSeconds_succeeds ⟨_, rfl⟩ (by decide) (by decide)
    · exact Moment.addMicros_succeeds (by decide) (by decide)
  obtain ⟨decision, after, answer⟩ := rule.2.2 fits
  exact ⟨_, _, decision, after, trace, rfl, answer, rule.2.1 decision after answer⟩

end AccessGate.MemoryWindows
