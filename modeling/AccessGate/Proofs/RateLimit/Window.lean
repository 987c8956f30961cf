import AccessGate.Proofs.Time.Moment
import AccessGate.RateLimit.Window

/-!
# What a sliding window decides

`Decision.Follows` states the rule of a sliding window on its own: which decision a policy asks for,
given the hits that still count.  Sliding a stored list of hits decides by this rule on those of
them that still count, and keeps these and the hit itself if it is admitted.
-/

namespace AccessGate

/-- Whether an earlier hit still counts at a moment. -/
def Policy.counts (policy : Policy) (now hit : Moment) : Bool :=
  now.instant - policy.windowSeconds.span ≤ hit.instant

/-- The decision that a policy asks for at a moment, given the hits that count, oldest first. -/
structure Decision.Follows (decision : Decision) (policy : Policy) (counted : List Moment)
    (now : Moment) : Prop where
  allowed : decision.allowed = true ↔ (counted.length : Int) < policy.limit
  limit : decision.limit = policy.limit
  remaining : decision.remaining =
    if decision.allowed then max 0 (policy.limit - 1 - counted.length) else 0
  /-- There is room again one window after the oldest hit that counts, or else after this one. -/
  resetAt : (counted.head?.getD now).addSeconds policy.windowSeconds = .ok decision.resetAt

namespace Window

private theorem since_eq_ok {cutoff : Moment} {hits recent : List Moment}
    (answer : since cutoff hits = .ok recent) :
    recent = hits.filter fun hit => cutoff.instant ≤ hit.instant := by
  induction hits generalizing recent with
  | nil =>
      cases answer
      rfl
  | cons hit hits induction =>
      cases compared : hit.isBefore cutoff with
      | error failure => simp [since, compared, bind, Except.bind] at answer
      | ok early =>
          cases rest : since cutoff hits with
          | error failure => simp [since, compared, rest, bind, Except.bind] at answer
          | ok later =>
              obtain ⟨_, rfl⟩ := Moment.isBefore_eq_ok compared
              have equality := induction rest
              simp only [since, compared, rest, bind, Except.bind, pure, Except.pure,
                Except.ok.injEq] at answer
              rw [← answer, equality]
              by_cases early : hit.instant < cutoff.instant
              · simp [early, Int.not_le.mpr early]
              · simp [early, Int.not_lt.mp early]

/-- What is left of the hits once those before the start of the window are dropped. -/
theorem since_start_eq_ok {cutoff : Moment} {hits recent : List Moment} {policy : Policy}
    {now : Moment} (moved : now.subtractSeconds policy.windowSeconds = .ok cutoff)
    (answer : since cutoff hits = .ok recent) : recent = hits.filter (policy.counts now) := by
  rw [since_eq_ok answer]
  apply List.filter_congr
  intro hit _
  rw [Policy.counts, (Moment.subtractSeconds_eq_ok moved).1]

private theorem since_of_alike {cutoff : Moment} {hits : List Moment}
    (alike : ∀ hit ∈ hits, hit.alike cutoff = true) :
    ∃ recent, since cutoff hits = .ok recent := by
  induction hits with
  | nil => exact ⟨[], rfl⟩
  | cons hit hits induction =>
      obtain ⟨recent, rest⟩ := induction fun other found => alike other (by simp [found])
      have compared := Moment.isBefore_of_alike (alike hit (by simp))
      simp only [since, compared, rest, bind, Except.bind]
      exact ⟨_, rfl⟩

theorem slide_eq_ok {hits kept : List Moment} {policy : Policy} {now : Moment}
    {decision : Decision} (answer : slide hits policy now = .ok (decision, kept)) :
    decision.Follows policy (hits.filter (policy.counts now)) now ∧
      kept = hits.filter (policy.counts now) ++ if decision.allowed then [now] else [] := by
  cases moved : now.subtractSeconds policy.windowSeconds with
  | error failure => simp [slide, moved, bind, Except.bind] at answer
  | ok cutoff =>
      cases filtered : since cutoff hits with
      | error failure => simp [slide, moved, filtered, bind, Except.bind] at answer
      | ok recent =>
          cases reset : resetAt recent policy now with
          | error failure =>
              simp [slide, moved, filtered, reset, bind, Except.bind] at answer
          | ok resetMoment =>
              rw [← since_start_eq_ok moved filtered]
              by_cases full : policy.limit ≤ recent.length
              · simp only [slide, moved, filtered, reset, full, bind, Except.bind, if_true, pure,
                  Except.pure, Except.ok.injEq, Prod.mk.injEq] at answer
                obtain ⟨rfl, rfl⟩ := answer
                exact ⟨⟨by simpa using full, rfl, rfl, reset⟩, by simp⟩
              · simp only [slide, moved, filtered, reset, full, bind, Except.bind, if_false, pure,
                  Except.pure, Except.ok.injEq, Prod.mk.injEq] at answer
                obtain ⟨rfl, rfl⟩ := answer
                refine ⟨⟨by simpa using full, rfl, ?_, reset⟩, by simp⟩
                simp only [if_true]
                congr 1
                omega

/-- A window slides if its hits can be compared with the start of the window, and if the time when
it has room again can be told. -/
theorem slide_succeeds {hits : List Moment} {policy : Policy} {now cutoff resetMoment : Moment}
    (alike : ∀ hit ∈ hits, hit.alike now = true)
    (moved : now.subtractSeconds policy.windowSeconds = .ok cutoff)
    (reset : ((hits.filter (policy.counts now)).head?.getD now).addSeconds policy.windowSeconds =
      .ok resetMoment) :
    ∃ decision kept, slide hits policy now = .ok (decision, kept) := by
  have alikeCutoff : ∀ hit ∈ hits, hit.alike cutoff = true := by
    intro hit found
    apply Moment.alike_trans (alike hit found)
    rw [Moment.alike_iff, (Moment.subtractSeconds_eq_ok moved).2]
  obtain ⟨recent, filtered⟩ := since_of_alike alikeCutoff
  rw [← since_start_eq_ok moved filtered] at reset
  simp only [slide, moved, filtered, Window.resetAt, reset, bind, Except.bind]
  by_cases full : policy.limit ≤ recent.length
  · rw [if_pos full]
    exact ⟨_, _, rfl⟩
  · rw [if_neg full]
    exact ⟨_, _, rfl⟩

end Window

end AccessGate
