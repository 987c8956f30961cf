import AccessGate.Proofs.RateLimit.Isolation
import AccessGate.Proofs.Time.Timestamp

/-!
# What a decision announces

An admitted hit is told how many more are left, and a rejected one when there is room again and how
many seconds that takes.  `Foretells` says what these announcements mean for the later hits of the
client.  They come true because the hits that are kept are in order of time and never more than the
limit: what room there will be is then settled by the number of them, and by the oldest one.
-/

namespace AccessGate

/-- The whole seconds from a moment until the window has room again, told exactly. -/
def Decision.wait (decision : Decision) (now : Moment) : Int :=
  max 0 ((decision.resetAt.instant - now.instant).tdiv microsPerSecond)

/-- The hit at a place among the hits of a client was answered by a decision. -/
structure AnsweredAt (hits : List Hit) (answers : List (Except TimeError Decision)) (place : Nat)
    (hit : Hit) (decision : Decision) : Prop where
  hit : hits[place]? = some hit
  decision : answers[place]? = some (.ok decision)

/-- All hits between two places were rejected. -/
def RejectedBetween (answers : List (Except TimeError Decision)) (start finish : Nat) : Prop :=
  ∀ place decision, start < place → place < finish → answers[place]? = some (.ok decision) →
    decision.allowed = false

/-- The decisions on the hits of a client under one policy tell what becomes of the later hits. -/
structure Foretells (policy : Policy) (hits : List Hit)
    (answers : List (Except TimeError Decision)) : Prop where
  /-- At the instant of an admitted hit, the remaining hits are admitted and no more. -/
  remaining : ∀ {place later : Nat} {first next : Hit} {decision outcome : Decision},
    AnsweredAt hits answers place first decision → AnsweredAt hits answers later next outcome →
    decision.allowed = true → place ≤ later → next.now.instant = first.now.instant →
    (outcome.allowed = true ↔ (later : Int) - place ≤ decision.remaining)
  /-- After a rejected hit there is room again within one window. -/
  resetAt : ∀ {place : Nat} {first : Hit} {decision : Decision},
    AnsweredAt hits answers place first decision → decision.allowed = false →
    first.now.instant ≤ decision.resetAt.instant ∧
      decision.resetAt.instant ≤ first.now.instant + policy.windowSeconds.span
  /-- The next hit that is not rejected in between is admitted if it comes after that time. -/
  room : ∀ {place later : Nat} {first next : Hit} {decision outcome : Decision},
    AnsweredAt hits answers place first decision → AnsweredAt hits answers later next outcome →
    decision.allowed = false → place < later → RejectedBetween answers place later →
    (outcome.allowed = true ↔ decision.resetAt.instant < next.now.instant)
  /-- The seconds that are told at some reading of the clock are the exact ones. -/
  retryAfter : ∀ {place : Nat} {first : Hit} {decision : Decision} {reading : Moment},
    AnsweredAt hits answers place first decision → first.now.NotAfter reading →
    decision.resetAt.instant - reading.instant < 2 ^ 34 * microsPerSecond →
    decision.retryAfter reading = .ok (decision.wait reading)
  /-- A hit after exactly these seconds is too early, unless the time was over when they were told,
  and one a second later is not. -/
  retry : ∀ {place later : Nat} {first next : Hit} {decision outcome : Decision} {reading : Moment},
    AnsweredAt hits answers place first decision → AnsweredAt hits answers later next outcome →
    decision.allowed = false → place < later → RejectedBetween answers place later →
    (next.now.instant = reading.instant + decision.wait reading * microsPerSecond →
      reading.instant ≤ decision.resetAt.instant → outcome.allowed = false) ∧
    (next.now.instant = reading.instant + (decision.wait reading + 1) * microsPerSecond →
      outcome.allowed = true)

/-! ## Seconds -/

namespace Decision

variable {decision : Decision} {now : Moment}

/-- The seconds to wait do not go beyond the time when there is room again, but one second more
does. -/
theorem wait_bounds (decision : Decision) (now : Moment) :
    (now.instant ≤ decision.resetAt.instant →
      now.instant + decision.wait now * microsPerSecond ≤ decision.resetAt.instant) ∧
    decision.resetAt.instant < now.instant + (decision.wait now + 1) * microsPerSecond := by
  have unit : (microsPerSecond : Int) = 1000000 := rfl
  rw [wait, unit]
  rcases Int.lt_or_le decision.resetAt.instant now.instant with past | ahead
  · omega
  · rw [Int.tdiv_eq_ediv_of_nonneg (by omega)]
    omega

/-- The double that the seconds are taken from may only be off for times that are far ahead. -/
theorem retryAfter_eq_ok_wait (alike : now.alike decision.resetAt = true)
    (near : decision.resetAt.instant - now.instant < 2 ^ 34 * microsPerSecond) :
    decision.retryAfter now = .ok (decision.wait now) := by
  have short : (decision.resetAt.instant - now.instant).natAbs < 2 ^ 64 := by
    have early := now.instant_bounds
    have late := decision.resetAt.instant_bounds
    omega
  simp only [retryAfter, Moment.micros, if_pos alike, Except.map, wait, Except.ok.injEq]
  rcases isWholeSeconds_wholeSeconds short with exact | ⟨far, next⟩
  · rw [exact]
  · have past : decision.resetAt.instant - now.instant < 0 := by
      rw [microsPerSecond] at near far
      omega
    have unit : microsPerSecond = 1000000 := rfl
    rw [next, Int.sign_eq_neg_one_of_neg past, tdiv_microsPerSecond, if_pos past, unit]
    omega

end Decision

/-! ## Hits that are kept -/

namespace Window

/-- The kept hits are no more than the limit, in order of time, and none of them is later than the
hits to come. -/
structure Orderly (limit : Int) (kept : List Moment) (later : List Hit) : Prop where
  few : (kept.length : Int) ≤ limit
  sorted : kept.Pairwise fun earlier later => earlier.instant ≤ later.instant
  behind : ∀ old ∈ kept, ∀ hit ∈ later, old.NotAfter hit.now

variable {policy : Policy} {kept after : List Moment} {hit : Hit} {hits : List Hit}
  {decision : Decision}

private theorem orderly_nil {limit : Int} (room : 0 ≤ limit) (later : List Hit) :
    Orderly limit [] later where
  few := room
  sorted := .nil
  behind _ found := by cases found

theorem Orderly.next (orderly : Orderly policy.limit kept (hit :: hits))
    (behind : ∀ next ∈ hits, hit.now.NotAfter next.now)
    (slid : slide kept policy hit.now = .ok (decision, after)) :
    Orderly policy.limit after hits := by
  obtain ⟨follows, rfl⟩ := slide_eq_ok slid
  have fewer : (kept.filter (policy.counts hit.now)).length ≤ kept.length :=
    List.length_filter_le ..
  have few := orderly.few
  have allowed := follows.allowed
  refine ⟨?_, ?_, ?_⟩
  · split
    · next admitted =>
      have room := allowed.mp admitted
      rw [List.length_append, List.length_singleton]
      omega
    · rw [List.append_nil]
      omega
  · rw [List.pairwise_append]
    refine ⟨orderly.sorted.filter _, by split <;> simp, ?_⟩
    intro old early new late
    have member : old ∈ kept := (List.mem_filter.mp early).1
    have latest : new = hit.now := by
      split at late
      · exact List.mem_singleton.mp late
      · cases late
    rw [latest]
    exact (orderly.behind old member hit List.mem_cons_self).instant_le
  · intro old found next member
    rcases List.mem_append.mp found with early | late
    · exact orderly.behind old (List.mem_filter.mp early).1 next (List.mem_cons_of_mem _ member)
    · split at late
      · rw [List.mem_singleton.mp late]
        exact behind next member
      · cases late

theorem answers_of_answered (answered : Answered (answers kept (hit :: hits))) :
    ∃ decision after, slide kept hit.policy hit.now = .ok (decision, after) ∧
      answers kept (hit :: hits) = .ok decision :: answers after hits ∧
      Answered (answers after hits) := by
  cases slid : slide kept hit.policy hit.now with
  | error failure =>
      simp only [answers, slid, Answered, List.forall_mem_cons] at answered
      obtain ⟨⟨_, failed⟩, _⟩ := answered
      cases failed
  | ok outcome =>
      obtain ⟨decision, after⟩ := outcome
      have equality : answers kept (hit :: hits) = .ok decision :: answers after hits := by
        simp only [answers, slid]
      rw [equality] at answered
      exact ⟨decision, after, rfl, equality, (List.forall_mem_cons.mp answered).2⟩

theorem Orderly.drop (orderly : Orderly policy.limit kept hits) (ordered : Hit.InOrder hits)
    (single : ∀ hit ∈ hits, hit.policy = policy) (answered : Answered (answers kept hits))
    (place : Nat) :
    ∃ after, Orderly policy.limit after (hits.drop place) ∧
      (answers kept hits).drop place = answers after (hits.drop place) := by
  induction place generalizing kept hits with
  | zero => exact ⟨kept, orderly, rfl⟩
  | succ place induction =>
      cases hits with
      | nil => exact ⟨kept, orderly, rfl⟩
      | cons hit hits =>
          obtain ⟨behind, ordered⟩ := List.pairwise_cons.mp ordered
          obtain ⟨same, single⟩ := List.forall_mem_cons.mp single
          obtain ⟨decision, after, slid, equality, answered⟩ := answers_of_answered answered
          rw [same] at slid
          rw [equality, List.drop_succ_cons, List.drop_succ_cons]
          exact induction (orderly.next behind slid) ordered single answered

/-! ## Room for later hits -/

theorem slide_of_counting (count : ∀ old ∈ kept, policy.counts hit.now old = true)
    (slid : slide kept policy hit.now = .ok (decision, after)) :
    decision.Follows policy kept hit.now ∧
      after = kept ++ if decision.allowed then [hit.now] else [] := by
  have all : kept.filter (policy.counts hit.now) = kept := List.filter_eq_self.mpr count
  simpa only [all] using slide_eq_ok slid

/-- As long as every kept hit counts, there is room for as many hits at one instant as the limit
leaves. -/
theorem allowed_at_instant {instant : Int} {place : Nat} {outcome : Decision}
    (span : 0 ≤ policy.windowSeconds.span)
    (single : ∀ hit ∈ hits, hit.policy = policy) (answered : Answered (answers kept hits))
    (recent : ∀ old ∈ kept, instant - policy.windowSeconds.span ≤ old.instant)
    (still : ∀ hit ∈ hits.take (place + 1), hit.now.instant = instant)
    (answer : (answers kept hits)[place]? = some (.ok outcome)) :
    outcome.allowed = true ↔ (kept.length : Int) + place < policy.limit := by
  induction place generalizing kept hits with
  | zero =>
      cases hits with
      | nil => cases answer
      | cons hit hits =>
          obtain ⟨decision, after, slid, equality, _⟩ := answers_of_answered answered
          rw [single hit List.mem_cons_self] at slid
          have now : hit.now.instant = instant := still hit (by simp)
          obtain ⟨follows, _⟩ := slide_of_counting
            (fun old found => by simpa [Policy.counts, now] using recent old found) slid
          rw [equality, List.getElem?_cons_zero] at answer
          cases answer
          simpa using follows.allowed
  | succ place induction =>
      cases hits with
      | nil => cases answer
      | cons hit hits =>
          obtain ⟨decision, after, slid, equality, answeredLater⟩ := answers_of_answered answered
          obtain ⟨same, single⟩ := List.forall_mem_cons.mp single
          rw [same] at slid
          have now : hit.now.instant = instant := still hit (by simp)
          obtain ⟨follows, stored⟩ := slide_of_counting
            (fun old found => by simpa [Policy.counts, now] using recent old found) slid
          rw [equality, List.getElem?_cons_succ] at answer
          have later := induction single answeredLater ?_ ?_ answer
          · rw [later, stored]
            split
            · rw [List.length_append, List.length_singleton]
              omega
            · next denied =>
              have full := mt follows.allowed.mpr denied
              rw [List.append_nil]
              omega
          · intro old found
            rw [stored, List.mem_append] at found
            rcases found with early | late
            · exact recent old early
            · split at late
              · rw [List.mem_singleton.mp late]
                omega
              · cases late
          · intro next found
            exact still next (List.mem_cons_of_mem _ found)

theorem counts_of_oldest {oldest now : Moment} {others : List Moment}
    (sorted : (oldest :: others).Pairwise fun earlier later => earlier.instant ≤ later.instant)
    (late : now.instant ≤ oldest.instant + policy.windowSeconds.span) :
    ∀ old ∈ oldest :: others, policy.counts now old = true := by
  intro old found
  have later : oldest.instant ≤ old.instant := by
    rcases List.mem_cons.mp found with rfl | found
    · exact Int.le_refl _
    · exact (List.pairwise_cons.mp sorted).1 old found
  simp only [Policy.counts, decide_eq_true_eq]
  omega

theorem allowed_of_full {oldest : Moment} {others : List Moment}
    (orderly : Orderly policy.limit (oldest :: others) (hit :: hits))
    (full : policy.limit = (oldest :: others).length)
    (slid : slide (oldest :: others) policy hit.now = .ok (decision, after)) :
    decision.allowed = true ↔ oldest.instant + policy.windowSeconds.span < hit.now.instant := by
  constructor
  · intro allowed
    apply Int.not_le.mp
    intro late
    have count := counts_of_oldest orderly.sorted late
    have room := (slide_of_counting count slid).1.allowed.mp allowed
    omega
  · intro late
    obtain ⟨follows, _⟩ := slide_eq_ok slid
    have gone : policy.counts hit.now oldest = false := by
      simp only [Policy.counts, decide_eq_false_iff_not]
      omega
    have left : ((oldest :: others).filter (policy.counts hit.now)).length ≤ others.length := by
      rw [List.filter_cons_of_neg (by simp [gone])]
      exact List.length_filter_le ..
    rw [List.length_cons] at full
    exact follows.allowed.mpr (by omega)

/-- Rejected hits change nothing about when a full window has room. -/
theorem allowed_after_rejections {oldest : Moment} {others : List Moment} {place : Nat}
    {next : Hit} {outcome : Decision}
    (orderly : Orderly policy.limit (oldest :: others) hits)
    (full : policy.limit = (oldest :: others).length) (ordered : Hit.InOrder hits)
    (single : ∀ hit ∈ hits, hit.policy = policy)
    (answered : Answered (answers (oldest :: others) hits))
    (found : hits[place]? = some next)
    (answer : (answers (oldest :: others) hits)[place]? = some (.ok outcome))
    (rejected : ∀ earlier decision, earlier < place →
      (answers (oldest :: others) hits)[earlier]? = some (.ok decision) →
        decision.allowed = false) :
    outcome.allowed = true ↔ oldest.instant + policy.windowSeconds.span < next.now.instant := by
  induction place generalizing hits with
  | zero =>
      cases hits with
      | nil => cases found
      | cons hit hits =>
          obtain ⟨decision, after, slid, equality, _⟩ := answers_of_answered answered
          rw [single hit List.mem_cons_self] at slid
          rw [equality, List.getElem?_cons_zero] at answer
          cases answer
          cases found
          exact allowed_of_full orderly full slid
  | succ place induction =>
      cases hits with
      | nil => cases found
      | cons hit hits =>
          obtain ⟨decision, after, slid, equality, answeredLater⟩ := answers_of_answered answered
          obtain ⟨same, single⟩ := List.forall_mem_cons.mp single
          obtain ⟨behind, ordered⟩ := List.pairwise_cons.mp ordered
          rw [same] at slid
          rw [equality] at answer rejected
          have denied : decision.allowed = false := rejected 0 decision (by omega) rfl
          have late : hit.now.instant ≤ oldest.instant + policy.windowSeconds.span := by
            apply Int.not_lt.mp
            rw [← allowed_of_full orderly full slid, denied]
            exact Bool.false_ne_true
          have unchanged : after = oldest :: others := by
            rw [(slide_of_counting (counts_of_oldest orderly.sorted late) slid).2, denied]
            exact List.append_nil _
          subst unchanged
          refine induction (orderly.next behind slid) ordered single answeredLater found answer ?_
          intro earlier decision before found
          exact rejected (earlier + 1) decision (by omega) found

/-! ## Announcements -/

theorem drop_answeredAt {answers : List (Except TimeError Decision)} {start place : Nat}
    (here : AnsweredAt hits answers place hit decision) (behind : start ≤ place) :
    AnsweredAt (hits.drop start) (answers.drop start) (place - start) hit decision := by
  have place_eq : start + (place - start) = place := by omega
  constructor
  · rw [List.getElem?_drop, place_eq]
    exact here.hit
  · rw [List.getElem?_drop, place_eq]
    exact here.decision

theorem Orderly.at_place (orderly : Orderly policy.limit kept hits) (ordered : Hit.InOrder hits)
    (single : ∀ hit ∈ hits, hit.policy = policy) (answered : Answered (answers kept hits))
    {place : Nat} (here : AnsweredAt hits (answers kept hits) place hit decision) :
    ∃ before after, Orderly policy.limit before (hit :: hits.drop (place + 1)) ∧
      slide before policy hit.now = .ok (decision, after) ∧
      Orderly policy.limit after (hits.drop (place + 1)) ∧
      Answered (answers after (hits.drop (place + 1))) ∧
      (answers kept hits).drop (place + 1) = answers after (hits.drop (place + 1)) := by
  obtain ⟨before, orderlyBefore, equality⟩ := orderly.drop ordered single answered place
  obtain ⟨inside, atPlace⟩ := List.getElem?_eq_some_iff.mp here.hit
  have cut : hits.drop place = hit :: hits.drop (place + 1) := by
    rw [List.drop_eq_getElem_cons inside, atPlace]
  have answeredHere : Answered ((answers kept hits).drop place) := fun answer found =>
    answered answer (List.mem_of_mem_drop found)
  rw [cut] at orderlyBefore equality
  rw [equality] at answeredHere
  obtain ⟨other, after, slid, next, answeredLater⟩ := answers_of_answered answeredHere
  have sameDecision : other = decision := by
    have head : ((answers kept hits).drop place)[0]? = some (.ok decision) := by
      rw [List.getElem?_drop]
      exact here.decision
    rw [equality, next, List.getElem?_cons_zero] at head
    cases head
    rfl
  subst sameDecision
  rw [single hit (List.mem_of_getElem? here.hit)] at slid
  have orderedLater : Hit.InOrder (hit :: hits.drop (place + 1)) := by
    rw [← cut]
    exact ordered.sublist (List.drop_sublist _ _)
  refine ⟨before, after, orderlyBefore, slid,
    orderlyBefore.next (List.pairwise_cons.mp orderedLater).1 slid, answeredLater, ?_⟩
  rw [← List.drop_drop, equality, next]
  rfl

private theorem alike_resetAt {counted : List Moment} {now : Moment}
    (follows : decision.Follows policy counted now)
    (alike : ∀ old ∈ counted, old.alike now = true) : now.alike decision.resetAt = true := by
  have base : (counted.head?.getD now).alike now = true := by
    cases oldest : counted.head? with
    | none => exact now.alike_refl
    | some old => exact alike old (List.mem_of_head? oldest)
  rw [Moment.alike_iff, (Moment.addSeconds_eq_ok follows.resetAt).2]
  exact (Moment.alike_iff.mp base).symm

/-- A rejected hit leaves a full window, which has room again a window after its oldest hit. -/
theorem Orderly.full_of_rejected (orderly : Orderly policy.limit kept (hit :: hits))
    (limit : 1 ≤ policy.limit) (slid : slide kept policy hit.now = .ok (decision, after))
    (rejected : decision.allowed = false) :
    ∃ oldest others, after = oldest :: others ∧ policy.limit = (oldest :: others).length ∧
      oldest.instant ≤ hit.now.instant ∧
      hit.now.instant ≤ oldest.instant + policy.windowSeconds.span ∧
      decision.resetAt.instant = oldest.instant + policy.windowSeconds.span := by
  obtain ⟨follows, stored⟩ := slide_eq_ok slid
  rw [rejected, if_neg Bool.false_ne_true, List.append_nil] at stored
  have full : policy.limit ≤ (kept.filter (policy.counts hit.now)).length := by
    apply Int.not_lt.mp
    rw [← follows.allowed, rejected]
    exact Bool.false_ne_true
  have fewer : (kept.filter (policy.counts hit.now)).length ≤ kept.length :=
    List.length_filter_le ..
  have few := orderly.few
  have reset := follows.resetAt
  rw [← stored] at full fewer reset
  cases after with
  | nil =>
      rw [List.length_nil] at full
      omega
  | cons oldest others =>
      have member : oldest ∈ kept.filter (policy.counts hit.now) := by
        rw [← stored]
        exact List.mem_cons_self
      obtain ⟨found, counts⟩ := List.mem_filter.mp member
      simp only [Policy.counts, decide_eq_true_eq] at counts
      refine ⟨oldest, others, rfl, by omega, ?_, by omega, (Moment.addSeconds_eq_ok reset).1⟩
      exact (orderly.behind oldest found hit List.mem_cons_self).instant_le

theorem instant_le_of_inOrder (ordered : Hit.InOrder hits) {start finish : Nat} {early late : Hit}
    (before : hits[start]? = some early) (behind : hits[finish]? = some late)
    (order : start ≤ finish) : early.now.instant ≤ late.now.instant := by
  rcases Nat.lt_or_eq_of_le order with earlier | rfl
  · obtain ⟨_, rfl⟩ := List.getElem?_eq_some_iff.mp before
    obtain ⟨_, rfl⟩ := List.getElem?_eq_some_iff.mp behind
    exact (List.pairwise_iff_getElem.mp ordered _ _ _ _ earlier).instant_le
  · obtain rfl := Option.some.inj (before.symm.trans behind)
    exact Int.le_refl _

section Announcements

variable {place later : Nat} {first next : Hit} {outcome : Decision}

theorem Orderly.allowed_iff_remaining (orderly : Orderly policy.limit kept hits)
    (span : 0 ≤ policy.windowSeconds.span) (ordered : Hit.InOrder hits)
    (single : ∀ hit ∈ hits, hit.policy = policy) (answered : Answered (answers kept hits))
    (here : AnsweredAt hits (answers kept hits) place first decision)
    (there : AnsweredAt hits (answers kept hits) later next outcome)
    (allowed : decision.allowed = true) (behind : place < later)
    (same : next.now.instant = first.now.instant) :
    outcome.allowed = true ↔ (later : Int) - place ≤ decision.remaining := by
  obtain ⟨before, after, orderlyBefore, slid, orderlyAfter, answeredAfter, equality⟩ :=
    orderly.at_place ordered single answered here
  have onward := drop_answeredAt there behind
  rw [Nat.succ_eq_add_one, equality] at onward
  obtain ⟨follows, stored⟩ := slide_eq_ok slid
  rw [allowed, if_pos rfl] at stored
  have recent : ∀ old ∈ after, first.now.instant - policy.windowSeconds.span ≤ old.instant := by
    intro old found
    rw [stored, List.mem_append, List.mem_singleton] at found
    rcases found with early | rfl
    · simpa [Policy.counts] using (List.mem_filter.mp early).2
    · omega
  have still : ∀ hit ∈ (hits.drop (place + 1)).take (later - (place + 1) + 1),
      hit.now.instant = first.now.instant := by
    intro hit found
    obtain ⟨step, inside, atStep⟩ := List.mem_take_iff_getElem.mp found
    have atPlace : hits[place + 1 + step]? = some hit := by
      rw [← List.getElem?_drop, List.getElem?_eq_some_iff]
      exact ⟨by omega, atStep⟩
    have early := instant_le_of_inOrder ordered here.hit atPlace (by omega)
    have late := instant_le_of_inOrder ordered atPlace there.hit (by omega)
    omega
  have room := allowed_at_instant span
    (fun hit found => single hit (List.mem_of_mem_drop found)) answeredAfter recent still
    onward.decision
  have free := follows.allowed.mp allowed
  have remaining := follows.remaining
  rw [allowed, if_pos rfl] at remaining
  rw [room, stored, List.length_append, List.length_singleton, remaining]
  omega

theorem Orderly.allowed_iff_resetAt (orderly : Orderly policy.limit kept hits)
    (limit : 1 ≤ policy.limit) (ordered : Hit.InOrder hits)
    (single : ∀ hit ∈ hits, hit.policy = policy) (answered : Answered (answers kept hits))
    (here : AnsweredAt hits (answers kept hits) place first decision)
    (there : AnsweredAt hits (answers kept hits) later next outcome)
    (rejected : decision.allowed = false) (behind : place < later)
    (between : RejectedBetween (answers kept hits) place later) :
    outcome.allowed = true ↔ decision.resetAt.instant < next.now.instant := by
  obtain ⟨before, after, orderlyBefore, slid, orderlyAfter, answeredAfter, equality⟩ :=
    orderly.at_place ordered single answered here
  have onward := drop_answeredAt there behind
  rw [Nat.succ_eq_add_one, equality] at onward
  obtain ⟨oldest, others, rfl, full, _, _, reset⟩ :=
    orderlyBefore.full_of_rejected limit slid rejected
  rw [reset]
  refine allowed_after_rejections orderlyAfter full (ordered.sublist (List.drop_sublist _ _))
    (fun hit found => single hit (List.mem_of_mem_drop found)) answeredAfter onward.hit
    onward.decision ?_
  intro earlier decision inside found
  rw [← equality, List.getElem?_drop] at found
  exact between (place + 1 + earlier) decision (by omega) (by omega) found

end Announcements

/-- The announcements of decisions come true. -/
theorem Orderly.foretells (orderly : Orderly policy.limit kept hits) (limit : 1 ≤ policy.limit)
    (span : 0 ≤ policy.windowSeconds.span) (ordered : Hit.InOrder hits)
    (single : ∀ hit ∈ hits, hit.policy = policy) (answered : Answered (answers kept hits)) :
    Foretells policy hits (answers kept hits) := by
  have room {place later : Nat} {first next : Hit} {decision outcome : Decision}
      (here : AnsweredAt hits (answers kept hits) place first decision)
      (there : AnsweredAt hits (answers kept hits) later next outcome) :=
    orderly.allowed_iff_resetAt limit ordered single answered here there
  refine ⟨?_, ?_, fun here there => room here there, ?_, ?_⟩
  · intro place later first next decision outcome here there allowed behind same
    rcases Nat.lt_or_eq_of_le behind with behind | rfl
    · exact orderly.allowed_iff_remaining span ordered single answered here there allowed behind
        same
    · obtain rfl : decision = outcome := by simpa [here.decision] using there.decision
      obtain ⟨before, after, _, slid, _⟩ := orderly.at_place ordered single answered here
      have remaining := (slide_eq_ok slid).1.remaining
      rw [allowed, if_pos rfl] at remaining
      simp only [allowed, true_iff]
      omega
  · intro place first decision here rejected
    obtain ⟨before, after, orderlyBefore, slid, _⟩ :=
      orderly.at_place ordered single answered here
    obtain ⟨oldest, others, _, _, early, late, reset⟩ :=
      orderlyBefore.full_of_rejected limit slid rejected
    omega
  · intro place first decision reading here behind near
    obtain ⟨before, after, orderlyBefore, slid, _⟩ :=
      orderly.at_place ordered single answered here
    refine Decision.retryAfter_eq_ok_wait ?_ near
    apply Moment.alike_trans (Moment.alike_symm behind.alike)
    apply alike_resetAt (slide_eq_ok slid).1
    intro old found
    exact (orderlyBefore.behind old (List.mem_filter.mp found).1 first List.mem_cons_self).alike
  · intro place later first next decision outcome reading here there rejected behind between
    obtain ⟨early, late⟩ := decision.wait_bounds reading
    have admits := room here there rejected behind between
    constructor
    · intro exact inTime
      have := early inTime
      rw [← Bool.not_eq_true, admits]
      omega
    · intro second
      rw [admits]
      omega

end Window

/-! ## Runs -/

/-- A time of the last day of the range of years, in microseconds. -/
def Moment.onLastDay (time : Nat) : Moment where
  wall := (CalendarDate.daysBeforeYear 10000 - 1) * microsPerDay + time % microsPerDay
  offset := some .universal
  wall_lt := by
    have inside : time % microsPerDay < microsPerDay := Nat.mod_lt _ (by decide)
    have years : CalendarDate.daysBeforeYear 10000 = 3652059 := by decide
    rw [years]
    omega

namespace MemoryWindows

private theorem known_of_hit {store after : MemoryWindows} {client : String} {policy : Policy}
    {now : Moment} {decision : Decision}
    (answer : store.hit client policy now = (.ok decision, after)) :
    ∃ span, policy.windowSeconds.micros microsPerSecond = .ok span := by
  obtain ⟨swept, window, _, slid, _⟩ := windows_hit_same answer
  obtain ⟨cutoff, moved⟩ := cutoff_of_hitWindow slid
  cases known : policy.windowSeconds.micros microsPerSecond with
  | ok span => exact ⟨span, rfl⟩
  | error failure => simp [Moment.subtractSeconds, known, bind, Except.bind] at moved

private theorem known_of_answered {store : MemoryWindows} {client : String} {hits : List Hit}
    (answered : Answered (store.answers client hits)) :
    ∀ hit ∈ Hit.own client hits,
      ∃ span, hit.policy.windowSeconds.micros microsPerSecond = .ok span := by
  induction hits generalizing store with
  | nil => simp [Hit.own]
  | cons hit hits induction =>
      by_cases same : hit.client = client
      · rw [answers_own same] at answered
        obtain ⟨⟨decision, answer⟩, answeredLater⟩ := List.forall_mem_cons.mp answered
        rw [Hit.own_cons_same same]
        exact List.forall_mem_cons.mpr
          ⟨known_of_hit (Prod.ext answer rfl), induction answeredLater⟩
      · rw [answers_other same] at answered
        rw [Hit.own_cons_other same]
        exact induction answered

private theorem length_answers (store : MemoryWindows) (client : String) (hits : List Hit) :
    (store.answers client hits).length = (Hit.own client hits).length := by
  induction hits generalizing store with
  | nil => rfl
  | cons hit hits induction =>
      by_cases same : hit.client = client
      · rw [answers_own same, Hit.own_cons_same same, List.length_cons, List.length_cons, induction]
      · rw [answers_other same, Hit.own_cons_other same, induction]

/-- In a run in which no hit of a client fails, and all of them ask for one policy, the client is
told the truth about its later hits.  A hit fails only if a time that it calculates is out of
range. -/
theorem announcements_hold {sweepMicros : Int} {client : String} {policy : Policy}
    {hits : List Hit} (limit : 1 ≤ policy.limit) (span : 0 ≤ policy.windowSeconds.span)
    (ordered : Hit.InOrder hits) (single : ∀ hit ∈ Hit.own client hits, hit.policy = policy) :
    (Answered (({ sweepMicros } : MemoryWindows).answers client hits) →
      (∀ place hit, (Hit.own client hits)[place]? = some hit → ∃ decision,
        AnsweredAt (Hit.own client hits) (({ sweepMicros } : MemoryWindows).answers client hits)
          place hit decision) ∧
      Foretells policy (Hit.own client hits)
        (({ sweepMicros } : MemoryWindows).answers client hits)) ∧
    ((∀ hit ∈ Hit.own client hits, Fits sweepMicros policy hit.now) →
      Answered (({ sweepMicros } : MemoryWindows).answers client hits)) := by
  have narrowing : Hit.Narrowing (Hit.own client hits) := by
    apply List.pairwise_iff_forall_sublist.mpr
    intro earlier later pair outreaches
    have longer := outreaches.2
    rw [single earlier (pair.subset (by simp)), single later (pair.subset (by simp))] at longer
    exact Int.lt_irrefl _ longer
  constructor
  · intro answered
    constructor
    · intro place hit found
      obtain ⟨inside, _⟩ := List.getElem?_eq_some_iff.mp found
      rw [← length_answers { sweepMicros } client hits] at inside
      obtain ⟨decision, answer⟩ := answered _ (List.getElem_mem inside)
      exact ⟨decision, found, by rw [List.getElem?_eq_getElem inside, answer]⟩
    · have unswept := (answers_eq_of_tells _ [] ordered narrowing (known_of_answered answered)
        (.inr answered) (fun hit _ => alikeTo_start sweepMicros hit.now) (tells_empty _)).1
      rw [unswept] at answered ⊢
      exact (Window.orderly_nil (by omega) _).foretells limit span (ordered.filter _) single
        answered
  · intro fits
    apply (answers_eq_unswept ordered ⟨?_, narrowing⟩).2
    intro hit found
    rw [single hit found]
    exact fits hit found

/-- Two hits a minute, with a hit of another client in between: the third hit is too early, so is
the retry after the 29 seconds that it is told, and the retry after 30 seconds is admitted. -/
theorem announcements_hold_of_minute :
    ∃ hits : List Hit, Hit.InOrder hits ∧
      (∀ hit ∈ Hit.own "ann" hits, hit.policy = ⟨2, .whole 60⟩) ∧
      (({ sweepMicros := 60 * microsPerSecond } : MemoryWindows).answers "ann" hits).map
          Except.toOption =
        [some ⟨true, 2, 1, .middle 60000000⟩, some ⟨true, 2, 0, .middle 60000000⟩,
          some ⟨false, 2, 0, .middle 60000000⟩, some ⟨false, 2, 0, .middle 60000000⟩,
          some ⟨true, 2, 0, .middle 80000000⟩] ∧
      Foretells ⟨2, .whole 60⟩ (Hit.own "ann" hits)
        (({ sweepMicros := 60 * microsPerSecond } : MemoryWindows).answers "ann" hits) := by
  let policy : Policy := ⟨2, .whole 60⟩
  let hits : List Hit := [⟨"ann", policy, .middle 0⟩, ⟨"bob", ⟨1, .whole 5⟩, .middle 10000000⟩,
    ⟨"ann", policy, .middle 20000000⟩, ⟨"ann", policy, .middle 30500000⟩,
    ⟨"ann", policy, .middle 59500000⟩, ⟨"ann", policy, .middle 60500000⟩]
  have ordered : Hit.InOrder hits := by
    unfold Hit.InOrder
    decide
  have single : ∀ hit ∈ Hit.own "ann" hits, hit.policy = policy := by decide
  have hold := @announcements_hold (60 * microsPerSecond) "ann" policy hits (by decide) (by decide)
    ordered single
  have fits : ∀ hit ∈ Hit.own "ann" hits, Fits (60 * microsPerSecond) policy hit.now := by
    have ordinary : policy.Ordinary := Policy.ordinary_of_whole (by decide)
    have own : Hit.own "ann" hits = [⟨"ann", policy, .middle 0⟩, ⟨"ann", policy, .middle 20000000⟩,
      ⟨"ann", policy, .middle 30500000⟩, ⟨"ann", policy, .middle 59500000⟩,
      ⟨"ann", policy, .middle 60500000⟩] := rfl
    intro hit found
    simp only [own, List.mem_cons, List.not_mem_nil, or_false] at found
    rcases found with rfl | rfl | rfl | rfl | rfl <;>
      exact fits_middle ordinary (by decide) (by decide)
  exact ⟨hits, ordered, single, by decide +kernel, (hold.1 (hold.2 fits)).2⟩

/-- In the last minute of all years the next sweep cannot be planned any more, so a hit fails although
its window has room again. -/
theorem retry_fails_in_last_minute :
    (({ sweepMicros := 60 * microsPerSecond } : MemoryWindows).answers "ann"
        [⟨"ann", ⟨1, .whole 10⟩, .onLastDay 86310000000⟩,
          ⟨"ann", ⟨1, .whole 10⟩, .onLastDay 86315000000⟩,
          ⟨"ann", ⟨1, .whole 10⟩, .onLastDay 86380000000⟩]).map Except.toOption =
      [some ⟨true, 1, 0, .onLastDay 86320000000⟩, some ⟨false, 1, 0, .onLastDay 86320000000⟩,
        none] ∧
    (Moment.onLastDay 86320000000).instant < (Moment.onLastDay 86380000000).instant := by
  decide +kernel

end MemoryWindows

end AccessGate
