import AccessGate.Proofs.RateLimit.Isolation

/-!
# Interference of clients

Where a policy looks further back than another one, clients interfere.  A client hits under the
shorter policy, and under the longer one as soon as the window of the first hit has passed.  Whether
the first hit still counts is then up to the sweep, and other clients can have the sweep done or put
off.
-/

namespace AccessGate.MemoryWindows

/-! ## Sweeps that are due and sweeps that are not -/

section Sweeps

variable {store : MemoryWindows} {client : String} {policy : Policy} {now : Moment}

theorem sweep_of_early {planned : Moment} (next : store.nextSweep = some planned)
    (alike : store.AlikeTo now) (early : now.instant < planned.instant) :
    store.sweep now = (.ok (), store) := by
  have compared := Moment.isBefore_of_alike (alike.nextSweep planned next)
  have idle : store.isSweepDue now = .ok false := by
    simp only [isSweepDue, next, compared, Except.map, decide_eq_true early, Bool.not_true]
  simp only [sweep, idle]

/-- A sweep that is due drops the windows that have lapsed, and settles when it is due again. -/
theorem sweep_of_due (alike : store.AlikeTo now)
    (due : ∀ planned, store.nextSweep = some planned → planned.instant ≤ now.instant)
    {later : Moment} (moved : now.addMicros store.sweepMicros = .ok later) :
    ∃ swept, store.sweep now = (.ok (), swept) ∧ swept.nextSweep = some later ∧
      ∀ client, (store.windowOf client).Lapsed now → swept.windowOf client = {} := by
  have told : store.isSweepDue now = .ok true := by
    cases next : store.nextSweep with
    | none => simp only [isSweepDue, next]
    | some planned =>
        have compared := Moment.isBefore_of_alike (alike.nextSweep planned next)
        have late := due planned next
        simp only [isSweepDue, next, compared, Except.map,
          decide_eq_false (Int.not_lt.mpr late), Bool.not_false]
  obtain ⟨swept, passed⟩ := sweep_succeeds alike moved
  have shape := passed
  simp only [sweep, told, moved] at shape
  cases evicted : evict now store.windows store.windows.entries with
  | mk outcome left =>
      rw [evicted] at shape
      simp only [Prod.mk.injEq] at shape
      obtain ⟨rfl, rfl⟩ := shape
      refine ⟨_, passed, rfl, ?_⟩
      intro client lapsed
      cases found : store.windows.get? client with
      | none =>
          obtain ⟨expiresAt, settled, _⟩ := lapsed
          rw [windowOf, found] at settled
          cases settled
      | some window =>
          rw [windowOf, found] at lapsed
          have listed := (store.windows.get?_eq_some_iff client window).mp found
          rw [windowOf, evict_lapsed evicted listed lapsed, Option.getD_none]

theorem hit_of_sweep {swept : MemoryWindows} (passed : store.sweep now = (.ok (), swept))
    {outcome : Except TimeError Decision} {window : ClientWindow}
    (answer : hitWindow (swept.windowOf client) policy now = (outcome, window)) :
    store.hit client policy now =
      (outcome, { swept with windows := swept.windows.put client window }) := by
  rw [windowOf] at answer
  simp only [hit, passed, answer]

end Sweeps

/-! ## One hit that is stored -/

/-- A store keeps one hit of a client, admitted under a policy, and the instant of the next
sweep. -/
structure Primed (sweepMicros : Int) (store : MemoryWindows) (client : String) (policy : Policy)
    (first : Moment) (next : Int) : Prop where
  interval : store.sweepMicros = sweepMicros
  hits : (store.windowOf client).hits = [first]
  expiresAt : ∃ expiresAt, (store.windowOf client).expiresAt = some expiresAt ∧
    expiresAt.instant = first.instant + policy.windowSeconds.span
  nextSweep : ∃ planned, store.nextSweep = some planned ∧ planned.instant = next
  alike : store.AlikeTo first

section Primed

variable {store swept : MemoryWindows} {client other : String} {policy earlier : Policy}
  {now first : Moment} {sweepMicros next : Int}

theorem Primed.due (primed : Primed sweepMicros store client earlier first next)
    (late : next ≤ now.instant) :
    ∀ planned, store.nextSweep = some planned → planned.instant ≤ now.instant := by
  intro planned known
  obtain ⟨found, same, instant⟩ := primed.nextSweep
  obtain rfl := Option.some.inj (same.symm.trans known)
  omega

theorem primed_of_hit (alike : store.AlikeTo now) (passed : store.sweep now = (.ok (), swept))
    (fresh : swept.windowOf client = {})
    (planned : ∃ planned, swept.nextSweep = some planned ∧ planned.instant = next)
    (interval : store.sweepMicros = sweepMicros) (fits : Fits sweepMicros policy now)
    (limit : 1 ≤ policy.limit) :
    ∃ decision after, store.hit client policy now = (.ok decision, after) ∧
      Primed sweepMicros after client policy now next := by
  obtain ⟨decision, window, answer⟩ := hitWindow_succeeds (alikeTo_empty now) fits (by simp)
  obtain ⟨follows, stored, expiresAt, settled, calculated⟩ := hitWindow_eq_ok answer
  have allowed : decision.allowed = true := by
    rw [follows.allowed, List.filter_nil, List.length_nil]
    omega
  rw [if_pos allowed] at stored
  obtain ⟨reached, moved, _, _, known | rfl⟩ := expiry_eq_ok calculated
  · cases known
  · rw [stored, List.filter_nil, List.nil_append, List.getLast?_singleton,
      Option.getD_some] at moved
    rw [← fresh] at answer
    have result := hit_of_sweep passed answer
    refine ⟨decision, _, result, (sweepMicros_hit result).trans interval, ?_, ⟨reached, ?_, ?_⟩,
      planned, alike.hit result⟩
    · rw [windowOf_put, if_pos rfl]
      exact stored
    · rw [windowOf_put, if_pos rfl]
      exact settled
    · exact (Moment.addSeconds_eq_ok moved).1

/-- A hit of another client puts the next sweep off, when one is due and the stored hit has not
expired yet. -/
theorem Primed.hit_other (primed : Primed sweepMicros store client earlier first next)
    (different : other ≠ client) (comparable : first.alike now = true)
    (due : next ≤ now.instant)
    (live : now.instant ≤ first.instant + earlier.windowSeconds.span)
    (fits : Fits sweepMicros policy now) :
    Primed sweepMicros (store.hit other policy now).2 client earlier first
      (now.instant + sweepMicros) := by
  obtain ⟨later, moved⟩ := fits.nextSweep
  have alike : store.AlikeTo now := primed.alike.later comparable
  obtain ⟨swept, passed, planned, _⟩ :=
    sweep_of_due alike (primed.due due) (primed.interval ▸ moved)
  have kept : swept.windowOf client = store.windowOf client := by
    obtain ⟨expiresAt, settled, expiry⟩ := primed.expiresAt
    rcases windowOf_sweep passed client with same | ⟨_, lapsed⟩
    · exact same
    · exact absurd lapsed (not_lapsed settled (expiry ▸ live))
  have alikeAfter : (store.hit other policy now).2.AlikeTo first :=
    (alike.hit_total other policy).later (Moment.alike_symm comparable)
  have interval : (store.hit other policy now).2.sweepMicros = sweepMicros :=
    (sweepMicros_hit_total alike other policy).trans primed.interval
  cases answer : hitWindow (swept.windowOf other) policy now with
  | mk outcome window =>
      rw [hit_of_sweep passed answer] at alikeAfter interval ⊢
      have untouched : ({ swept with windows := swept.windows.put other window } :
          MemoryWindows).windowOf client = store.windowOf client := by
        rw [windowOf_put, if_neg different, kept]
      exact ⟨interval, untouched ▸ primed.hits, untouched ▸ primed.expiresAt,
        ⟨later, planned, (Moment.addMicros_eq_ok moved).1⟩, alikeAfter⟩

/-- If no sweep is due, the stored hit counts at a hit that looks back far enough. -/
theorem Primed.reset_of_early (primed : Primed sweepMicros store client earlier first next)
    (comparable : first.alike now = true) (early : now.instant < next)
    (fits : Fits sweepMicros policy now) (counts : policy.counts now first = true)
    (movable : ∃ resetAt, first.addSeconds policy.windowSeconds = .ok resetAt) :
    ∃ decision, (store.hit client policy now).1 = .ok decision ∧
      decision.resetAt.instant = first.instant + policy.windowSeconds.span := by
  obtain ⟨planned, known, instant⟩ := primed.nextSweep
  have alike : store.AlikeTo now := primed.alike.later comparable
  have passed := sweep_of_early known alike (instant ▸ early)
  obtain ⟨decision, window, answer⟩ := hitWindow_succeeds (alike.swept passed client) fits (by
    intro hit member _
    have stored : hit ∈ (store.windowOf client).hits := member
    rw [primed.hits] at stored
    rw [List.mem_singleton.mp stored]
    exact movable)
  have resets := (hitWindow_eq_ok answer).1.resetAt
  have counted : (store.windowOf client).hits.filter (policy.counts now) = [first] := by
    rw [primed.hits, List.filter_cons_of_pos counts, List.filter_nil]
  rw [windowOf] at counted
  rw [counted, List.head?_cons, Option.getD_some] at resets
  rw [hit_of_sweep passed answer]
  exact ⟨decision, rfl, (Moment.addSeconds_eq_ok resets).1⟩

/-- If a sweep is due after the stored hit has expired, no hit counts. -/
theorem Primed.reset_of_due (primed : Primed sweepMicros store client earlier first next)
    (comparable : first.alike now = true) (due : next ≤ now.instant)
    (expired : first.instant + earlier.windowSeconds.span < now.instant)
    (fits : Fits sweepMicros policy now) :
    ∃ decision, (store.hit client policy now).1 = .ok decision ∧
      decision.resetAt.instant = now.instant + policy.windowSeconds.span := by
  obtain ⟨later, moved⟩ := fits.nextSweep
  obtain ⟨swept, passed, _, gone⟩ :=
    sweep_of_due (primed.alike.later comparable) (primed.due due) (primed.interval ▸ moved)
  have fresh : swept.windowOf client = {} := by
    obtain ⟨expiresAt, settled, expiry⟩ := primed.expiresAt
    exact gone client ⟨expiresAt, settled, expiry ▸ expired⟩
  obtain ⟨decision, window, answer⟩ := hitWindow_succeeds (alikeTo_empty now) fits (by simp)
  have resets := (hitWindow_eq_ok answer).1.resetAt
  rw [List.filter_nil, List.head?_nil, Option.getD_none] at resets
  rw [← fresh] at answer
  rw [hit_of_sweep passed answer]
  exact ⟨decision, rfl, (Moment.addSeconds_eq_ok resets).1⟩

end Primed

/-! ## Runs that differ -/

section Runs

variable {sweepMicros : Int} {short long policy : Policy} {client other : String}

theorem fits_near_middle (ordinary : policy.Ordinary)
    (sweep : sweepMicros.natAbs ≤ longestSpan) {wait : Nat}
    (near : (wait : Int) ≤ 2 * longestSpan) : Fits sweepMicros policy (.middle wait) := by
  have range : CalendarDate.daysBeforeYear 10000 * microsPerDay = 315537897600000000 := by decide
  have span : longestSpan = 31622400000000000 := by decide
  apply fits_of_ordinary ordinary sweep
  · rw [Moment.wall_middle_of_le_double near]
    omega
  · rw [Moment.wall_middle_of_le_double near]
    omega

/-- The first hit of all settles that the next sweep is one interval later. -/
theorem primed_alone (client : String) {now : Moment} (fits : Fits sweepMicros policy now)
    (limit : 1 ≤ policy.limit) :
    ∃ decision store,
      ({ sweepMicros } : MemoryWindows).hit client policy now = (.ok decision, store) ∧
      Primed sweepMicros store client policy now (now.instant + sweepMicros) := by
  obtain ⟨planned, moved⟩ := fits.nextSweep
  have alike := alikeTo_start sweepMicros now
  obtain ⟨swept, passed, known, _⟩ := sweep_of_due alike (fun _ known => by cases known) moved
  have fresh : swept.windowOf client = {} := by
    rcases windowOf_sweep passed client with same | ⟨gone, _⟩
    · exact same
    · exact gone
  exact primed_of_hit alike passed fresh ⟨planned, known, (Moment.addMicros_eq_ok moved).1⟩ rfl
    fits limit

/-- A hit of another client settles the next sweep for the hits that follow within one interval. -/
theorem primed_behind (different : other ≠ client) {start now : Moment}
    (comparable : start.alike now = true) (startFits : Fits sweepMicros policy start)
    (fits : Fits sweepMicros policy now) (limit : 1 ≤ policy.limit)
    (within : now.instant < start.instant + sweepMicros) :
    ∃ decision store,
      (({ sweepMicros } : MemoryWindows).hit other policy start).2.hit client policy now =
        (.ok decision, store) ∧
      Primed sweepMicros store client policy now (start.instant + sweepMicros) := by
  obtain ⟨_, opened, opening, primed⟩ := primed_alone other startFits limit
  have untouched := windowOf_hit_other (alikeTo_start sweepMicros start) policy different
  rw [opening] at untouched ⊢
  have fresh : opened.windowOf client = {} := by
    rcases untouched with same | ⟨gone, _⟩
    · exact same
    · exact gone
  obtain ⟨planned, known, instant⟩ := primed.nextSweep
  have alike : opened.AlikeTo now := primed.alike.later comparable
  have passed := sweep_of_early known alike (instant ▸ within)
  exact primed_of_hit alike passed fresh ⟨planned, known, instant⟩ primed.interval fits limit

theorem answers_of_hit {store after : MemoryWindows} {now : Moment}
    {answer : Except TimeError Decision} {hits : List Hit}
    (answered : store.hit client policy now = (answer, after)) :
    store.answers client (⟨client, policy, now⟩ :: hits) = answer :: after.answers client hits := by
  simp only [answers, answered, if_true]

theorem answers_last {store : MemoryWindows} {now : Moment} {answer : Except TimeError Decision}
    (answered : (store.hit client policy now).1 = answer) :
    store.answers client [⟨client, policy, now⟩] = [answer] := by
  simp only [answers, answered, if_true]

/-- A client hits under a short policy, not long after another client, and comes back under a long
policy when the window of its first hit has passed. -/
structure Comeback (sweepMicros : Int) (short long : Policy) (start first last : Moment) :
    Prop where
  limit : 1 ≤ short.limit
  startFirst : start.NotAfter first
  firstLast : first.NotAfter last
  startFits : Fits sweepMicros short start
  firstFits : Fits sweepMicros short first
  firstMoves : Fits sweepMicros long first
  lastFits : Fits sweepMicros long last
  within : first.instant < start.instant + sweepMicros
  expired : first.instant + short.windowSeconds.span < last.instant
  counts : long.counts last first = true

namespace Comeback

variable {start first last : Moment} {policies : Policy → Prop}

theorem alone (comeback : Comeback sweepMicros short long start first last) :
    ∃ decision store,
      Primed sweepMicros store "client" short first (first.instant + sweepMicros) ∧
      ∀ hits, ({ sweepMicros } : MemoryWindows).answers "client"
        (⟨"client", short, first⟩ :: hits) = .ok decision :: store.answers "client" hits := by
  obtain ⟨decision, store, answered, primed⟩ :=
    primed_alone "client" comeback.firstFits comeback.limit
  exact ⟨decision, store, primed, fun _ => answers_of_hit answered⟩

theorem behind (comeback : Comeback sweepMicros short long start first last) :
    ∃ decision store,
      Primed sweepMicros store "client" short first (start.instant + sweepMicros) ∧
      ∀ hits, ({ sweepMicros } : MemoryWindows).answers "client"
        (⟨"other", short, start⟩ :: ⟨"client", short, first⟩ :: hits) =
          .ok decision :: store.answers "client" hits := by
  have apart : "other" ≠ "client" := by decide
  obtain ⟨decision, store, answered, primed⟩ := primed_behind apart comeback.startFirst.alike
    comeback.startFits comeback.firstFits comeback.limit comeback.within
  refine ⟨decision, store, primed, ?_⟩
  intro hits
  exact (answers_other apart).trans (answers_of_hit answered)

/-- Without a sweep the first hit still counts when the client comes back. -/
theorem counted (comeback : Comeback sweepMicros short long start first last)
    {store : MemoryWindows} {next : Int}
    (primed : Primed sweepMicros store "client" short first next)
    (early : last.instant < next) :
    ∃ decision, store.answers "client" [⟨"client", long, last⟩] = [.ok decision] ∧
      decision.resetAt.instant = first.instant + long.windowSeconds.span := by
  obtain ⟨decision, answered, reset⟩ := primed.reset_of_early comeback.firstLast.alike early
    comeback.lastFits comeback.counts comeback.firstMoves.resetAt
  exact ⟨decision, answers_last answered, reset⟩

/-- With a sweep the first hit is forgotten when the client comes back. -/
theorem forgotten (comeback : Comeback sweepMicros short long start first last)
    {store : MemoryWindows} {next : Int}
    (primed : Primed sweepMicros store "client" short first next)
    (due : next ≤ last.instant) :
    ∃ decision, store.answers "client" [⟨"client", long, last⟩] = [.ok decision] ∧
      decision.resetAt.instant = last.instant + long.windowSeconds.span := by
  obtain ⟨decision, answered, reset⟩ := primed.reset_of_due comeback.firstLast.alike due
    comeback.expired comeback.lastFits
  exact ⟨decision, answers_last answered, reset⟩

/-- Clients are not isolated if the client that comes back is told different times with and without
hits of others. -/
theorem not_isolatesClients (comeback : Comeback sweepMicros short long start first last)
    (asksShort : policies short) (asksLong : policies long) {hits : List Hit}
    (ordered : Hit.InOrder hits)
    (sublist : [⟨"client", short, first⟩, ⟨"client", long, last⟩].Sublist hits)
    (own : Hit.own "client" hits = [⟨"client", short, first⟩, ⟨"client", long, last⟩])
    {before after : Except TimeError Decision} {decision other : Decision}
    (answered : ({ sweepMicros } : MemoryWindows).answers "client" hits = [before, .ok decision])
    (answeredAlone : ({ sweepMicros } : MemoryWindows).answers "client"
      [⟨"client", short, first⟩, ⟨"client", long, last⟩] = [after, .ok other])
    (differ : decision.resetAt.instant ≠ other.resetAt.instant) :
    ¬ IsolatesClients sweepMicros policies := by
  intro isolates
  have asked : ∀ hit ∈ Hit.own "client" hits,
      policies hit.policy ∧ Fits sweepMicros hit.policy hit.now := by
    rw [own]
    simp [asksShort, asksLong, comeback.firstFits, comeback.lastFits]
  have same := isolates "client" hits _ ordered sublist own.symm asked
  rw [answered, answeredAlone] at same
  obtain ⟨_, same⟩ := List.cons.inj same
  obtain rfl := Except.ok.inj (List.cons.inj same).1
  exact differ rfl

/-- The other client has a sweep done that would not be due otherwise. -/
theorem not_isolatesClients_of_done (comeback : Comeback sweepMicros short long start first last)
    (asksShort : policies short) (asksLong : policies long)
    (idle : last.instant < first.instant + sweepMicros)
    (due : start.instant + sweepMicros ≤ last.instant) :
    ¬ IsolatesClients sweepMicros policies := by
  obtain ⟨_, aloneStore, alonePrimed, aloneAnswers⟩ := comeback.alone
  obtain ⟨kept, keptAnswer, keptReset⟩ := comeback.counted alonePrimed idle
  obtain ⟨_, behindStore, behindPrimed, behindAnswers⟩ := comeback.behind
  obtain ⟨swept, sweptAnswer, sweptReset⟩ := comeback.forgotten behindPrimed due
  have ordered : Hit.InOrder
      [⟨"other", short, start⟩, ⟨"client", short, first⟩, ⟨"client", long, last⟩] := by
    have startLast := comeback.startFirst.trans comeback.firstLast
    simp [Hit.InOrder, comeback.startFirst, comeback.firstLast, startLast]
  apply comeback.not_isolatesClients asksShort asksLong ordered (List.sublist_cons_self _ _) rfl
  · exact (behindAnswers _).trans (congrArg _ sweptAnswer)
  · exact (aloneAnswers _).trans (congrArg _ keptAnswer)
  · have later := comeback.within
    omega

/-- The other client puts off a sweep that would be due otherwise, by a second hit as long as the
first hit of the client has not expired. -/
theorem not_isolatesClients_of_put_off
    (comeback : Comeback sweepMicros short long start first last) (asksShort : policies short)
    (asksLong : policies long) {between : Moment} (firstBetween : first.NotAfter between)
    (betweenLast : between.NotAfter last) (betweenFits : Fits sweepMicros short between)
    (live : between.instant ≤ first.instant + short.windowSeconds.span)
    (due : first.instant + sweepMicros ≤ last.instant)
    (dueBetween : start.instant + sweepMicros ≤ between.instant)
    (idle : last.instant < between.instant + sweepMicros) :
    ¬ IsolatesClients sweepMicros policies := by
  have apart : "other" ≠ "client" := by decide
  obtain ⟨_, aloneStore, alonePrimed, aloneAnswers⟩ := comeback.alone
  obtain ⟨swept, sweptAnswer, sweptReset⟩ := comeback.forgotten alonePrimed due
  obtain ⟨before, behindStore, behindPrimed, behindAnswers⟩ := comeback.behind
  have putOff := behindPrimed.hit_other apart firstBetween.alike dueBetween live betweenFits
  obtain ⟨kept, keptAnswer, keptReset⟩ := comeback.counted putOff idle
  have ordered : Hit.InOrder [⟨"other", short, start⟩, ⟨"client", short, first⟩,
      ⟨"other", short, between⟩, ⟨"client", long, last⟩] := by
    have startBetween := comeback.startFirst.trans firstBetween
    have startLast := comeback.startFirst.trans comeback.firstLast
    simp [Hit.InOrder, comeback.startFirst, comeback.firstLast, startLast, startBetween,
      firstBetween, betweenLast]
  have sublist : [⟨"client", short, first⟩, ⟨"client", long, last⟩].Sublist
      [⟨"other", short, start⟩, ⟨"client", short, first⟩, ⟨"other", short, between⟩,
        (⟨"client", long, last⟩ : Hit)] := .cons _ (.cons_cons _ (.cons _ (.refl _)))
  apply comeback.not_isolatesClients asksShort asksLong ordered sublist rfl
  · calc ({ sweepMicros } : MemoryWindows).answers "client" [⟨"other", short, start⟩,
          ⟨"client", short, first⟩, ⟨"other", short, between⟩, ⟨"client", long, last⟩]
        = .ok before :: behindStore.answers "client"
            [⟨"other", short, between⟩, ⟨"client", long, last⟩] := behindAnswers _
      _ = .ok before :: (behindStore.hit "other" short between).2.answers "client"
            [⟨"client", long, last⟩] := congrArg _ (answers_other apart)
      _ = [.ok before, .ok kept] := congrArg _ keptAnswer
  · exact (aloneAnswers _).trans (congrArg _ sweptAnswer)
  · have later := comeback.within
    have notBefore := betweenLast.instant_le
    omega

end Comeback

theorem comeback_middle (limit : 1 ≤ short.limit) (shortOrdinary : short.Ordinary)
    (longOrdinary : long.Ordinary) (sweep : sweepMicros.natAbs ≤ longestSpan) {first last : Nat}
    (within : (first : Int) < sweepMicros) (near : (last : Int) ≤ 2 * longestSpan)
    (order : first ≤ last) (expired : (first : Int) + short.windowSeconds.span < last)
    (reached : (last : Int) ≤ first + long.windowSeconds.span) :
    Comeback sweepMicros short long (.middle 0) (.middle first) (.middle last) := by
  have nearStart : ((0 : Nat) : Int) ≤ 2 * longestSpan := by decide
  have nearFirst : (first : Int) ≤ 2 * longestSpan := by omega
  have startInstant := Moment.instant_middle_of_le_double nearStart
  have firstInstant := Moment.instant_middle_of_le_double nearFirst
  have lastInstant := Moment.instant_middle_of_le_double near
  exact {
    limit
    startFirst := Moment.notAfter_middle nearFirst (Nat.zero_le first)
    firstLast := Moment.notAfter_middle near order
    startFits := fits_near_middle shortOrdinary sweep nearStart
    firstFits := fits_near_middle shortOrdinary sweep nearFirst
    firstMoves := fits_near_middle longOrdinary sweep nearFirst
    lastFits := fits_near_middle longOrdinary sweep near
    within := by omega
    expired := by omega
    counts := decide_eq_true (by omega) }

/-- Clients interfere as soon as one of the policies looks further back than another one: the client
comes back just after the window of its first hit has passed. -/
theorem not_isolatesClients_of_outreaches {policies : Policy → Prop} (asksShort : policies short)
    (asksLong : policies long) (outreaches : long.Outreaches short)
    (nonneg : 0 ≤ short.windowSeconds.span) (shortOrdinary : short.Ordinary)
    (longOrdinary : long.Ordinary) (least : 2 ≤ sweepMicros) (most : sweepMicros ≤ longestSpan) :
    ¬ IsolatesClients sweepMicros policies := by
  obtain ⟨limit, longer⟩ := outreaches
  obtain ⟨width, widthEquality⟩ := Int.eq_ofNat_of_zero_le nonneg
  have bounded := longOrdinary.bounded
  have startInstant : (Moment.middle 0).instant = 150000000000000000 :=
    Moment.instant_middle (by decide)
  rcases Int.lt_or_le (short.windowSeconds.span + 1) sweepMicros with rare | frequent
  · -- The sweep of the other client is due again exactly when the client comes back.
    obtain ⟨wait, waited⟩ : ∃ wait : Nat, (wait : Int) + (width + 1) = sweepMicros :=
      ⟨(sweepMicros - (width + 1)).toNat, by omega⟩
    have nearLast : ((wait + (width + 1) : Nat) : Int) ≤ 2 * longestSpan := by omega
    have firstInstant : (Moment.middle wait).instant = 150000000000000000 + wait :=
      Moment.instant_middle_of_le_double (by omega)
    have lastInstant := Moment.instant_middle_of_le_double nearLast
    have comeback : Comeback sweepMicros short long (.middle 0) (.middle wait)
        (.middle (wait + (width + 1))) :=
      comeback_middle limit shortOrdinary longOrdinary (by omega) (by omega) nearLast (by omega)
        (by omega) (by omega)
    apply comeback.not_isolatesClients_of_done asksShort asksLong
    · omega
    · omega
  · -- The other client hits one microsecond before and one window after the first hit.
    have nearBetween : ((width + 1 : Nat) : Int) ≤ 2 * longestSpan := by omega
    have nearLast : ((width + 2 : Nat) : Int) ≤ 2 * longestSpan := by omega
    have firstInstant : (Moment.middle 1).instant = 150000000000000000 + (1 : Nat) :=
      Moment.instant_middle_of_le_double (by decide)
    have betweenInstant := Moment.instant_middle_of_le_double nearBetween
    have lastInstant := Moment.instant_middle_of_le_double nearLast
    have comeback : Comeback sweepMicros short long (.middle 0) (.middle 1)
        (.middle (width + 2)) :=
      comeback_middle limit shortOrdinary longOrdinary (by omega) (by omega) nearLast (by omega)
        (by omega) (by omega)
    apply comeback.not_isolatesClients_of_put_off asksShort asksLong
      (Moment.notAfter_middle nearBetween (Nat.le_add_left 1 width))
      (Moment.notAfter_middle nearLast (Nat.le_succ (width + 1)))
      (fits_near_middle shortOrdinary (by omega) nearBetween)
    · omega
    · omega
    · omega
    · omega

end Runs

/-! ## Isolation and interference -/

/-- Where no policy looks further back than another one, sweeps do not show and clients are
isolated.  For ordinary policies and sweeps that are at least two microseconds apart, clients are
not isolated otherwise. -/
theorem isolatesClients_iff (sweepMicros : Int) (policies : Policy → Prop) :
    (Policy.NoneOutreaches policies →
      HidesSweeps sweepMicros policies ∧ IsolatesClients sweepMicros policies) ∧
    ((∀ policy, policies policy → policy.Ordinary ∧ 0 ≤ policy.windowSeconds.span) →
      2 ≤ sweepMicros → sweepMicros ≤ longestSpan →
      (IsolatesClients sweepMicros policies ↔ Policy.NoneOutreaches policies)) := by
  have hides : Policy.NoneOutreaches policies → HidesSweeps sweepMicros policies :=
    hidesSweeps_of_noneOutreaches sweepMicros
  refine ⟨fun none => ⟨hides none, (hides none).isolatesClients⟩, ?_⟩
  intro ordinary least most
  constructor
  · intro isolates policy earlier asked askedEarlier outreaches
    obtain ⟨policyOrdinary, _⟩ := ordinary policy asked
    obtain ⟨earlierOrdinary, nonneg⟩ := ordinary earlier askedEarlier
    exact not_isolatesClients_of_outreaches askedEarlier asked outreaches nonneg earlierOrdinary
      policyOrdinary least most isolates
  · intro none
    exact (hides none).isolatesClients

/-- Windows of one minute, whatever their limits, isolate clients.  A window of ten seconds next to
one of an hour does not. -/
theorem isolatesClients_of_minutes :
    (HidesSweeps (60 * microsPerSecond) (fun policy => policy.windowSeconds = .whole 60) ∧
      IsolatesClients (60 * microsPerSecond) fun policy => policy.windowSeconds = .whole 60) ∧
    ¬ IsolatesClients (60 * microsPerSecond)
      fun policy => policy = ⟨1, .whole 10⟩ ∨ policy = ⟨1, .whole 3600⟩ := by
  constructor
  · apply (isolatesClients_iff _ _).1
    intro policy earlier asked askedEarlier outreaches
    have longer := outreaches.2
    rw [asked, askedEarlier] at longer
    exact Int.lt_irrefl _ longer
  · have ordinary : ∀ policy : Policy, policy = ⟨1, .whole 10⟩ ∨ policy = ⟨1, .whole 3600⟩ →
        policy.Ordinary ∧ 0 ≤ policy.windowSeconds.span := by
      intro policy asked
      rcases asked with rfl | rfl
      · exact ⟨Policy.ordinary_of_whole (by decide), by decide⟩
      · exact ⟨Policy.ordinary_of_whole (by decide), by decide⟩
    intro isolates
    have none := ((isolatesClients_iff _ _).2 ordinary (by decide) (by decide)).mp isolates
    exact none ⟨1, .whole 3600⟩ ⟨1, .whole 10⟩ (.inr rfl) (.inl rfl) ⟨by decide, by decide⟩

/-- A client is turned away under a window of an hour, fifty seconds after it was admitted under one
of ten seconds.  With a hit of another client twenty seconds before both, it is admitted. -/
theorem admitted_after_hit_of_other :
    (({ sweepMicros := 60 * microsPerSecond } : MemoryWindows).answers "ann"
        [⟨"ann", ⟨1, .whole 10⟩, .middle 20000000⟩,
          ⟨"ann", ⟨1, .whole 3600⟩, .middle 70000000⟩]).map Except.toOption =
      [some ⟨true, 1, 0, .middle 30000000⟩, some ⟨false, 1, 0, .middle 3620000000⟩] ∧
    (({ sweepMicros := 60 * microsPerSecond } : MemoryWindows).answers "ann"
        [⟨"bob", ⟨1, .whole 10⟩, .middle 0⟩, ⟨"ann", ⟨1, .whole 10⟩, .middle 20000000⟩,
          ⟨"ann", ⟨1, .whole 3600⟩, .middle 70000000⟩]).map Except.toOption =
      [some ⟨true, 1, 0, .middle 30000000⟩, some ⟨true, 1, 0, .middle 3670000000⟩] := by
  decide +kernel

end AccessGate.MemoryWindows
