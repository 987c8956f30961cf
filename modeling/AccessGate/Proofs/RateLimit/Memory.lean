import AccessGate.Proofs.Outcome
import AccessGate.Proofs.RateLimit.Window
import AccessGate.RateLimit.Memory

/-!
# What a hit does to the windows in memory

A sweep only ever drops windows whose time of expiry has gone by.  A hit of a client slides this
client's window and leaves every other window as the sweep left it.  Conversely, a hit fails only
where the calculation with times leaves the range of years, if all times can be compared.
-/

namespace AccessGate

/-- The time of expiry of a window lies before a moment. -/
def ClientWindow.Lapsed (window : ClientWindow) (now : Moment) : Prop :=
  ∃ expiresAt, window.expiresAt = some expiresAt ∧ expiresAt.instant < now.instant

/-- The times of a window can be compared with a moment. -/
structure ClientWindow.AlikeTo (window : ClientWindow) (now : Moment) : Prop where
  hits : ∀ hit ∈ window.hits, hit.alike now = true
  expiresAt : ∀ expiresAt, window.expiresAt = some expiresAt → expiresAt.alike now = true

namespace MemoryWindows

/-- The times of a store can be compared with a moment. -/
structure AlikeTo (store : MemoryWindows) (now : Moment) : Prop where
  nextSweep : ∀ nextSweep, store.nextSweep = some nextSweep → now.alike nextSweep = true
  windows : ∀ client window, store.windows.get? client = some window → window.AlikeTo now

/-- The times that a hit calculates at a moment lie within the range of years. -/
structure Fits (sweepMicros : Int) (policy : Policy) (now : Moment) : Prop where
  cutoff : ∃ cutoff, now.subtractSeconds policy.windowSeconds = .ok cutoff
  resetAt : ∃ resetAt, now.addSeconds policy.windowSeconds = .ok resetAt
  nextSweep : ∃ nextSweep, now.addMicros sweepMicros = .ok nextSweep

def hitsOf (store : MemoryWindows) (client : String) : List Moment :=
  ((store.windows.get? client).getD {}).hits

theorem not_lapsed {window : ClientWindow} {now expiresAt : Moment}
    (settled : window.expiresAt = some expiresAt) (late : now.instant ≤ expiresAt.instant) :
    ¬ window.Lapsed now := by
  rintro ⟨known, knownSettled, early⟩
  obtain rfl := Option.some.inj (settled.symm.trans knownSettled)
  omega

/-! ## Sweeps -/

private theorem isExpired_eq_ok {window : ClientWindow} {now : Moment}
    (answer : isExpired window now = .ok true) : window.Lapsed now := by
  unfold isExpired at answer
  cases known : window.expiresAt with
  | none => simp [known] at answer
  | some expiresAt =>
      rw [known] at answer
      obtain ⟨_, early⟩ := Moment.isBefore_eq_ok answer
      exact ⟨expiresAt, known, by simpa using early.symm⟩

theorem evict_eq_ok {now : Moment} {windows left : Table String ClientWindow}
    {entries : List (String × ClientWindow)}
    (answer : evict now windows entries = (.ok (), left)) (client : String) :
    left.get? client = windows.get? client ∨
      left.get? client = none ∧ ∃ window, (client, window) ∈ entries ∧ window.Lapsed now := by
  induction entries generalizing windows with
  | nil =>
      cases answer
      exact .inl rfl
  | cons entry entries induction =>
      obtain ⟨other, window⟩ := entry
      cases expiry : isExpired window now with
      | error failure => simp [evict, expiry] at answer
      | ok expired =>
          simp only [evict, expiry] at answer
          rcases induction answer with same | ⟨gone, lapsed, found, early⟩
          · cases expired with
            | false => exact .inl (by simpa using same)
            | true =>
                by_cases hit : other = client
                · subst hit
                  refine .inr ⟨by simpa using same, window, by simp, isExpired_eq_ok expiry⟩
                · exact .inl (by simpa [hit] using same)
          · exact .inr ⟨gone, lapsed, List.mem_cons_of_mem _ found, early⟩

theorem evict_lapsed {now : Moment} {windows left : Table String ClientWindow}
    {entries : List (String × ClientWindow)}
    (answer : evict now windows entries = (.ok (), left)) {client : String} {window : ClientWindow}
    (listed : (client, window) ∈ entries) (lapsed : window.Lapsed now) :
    left.get? client = none := by
  induction entries generalizing windows with
  | nil => cases listed
  | cons entry entries induction =>
      obtain ⟨other, found⟩ := entry
      cases told : isExpired found now with
      | error failure => simp [evict, told] at answer
      | ok expired =>
          simp only [evict, told] at answer
          rcases List.mem_cons.mp listed with here | there
          · cases here
            obtain ⟨expiresAt, settled, early⟩ := lapsed
            simp only [isExpired, settled] at told
            obtain ⟨_, rfl⟩ := Moment.isBefore_eq_ok told
            rw [if_pos (decide_eq_true early)] at answer
            rcases evict_eq_ok answer client with same | ⟨gone, _⟩
            · rw [same, Table.get?_erase, if_pos rfl]
            · exact gone
          · exact induction answer there

private theorem evict_succeeds {now : Moment} (windows : Table String ClientWindow)
    {entries : List (String × ClientWindow)}
    (alike : ∀ entry ∈ entries, entry.2.AlikeTo now) :
    ∃ left, evict now windows entries = (.ok (), left) := by
  induction entries generalizing windows with
  | nil => exact ⟨windows, rfl⟩
  | cons entry entries induction =>
      obtain ⟨client, window⟩ := entry
      have rest : ∀ other ∈ entries, other.2.AlikeTo now := fun other found =>
        alike other (List.mem_cons_of_mem _ found)
      cases known : window.expiresAt with
      | none =>
          simp only [evict, isExpired, known]
          exact induction _ rest
      | some expiresAt =>
          have compared := Moment.isBefore_of_alike
            ((alike (client, window) (by simp)).expiresAt expiresAt known)
          simp only [evict, isExpired, known, compared]
          exact induction _ rest

/-- A sweep that is not due changes nothing; one that is due evicts windows and settles when the
next sweep is due. -/
theorem sweep_cases {store swept : MemoryWindows} {now : Moment}
    (answer : store.sweep now = (.ok (), swept)) :
    (swept = store ∧
      ∃ planned, store.nextSweep = some planned ∧ now.instant < planned.instant) ∨
      ∃ left nextSweep, now.addMicros store.sweepMicros = .ok nextSweep ∧
        evict now store.windows store.windows.entries = (.ok (), left) ∧
        swept = { store with windows := left, nextSweep := some nextSweep } := by
  unfold sweep at answer
  split at answer
  · cases answer
  · next idle =>
    cases answer
    refine .inl ⟨rfl, ?_⟩
    unfold isSweepDue at idle
    split at idle
    · cases idle
    · next planned known =>
      obtain ⟨early, compared, idle⟩ := map_eq_ok.mp idle
      obtain ⟨_, rfl⟩ := Moment.isBefore_eq_ok compared
      exact ⟨planned, known, by simpa using idle⟩
  · split at answer
    · cases answer
    · next nextSweep moved =>
      cases evicted : evict now store.windows store.windows.entries with
      | mk outcome left =>
          rw [evicted] at answer
          simp only [Prod.mk.injEq] at answer
          obtain ⟨rfl, rfl⟩ := answer
          exact .inr ⟨left, nextSweep, moved, rfl, rfl⟩

theorem sweepMicros_sweep {store swept : MemoryWindows} {now : Moment}
    (answer : store.sweep now = (.ok (), swept)) : swept.sweepMicros = store.sweepMicros := by
  rcases sweep_cases answer with ⟨rfl, _⟩ | ⟨left, nextSweep, _, _, rfl⟩ <;> rfl

/-- A sweep keeps every window or drops it, and it drops only lapsed ones. -/
theorem windows_sweep {store swept : MemoryWindows} {now : Moment}
    (answer : store.sweep now = (.ok (), swept)) (client : String) :
    swept.windows.get? client = store.windows.get? client ∨
      swept.windows.get? client = none ∧
        ∃ window, store.windows.get? client = some window ∧ window.Lapsed now := by
  rcases sweep_cases answer with ⟨rfl, _⟩ | ⟨left, nextSweep, _, evicted, rfl⟩
  · exact .inl rfl
  · rcases evict_eq_ok evicted client with same | ⟨gone, window, found, lapsed⟩
    · exact .inl same
    · exact .inr ⟨gone, window, (store.windows.get?_eq_some_iff client window).mpr found, lapsed⟩

theorem AlikeTo.sweep {store swept : MemoryWindows} {now : Moment} (alike : store.AlikeTo now)
    (answer : store.sweep now = (.ok (), swept)) : swept.AlikeTo now := by
  constructor
  · intro nextSweep known
    rcases sweep_cases answer with ⟨rfl, _⟩ | ⟨left, later, moved, _, rfl⟩
    · exact alike.nextSweep nextSweep known
    · cases known
      rw [Moment.alike_iff, (Moment.addMicros_eq_ok moved).2]
  · intro client window found
    rcases windows_sweep answer client with same | ⟨gone, _⟩
    · exact alike.windows client window (same ▸ found)
    · rw [gone] at found
      cases found

theorem sweep_succeeds {store : MemoryWindows} {now nextSweep : Moment}
    (alike : store.AlikeTo now) (moved : now.addMicros store.sweepMicros = .ok nextSweep) :
    ∃ swept, store.sweep now = (.ok (), swept) := by
  have due : ∃ due, store.isSweepDue now = .ok due := by
    cases known : store.nextSweep with
    | none => exact ⟨true, by simp [isSweepDue, known]⟩
    | some planned =>
        have compared := Moment.isBefore_of_alike (alike.nextSweep planned known)
        exact ⟨_, by simp only [isSweepDue, known, compared, Except.map]; rfl⟩
  have entriesAlike : ∀ entry ∈ store.windows.entries, entry.2.AlikeTo now := by
    intro entry found
    exact alike.windows entry.1 entry.2 ((store.windows.get?_eq_some_iff _ _).mpr found)
  obtain ⟨left, evicted⟩ := evict_succeeds store.windows entriesAlike
  obtain ⟨due, known⟩ := due
  cases due with
  | false => exact ⟨store, by simp [sweep, known]⟩
  | true => exact ⟨_, by simp only [sweep, known, moved, evicted]; rfl⟩

/-! ## Hits -/

/-- A window expires no earlier than it was known to, and no earlier than a window after its newest
hit. -/
theorem expiry_eq_ok {known : Option Moment} {hits : List Moment} {policy : Policy}
    {now expiresAt : Moment} (answer : expiry known hits policy now = .ok expiresAt) :
    ∃ reached, (hits.getLast?.getD now).addSeconds policy.windowSeconds = .ok reached ∧
      reached.instant ≤ expiresAt.instant ∧
      (∀ earlier, known = some earlier → earlier.instant ≤ expiresAt.instant) ∧
      (known = some expiresAt ∨ reached = expiresAt) := by
  cases moved : (hits.getLast?.getD now).addSeconds policy.windowSeconds with
  | error failure => simp [expiry, moved, bind, Except.bind] at answer
  | ok reached =>
      refine ⟨reached, rfl, ?_⟩
      cases known with
      | none =>
          simp only [expiry, moved, bind, Except.bind, laterExpiry, Except.ok.injEq] at answer
          subst answer
          exact ⟨Int.le_refl _, by simp, .inr rfl⟩
      | some earlier =>
          simp only [expiry, moved, bind, Except.bind, laterExpiry] at answer
          cases compared : earlier.isBefore reached with
          | error failure => simp [compared, Except.map] at answer
          | ok early =>
              obtain ⟨_, rfl⟩ := Moment.isBefore_eq_ok compared
              simp only [compared, Except.map, Except.ok.injEq, decide_eq_true_eq] at answer
              split at answer
              · subst answer
                refine ⟨Int.le_refl _, ?_, .inr rfl⟩
                rintro first ⟨⟩
                omega
              · subst answer
                refine ⟨by omega, ?_, .inl rfl⟩
                rintro first ⟨⟩
                omega

/-- A hit decides by the hits that still count, keeps them and itself if it is admitted, and puts
off the time of expiry. -/
theorem hitWindow_eq_ok {window after : ClientWindow} {policy : Policy} {now : Moment}
    {decision : Decision} (answer : hitWindow window policy now = (.ok decision, after)) :
    decision.Follows policy (window.hits.filter (policy.counts now)) now ∧
      after.hits = window.hits.filter (policy.counts now) ++
        (if decision.allowed then [now] else []) ∧
      ∃ expiresAt, after.expiresAt = some expiresAt ∧
        expiry window.expiresAt after.hits policy now = .ok expiresAt := by
  unfold hitWindow at answer
  split at answer
  · cases answer
  · next decided hits slid =>
    split at answer
    · cases answer
    · next expiresAt settled =>
      simp only [Prod.mk.injEq, Except.ok.injEq] at answer
      obtain ⟨rfl, rfl⟩ := answer
      obtain ⟨follows, kept⟩ := Window.slide_eq_ok slid
      exact ⟨follows, kept, expiresAt, rfl, settled⟩

theorem hit_eq_ok {store after : MemoryWindows} {client : String} {policy : Policy} {now : Moment}
    {decision : Decision} (answer : store.hit client policy now = (.ok decision, after)) :
    ∃ swept window, store.sweep now = (.ok (), swept) ∧
      hitWindow ((swept.windows.get? client).getD {}) policy now = (.ok decision, window) ∧
      after = { swept with windows := swept.windows.put client window } := by
  unfold hit at answer
  split at answer
  · cases answer
  · next swept swept_eq =>
    cases slid : hitWindow ((swept.windows.get? client).getD {}) policy now with
    | mk outcome window =>
        rw [slid] at answer
        simp only [Prod.mk.injEq] at answer
        obtain ⟨rfl, rfl⟩ := answer
        exact ⟨swept, window, swept_eq, slid, rfl⟩

theorem windows_hit_same {store after : MemoryWindows} {client : String} {policy : Policy}
    {now : Moment} {decision : Decision}
    (answer : store.hit client policy now = (.ok decision, after)) :
    ∃ swept window,
      (swept = store.windows.get? client ∨
        swept = none ∧ ∃ lost, store.windows.get? client = some lost ∧ lost.Lapsed now) ∧
      hitWindow (swept.getD {}) policy now = (.ok decision, window) ∧
      after.windows.get? client = some window := by
  obtain ⟨swept, window, sweptEquality, slid, rfl⟩ := hit_eq_ok answer
  exact ⟨swept.windows.get? client, window, windows_sweep sweptEquality client, slid, by simp⟩

/-- The window of any other client is kept or, once it has lapsed, dropped. -/
theorem windows_hit_other {store after : MemoryWindows} {client other : String} {policy : Policy}
    {now : Moment} {decision : Decision}
    (answer : store.hit other policy now = (.ok decision, after)) (different : other ≠ client) :
    after.windows.get? client = store.windows.get? client ∨
      after.windows.get? client = none ∧
        ∃ lost, store.windows.get? client = some lost ∧ lost.Lapsed now := by
  obtain ⟨swept, window, sweptEquality, _, rfl⟩ := hit_eq_ok answer
  simpa [different] using windows_sweep sweptEquality client

theorem sweepMicros_hit {store after : MemoryWindows} {client : String} {policy : Policy}
    {now : Moment} {decision : Decision}
    (answer : store.hit client policy now = (.ok decision, after)) :
    after.sweepMicros = store.sweepMicros := by
  obtain ⟨swept, window, sweptEquality, _, rfl⟩ := hit_eq_ok answer
  change swept.sweepMicros = store.sweepMicros
  exact sweepMicros_sweep sweptEquality

theorem alikeTo_empty (now : Moment) : ({} : ClientWindow).AlikeTo now :=
  ⟨by simp, by simp⟩

theorem AlikeTo.swept {store swept : MemoryWindows} {now : Moment} (alike : store.AlikeTo now)
    (answer : store.sweep now = (.ok (), swept)) (client : String) :
    ((swept.windows.get? client).getD {}).AlikeTo now := by
  cases found : swept.windows.get? client with
  | none => exact alikeTo_empty now
  | some window => exact (alike.sweep answer).windows client window found

theorem alikeTo_hitWindow {window after : ClientWindow} {policy : Policy} {now : Moment}
    {decision : Decision} (alike : window.AlikeTo now)
    (answer : hitWindow window policy now = (.ok decision, after)) : after.AlikeTo now := by
  obtain ⟨_, kept, expiresAt, settled, calculated⟩ := hitWindow_eq_ok answer
  have hitsAlike : ∀ hit ∈ after.hits, hit.alike now = true := by
    intro hit found
    rw [kept, List.mem_append] at found
    rcases found with early | late
    · exact alike.hits hit (List.mem_filter.mp early).1
    · split at late
      · rw [List.mem_singleton.mp late]
        exact now.alike_refl
      · cases late
  refine ⟨hitsAlike, ?_⟩
  intro known same
  obtain rfl : expiresAt = known := by simpa [settled] using same
  obtain ⟨reached, moved, _, _, earlier | rfl⟩ := expiry_eq_ok calculated
  · exact alike.expiresAt expiresAt earlier
  · have newestAlike : (after.hits.getLast?.getD now).alike now = true := by
      cases newest : after.hits.getLast? with
      | none => exact now.alike_refl
      | some hit => exact hitsAlike hit (List.mem_of_getLast? newest)
    rw [Moment.alike_iff, (Moment.addSeconds_eq_ok moved).2]
    exact Moment.alike_iff.mp newestAlike

theorem AlikeTo.hit {store after : MemoryWindows} {client : String} {policy : Policy}
    {now : Moment} {decision : Decision} (alike : store.AlikeTo now)
    (answer : store.hit client policy now = (.ok decision, after)) : after.AlikeTo now := by
  obtain ⟨swept, window, sweptEquality, slid, rfl⟩ := hit_eq_ok answer
  refine ⟨(alike.sweep sweptEquality).nextSweep, ?_⟩
  intro other found present
  by_cases same : client = other
  · obtain rfl : window = found := by simpa [same] using present
    exact alikeTo_hitWindow (alike.swept sweptEquality client) slid
  · exact (alike.sweep sweptEquality).windows other found (by simpa [same] using present)

theorem AlikeTo.later {store : MemoryWindows} {now later : Moment} (alike : store.AlikeTo now)
    (comparable : now.alike later = true) : store.AlikeTo later := by
  constructor
  · intro nextSweep known
    exact Moment.alike_trans (Moment.alike_symm comparable) (alike.nextSweep nextSweep known)
  · intro client window found
    obtain ⟨hits, expiresAt⟩ := alike.windows client window found
    exact ⟨fun hit stored => Moment.alike_trans (hits hit stored) comparable,
      fun known same => Moment.alike_trans (expiresAt known same) comparable⟩

theorem hitWindow_succeeds {window : ClientWindow} {policy : Policy} {now : Moment}
    {sweepMicros : Int} (alike : window.AlikeTo now) (fits : Fits sweepMicros policy now)
    (movable : ∀ hit ∈ window.hits, policy.counts now hit = true →
      ∃ resetAt, hit.addSeconds policy.windowSeconds = .ok resetAt) :
    ∃ decision after, hitWindow window policy now = (.ok decision, after) := by
  -- Both times that are calculated from a hit belong to one that counts, or to this one.
  have moves : ∀ hit, hit = now ∨ hit ∈ window.hits.filter (policy.counts now) →
      ∃ resetAt, hit.addSeconds policy.windowSeconds = .ok resetAt := by
    rintro hit (rfl | found)
    · exact fits.resetAt
    · exact movable hit (List.mem_filter.mp found).1 (List.mem_filter.mp found).2
  obtain ⟨cutoff, start⟩ := fits.cutoff
  obtain ⟨resetAt, reset⟩ : ∃ resetAt,
      ((window.hits.filter (policy.counts now)).head?.getD now).addSeconds
        policy.windowSeconds = .ok resetAt := by
    apply moves
    cases oldest : (window.hits.filter (policy.counts now)).head? with
    | none => exact .inl rfl
    | some hit => exact .inr (List.mem_of_head? oldest)
  obtain ⟨decision, hits, slid⟩ := Window.slide_succeeds alike.hits start reset
  obtain ⟨_, kept⟩ := Window.slide_eq_ok slid
  have hitsFrom : ∀ hit ∈ hits, hit = now ∨ hit ∈ window.hits.filter (policy.counts now) := by
    intro hit found
    rw [kept, List.mem_append] at found
    rcases found with early | late
    · exact .inr early
    · split at late
      · exact .inl (List.mem_singleton.mp late)
      · cases late
  have newestFrom : hits.getLast?.getD now = now ∨
      hits.getLast?.getD now ∈ window.hits.filter (policy.counts now) := by
    cases newest : hits.getLast? with
    | none => exact .inl rfl
    | some hit => exact hitsFrom hit (List.mem_of_getLast? newest)
  obtain ⟨reached, moved⟩ := moves _ newestFrom
  have newestAlike : (hits.getLast?.getD now).alike now = true := by
    rcases newestFrom with same | found
    · rw [same]
      exact now.alike_refl
    · exact alike.hits _ (List.mem_filter.mp found).1
  have settled : ∃ expiresAt, expiry window.expiresAt hits policy now = .ok expiresAt := by
    cases known : window.expiresAt with
    | none => exact ⟨reached, by simp [expiry, moved, bind, Except.bind, laterExpiry]⟩
    | some earlier =>
        have comparable : earlier.alike reached = true := by
          apply Moment.alike_trans (alike.expiresAt earlier known)
          apply Moment.alike_symm
          rw [Moment.alike_iff, (Moment.addSeconds_eq_ok moved).2]
          exact Moment.alike_iff.mp newestAlike
        have compared := Moment.isBefore_of_alike comparable
        exact ⟨_, by simp only [expiry, moved, bind, Except.bind, laterExpiry, compared,
          Except.map]; rfl⟩
  obtain ⟨expiresAt, calculated⟩ := settled
  exact ⟨decision, { hits, expiresAt := some expiresAt }, by
    simp only [MemoryWindows.hitWindow, slid, calculated]⟩

/-- A hit succeeds if all times can be compared, and if none that it calculates is out of range. -/
theorem hit_succeeds {store : MemoryWindows} {client : String} {policy : Policy} {now : Moment}
    (alike : store.AlikeTo now) (fits : Fits store.sweepMicros policy now)
    (movable : ∀ hit ∈ store.hitsOf client, policy.counts now hit = true →
      ∃ resetAt, hit.addSeconds policy.windowSeconds = .ok resetAt) :
    ∃ decision after, store.hit client policy now = (.ok decision, after) := by
  obtain ⟨nextSweep, planned⟩ := fits.nextSweep
  obtain ⟨swept, sweptEquality⟩ := sweep_succeeds alike planned
  have sweptMovable : ∀ hit ∈ ((swept.windows.get? client).getD {}).hits,
      policy.counts now hit = true →
        ∃ resetAt, hit.addSeconds policy.windowSeconds = .ok resetAt := by
    rcases windows_sweep sweptEquality client with same | ⟨gone, _⟩
    · rw [same]
      exact movable
    · simp [gone]
  obtain ⟨decision, window, slid⟩ :=
    hitWindow_succeeds (alike.swept sweptEquality client) fits sweptMovable
  exact ⟨decision, _, by simp only [hit, sweptEquality, slid]; rfl⟩

end MemoryWindows

end AccessGate
