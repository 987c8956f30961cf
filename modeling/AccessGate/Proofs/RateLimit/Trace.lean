import AccessGate.Proofs.RateLimit.Memory

/-!
# Runs of hits

A trace is a run of hits in order of time, each with the decision it was given, together with the
store that the run leaves behind.  What the store keeps of a client is less than the history of the
client: entries are pruned by later hits, and whole windows are swept out by the hits of others.
`Trace.hitsOf_since` says that nothing is lost that could still count under any policy of the
client.
-/

namespace AccessGate

/-- A hit that was answered. -/
structure Served where
  client : String
  policy : Policy
  now : Moment
  decision : Decision
  deriving DecidableEq

namespace Served

/-- When the hit stops to count under its own policy. -/
def expiry (served : Served) : Int :=
  served.now.instant + served.policy.windowSeconds.span

def admits (client : String) (served : Served) : Bool :=
  served.client = client && served.decision.allowed

theorem client_of_admits {client : String} {served : Served}
    (admits : served.admits client = true) : served.client = client := by
  simp only [Served.admits, Bool.and_eq_true, decide_eq_true_eq] at admits
  exact admits.1

theorem allowed_of_admits {client : String} {served : Served}
    (admits : served.admits client = true) : served.decision.allowed = true := by
  simp only [Served.admits, Bool.and_eq_true] at admits
  exact admits.2

end Served

/-- The admitted hits of a client, in the order in which they came. -/
def admitted (client : String) (past : List Served) : List Moment :=
  (past.filter (Served.admits client)).map Served.now

namespace MemoryWindows

/-- A run of hits in order of time, none of which failed, on a store that starts empty. -/
inductive Trace (sweepMicros : Int) : List Served → MemoryWindows → Prop where
  | start : Trace sweepMicros [] { sweepMicros }
  | hit {past : List Served} {store after : MemoryWindows} {client : String} {policy : Policy}
      {now : Moment} {decision : Decision} :
      Trace sweepMicros past store →
      (∀ served ∈ past, served.now.NotAfter now) →
      store.hit client policy now = (.ok decision, after) →
      Trace sweepMicros (past ++ [⟨client, policy, now, decision⟩]) after

theorem Trace.next {sweepMicros : Int} {past : List Served} {store : MemoryWindows}
    (trace : Trace sweepMicros past store) (client : String) (policy : Policy) (now : Moment)
    {decision : Decision} (ordered : ∀ served ∈ past, served.now.NotAfter now)
    (answer : (store.hit client policy now).1 = .ok decision) :
    Trace sweepMicros (past ++ [⟨client, policy, now, decision⟩])
      (store.hit client policy now).2 :=
  .hit trace ordered (Prod.ext answer rfl)

theorem Trace.sweepMicros_eq {sweepMicros : Int} {past : List Served} {store : MemoryWindows}
    (trace : Trace sweepMicros past store) : store.sweepMicros = sweepMicros := by
  induction trace with
  | start => rfl
  | hit _ _ answer induction => rw [sweepMicros_hit answer, induction]

/-- All times of a store can be compared with a moment that no hit comes after. -/
theorem Trace.alikeTo {sweepMicros : Int} {past : List Served} {store : MemoryWindows}
    (trace : Trace sweepMicros past store) {now : Moment}
    (ordered : ∀ served ∈ past, served.now.NotAfter now) : store.AlikeTo now := by
  induction trace generalizing now with
  | start => exact ⟨by simp, by simp⟩
  | @hit past store after client policy moment decision trace earlier answer induction =>
      have comparable := (ordered ⟨client, policy, moment, decision⟩ (by simp)).alike
      exact ((induction earlier).hit answer).later comparable

/-! ## What a store keeps of a client -/

@[simp] theorem admitted_append (client : String) (past later : List Served) :
    admitted client (past ++ later) = admitted client past ++ admitted client later := by
  simp [admitted]

theorem admitted_other {client other : String} {policy : Policy} {now : Moment}
    {decision : Decision} (different : other ≠ client) :
    admitted client [⟨other, policy, now, decision⟩] = [] := by
  simp [admitted, Served.admits, different]

theorem admitted_same {client : String} {policy : Policy} {now : Moment} {decision : Decision} :
    admitted client [⟨client, policy, now, decision⟩] =
      if decision.allowed then [now] else [] := by
  cases allowed : decision.allowed <;> simp [admitted, Served.admits, allowed]

theorem Trace.hitsOf_subset {sweepMicros : Int} {past : List Served} {store : MemoryWindows}
    (trace : Trace sweepMicros past store) (client : String) :
    ∀ hit ∈ store.hitsOf client, hit ∈ admitted client past := by
  induction trace with
  | start => simp [hitsOf]
  | @hit past store after other policy now decision trace earlier answer induction =>
      intro hit found
      rw [admitted_append, List.mem_append]
      by_cases same : other = client
      · subst same
        obtain ⟨swept, window, before, slid, kept⟩ := windows_hit_same answer
        rw [hitsOf, kept, Option.getD_some, (hitWindow_eq_ok slid).2.1, List.mem_append] at found
        rcases found with early | late
        · left
          apply induction
          rcases before with rfl | ⟨rfl, _⟩
          · exact (List.mem_filter.mp early).1
          · simp at early
        · exact .inr (by rw [admitted_same]; exact late)
      · left
        apply induction
        rcases windows_hit_other answer same with kept | ⟨gone, _⟩
        · rwa [hitsOf, kept] at found
        · simp [hitsOf, gone] at found

/-- As long as an admitted hit has not expired, the window of its client is there and expires no
earlier than the hit. -/
theorem Trace.window_of_admitted {sweepMicros : Int} {past : List Served} {store : MemoryWindows}
    (trace : Trace sweepMicros past store) {client : String} {served : Served}
    (found : served ∈ past) (admits : served.admits client = true)
    (live : ∀ later ∈ past, later.now.instant ≤ served.expiry) :
    ∃ window expiresAt, store.windows.get? client = some window ∧
      window.expiresAt = some expiresAt ∧ served.expiry ≤ expiresAt.instant := by
  induction trace with
  | start => cases found
  | @hit past store after other policy now decision trace earlier answer induction =>
      have nowLive : now.instant ≤ served.expiry :=
        live ⟨other, policy, now, decision⟩ (by simp)
      -- A window that held the hit before cannot have lapsed, so the sweep has left it alone.
      have keepsOld : served ∈ past → ∀ lost, store.windows.get? client = some lost →
          ¬ lost.Lapsed now := by
        intro old lost present
        obtain ⟨window, expiresAt, there, settled, behind⟩ :=
          induction old fun later member => live later (by simp [member])
        obtain rfl := Option.some.inj (present.symm.trans there)
        exact not_lapsed settled (Int.le_trans nowLive behind)
      by_cases same : other = client
      · subst same
        obtain ⟨swept, window, before, slid, kept⟩ := windows_hit_same answer
        obtain ⟨_, hits, expiresAt, settled, calculated⟩ := hitWindow_eq_ok slid
        obtain ⟨reached, moved, behindReached, notEarlier, _⟩ := expiry_eq_ok calculated
        refine ⟨window, expiresAt, kept, settled, ?_⟩
        rcases List.mem_append.mp found with old | new
        · obtain ⟨known, knownExpiry, there, knownSettled, behind⟩ :=
            induction old fun later member => live later (by simp [member])
          rcases before with rfl | ⟨_, lost, present, lapsed⟩
          · have := notEarlier knownExpiry (by rw [there]; exact knownSettled)
            omega
          · exact absurd lapsed (keepsOld old lost present)
        · rw [List.mem_singleton] at new
          subst new
          have allowed : decision.allowed = true := Served.allowed_of_admits admits
          rw [hits, if_pos allowed, List.getLast?_concat, Option.getD_some] at moved
          rw [Served.expiry, ← (Moment.addSeconds_eq_ok moved).1]
          exact behindReached
      · have old : served ∈ past := by
          rcases List.mem_append.mp found with old | new
          · exact old
          · rw [List.mem_singleton] at new
            subst new
            simp [Served.admits, same] at admits
        rcases windows_hit_other answer same with kept | ⟨_, lost, present, lapsed⟩
        · rw [kept]
          exact induction old fun later member => live later (by simp [member])
        · exact absurd lapsed (keepsOld old lost present)

/-- A window lapses only after every admitted hit of its client has expired. -/
theorem Trace.expired_of_lapsed {sweepMicros : Int} {past : List Served} {store : MemoryWindows}
    (trace : Trace sweepMicros past store) {client : String} {now : Moment}
    (ordered : ∀ served ∈ past, served.now.NotAfter now) {lost : ClientWindow}
    (present : store.windows.get? client = some lost) (lapsed : lost.Lapsed now)
    {served : Served} (found : served ∈ past) (admits : served.admits client = true) :
    served.expiry < now.instant := by
  rcases Int.lt_or_le served.expiry now.instant with expired | live
  · exact expired
  · obtain ⟨window, expiresAt, there, settled, behind⟩ :=
      trace.window_of_admitted found admits fun later member =>
        Int.le_trans (ordered later member).instant_le live
    obtain rfl := Option.some.inj (present.symm.trans there)
    exact absurd lapsed (not_lapsed settled (Int.le_trans live behind))

/-- A sweep leaves the window of a client alone as long as an admitted hit has not expired. -/
theorem Trace.swept_of_live {sweepMicros : Int} {past : List Served} {store : MemoryWindows}
    (trace : Trace sweepMicros past store) {client : String} {now : Moment}
    (ordered : ∀ served ∈ past, served.now.NotAfter now) {swept : Option ClientWindow}
    (before : swept = store.windows.get? client ∨
      swept = none ∧ ∃ lost, store.windows.get? client = some lost ∧ lost.Lapsed now)
    {served : Served} (found : served ∈ past) (admits : served.admits client = true)
    (live : now.instant ≤ served.expiry) : swept = store.windows.get? client := by
  rcases before with same | ⟨_, lost, present, lapsed⟩
  · exact same
  · have := trace.expired_of_lapsed ordered present lapsed found admits
    omega

/-- A sweep takes nothing from a client that is later than the given time, if all hits of the client
count for at least the time that has gone by since. -/
theorem Trace.swept_since {sweepMicros : Int} {past : List Served} {store : MemoryWindows}
    (trace : Trace sweepMicros past store) {client : String} {now : Moment}
    (ordered : ∀ served ∈ past, served.now.NotAfter now) {swept : Option ClientWindow}
    (before : swept = store.windows.get? client ∨
      swept = none ∧ ∃ lost, store.windows.get? client = some lost ∧ lost.Lapsed now)
    {span cutoff : Int}
    (wide : ∀ served ∈ past, served.client = client → span ≤ served.policy.windowSeconds.span)
    (reached : now.instant - span ≤ cutoff)
    (kept : (store.hitsOf client).filter (fun hit => cutoff ≤ hit.instant) =
      (admitted client past).filter fun hit => cutoff ≤ hit.instant) :
    (swept.getD {}).hits.filter (fun hit => cutoff ≤ hit.instant) =
      (admitted client past).filter fun hit => cutoff ≤ hit.instant := by
  rcases before with rfl | ⟨rfl, lost, present, lapsed⟩
  · exact kept
  · rw [Option.getD_none, List.filter_nil, eq_comm, List.filter_eq_nil_iff]
    intro hit member
    obtain ⟨served, found, rfl⟩ := List.mem_map.mp member
    obtain ⟨found, admits⟩ := List.mem_filter.mp found
    have expired := trace.expired_of_lapsed ordered present lapsed found admits
    have := wide served found (Served.client_of_admits admits)
    simp only [decide_eq_true_eq, Served.expiry] at expired ⊢
    omega

/-- Nothing is lost of what a client was admitted for within a span that none of the client's
windows undercuts. -/
theorem Trace.hitsOf_since {sweepMicros : Int} {past : List Served} {store : MemoryWindows}
    (trace : Trace sweepMicros past store) {client : String} {span cutoff : Int}
    (wide : ∀ served ∈ past, served.client = client → span ≤ served.policy.windowSeconds.span)
    (reached : ∀ served ∈ past, served.now.instant - span ≤ cutoff) :
    (store.hitsOf client).filter (fun hit => cutoff ≤ hit.instant) =
      (admitted client past).filter fun hit => cutoff ≤ hit.instant := by
  induction trace with
  | start => simp [hitsOf, admitted]
  | @hit past store after other policy now decision trace ordered answer induction =>
      have pastWide : ∀ served ∈ past, served.client = client →
          span ≤ served.policy.windowSeconds.span := fun served found =>
        wide served (by simp [found])
      have nowReached : now.instant - span ≤ cutoff :=
        reached ⟨other, policy, now, decision⟩ (by simp)
      have kept := induction pastWide fun served found => reached served (by simp [found])
      by_cases same : other = client
      · subst same
        obtain ⟨swept, window, before, slid, stored⟩ := windows_hit_same answer
        have policyWide : span ≤ policy.windowSeconds.span :=
          wide ⟨other, policy, now, decision⟩ (by simp) rfl
        -- Whatever is not earlier than the cutoff also counts at this hit.
        have counts : ∀ hit : Moment,
            (decide (cutoff ≤ hit.instant) && policy.counts now hit) =
              decide (cutoff ≤ hit.instant) := by
          intro hit
          simp only [Policy.counts, Bool.and_eq_left_iff_imp, decide_eq_true_eq]
          omega
        rw [hitsOf, stored, Option.getD_some, (hitWindow_eq_ok slid).2.1, admitted_append,
          admitted_same, List.filter_append, List.filter_append, List.filter_filter]
        simp only [counts]
        rw [trace.swept_since ordered before pastWide nowReached kept]
      · rw [admitted_append, admitted_other same, List.append_nil]
        have before : after.windows.get? client = store.windows.get? client ∨
            after.windows.get? client = none ∧
              ∃ lost, store.windows.get? client = some lost ∧ lost.Lapsed now :=
          windows_hit_other answer same
        exact trace.swept_since ordered before pastWide nowReached kept

/-! ## Decisions by the history -/

/-- A hit is decided by the history of its client, if none of the client's windows is shorter than
the one that the hit asks for. -/
theorem Trace.follows_history {sweepMicros : Int} {past : List Served} {store after : MemoryWindows}
    (trace : Trace sweepMicros past store) {client : String} {policy : Policy} {now : Moment}
    (ordered : ∀ served ∈ past, served.now.NotAfter now)
    (wide : ∀ served ∈ past, served.client = client →
      policy.windowSeconds.span ≤ served.policy.windowSeconds.span)
    {decision : Decision} (answer : store.hit client policy now = (.ok decision, after)) :
    decision.Follows policy ((admitted client past).filter (policy.counts now)) now := by
  obtain ⟨swept, window, before, slid, _⟩ := windows_hit_same answer
  have reached : ∀ served ∈ past,
      served.now.instant - policy.windowSeconds.span ≤
        now.instant - policy.windowSeconds.span := fun served found =>
    Int.sub_le_sub_right (ordered served found).instant_le _
  have kept := trace.swept_since ordered before wide (Int.le_refl _)
    (trace.hitsOf_since wide reached)
  have counted : (swept.getD {}).hits.filter (policy.counts now) =
      (admitted client past).filter (policy.counts now) := kept
  rw [← counted]
  exact (hitWindow_eq_ok slid).1

/-- The time when an admitted hit expires has been calculated. -/
theorem Trace.addSeconds_of_admitted {sweepMicros : Int} {past : List Served}
    {store : MemoryWindows} (trace : Trace sweepMicros past store) {client : String}
    {served : Served} (found : served ∈ past) (admits : served.admits client = true) :
    ∃ expiresAt, served.now.addSeconds served.policy.windowSeconds = .ok expiresAt := by
  induction trace with
  | start => cases found
  | @hit past store after other policy now decision trace ordered answer induction =>
      rcases List.mem_append.mp found with old | new
      · exact induction old
      · rw [List.mem_singleton] at new
        subst new
        obtain ⟨swept, window, _, slid, _⟩ := windows_hit_same answer
        obtain ⟨_, hits, _, _, calculated⟩ := hitWindow_eq_ok slid
        obtain ⟨reached, moved, _⟩ := expiry_eq_ok calculated
        have allowed : decision.allowed = true := Served.allowed_of_admits admits
        rw [hits, if_pos allowed, List.getLast?_concat, Option.getD_some] at moved
        exact ⟨reached, moved⟩

/-- A hit succeeds if all windows of its client have the same length, and if no time that it
calculates is out of range. -/
theorem Trace.hit_succeeds {sweepMicros : Int} {past : List Served} {store : MemoryWindows}
    (trace : Trace sweepMicros past store) {client : String} {policy : Policy} {now : Moment}
    (ordered : ∀ served ∈ past, served.now.NotAfter now)
    (single : ∀ served ∈ past, served.client = client →
      served.policy.windowSeconds = policy.windowSeconds)
    (fits : Fits sweepMicros policy now) :
    ∃ decision after, store.hit client policy now = (.ok decision, after) := by
  rw [← trace.sweepMicros_eq] at fits
  apply MemoryWindows.hit_succeeds (trace.alikeTo ordered) fits
  intro hit kept _
  obtain ⟨served, found, rfl⟩ := List.mem_map.mp (trace.hitsOf_subset client hit kept)
  obtain ⟨found, admits⟩ := List.mem_filter.mp found
  rw [← single served found (Served.client_of_admits admits)]
  exact trace.addSeconds_of_admitted found admits

end MemoryWindows

end AccessGate
