import AccessGate.Proofs.RateLimit.Trace
import AccessGate.RateLimit.Rules

/-!
# Budgets of buckets

All buckets of a client share one list of hits, and each hit prunes the list by the window of its
own bucket.  A hit in a bucket with a short window thereby forgets hits that a bucket with a longer
window still has to count.  `Rules.keepsBudget_iff` says exactly which budgets survive that.
-/

namespace AccessGate

/-- The hits that a client was admitted for under a policy, within one window of the policy from an
instant on. -/
def admittedWithin (client : String) (policy : Policy) (start : Int) (past : List Served) :
    List Served :=
  past.filter fun served =>
    served.admits client && decide (served.policy = policy ∧ start ≤ served.now.instant ∧
      served.now.instant ≤ start + policy.windowSeconds.span)

/-- A policy makes clients forget hits that another one still has to count, and leaves room for a
further hit of the other one. -/
structure Policy.Undercuts (short policy : Policy) : Prop where
  shorter : short.windowSeconds.span < policy.windowSeconds.span
  nonneg : 0 ≤ policy.windowSeconds.span
  room : 2 ≤ policy.limit ∨ short.limit ≤ 0

instance (short policy : Policy) : Decidable (short.Undercuts policy) :=
  decidable_of_iff
    (short.windowSeconds.span < policy.windowSeconds.span ∧ 0 ≤ policy.windowSeconds.span ∧
      (2 ≤ policy.limit ∨ short.limit ≤ 0))
    ⟨fun holds => ⟨holds.1, holds.2.1, holds.2.2⟩,
      fun holds => ⟨holds.shorter, holds.nonneg, holds.room⟩⟩

/-- A policy whose window is at most about a thousand years long. -/
structure Policy.Ordinary (policy : Policy) : Prop where
  known : ∃ span, policy.windowSeconds.micros microsPerSecond = .ok span
  bounded : policy.windowSeconds.span.natAbs ≤ longestSpan

theorem Policy.ordinary_of_whole {limit seconds : Int}
    (bounded : (seconds * microsPerSecond).natAbs ≤ longestSpan) :
    (⟨limit, .whole seconds⟩ : Policy).Ordinary := by
  have known : (Quantity.whole seconds).micros microsPerSecond =
      .ok (seconds * microsPerSecond) := by
    have range : longestSpan = 31622400000000000 := by decide
    have day : microsPerDay = 86400000000 := rfl
    rw [Quantity.micros, spanOf, if_pos]
    rw [Int.fdiv_eq_ediv_of_nonneg _ (by decide), day]
    omega
  refine ⟨⟨_, known⟩, ?_⟩
  rw [Quantity.span_of_micros known]
  exact bounded

namespace Rules

def policies (rules : Rules) : List Policy :=
  [rules.general, rules.signIn, rules.registration, rules.passwordReset]

/-- Every path falls into a bucket, and every bucket is reached by a path. -/
theorem mem_policies_iff {rules : Rules} {policy : Policy} :
    policy ∈ rules.policies ↔ ∃ path, policy = rules.policyFor path := by
  constructor
  · intro member
    simp only [policies, List.mem_cons, List.not_mem_nil, or_false] at member
    rcases member with rfl | rfl | rfl | rfl
    · exact ⟨"", rfl⟩
    · exact ⟨"/auth/login", rfl⟩
    · exact ⟨"/auth/register", rfl⟩
    · exact ⟨"/password-reset", rfl⟩
  · rintro ⟨path, rfl⟩
    simp only [policyFor]
    split
    · simp [policies]
    · split
      · simp [policies]
      · split <;> simp [policies]

end Rules

namespace MemoryWindows

/-! ## Budgets that hold -/

theorem mem_admittedWithin {client : String} {policy : Policy} {start : Int} {past : List Served}
    {served : Served} :
    served ∈ admittedWithin client policy start past ↔
      served ∈ past ∧ served.admits client = true ∧ served.policy = policy ∧
        start ≤ served.now.instant ∧
        served.now.instant ≤ start + policy.windowSeconds.span := by
  simp [admittedWithin]

theorem admittedWithin_append {client : String} {policy : Policy} {start : Int}
    {past later : List Served} :
    admittedWithin client policy start (past ++ later) =
      admittedWithin client policy start past ++ admittedWithin client policy start later :=
  List.filter_append ..

/-- One more hit leaves a budget intact if it does not fall under the budget, or finds room. -/
theorem length_admittedWithin_concat {client : String} {policy : Policy} {start bound : Int}
    {past : List Served} {latest : Served}
    (older : ((admittedWithin client policy start past).length : Int) ≤ bound)
    (room : latest.admits client = true → latest.policy = policy →
      start ≤ latest.now.instant → latest.now.instant ≤ start + policy.windowSeconds.span →
      ((admittedWithin client policy start past).length : Int) < bound) :
    ((admittedWithin client policy start (past ++ [latest])).length : Int) ≤ bound := by
  rw [admittedWithin_append, List.length_append]
  by_cases counted : latest ∈ admittedWithin client policy start [latest]
  · obtain ⟨_, admits, samePolicy, notEarlier, within⟩ := mem_admittedWithin.mp counted
    have free := room admits samePolicy notEarlier within
    have single : (admittedWithin client policy start [latest]).length ≤ 1 :=
      List.length_filter_le ..
    omega
  · have none : admittedWithin client policy start [latest] = [] := by
      rw [List.eq_nil_iff_forall_not_mem]
      intro served member
      obtain rfl := List.mem_singleton.mp (mem_admittedWithin.mp member).1
      exact counted member
    rw [none, List.length_nil]
    exact older

theorem admittedWithin_eq_self {client : String} {policy : Policy} {start : Int}
    {past : List Served} (counted : ∀ served ∈ past, served.admits client = true ∧
      served.policy = policy ∧ start ≤ served.now.instant ∧
        served.now.instant ≤ start + policy.windowSeconds.span) :
    admittedWithin client policy start past = past := by
  rw [admittedWithin, List.filter_eq_self]
  intro served found
  simpa using counted served found

/-- The hits of a budget up to a moment within its window count at this moment. -/
theorem length_admittedWithin_le {client : String} {policy : Policy} {start : Int}
    {past : List Served} {now : Moment}
    (within : now.instant ≤ start + policy.windowSeconds.span) :
    (admittedWithin client policy start past).length ≤
      ((admitted client past).filter (policy.counts now)).length := by
  rw [admittedWithin, admitted, List.filter_map, List.length_map, List.filter_filter,
    ← List.countP_eq_length_filter, ← List.countP_eq_length_filter]
  apply List.countP_mono_left
  intro served _ selected
  simp only [Bool.and_eq_true, decide_eq_true_eq, Function.comp_apply, Policy.counts]
    at selected ⊢
  exact ⟨by omega, selected.1⟩

/-- A budget holds if none of the client's windows is shorter than its own. -/
theorem Trace.budget_of_wide {sweepMicros : Int} {past : List Served} {store : MemoryWindows}
    (trace : Trace sweepMicros past store) {client : String} {policy : Policy}
    (limit : 0 ≤ policy.limit)
    (wide : ∀ served ∈ past, served.client = client →
      policy.windowSeconds.span ≤ served.policy.windowSeconds.span) (start : Int) :
    ((admittedWithin client policy start past).length : Int) ≤ policy.limit := by
  induction trace with
  | start => simpa [admittedWithin] using limit
  | @hit past store after other asked now decision trace ordered answer induction =>
      have pastWide : ∀ served ∈ past, served.client = client →
          policy.windowSeconds.span ≤ served.policy.windowSeconds.span := fun served found =>
        wide served (by simp [found])
      refine length_admittedWithin_concat (induction pastWide) ?_
      rintro admits rfl _ within
      obtain rfl : other = client := Served.client_of_admits admits
      have room := (trace.follows_history ordered pastWide answer).allowed.mp
        (Served.allowed_of_admits admits)
      have counted : (admittedWithin other asked start past).length ≤
          ((admitted other past).filter (asked.counts now)).length :=
        length_admittedWithin_le within
      exact Int.lt_of_le_of_lt (Int.ofNat_le.mpr counted) room

/-- An admitted hit leaves a trace in the list of its client, be it itself or a later hit, until it
expires: hits that could prune it all away are admitted in turn. -/
theorem Trace.hit_held {sweepMicros : Int} {past : List Served} {store : MemoryWindows}
    (trace : Trace sweepMicros past store) {client : String} {served : Served}
    (mixed : ∀ other ∈ past, other.client = client →
      served.policy.windowSeconds.span ≤ other.policy.windowSeconds.span ∨
        1 ≤ other.policy.limit)
    (found : served ∈ past) (admits : served.admits client = true)
    (live : ∀ later ∈ past, later.now.instant ≤ served.expiry) :
    ∃ hit ∈ store.hitsOf client, served.now.instant ≤ hit.instant := by
  induction trace with
  | start => cases found
  | @hit past store after other policy now decision trace ordered answer induction =>
      have pastMixed := fun earlier member => mixed earlier (List.mem_append_left _ member)
      have pastLive := fun earlier member => live earlier (List.mem_append_left _ member)
      have nowLive : now.instant ≤ served.expiry :=
        live ⟨other, policy, now, decision⟩ (by simp)
      by_cases same : other = client
      · subst same
        obtain ⟨swept, window, before, slid, stored⟩ := windows_hit_same answer
        obtain ⟨follows, kept, _⟩ := hitWindow_eq_ok slid
        rw [hitsOf, stored, Option.getD_some, kept]
        by_cases allowed : decision.allowed = true
        · refine ⟨now, by simp [allowed], ?_⟩
          rcases List.mem_append.mp found with old | new
          · exact (ordered served old).instant_le
          · obtain rfl := List.mem_singleton.mp new
            exact Int.le_refl _
        · have old : served ∈ past := by
            rcases List.mem_append.mp found with old | new
            · exact old
            · rw [List.mem_singleton.mp new] at admits
              exact absurd (Served.allowed_of_admits admits) allowed
          obtain ⟨hit, held, notEarlier⟩ := induction pastMixed old pastLive
          have intact := trace.swept_of_live ordered before old admits nowLive
          rw [hitsOf, ← intact] at held
          by_cases counts : policy.counts now hit = true
          · exact ⟨hit, by simp [List.mem_filter, held, counts], notEarlier⟩
          · -- The pruned hit is too early for this window, so a hit that is left is later still.
            simp only [Policy.counts, decide_eq_true_eq, Int.not_le] at counts
            have full : policy.limit ≤
                (((swept.getD {}).hits.filter (policy.counts now)).length : Int) :=
              Int.not_lt.mp fun room => allowed (follows.allowed.mpr room)
            have limit : 1 ≤ policy.limit := by
              rcases mixed ⟨other, policy, now, decision⟩ (by simp) rfl with wide | limit
              · simp only [Served.expiry] at nowLive wide
                omega
              · exact limit
            obtain ⟨left, member⟩ :=
              List.exists_mem_of_length_pos (l := (swept.getD {}).hits.filter (policy.counts now))
                (by omega)
            have late : now.instant - policy.windowSeconds.span ≤ left.instant := by
              simpa [Policy.counts] using (List.mem_filter.mp member).2
            exact ⟨left, List.mem_append_left _ member, by omega⟩
      · have old : served ∈ past := by
          rcases List.mem_append.mp found with old | new
          · exact old
          · rw [List.mem_singleton.mp new] at admits
            exact absurd (Served.client_of_admits admits) same
        obtain ⟨hit, held, notEarlier⟩ := induction pastMixed old pastLive
        have intact := trace.swept_of_live ordered (windows_hit_other answer same) old admits
          nowLive
        refine ⟨hit, ?_, notEarlier⟩
        rwa [hitsOf, intact]

/-- A budget of one hit holds if every hit of the client in a bucket with a shorter window falls
under a limit of at least one. -/
theorem Trace.budget_of_single {sweepMicros : Int} {past : List Served} {store : MemoryWindows}
    (trace : Trace sweepMicros past store) {client : String} {policy : Policy}
    (limit : policy.limit = 1)
    (mixed : ∀ served ∈ past, served.client = client →
      policy.windowSeconds.span ≤ served.policy.windowSeconds.span ∨ 1 ≤ served.policy.limit)
    (start : Int) :
    ((admittedWithin client policy start past).length : Int) ≤ policy.limit := by
  induction trace with
  | start => simp [admittedWithin, limit]
  | @hit past store after other asked now decision trace ordered answer induction =>
      have pastMixed := fun earlier member => mixed earlier (List.mem_append_left _ member)
      refine length_admittedWithin_concat (induction pastMixed) ?_
      rintro admits rfl _ within
      obtain rfl : other = client := Served.client_of_admits admits
      have fresh : admittedWithin other asked start past = [] := by
        rw [List.eq_nil_iff_forall_not_mem]
        intro served member
        obtain ⟨found, earlierAdmits, earlierPolicy, notBefore, _⟩ :=
          mem_admittedWithin.mp member
        have nowLive : now.instant ≤ served.expiry := by
          rw [Served.expiry, earlierPolicy]
          simp only at within ⊢
          omega
        obtain ⟨hit, held, notEarlier⟩ := trace.hit_held (earlierPolicy ▸ pastMixed) found
          earlierAdmits fun later member =>
            Int.le_trans (ordered later member).instant_le nowLive
        obtain ⟨swept, window, before, slid, _⟩ := windows_hit_same answer
        have intact := trace.swept_of_live ordered before found earlierAdmits nowLive
        rw [hitsOf, ← intact] at held
        have counted : hit ∈ (swept.getD {}).hits.filter (asked.counts now) := by
          rw [List.mem_filter]
          refine ⟨held, ?_⟩
          simp only [Policy.counts, decide_eq_true_eq]
          simp only at within
          omega
        have room := (hitWindow_eq_ok slid).1.allowed.mp (Served.allowed_of_admits admits)
        have := List.length_pos_of_mem counted
        simp only at limit
        omega
      simp only at limit
      rw [fresh, List.length_nil, limit]
      exact Int.zero_lt_one

/-! ## Budgets that fail -/

/-- Far from either end of the range of years, hits under ordinary policies do not leave it. -/
theorem fits_of_ordinary {sweepMicros : Int} {policy : Policy} {now : Moment}
    (ordinary : policy.Ordinary) (sweep : sweepMicros.natAbs ≤ longestSpan)
    (low : longestSpan ≤ now.wall)
    (high : now.wall + longestSpan < (CalendarDate.daysBeforeYear 10000 * microsPerDay : Nat)) :
    Fits sweepMicros policy now := by
  have bounded := ordinary.bounded
  refine ⟨?_, ?_, ?_⟩
  · exact Moment.subtractSeconds_succeeds ordinary.known (by omega) (by omega)
  · exact Moment.addSeconds_succeeds ordinary.known (by omega) (by omega)
  · exact Moment.addMicros_succeeds (by omega) (by omega)

/-- A client may use up a whole limit at once. -/
theorem trace_of_burst {sweepMicros : Int} (client : String) {policy : Policy} {now : Moment}
    (fits : Fits sweepMicros policy now) (count : Nat) (limit : (count : Int) ≤ policy.limit) :
    ∃ past store, Trace sweepMicros past store ∧ past.length = count ∧
      ∀ served ∈ past, served.admits client = true ∧ served.policy = policy ∧
        served.now = now := by
  induction count with
  | zero => exact ⟨[], _, .start, rfl, by simp⟩
  | succ count induction =>
      obtain ⟨past, store, trace, length, alike⟩ := induction (by omega)
      have ordered : ∀ served ∈ past, served.now.NotAfter now := by
        intro served found
        rw [(alike served found).2.2]
        exact .refl now
      have single : ∀ served ∈ past, served.client = client →
          served.policy.windowSeconds = policy.windowSeconds := by
        intro served found _
        rw [(alike served found).2.1]
      obtain ⟨decision, after, answer⟩ := trace.hit_succeeds ordered single fits
      have allowed : decision.allowed = true := by
        have wide : ∀ served ∈ past, served.client = client →
            policy.windowSeconds.span ≤ served.policy.windowSeconds.span := by
          intro served found own
          exact Int.le_of_eq (congrArg Quantity.span (single served found own).symm)
        rw [(trace.follows_history ordered wide answer).allowed]
        have counted : ((admitted client past).filter (policy.counts now)).length ≤
            past.length := by
          calc ((admitted client past).filter (policy.counts now)).length
              ≤ (admitted client past).length := List.length_filter_le ..
            _ = (past.filter (Served.admits client)).length := List.length_map ..
            _ ≤ past.length := List.length_filter_le ..
        omega
      refine ⟨_, after, .hit trace ordered answer, by simp [length], ?_⟩
      intro served found
      rcases List.mem_append.mp found with old | new
      · exact alike served old
      · rw [List.mem_singleton.mp new]
        exact ⟨by simp [Served.admits, allowed], rfl, rfl⟩

/-- A hit that sees none of the hits of its client keeps no other, and is admitted if the limit is
at least one. -/
theorem hitsOf_of_blind {store after : MemoryWindows} {client : String} {policy : Policy}
    {now : Moment} {decision : Decision}
    (blind : ∀ hit ∈ store.hitsOf client, policy.counts now hit = false)
    (answer : store.hit client policy now = (.ok decision, after)) :
    after.hitsOf client = if 0 < policy.limit then [now] else [] := by
  obtain ⟨swept, window, before, slid, stored⟩ := windows_hit_same answer
  obtain ⟨follows, kept, _⟩ := hitWindow_eq_ok slid
  have nothing : (swept.getD {}).hits.filter (policy.counts now) = [] := by
    rw [List.filter_eq_nil_iff]
    intro hit found
    rcases before with rfl | ⟨rfl, _⟩
    · simp [blind hit found]
    · simp at found
  rw [nothing] at follows kept
  have allowed := follows.allowed
  rw [List.length_nil] at allowed
  rw [hitsOf, stored, Option.getD_some, kept, List.nil_append]
  by_cases room : 0 < policy.limit
  · rw [if_pos (allowed.mpr room), if_pos room]
  · rw [if_neg fun positive => room (allowed.mp positive), if_neg room]

/-- A hit is admitted if its client has fewer hits than the limit, whether they count or not. -/
theorem allowed_of_few {store after : MemoryWindows} {client : String} {policy : Policy}
    {now : Moment} {decision : Decision}
    (few : ((store.hitsOf client).length : Int) < policy.limit)
    (answer : store.hit client policy now = (.ok decision, after)) : decision.allowed = true := by
  obtain ⟨swept, window, before, slid, _⟩ := windows_hit_same answer
  rw [(hitWindow_eq_ok slid).1.allowed]
  have counted : ((swept.getD {}).hits.filter (policy.counts now)).length ≤
      (store.hitsOf client).length := by
    rcases before with rfl | ⟨rfl, _⟩
    · exact List.length_filter_le ..
    · simp
  omega

/-- A hit that comes after all earlier ones have left its window makes the store forget them. -/
theorem trace_of_pruning {sweepMicros : Int} {past : List Served} {store : MemoryWindows}
    (trace : Trace sweepMicros past store) (client : String) {policy : Policy} {now : Moment}
    (ordered : ∀ served ∈ past, served.now.NotAfter now)
    (left : ∀ served ∈ past, served.now.instant < now.instant - policy.windowSeconds.span)
    (fits : Fits sweepMicros policy now) :
    ∃ decision after, Trace sweepMicros (past ++ [⟨client, policy, now, decision⟩]) after ∧
      after.hitsOf client = if 0 < policy.limit then [now] else [] := by
  have blind : ∀ hit ∈ store.hitsOf client, policy.counts now hit = false := by
    intro hit stored
    obtain ⟨served, found, rfl⟩ := List.mem_map.mp (trace.hitsOf_subset client hit stored)
    have gone := left served (List.mem_filter.mp found).1
    simp only [Policy.counts, decide_eq_false_iff_not]
    omega
  rw [← trace.sweepMicros_eq] at fits
  obtain ⟨decision, after, answer⟩ : ∃ decision after,
      store.hit client policy now = (.ok decision, after) := by
    apply hit_succeeds (trace.alikeTo ordered) fits
    intro hit kept counts
    rw [blind hit kept] at counts
    cases counts
  exact ⟨decision, after, .hit trace ordered answer, hitsOf_of_blind blind answer⟩

/-- A hit is admitted if the store keeps fewer hits of its client than the limit, all of them from
the same moment. -/
theorem trace_of_room {sweepMicros : Int} {past : List Served} {store : MemoryWindows}
    (trace : Trace sweepMicros past store) {client : String} {policy : Policy} {now : Moment}
    (ordered : ∀ served ∈ past, served.now.NotAfter now)
    (few : ((store.hitsOf client).length : Int) < policy.limit)
    (recent : ∀ hit ∈ store.hitsOf client, hit = now) (fits : Fits sweepMicros policy now) :
    ∃ decision after, Trace sweepMicros (past ++ [⟨client, policy, now, decision⟩]) after ∧
      decision.allowed = true := by
  have movable : ∃ resetAt, now.addSeconds policy.windowSeconds = .ok resetAt := fits.resetAt
  rw [← trace.sweepMicros_eq] at fits
  obtain ⟨decision, after, answer⟩ : ∃ decision after,
      store.hit client policy now = (.ok decision, after) := by
    apply hit_succeeds (trace.alikeTo ordered) fits
    intro hit kept _
    rw [recent hit kept]
    exact movable
  exact ⟨decision, after, .hit trace ordered answer, allowed_of_few few answer⟩

theorem fits_middle {sweepMicros : Int} {policy : Policy} (ordinary : policy.Ordinary)
    (sweep : sweepMicros.natAbs ≤ longestSpan) {wait : Nat}
    (short : (wait : Int) ≤ longestSpan) : Fits sweepMicros policy (.middle wait) := by
  have range : CalendarDate.daysBeforeYear 10000 * microsPerDay = 315537897600000000 := by decide
  have span : longestSpan = 31622400000000000 := by decide
  apply fits_of_ordinary ordinary sweep <;> rw [Moment.wall_middle short] <;> omega

/-- Where a bucket undercuts another one, some client exceeds the budget of the other one: the
client uses up the budget, waits until a hit in the first bucket prunes it all away, and then hits
the other bucket once more. -/
theorem trace_of_undercut {sweepMicros : Int} {short policy : Policy}
    (undercuts : short.Undercuts policy) (limit : 1 ≤ policy.limit)
    (shortOrdinary : short.Ordinary) (ordinary : policy.Ordinary)
    (sweep : sweepMicros.natAbs ≤ longestSpan) (client : String) :
    ∃ past store start, Trace sweepMicros past store ∧
      (∀ served ∈ past, served.policy = policy ∨ served.policy = short) ∧
      policy.limit < ((admittedWithin client policy start past).length : Int) := by
  have shorter := undercuts.shorter
  have nonneg := undercuts.nonneg
  have bounded := ordinary.bounded
  obtain ⟨wait, waited, waitWithin⟩ : ∃ wait : Nat, short.windowSeconds.span < wait ∧
      (wait : Int) ≤ policy.windowSeconds.span :=
    ⟨(short.windowSeconds.span + 1).toNat, by omega, by omega⟩
  have waitShort : (wait : Int) ≤ longestSpan := by omega
  let first := Moment.middle 0
  let second := Moment.middle wait
  have firstInstant : first.instant = 150000000000000000 := Moment.instant_middle (by decide)
  have secondInstant : second.instant = 150000000000000000 + wait :=
    Moment.instant_middle waitShort
  have inOrder : first.NotAfter second := ⟨rfl, by omega⟩
  have firstFits : Fits sweepMicros policy first := fits_middle ordinary sweep (by decide)
  obtain ⟨past, store, trace, length, burst⟩ :=
    trace_of_burst client firstFits policy.limit.toNat (by omega)
  have burstOrdered : ∀ served ∈ past, served.now.NotAfter second := by
    intro served found
    rw [(burst served found).2.2]
    exact inOrder
  have burstLeft : ∀ served ∈ past,
      served.now.instant < second.instant - short.windowSeconds.span := by
    intro served found
    rw [(burst served found).2.2]
    omega
  obtain ⟨pruned, between, prunedTrace, left⟩ :=
    trace_of_pruning trace client burstOrdered burstLeft
      (fits_middle shortOrdinary sweep waitShort)
  have lastOrdered : ∀ served ∈ past ++ [⟨client, short, second, pruned⟩],
      served.now.NotAfter second := by
    intro served found
    rcases List.mem_append.mp found with old | new
    · exact burstOrdered served old
    · rw [List.mem_singleton.mp new]
      exact .refl second
  have few : ((between.hitsOf client).length : Int) < policy.limit := by
    rw [left]
    have room := undercuts.room
    split <;> simp only [List.length_singleton, List.length_nil] <;> omega
  have recent : ∀ hit ∈ between.hitsOf client, hit = second := by
    rw [left]
    split <;> simp
  obtain ⟨further, final, furtherTrace, allowed⟩ :=
    trace_of_room prunedTrace lastOrdered few recent (fits_middle ordinary sweep waitShort)
  refine ⟨_, final, first.instant, furtherTrace, ?_, ?_⟩
  · intro served found
    simp only [List.mem_append, List.mem_singleton] at found
    rcases found with (old | rfl) | rfl
    · exact .inl (burst served old).2.1
    · exact .inr rfl
    · exact .inl rfl
  · have burstCounted : admittedWithin client policy first.instant past = past := by
      apply admittedWithin_eq_self
      intro served found
      obtain ⟨admits, samePolicy, sameTime⟩ := burst served found
      refine ⟨admits, samePolicy, ?_⟩
      rw [sameTime]
      omega
    have lastCounted : admittedWithin client policy first.instant
        [⟨client, policy, second, further⟩] = [⟨client, policy, second, further⟩] := by
      apply admittedWithin_eq_self
      intro served found
      obtain rfl := List.mem_singleton.mp found
      exact ⟨by simp [Served.admits, allowed], rfl, inOrder.instant_le, by simp only; omega⟩
    rw [admittedWithin_append, admittedWithin_append, burstCounted, lastCounted]
    simp only [List.length_append, List.length_singleton]
    omega

end MemoryWindows

namespace Rules

/-- A budget holds in every run if, within the window of the policy, no client is ever admitted more
often than the limit, whatever else the client asks for. -/
def KeepsBudget (rules : Rules) (sweepMicros : Int) (policy : Policy) : Prop :=
  ∀ past store, MemoryWindows.Trace sweepMicros past store →
    (∀ served ∈ past, ∃ path, served.policy = rules.policyFor path) →
    ∀ client start, ((admittedWithin client policy start past).length : Int) ≤ policy.limit

private theorem keepsBudget_of_not_undercut {rules : Rules} {policy : Policy}
    (limit : 1 ≤ policy.limit)
    (intact : ∀ other ∈ rules.policies, ¬ other.Undercuts policy) (sweepMicros : Int) :
    rules.KeepsBudget sweepMicros policy := by
  intro past store trace byPath client start
  have harmless : ∀ served ∈ past, ¬ served.policy.Undercuts policy := by
    intro served found
    obtain ⟨path, reached⟩ := byPath served found
    exact intact served.policy (mem_policies_iff.mpr ⟨path, reached⟩)
  by_cases negative : policy.windowSeconds.span < 0
  · have nothing : admittedWithin client policy start past = [] := by
      rw [List.eq_nil_iff_forall_not_mem]
      intro served member
      obtain ⟨_, _, _, notEarlier, within⟩ := MemoryWindows.mem_admittedWithin.mp member
      omega
    rw [nothing, List.length_nil]
    omega
  · by_cases single : policy.limit = 1
    · apply trace.budget_of_single single
      intro served found _
      have calm := harmless served found
      rcases Int.lt_or_le served.policy.windowSeconds.span policy.windowSeconds.span with
        shorter | wide
      · right
        exact Int.not_lt.mp fun closed => calm ⟨shorter, by omega, .inr (by omega)⟩
      · exact .inl wide
    · apply trace.budget_of_wide (by omega)
      intro served found _
      have calm := harmless served found
      exact Int.not_lt.mp fun shorter => calm ⟨shorter, by omega, .inl (by omega)⟩

/-- A budget holds in every run if and only if no bucket undercuts it. -/
theorem keepsBudget_iff {rules : Rules} {policy : Policy} {sweepMicros : Int}
    (ordinary : ∀ other ∈ rules.policies, other.Ordinary)
    (sweep : sweepMicros.natAbs ≤ longestSpan) (member : policy ∈ rules.policies)
    (limit : 1 ≤ policy.limit) :
    rules.KeepsBudget sweepMicros policy ↔
      ∀ other ∈ rules.policies, ¬ other.Undercuts policy := by
  constructor
  · intro keeps other otherMember undercuts
    obtain ⟨past, store, start, trace, mixed, exceeded⟩ :=
      MemoryWindows.trace_of_undercut undercuts limit (ordinary other otherMember)
        (ordinary policy member) sweep "client"
    have byPath : ∀ served ∈ past, ∃ path, served.policy = rules.policyFor path := by
      intro served found
      apply mem_policies_iff.mp
      rcases mixed served found with same | same
      · rwa [same]
      · rwa [same]
    have := keeps past store trace byPath "client" start
    omega
  · intro intact
    exact keepsBudget_of_not_undercut limit intact sweepMicros

/-- With a general window of one hour, the budget of registrations holds. -/
theorem keepsBudget_registration_of_hour :
    (ofOptions {} { windowSeconds := some hourSeconds }).KeepsBudget (60 * microsPerSecond)
      ⟨5, hourSeconds⟩ := by
  refine (keepsBudget_iff ?_ (by decide) (by decide) (by decide)).mpr (by decide)
  intro other member
  simp only [policies, List.mem_cons, List.not_mem_nil, or_false] at member
  rcases member with rfl | rfl | rfl | rfl <;> exact Policy.ordinary_of_whole (by decide)

/-- With a general window of one minute, a client registers three times at a limit of two: twice at
once, and once more a minute and a second later, after a general request. -/
theorem not_keepsBudget_registration_of_minute :
    ¬ (ofOptions {} { registrationLimit := some 2 }).KeepsBudget (60 * microsPerSecond)
      ⟨2, hourSeconds⟩ := by
  intro keeps
  have empty : MemoryWindows.Trace (60 * microsPerSecond) [] _ := .start
  have once := empty.next "a" ⟨2, hourSeconds⟩ (.middle 0) (by decide) rfl
  have twice := once.next "a" ⟨2, hourSeconds⟩ (.middle 0) (by decide) rfl
  have pruned := twice.next "a" ⟨100, .whole 60⟩ (.middle 61000000) (by decide) rfl
  have again := pruned.next "a" ⟨2, hourSeconds⟩ (.middle 61000000) (by decide) rfl
  have within := keeps _ _ again (fun served found =>
    mem_policies_iff.mp (by revert served; decide +kernel)) "a" (Moment.middle 0).instant
  revert within
  decide +kernel

end Rules

end AccessGate
