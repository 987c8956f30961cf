import AccessGate.Proofs.RateLimit.SlidingWindow

/-!
# What a store keeps

Sweeps come late, at most once in an interval and only with a hit, and they look at the time of
expiry alone.  Still a store keeps no client for longer than an interval after its hits have stopped
to count, and of a client that it keeps only the latest admitted hits, never more than one of its
limits allows.

Two invariants carry this along a run.  `Records` ties a window to the hits of its client, and
`Paced` ties all windows to the time that is planned for the next sweep.
-/

namespace AccessGate

/-- The members of a list for which a condition holds are its last ones, if the condition holds for
all that follow one of them. -/
theorem filter_suffix_of_pairwise {α : Type} {condition : α → Bool} {items : List α}
    (lasting : items.Pairwise fun earlier later => condition earlier = true →
      condition later = true) : items.filter condition <:+ items := by
  induction items with
  | nil => exact List.suffix_rfl
  | cons item items induction =>
      rw [List.pairwise_cons] at lasting
      cases holds : condition item with
      | false =>
          rw [List.filter_cons_of_neg (by simp [holds])]
          exact (induction lasting.2).trans (List.suffix_cons item items)
      | true =>
          have all : ∀ other ∈ item :: items, condition other = true := by
            rw [List.forall_mem_cons]
            exact ⟨holds, fun other member => lasting.1 other member holds⟩
          exact ⟨[], List.filter_eq_self.mpr all⟩

namespace MemoryWindows

/-! ## A window and the hits of its client -/

/-- A window keeps the latest admitted hits of its client, no more than a limit of the client
allows.  It expires no earlier than any of them, and no later than some hit of the client. -/
structure Records (past : List Served) (client : String) (window : ClientWindow) : Prop where
  kept : ∃ recorded, recorded <:+ past.filter (Served.admits client) ∧
    window.hits = recorded.map Served.now ∧
    ∀ served ∈ recorded, ∃ expiresAt, window.expiresAt = some expiresAt ∧
      served.expiry ≤ expiresAt.instant
  limited : window.hits = [] ∨ ∃ served ∈ past, served.client = client ∧
    (window.hits.length : Int) ≤ served.policy.limit
  owned : ∀ expiresAt, window.expiresAt = some expiresAt →
    ∃ served ∈ past, served.client = client ∧ expiresAt.instant ≤ served.expiry

section Records

variable {past : List Served} {client : String} {window after : ClientWindow}

theorem records_empty (past : List Served) (client : String) : Records past client {} where
  kept := ⟨[], List.nil_suffix, rfl, by simp⟩
  limited := .inl rfl
  owned := by
    intro expiresAt settled
    cases settled

theorem Records.other (records : Records past client window) {served : Served}
    (different : served.client ≠ client) : Records (past ++ [served]) client window where
  kept := by
    have unadmitted : served.admits client = false := by simp [Served.admits, different]
    rw [List.filter_append, List.filter_cons_of_neg (by simp [unadmitted]), List.filter_nil,
      List.append_nil]
    exact records.kept
  limited := by
    rcases records.limited with empty | ⟨earlier, found, own, few⟩
    · exact .inl empty
    · exact .inr ⟨earlier, List.mem_append_left _ found, own, few⟩
  owned := by
    intro expiresAt settled
    obtain ⟨earlier, found, own, reached⟩ := records.owned expiresAt settled
    exact ⟨earlier, List.mem_append_left _ found, own, reached⟩

theorem Records.hits_notAfter (records : Records past client window) {now : Moment}
    (ordered : ∀ served ∈ past, served.now.NotAfter now) :
    ∀ hit ∈ window.hits, hit.NotAfter now := by
  obtain ⟨recorded, suffix, hits, _⟩ := records.kept
  intro hit found
  rw [hits] at found
  obtain ⟨served, member, rfl⟩ := List.mem_map.mp found
  exact ordered served (List.mem_filter.mp (suffix.mem member)).1

variable {policy : Policy} {now : Moment} {decision : Decision}

private theorem counting_suffix (sorted : (past.filter (Served.admits client)).Pairwise
      fun earlier later => earlier.now.instant ≤ later.now.instant)
    {recorded : List Served} (suffix : recorded <:+ past.filter (Served.admits client)) :
    recorded.filter (fun served => policy.counts now served.now) <:+
      past.filter (Served.admits client) := by
  refine (filter_suffix_of_pairwise ?_).trans suffix
  apply (sorted.sublist suffix.sublist).imp
  intro earlier later order counts
  simp only [Policy.counts, decide_eq_true_eq] at counts ⊢
  exact Int.le_trans counts order

theorem Records.kept_hit (records : Records past client window)
    (sorted : (past.filter (Served.admits client)).Pairwise
      fun earlier later => earlier.now.instant ≤ later.now.instant)
    (answer : hitWindow window policy now = (.ok decision, after)) :
    ∃ recorded : List Served, recorded <:+
        List.filter (Served.admits client) (past ++ [⟨client, policy, now, decision⟩]) ∧
      after.hits = recorded.map Served.now ∧
      ∀ served ∈ recorded, ∃ expiresAt, after.expiresAt = some expiresAt ∧
        served.expiry ≤ expiresAt.instant := by
  obtain ⟨_, stored, expiresAt, settled, calculated⟩ := hitWindow_eq_ok answer
  obtain ⟨reached, moved, notEarlier, later, _⟩ := expiry_eq_ok calculated
  obtain ⟨recorded, suffix, hits, expires⟩ := records.kept
  have counted : window.hits.filter (policy.counts now) =
      (recorded.filter fun served => policy.counts now served.now).map Served.now := by
    rw [hits, List.filter_map]
    rfl
  have counting : recorded.filter (fun served => policy.counts now served.now) <:+
      past.filter (Served.admits client) := counting_suffix sorted suffix
  -- A hit that was recorded before expires no later than the window did then.
  have earlier : ∀ served ∈ recorded.filter (fun served => policy.counts now served.now),
      ∃ expiresAt, after.expiresAt = some expiresAt ∧ served.expiry ≤ expiresAt.instant := by
    intro served member
    obtain ⟨known, knownSettled, before⟩ := expires served (List.mem_filter.mp member).1
    exact ⟨expiresAt, settled, Int.le_trans before (later known knownSettled)⟩
  cases allowed : decision.allowed with
  | false =>
      refine ⟨recorded.filter fun served => policy.counts now served.now, ?_, ?_, earlier⟩
      · simpa [Served.admits, allowed] using counting
      · simpa [allowed, counted] using stored
  | true =>
      have instant := (Moment.addSeconds_eq_ok moved).1
      rw [stored, if_pos allowed, List.getLast?_concat, Option.getD_some] at instant
      refine ⟨recorded.filter (fun served => policy.counts now served.now) ++
        [⟨client, policy, now, decision⟩], ?_, ?_, ?_⟩
      · obtain ⟨front, equality⟩ := counting
        refine ⟨front, ?_⟩
        simp [← List.append_assoc, equality, Served.admits, allowed]
      · simpa [allowed, counted] using stored
      · intro served member
        rcases List.mem_append.mp member with old | new
        · exact earlier served old
        · rw [List.mem_singleton.mp new]
          rw [instant] at notEarlier
          exact ⟨expiresAt, settled, notEarlier⟩

theorem Records.limited_hit (records : Records past client window)
    (answer : hitWindow window policy now = (.ok decision, after)) :
    after.hits = [] ∨ ∃ served ∈ past ++ [⟨client, policy, now, decision⟩],
      served.client = client ∧ (after.hits.length : Int) ≤ served.policy.limit := by
  obtain ⟨follows, stored, _⟩ := hitWindow_eq_ok answer
  cases allowed : decision.allowed with
  | true =>
      refine .inr ⟨⟨client, policy, now, decision⟩, by simp, rfl, ?_⟩
      have room : ((window.hits.filter (policy.counts now)).length : Int) < policy.limit :=
        follows.allowed.mp allowed
      change _ ≤ policy.limit
      rw [stored, if_pos allowed, List.length_append, List.length_singleton]
      omega
  | false =>
      rw [stored, if_neg (Bool.eq_false_iff.mp allowed), List.append_nil]
      rcases records.limited with empty | ⟨served, found, own, few⟩
      · exact .inl (by rw [empty, List.filter_nil])
      · refine .inr ⟨served, List.mem_append_left _ found, own, ?_⟩
        have fewer := List.length_filter_le (policy.counts now) window.hits
        omega

theorem Records.owned_hit (records : Records past client window)
    (ordered : ∀ served ∈ past, served.now.NotAfter now)
    (answer : hitWindow window policy now = (.ok decision, after)) :
    ∀ expiresAt, after.expiresAt = some expiresAt →
      ∃ served ∈ past ++ [⟨client, policy, now, decision⟩],
        served.client = client ∧ expiresAt.instant ≤ served.expiry := by
  obtain ⟨_, stored, expiresAt, settled, calculated⟩ := hitWindow_eq_ok answer
  obtain ⟨reached, moved, _, _, origin⟩ := expiry_eq_ok calculated
  intro known same
  obtain rfl := Option.some.inj (settled.symm.trans same)
  rcases origin with before | rfl
  · obtain ⟨served, found, own, bound⟩ := records.owned expiresAt before
    exact ⟨served, List.mem_append_left _ found, own, bound⟩
  · refine ⟨⟨client, policy, now, decision⟩, by simp, rfl, ?_⟩
    -- The newest hit of the window may be an earlier one, if this one was rejected.
    have newest : (after.hits.getLast?.getD now).instant ≤ now.instant := by
      cases last : after.hits.getLast? with
      | none => exact Int.le_refl _
      | some hit =>
          have member := List.mem_of_getLast? last
          rw [stored, List.mem_append] at member
          rcases member with old | new
          · exact (records.hits_notAfter ordered hit (List.mem_filter.mp old).1).instant_le
          · split at new
            · rw [List.mem_singleton.mp new]
              exact Int.le_refl _
            · cases new
    rw [Served.expiry, (Moment.addSeconds_eq_ok moved).1]
    exact Int.add_le_add_right newest _

theorem Records.hit (records : Records past client window)
    (sorted : (past.filter (Served.admits client)).Pairwise
      fun earlier later => earlier.now.instant ≤ later.now.instant)
    (ordered : ∀ served ∈ past, served.now.NotAfter now)
    (answer : hitWindow window policy now = (.ok decision, after)) :
    Records (past ++ [⟨client, policy, now, decision⟩]) client after where
  kept := records.kept_hit sorted answer
  limited := records.limited_hit answer
  owned := records.owned_hit ordered answer

end Records

/-! ## Runs -/

variable {sweepMicros : Int} {past : List Served} {store : MemoryWindows}

theorem Trace.filter_ordered (trace : Trace sweepMicros past store) (client : String) :
    (past.filter (Served.admits client)).Pairwise
      fun earlier later => earlier.now.instant ≤ later.now.instant := by
  have ordered := trace.admitted_ordered client
  rwa [admitted, List.pairwise_map] at ordered

theorem Trace.records (trace : Trace sweepMicros past store) {client : String}
    {window : ClientWindow} (present : store.windows.get? client = some window) :
    Records past client window ∧ window.expiresAt.isSome = true := by
  induction trace generalizing window with
  | start => cases present
  | @hit past store after other policy now decision trace ordered answer induction =>
      by_cases same : other = client
      · subst same
        obtain ⟨swept, hitBy, before, slid, stored⟩ := windows_hit_same answer
        obtain rfl := Option.some.inj (stored.symm.trans present)
        have records : Records past other (swept.getD {}) := by
          rcases before with rfl | ⟨rfl, _⟩
          · cases found : store.windows.get? other with
            | none => exact records_empty past other
            | some known => exact (induction found).1
          · exact records_empty past other
        refine ⟨records.hit (trace.filter_ordered other) ordered slid, ?_⟩
        obtain ⟨_, _, expiresAt, settled, _⟩ := hitWindow_eq_ok slid
        rw [settled, Option.isSome_some]
      · rcases windows_hit_other answer same with kept | ⟨gone, _⟩
        · obtain ⟨records, settled⟩ := induction (kept.symm.trans present)
          exact ⟨records.other same, settled⟩
        · rw [gone] at present
          cases present

/-- The next sweep is planned for one interval after a hit, and not before any hit.  Every client that
is kept has made a hit that counts at least up to an interval before the next sweep. -/
structure Paced (sweepMicros : Int) (past : List Served) (store : MemoryWindows)
    (planned : Moment) : Prop where
  sweeper : ∃ served ∈ past, planned.instant = served.now.instant + sweepMicros
  ahead : ∀ served ∈ past, served.now.instant ≤ planned.instant
  recent : ∀ client window, store.windows.get? client = some window →
    ∃ served ∈ past, served.client = client ∧ planned.instant - sweepMicros ≤ served.expiry

private theorem not_lapsed_of_evict {now : Moment} {left : Table String ClientWindow}
    (evicted : evict now store.windows store.windows.entries = (.ok (), left)) {client : String}
    {window : ClientWindow} (present : left.get? client = some window) :
    store.windows.get? client = some window ∧ ¬ window.Lapsed now := by
  have known : store.windows.get? client = some window := by
    rcases evict_eq_ok evicted client with same | ⟨gone, _⟩
    · exact same.symm.trans present
    · rw [gone] at present
      cases present
  refine ⟨known, ?_⟩
  intro lapsed
  have listed := (store.windows.get?_eq_some_iff client window).mp known
  rw [evict_lapsed evicted listed lapsed] at present
  cases present

section Hit

variable {client : String} {policy : Policy} {now planned : Moment} {decision : Decision}
  {window : ClientWindow}

/-- Before the next sweep a hit only adds to what is kept. -/
theorem Paced.hit (paced : Paced sweepMicros past store planned)
    (ordered : ∀ served ∈ past, served.now.NotAfter now) (early : now.instant < planned.instant)
    (forward : 0 ≤ policy.windowSeconds.span) :
    Paced sweepMicros (past ++ [⟨client, policy, now, decision⟩])
      { store with windows := store.windows.put client window } planned := by
  obtain ⟨sweeper, found, interval⟩ := paced.sweeper
  refine ⟨⟨sweeper, List.mem_append_left _ found, interval⟩, ?_, ?_⟩
  · rw [List.forall_mem_append, List.forall_mem_singleton]
    exact ⟨paced.ahead, Int.le_of_lt early⟩
  · intro other kept present
    by_cases same : client = other
    · refine ⟨⟨client, policy, now, decision⟩, by simp, same, ?_⟩
      have behind := (ordered sweeper found).instant_le
      simp only [Served.expiry]
      omega
    · rw [Table.get?_put, if_neg same] at present
      obtain ⟨served, member, own, recent⟩ := paced.recent other kept present
      exact ⟨served, List.mem_append_left _ member, own, recent⟩

/-- A sweep leaves only clients with a hit that still counts. -/
theorem paced_of_evict (trace : Trace sweepMicros past store) {left : Table String ClientWindow}
    (moved : now.addMicros sweepMicros = .ok planned)
    (evicted : evict now store.windows store.windows.entries = (.ok (), left))
    (patient : 0 ≤ sweepMicros) (ordered : ∀ served ∈ past, served.now.NotAfter now)
    (forward : 0 ≤ policy.windowSeconds.span) :
    Paced sweepMicros (past ++ [⟨client, policy, now, decision⟩])
      { store with windows := left.put client window, nextSweep := some planned } planned := by
  have instant := (Moment.addMicros_eq_ok moved).1
  refine ⟨⟨⟨client, policy, now, decision⟩, by simp, instant⟩, ?_, ?_⟩
  · rw [List.forall_mem_append, List.forall_mem_singleton]
    constructor
    · intro served found
      have behind := (ordered served found).instant_le
      omega
    · change now.instant ≤ planned.instant
      omega
  · intro other kept present
    by_cases same : client = other
    · refine ⟨⟨client, policy, now, decision⟩, by simp, same, ?_⟩
      simp only [Served.expiry]
      omega
    · rw [Table.get?_put, if_neg same] at present
      obtain ⟨known, live⟩ := not_lapsed_of_evict evicted present
      obtain ⟨records, settled⟩ := trace.records known
      obtain ⟨expiresAt, settled⟩ := Option.isSome_iff_exists.mp settled
      obtain ⟨served, found, own, reached⟩ := records.owned expiresAt settled
      refine ⟨served, List.mem_append_left _ found, own, ?_⟩
      have late : now.instant ≤ expiresAt.instant :=
        Int.not_lt.mp fun early => live ⟨expiresAt, settled, early⟩
      omega

end Hit

theorem Trace.paced (trace : Trace sweepMicros past store) (patient : 0 ≤ sweepMicros)
    (forward : ∀ served ∈ past, 0 ≤ served.policy.windowSeconds.span) :
    (past = [] ∧ store.nextSweep = none) ∨
      ∃ planned, store.nextSweep = some planned ∧ Paced sweepMicros past store planned := by
  induction trace with
  | start => exact .inl ⟨rfl, rfl⟩
  | @hit past store after client policy now decision trace ordered answer induction =>
      right
      rw [List.forall_mem_append] at forward
      have ownForward : 0 ≤ policy.windowSeconds.span := forward.2 ⟨client, policy, now, decision⟩
        (List.mem_singleton_self _)
      obtain ⟨swept, window, sweptEquality, _, rfl⟩ := hit_eq_ok answer
      rcases sweep_cases sweptEquality with
        ⟨rfl, planned, known, early⟩ | ⟨left, planned, moved, evicted, rfl⟩
      · rcases induction forward.1 with ⟨_, unplanned⟩ | ⟨other, same, paced⟩
        · rw [unplanned] at known
          cases known
        · obtain rfl := Option.some.inj (same.symm.trans known)
          exact ⟨other, known, paced.hit ordered early ownForward⟩
      · rw [trace.sweepMicros_eq] at moved
        refine ⟨planned, rfl, paced_of_evict trace moved evicted patient ordered ownForward⟩

/-- After a hit, every client that the store keeps has made a hit that counted until at most one
sweep interval ago.  What is kept of the client are its latest admitted hits in order of time, no
more than the greatest limit of its hits and none if that is not positive, and the window expires no
earlier than any of them stops to count. -/
theorem Trace.retains_recent {last : Served} (trace : Trace sweepMicros (past ++ [last]) store)
    (patient : 0 ≤ sweepMicros)
    (forward : ∀ served ∈ past ++ [last], 0 ≤ served.policy.windowSeconds.span)
    (client : String) {window : ClientWindow}
    (present : store.windows.get? client = some window) :
    (∃ served ∈ past ++ [last], served.client = client ∧
      last.now.instant - sweepMicros ≤
        served.now.instant + served.policy.windowSeconds.span) ∧
    (window.hits.Pairwise fun earlier later => earlier.instant ≤ later.instant) ∧
    (window.hits = [] ∨ ∃ served ∈ past ++ [last], served.client = client ∧
      (window.hits.length : Int) ≤ served.policy.limit) ∧
    ∃ recorded expiresAt, recorded <:+ (past ++ [last]).filter (Served.admits client) ∧
      window.hits = recorded.map Served.now ∧ window.expiresAt = some expiresAt ∧
      ∀ served ∈ recorded,
        served.now.instant + served.policy.windowSeconds.span ≤ expiresAt.instant := by
  obtain ⟨records, settled⟩ := trace.records present
  obtain ⟨expiresAt, settled⟩ := Option.isSome_iff_exists.mp settled
  obtain ⟨recorded, suffix, hits, expires⟩ := records.kept
  refine ⟨?_, ?_, records.limited, recorded, expiresAt, suffix, hits, settled, ?_⟩
  · rcases trace.paced patient forward with ⟨empty, _⟩ | ⟨planned, _, paced⟩
    · simp at empty
    · obtain ⟨served, found, own, recent⟩ := paced.recent client window present
      refine ⟨served, found, own, ?_⟩
      have ahead := paced.ahead last (by simp)
      rw [Served.expiry] at recent
      omega
  · rw [hits, List.pairwise_map]
    exact (trace.filter_ordered client).sublist suffix.sublist
  · intro served member
    obtain ⟨known, same, reached⟩ := expires served member
    obtain rfl := Option.some.inj (settled.symm.trans same)
    exact reached

/-- A rejected hit under a longer window keeps the window of its client through a sweep that another
client triggers. -/
theorem Trace.retains_recent_of_rejection :
    ∃ past last store window, Trace (60 * microsPerSecond) (past ++ [last]) store ∧
      past.length = 2 ∧ store.windows.get? "ann" = some window ∧
      (window.hits = [] ∨ ∃ served ∈ past ++ [last], served.client = "ann" ∧
        (window.hits.length : Int) ≤ served.policy.limit) ∧
      ∃ served ∈ past ++ [last], served.client = "ann" ∧
        last.now.instant - 60 * microsPerSecond ≤
          served.now.instant + served.policy.windowSeconds.span := by
  have empty : Trace (60 * microsPerSecond) [] _ := .start
  have admitted := empty.next "ann" ⟨1, .whole 10⟩ (.middle 0) (by decide) rfl
  have rejected := admitted.next "ann" ⟨1, .whole 90⟩ (.middle 5000000) (by decide) rfl
  have trace := rejected.next "bob" ⟨3, .whole 5⟩ (.middle 70000000) (by decide) rfl
  have present := trace.retains_recent (by decide) (by decide) "ann" rfl
  exact ⟨_, _, _, _, trace, rfl, rfl, present.2.2.1, present.1⟩

end MemoryWindows

end AccessGate
