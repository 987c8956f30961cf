import AccessGate.Proofs.RateLimit.Budget

/-!
# Isolation of clients

The hits of other clients decide when a sweep runs, and a sweep judges the window of a client by the
policies of the past.  That does not show to a client as long as no hit looks further back than the
policy did under which an earlier hit was admitted: what a sweep then takes no longer counts.  If it
does look further back, the answer depends on whether another client has triggered a sweep.
-/

namespace AccessGate

/-- A hit that is yet to be answered. -/
structure Hit where
  client : String
  policy : Policy
  now : Moment
  deriving DecidableEq

/-- A policy looks further back than another one that may admit hits. -/
def Policy.Outreaches (policy earlier : Policy) : Prop :=
  1 ≤ earlier.limit ∧ earlier.windowSeconds.span < policy.windowSeconds.span

/-- None of the policies looks further back than another one that may admit hits. -/
def Policy.NoneOutreaches (policies : Policy → Prop) : Prop :=
  ∀ policy earlier, policies policy → policies earlier → ¬ policy.Outreaches earlier

theorem Policy.span_le_of_not_outreaches {policy earlier : Policy}
    (within : ¬ policy.Outreaches earlier) (limit : 1 ≤ earlier.limit) :
    policy.windowSeconds.span ≤ earlier.windowSeconds.span :=
  Int.not_lt.mp fun longer => within ⟨limit, longer⟩

namespace Hit

def counts (hit : Hit) (earlier : Moment) : Bool :=
  hit.policy.counts hit.now earlier

def own (client : String) (hits : List Hit) : List Hit :=
  hits.filter fun hit => hit.client = client

theorem own_cons_same {client : String} {hit : Hit} {hits : List Hit}
    (same : hit.client = client) : own client (hit :: hits) = hit :: own client hits :=
  List.filter_cons_of_pos (by simpa using same)

theorem own_cons_other {client : String} {hit : Hit} {hits : List Hit}
    (other : hit.client ≠ client) : own client (hit :: hits) = own client hits :=
  List.filter_cons_of_neg (by simpa using other)

/-- Every hit comes no earlier than those before it. -/
def InOrder (hits : List Hit) : Prop :=
  hits.Pairwise fun earlier later => earlier.now.NotAfter later.now

/-- No hit looks further back than an earlier one that may be admitted. -/
def Narrowing (hits : List Hit) : Prop :=
  hits.Pairwise fun earlier later => ¬ later.policy.Outreaches earlier.policy

end Hit

/-- The answers to the hits of one client whose hits are never swept out. -/
def Window.answers (kept : List Moment) : List Hit → List (Except TimeError Decision)
  | [] => []
  | hit :: hits =>
      match slide kept hit.policy hit.now with
      | .error failure => .error failure :: answers kept hits
      | .ok (decision, kept) => .ok decision :: answers kept hits

def Answered (answers : List (Except TimeError Decision)) : Prop :=
  ∀ answer ∈ answers, ∃ decision, answer = .ok decision

/-- The answers that one client gets in a run of hits of many clients. -/
def MemoryWindows.answers (store : MemoryWindows) (client : String) :
    List Hit → List (Except TimeError Decision)
  | [] => []
  | hit :: hits =>
      let (answer, after) := store.hit hit.client hit.policy hit.now
      if hit.client = client then answer :: after.answers client hits
      else after.answers client hits

namespace MemoryWindows

variable {store : MemoryWindows} {client : String} {hit : Hit} {hits : List Hit}

theorem answers_own (own : hit.client = client) :
    store.answers client (hit :: hits) =
      (store.hit hit.client hit.policy hit.now).1 ::
        (store.hit hit.client hit.policy hit.now).2.answers client hits := by
  simp only [answers, if_pos own]

theorem answers_other (other : hit.client ≠ client) :
    store.answers client (hit :: hits) =
      (store.hit hit.client hit.policy hit.now).2.answers client hits := by
  simp only [answers, if_neg other]

end MemoryWindows

theorem Decision.Follows.unique {first second : Decision} {policy : Policy}
    {counted : List Moment} {now : Moment} (follows : first.Follows policy counted now)
    (others : second.Follows policy counted now) : first = second := by
  have allowed : first.allowed = second.allowed :=
    Bool.eq_iff_iff.mpr (follows.allowed.trans others.allowed.symm)
  have remaining : first.remaining = second.remaining := by
    rw [follows.remaining, others.remaining, allowed]
  have resetAt : first.resetAt = second.resetAt :=
    Except.ok.inj (follows.resetAt.symm.trans others.resetAt)
  have limit : first.limit = second.limit := follows.limit.trans others.limit.symm
  cases first
  cases second
  simp only at allowed remaining resetAt limit
  rw [allowed, remaining, resetAt, limit]

namespace MemoryWindows

/-! ## Hits that may fail -/

/-- The window of a client, empty where there is none. -/
def windowOf (store : MemoryWindows) (client : String) : ClientWindow :=
  (store.windows.get? client).getD {}

theorem windowOf_put (store : MemoryWindows) (client other : String) (window : ClientWindow) :
    ({ store with windows := store.windows.put other window } : MemoryWindows).windowOf client =
      if other = client then window else store.windowOf client := by
  rw [windowOf, Table.get?_put]
  split
  · rfl
  · rfl

theorem alikeTo_start (sweepMicros : Int) (now : Moment) :
    ({ sweepMicros } : MemoryWindows).AlikeTo now :=
  ⟨by simp, by simp⟩

section Failing

variable {store : MemoryWindows} {now : Moment}

/-- A sweep that fails changes nothing, if all times can be compared. -/
theorem sweep_total (alike : store.AlikeTo now) :
    (∃ failure, store.sweep now = (.error failure, store)) ∨
      ∃ swept, store.sweep now = (.ok (), swept) := by
  cases moved : now.addMicros store.sweepMicros with
  | ok nextSweep => exact .inr (sweep_succeeds alike moved)
  | error failure =>
      cases due : store.isSweepDue now with
      | error other => exact .inl ⟨other, by simp only [sweep, due]⟩
      | ok due' =>
          cases due' with
          | false => exact .inr ⟨store, by simp only [sweep, due]⟩
          | true => exact .inl ⟨failure, by simp only [sweep, due, moved]⟩

private theorem alikeTo_hitWindow_total {window : ClientWindow} (alike : window.AlikeTo now)
    (policy : Policy) : (hitWindow window policy now).2.AlikeTo now := by
  cases result : hitWindow window policy now with
  | mk outcome after =>
      cases outcome with
      | ok decision => exact alikeTo_hitWindow alike result
      | error failure =>
          unfold hitWindow at result
          split at result
          · cases result
            exact alike
          · next decision hits slid =>
            split at result
            · cases result
              refine ⟨?_, alike.expiresAt⟩
              intro hit found
              rw [(Window.slide_eq_ok slid).2, List.mem_append] at found
              rcases found with early | late
              · exact alike.hits hit (List.mem_filter.mp early).1
              · split at late
                · rw [List.mem_singleton.mp late]
                  exact now.alike_refl
                · cases late
            · cases result

/-- A hit stops at the sweep and changes nothing, or it replaces the window of its client after the
sweep. -/
theorem hit_total (alike : store.AlikeTo now) (client : String) (policy : Policy) :
    (store.hit client policy now).2 = store ∨
      ∃ swept window, store.sweep now = (.ok (), swept) ∧ window.AlikeTo now ∧
        (store.hit client policy now).2 =
          { swept with windows := swept.windows.put client window } := by
  rcases sweep_total alike with ⟨failure, stopped⟩ | ⟨swept, passed⟩
  · left
    simp only [hit, stopped]
  · right
    refine ⟨swept, _, passed, alikeTo_hitWindow_total (alike.swept passed client) policy, ?_⟩
    simp only [hit, passed]

theorem windowOf_sweep {swept : MemoryWindows} (passed : store.sweep now = (.ok (), swept))
    (client : String) :
    swept.windowOf client = store.windowOf client ∨
      swept.windowOf client = {} ∧ (store.windowOf client).Lapsed now := by
  rcases windows_sweep passed client with same | ⟨gone, lost, present, lapsed⟩
  · left
    rw [windowOf, same, windowOf]
  · rw [windowOf, gone, windowOf, present]
    exact .inr ⟨rfl, lapsed⟩

theorem sweepMicros_hit_total (alike : store.AlikeTo now) (client : String) (policy : Policy) :
    (store.hit client policy now).2.sweepMicros = store.sweepMicros := by
  rcases hit_total alike client policy with same | ⟨swept, window, passed, _, after⟩
  · rw [same]
  · have kept : swept.sweepMicros = store.sweepMicros := sweepMicros_sweep passed
    rw [after, kept]

theorem AlikeTo.hit_total (alike : store.AlikeTo now) (client : String) (policy : Policy) :
    (store.hit client policy now).2.AlikeTo now := by
  rcases MemoryWindows.hit_total alike client policy with
    same | ⟨swept, window, passed, windowAlike, after⟩
  · rwa [same]
  · rw [after]
    refine ⟨(alike.sweep passed).nextSweep, ?_⟩
    intro other found present
    by_cases own : client = other
    · obtain rfl : window = found := by simpa [own] using present
      exact windowAlike
    · exact (alike.sweep passed).windows other found (by simpa [own] using present)

/-- A hit of another client, whether it fails or not, keeps the window of a client, or drops it once
it has lapsed. -/
theorem windowOf_hit_other (alike : store.AlikeTo now) {client other : String} (policy : Policy)
    (different : other ≠ client) :
    (store.hit other policy now).2.windowOf client = store.windowOf client ∨
      (store.hit other policy now).2.windowOf client = {} ∧
        (store.windowOf client).Lapsed now := by
  rcases hit_total alike other policy with same | ⟨swept, window, passed, _, after⟩
  · rw [same]
    exact .inl rfl
  · have untouched : (store.hit other policy now).2.windowOf client = swept.windowOf client := by
      rw [after, windowOf_put, if_neg different]
    rw [untouched]
    exact windowOf_sweep passed client

end Failing

/-! ## Windows that tell enough -/

/-- A window tells the same at the later hits of its client as the hits that were never swept out,
and it does not expire as long as one of its hits counts. -/
structure Tells (window : ClientWindow) (unswept : List Moment) (later : List Hit) : Prop where
  same : ∀ hit ∈ later, window.hits.filter hit.counts = unswept.filter hit.counts
  alike : ∀ kept ∈ unswept, ∀ hit ∈ later, kept.alike hit.now = true
  held : ∀ kept ∈ window.hits, ∀ hit ∈ later, hit.counts kept = true →
    ∃ expiresAt, window.expiresAt = some expiresAt ∧ hit.now.instant ≤ expiresAt.instant
  movable : ∀ kept ∈ window.hits, ∀ hit ∈ later, hit.counts kept = true →
    ∃ resetAt, kept.addSeconds hit.policy.windowSeconds = .ok resetAt

/-- The start of the window of an answered hit lies within the range of years. -/
theorem cutoff_of_hitWindow {window after : ClientWindow} {policy : Policy} {now : Moment}
    {decision : Decision} (answer : hitWindow window policy now = (.ok decision, after)) :
    ∃ cutoff, now.subtractSeconds policy.windowSeconds = .ok cutoff := by
  unfold hitWindow at answer
  split at answer
  · cases answer
  · next decided hits slid =>
    cases moved : now.subtractSeconds policy.windowSeconds with
    | ok cutoff => exact ⟨cutoff, rfl⟩
    | error failure => simp [Window.slide, moved, bind, Except.bind] at slid

section Tells

variable {window after : ClientWindow} {unswept : List Moment} {hit : Hit} {later : List Hit}
  {decision : Decision}

theorem tells_empty (later : List Hit) : Tells {} [] later where
  same _ _ := rfl
  alike _ found := by cases found
  held _ found := by cases found
  movable _ found := by cases found

theorem Tells.lapse (tells : Tells window unswept later) {now : Moment}
    (lapsed : window.Lapsed now) (behind : ∀ hit ∈ later, now.NotAfter hit.now) :
    Tells {} unswept later where
  same := by
    intro hit found
    rw [← tells.same hit found, List.filter_nil, eq_comm, List.filter_eq_nil_iff]
    intro kept member counts
    obtain ⟨expiresAt, settled, late⟩ := tells.held kept member hit found counts
    refine not_lapsed settled ?_ lapsed
    exact Int.le_trans (behind hit found).instant_le late
  alike := tells.alike
  held _ found := by cases found
  movable _ found := by cases found

/-- A hit that was just admitted can be moved by the window of a later one at which it counts. -/
theorem movable_of_narrower {now resetAt : Moment} {policy : Policy}
    (moved : now.addSeconds policy.windowSeconds = .ok resetAt) (behind : now.NotAfter hit.now)
    (known : ∃ span, hit.policy.windowSeconds.micros microsPerSecond = .ok span)
    (narrower : hit.policy.windowSeconds.span ≤ policy.windowSeconds.span)
    (counts : hit.counts now = true) :
    ∃ resetAt, now.addSeconds hit.policy.windowSeconds = .ok resetAt := by
  have late := behind.instant_le
  simp only [Hit.counts, Policy.counts, decide_eq_true_eq] at counts
  have inRange := resetAt.wall_lt
  have reached : (resetAt.wall : Int) = now.wall + policy.windowSeconds.span := by
    obtain ⟨instants, offsets⟩ := Moment.addSeconds_eq_ok moved
    simp only [Moment.instant, offsets] at instants
    omega
  apply Moment.addSeconds_succeeds known
  · omega
  · omega

/-- A hit decides as if nothing had been swept out, and leaves a window that tells enough. -/
theorem Tells.next (tells : Tells window unswept (hit :: later))
    (behind : ∀ next ∈ later, hit.now.NotAfter next.now)
    (within : ∀ next ∈ later, ¬ next.policy.Outreaches hit.policy)
    (known : ∀ next ∈ later, ∃ span, next.policy.windowSeconds.micros microsPerSecond = .ok span)
    (cutoff : ∃ cutoff, hit.now.subtractSeconds hit.policy.windowSeconds = .ok cutoff)
    (answer : hitWindow window hit.policy hit.now = (.ok decision, after)) :
    Window.slide unswept hit.policy hit.now = .ok (decision, after.hits) ∧
      Tells after after.hits later := by
  obtain ⟨follows, stored, expiresAt, settled, calculated⟩ := hitWindow_eq_ok answer
  obtain ⟨reached, moved, behindReached, notEarlier, _⟩ := expiry_eq_ok calculated
  have same : window.hits.filter (hit.policy.counts hit.now) =
      unswept.filter (hit.policy.counts hit.now) := tells.same hit List.mem_cons_self
  have admittedNow : decision.allowed = true →
      1 ≤ hit.policy.limit ∧ hit.now.addSeconds hit.policy.windowSeconds = .ok reached := by
    intro allowed
    have room := follows.allowed.mp allowed
    rw [stored, if_pos allowed, List.getLast?_concat, Option.getD_some] at moved
    exact ⟨by omega, moved⟩
  constructor
  · obtain ⟨start, cutoff⟩ := cutoff
    rw [same] at follows stored
    obtain ⟨other, kept, slid⟩ := Window.slide_succeeds
      (fun kept member => tells.alike kept member hit List.mem_cons_self) cutoff follows.resetAt
    obtain ⟨otherFollows, keptEquality⟩ := Window.slide_eq_ok slid
    obtain rfl := otherFollows.unique follows
    rw [slid, stored, keptEquality]
  · -- What is stored now counted before, or it is the hit itself.
    have origin : ∀ kept ∈ after.hits, (kept ∈ window.hits ∧ kept ∈ unswept) ∨
        (kept = hit.now ∧ decision.allowed = true) := by
      intro kept member
      rw [stored, List.mem_append] at member
      rcases member with early | late
      · exact .inl ⟨(List.mem_filter.mp early).1, (List.mem_filter.mp (same ▸ early)).1⟩
      · split at late
        · next allowed => exact .inr ⟨List.mem_singleton.mp late, allowed⟩
        · cases late
    refine ⟨fun _ _ => rfl, ?_, ?_, ?_⟩
    · intro kept member next found
      rcases origin kept member with ⟨_, old⟩ | ⟨rfl, _⟩
      · exact tells.alike kept old next (List.mem_cons_of_mem _ found)
      · exact (behind next found).alike
    · intro kept member next found counts
      refine ⟨expiresAt, settled, ?_⟩
      rcases origin kept member with ⟨old, _⟩ | ⟨rfl, allowed⟩
      · obtain ⟨earlier, settledEarlier, late⟩ :=
          tells.held kept old next (List.mem_cons_of_mem _ found) counts
        exact Int.le_trans late (notEarlier earlier settledEarlier)
      · obtain ⟨limit, movedNow⟩ := admittedNow allowed
        have narrower := Policy.span_le_of_not_outreaches (within next found) limit
        have reachedInstant := (Moment.addSeconds_eq_ok movedNow).1
        simp only [Hit.counts, Policy.counts, decide_eq_true_eq] at counts
        omega
    · intro kept member next found counts
      rcases origin kept member with ⟨old, _⟩ | ⟨rfl, allowed⟩
      · exact tells.movable kept old next (List.mem_cons_of_mem _ found) counts
      · obtain ⟨limit, movedNow⟩ := admittedNow allowed
        exact movable_of_narrower movedNow (behind next found) (known next found)
          (Policy.span_le_of_not_outreaches (within next found) limit) counts

/-- A hit of the client that is answered decides as if nothing had been swept out. -/
theorem Tells.hit_answered {store after : MemoryWindows}
    (tells : Tells (store.windowOf hit.client) unswept (hit :: later))
    (behind : ∀ next ∈ later, hit.now.NotAfter next.now)
    (within : ∀ next ∈ later, ¬ next.policy.Outreaches hit.policy)
    (known : ∀ next ∈ later, ∃ span, next.policy.windowSeconds.micros microsPerSecond = .ok span)
    (answer : store.hit hit.client hit.policy hit.now = (.ok decision, after)) :
    ∃ kept, Window.slide unswept hit.policy hit.now = .ok (decision, kept) ∧
      Tells (after.windowOf hit.client) kept later := by
  obtain ⟨swept, window, before, slid, stored⟩ := windows_hit_same answer
  have notBefore : ∀ next ∈ hit :: later, hit.now.NotAfter next.now := by
    intro next found
    rcases List.mem_cons.mp found with rfl | found
    · exact .refl next.now
    · exact behind next found
  have sweptTells : Tells (swept.getD {}) unswept (hit :: later) := by
    rcases before with rfl | ⟨rfl, lost, present, lapsed⟩
    · exact tells
    · rw [windowOf, present] at tells
      exact tells.lapse lapsed notBefore
  obtain ⟨decided, next⟩ := sweptTells.next behind within known (cutoff_of_hitWindow slid) slid
  refine ⟨window.hits, decided, ?_⟩
  rw [windowOf, stored]
  exact next

/-- A hit of the client succeeds if no time that it calculates is out of range. -/
theorem Tells.hit_succeeds {store : MemoryWindows}
    (tells : Tells (store.windowOf hit.client) unswept (hit :: later))
    (alike : store.AlikeTo hit.now) (fits : Fits store.sweepMicros hit.policy hit.now) :
    ∃ decision after, store.hit hit.client hit.policy hit.now = (.ok decision, after) :=
  MemoryWindows.hit_succeeds alike fits fun kept member =>
    tells.movable kept member hit List.mem_cons_self

end Tells

/-! ## Runs -/

theorem Fits.known {sweepMicros : Int} {policy : Policy} {now : Moment}
    (fits : Fits sweepMicros policy now) :
    ∃ span, policy.windowSeconds.micros microsPerSecond = .ok span := by
  obtain ⟨resetAt, moved⟩ := fits.resetAt
  cases known : policy.windowSeconds.micros microsPerSecond with
  | ok span => exact ⟨span, rfl⟩
  | error failure => simp [Moment.addSeconds, known, bind, Except.bind] at moved

/-- The hits of a client are in order of time, no time that they calculate is out of range, and none
looks further back than an earlier one that may be admitted. -/
structure Calm (sweepMicros : Int) (hits : List Hit) : Prop where
  fits : ∀ hit ∈ hits, Fits sweepMicros hit.policy hit.now
  narrowing : Hit.Narrowing hits

/-- The hits of a client fail only where a time that they calculate is out of range, and if they do
not fail, then nothing shows of the sweeps. -/
theorem answers_eq_of_tells {client : String} {hits : List Hit} (store : MemoryWindows)
    (unswept : List Moment) (ordered : Hit.InOrder hits)
    (narrowing : Hit.Narrowing (Hit.own client hits))
    (known : ∀ hit ∈ Hit.own client hits,
      ∃ span, hit.policy.windowSeconds.micros microsPerSecond = .ok span)
    (settled : (∀ hit ∈ Hit.own client hits, Fits store.sweepMicros hit.policy hit.now) ∨
      Answered (store.answers client hits))
    (alike : ∀ hit ∈ hits, store.AlikeTo hit.now)
    (tells : Tells (store.windowOf client) unswept (Hit.own client hits)) :
    store.answers client hits = Window.answers unswept (Hit.own client hits) ∧
      Answered (store.answers client hits) := by
  -- `Tells` is what every hit preserves: an own hit renews both sides of it, and a hit of another
  -- client can only drop a window that no longer matters.
  induction hits generalizing store unswept with
  | nil => exact ⟨rfl, fun _ found => by cases found⟩
  | cons hit hits induction =>
      obtain ⟨behind, ordered⟩ := List.pairwise_cons.mp ordered
      have here := alike hit List.mem_cons_self
      have alikeAfter : ∀ next ∈ hits,
          (store.hit hit.client hit.policy hit.now).2.AlikeTo next.now := fun next found =>
        (here.hit_total hit.client hit.policy).later (behind next found).alike
      have unchanged := sweepMicros_hit_total here hit.client hit.policy
      by_cases same : hit.client = client
      · subst same
        rw [Hit.own_cons_same rfl] at narrowing known settled tells ⊢
        have ownBehind : ∀ next ∈ Hit.own hit.client hits, hit.now.NotAfter next.now :=
          fun next found => behind next (List.mem_filter.mp found).1
        obtain ⟨within, narrowing⟩ := List.pairwise_cons.mp narrowing
        obtain ⟨_, known⟩ := List.forall_mem_cons.mp known
        have answered : ∃ decision after,
            store.hit hit.client hit.policy hit.now = (.ok decision, after) := by
          rcases settled with fits | answered
          · exact tells.hit_succeeds here (fits hit List.mem_cons_self)
          · obtain ⟨decision, answer⟩ := answered _ (answers_own rfl ▸ List.mem_cons_self)
            exact ⟨decision, _, Prod.ext answer rfl⟩
        obtain ⟨decision, after, answer⟩ := answered
        obtain ⟨kept, decided, laterTells⟩ := tells.hit_answered ownBehind within known answer
        have answers : store.answers hit.client (hit :: hits) =
            .ok decision :: after.answers hit.client hits := by
          rw [answers_own rfl, answer]
        rw [answers] at settled ⊢
        rw [answer] at alikeAfter unchanged
        obtain ⟨equality, succeed⟩ := induction after kept ordered narrowing known
          (settled.imp (fun fits next found => unchanged ▸ fits next (List.mem_cons_of_mem _ found))
            fun answered => (List.forall_mem_cons.mp answered).2) alikeAfter laterTells
        refine ⟨by simp only [Window.answers, decided, equality], ?_⟩
        exact List.forall_mem_cons.mpr ⟨⟨decision, rfl⟩, succeed⟩
      · rw [Hit.own_cons_other same] at narrowing known settled tells ⊢
        have laterTells : Tells ((store.hit hit.client hit.policy hit.now).2.windowOf client)
            unswept (Hit.own client hits) := by
          rcases windowOf_hit_other here hit.policy same with kept | ⟨gone, lapsed⟩
          · rwa [kept]
          · rw [gone]
            exact tells.lapse lapsed fun next found => behind next (List.mem_filter.mp found).1
        rw [answers_other same] at settled ⊢
        exact induction _ unswept ordered narrowing known (unchanged.symm ▸ settled) alikeAfter
          laterTells

theorem answers_eq_unswept {sweepMicros : Int} {client : String} {hits : List Hit}
    (ordered : Hit.InOrder hits) (calm : Calm sweepMicros (Hit.own client hits)) :
    ({ sweepMicros } : MemoryWindows).answers client hits =
        Window.answers [] (Hit.own client hits) ∧
      ∀ answer ∈ ({ sweepMicros } : MemoryWindows).answers client hits,
        ∃ decision, answer = .ok decision := by
  apply answers_eq_of_tells _ [] ordered calm.narrowing
  · exact fun hit found => (calm.fits hit found).known
  · exact .inl calm.fits
  · intro hit _
    exact alikeTo_start sweepMicros hit.now
  · exact tells_empty _

/-! ## Isolation -/

/-- Whoever asks for some of these policies, in a run in order of time and without leaving the range
of years, gets the same answers if hits of other clients are left out. -/
def IsolatesClients (sweepMicros : Int) (policies : Policy → Prop) : Prop :=
  ∀ client hits kept, Hit.InOrder hits → kept.Sublist hits →
    Hit.own client kept = Hit.own client hits →
    (∀ hit ∈ Hit.own client hits, policies hit.policy ∧ Fits sweepMicros hit.policy hit.now) →
    ({ sweepMicros } : MemoryWindows).answers client kept =
      ({ sweepMicros } : MemoryWindows).answers client hits

/-- Whoever asks for some of these policies, in a run in order of time and without leaving the range
of years, is answered each time and as if nothing were ever swept out. -/
def HidesSweeps (sweepMicros : Int) (policies : Policy → Prop) : Prop :=
  ∀ client hits, Hit.InOrder hits →
    (∀ hit ∈ Hit.own client hits, policies hit.policy ∧ Fits sweepMicros hit.policy hit.now) →
    ({ sweepMicros } : MemoryWindows).answers client hits =
        Window.answers [] (Hit.own client hits) ∧
      ∀ answer ∈ ({ sweepMicros } : MemoryWindows).answers client hits,
        ∃ decision, answer = .ok decision

theorem HidesSweeps.isolatesClients {sweepMicros : Int} {policies : Policy → Prop}
    (hides : HidesSweeps sweepMicros policies) : IsolatesClients sweepMicros policies := by
  intro client hits kept ordered sublist same asked
  have keptOrdered : Hit.InOrder kept := List.Pairwise.sublist sublist ordered
  rw [(hides client hits ordered asked).1, (hides client kept keptOrdered (same ▸ asked)).1, same]

/-- Sweeps do not show under policies none of which looks further back than another one. -/
theorem hidesSweeps_of_noneOutreaches {policies : Policy → Prop} (sweepMicros : Int)
    (none : Policy.NoneOutreaches policies) : HidesSweeps sweepMicros policies := by
  intro client hits ordered asked
  apply answers_eq_unswept ordered
  refine ⟨fun hit found => (asked hit found).2, ?_⟩
  apply List.pairwise_iff_forall_sublist.mpr
  intro earlier later pair
  have members := pair.subset
  apply none
  · exact (asked later (members (by simp))).1
  · exact (asked earlier (members (by simp))).1

end MemoryWindows

end AccessGate
