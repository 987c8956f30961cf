import AccessGate.Proofs.RateLimit.Shared

/-!
# Windows in memory and in the shared store

The two stores keep different things.  In memory a rejected hit drops what no longer counts, and
sweeps drop whole windows; the shared store does neither, and its moments go through text.  They
answer alike where a client always asks for windows of one length, because then nothing that was
dropped would have counted.  The text is what can tell them apart: an offset of less than a second
is lost in it, and the stored hit moves to another instant.  `storesAgree_iff` says that nothing
else can.
-/

namespace AccessGate

open MemoryWindows

/-- The stores answer alike, and always, if both start empty: in every run in order of time, with
clocks of some offsets, in which no calculated time leaves the range of years and every client asks
for windows of one length. -/
def StoresAgree (offsets : ClockOffset → Prop) : Prop :=
  ∀ sweepMicros hits, Hit.InOrder hits →
    (∀ hit ∈ hits, (∃ offset, hit.now.offset = some offset ∧ offsets offset) ∧
      Fits sweepMicros hit.policy hit.now) →
    (∀ earlier ∈ hits, ∀ later ∈ hits, earlier.client = later.client →
      earlier.policy.windowSeconds = later.policy.windowSeconds) →
    ∀ client,
      ({ sweepMicros } : MemoryWindows).answers client hits =
          ({} : SharedWindows).answers client hits ∧
        ∀ answer ∈ ({ sweepMicros } : MemoryWindows).answers client hits,
          ∃ decision, answer = .ok decision

private theorem storesAgree_of_legible {offsets : ClockOffset → Prop}
    (legible : ∀ offset, offsets offset → offset.IsLegible) : StoresAgree offsets := by
  intro sweepMicros hits ordered known single client
  have own {hit : Hit} (found : hit ∈ Hit.own client hits) : hit ∈ hits ∧ hit.client = client := by
    simpa [Hit.own] using found
  have singleOwn : (Hit.own client hits).Pairwise fun earlier later =>
      later.policy.windowSeconds = earlier.policy.windowSeconds := by
    apply List.pairwise_iff_forall_sublist.mpr
    intro earlier later pair
    obtain ⟨first, firstOwn⟩ := own (pair.subset (by simp) : earlier ∈ _)
    obtain ⟨second, secondOwn⟩ := own (pair.subset (by simp) : later ∈ _)
    exact single later second earlier first (secondOwn.trans firstOwn.symm)
  have calm : Calm sweepMicros (Hit.own client hits) := by
    refine ⟨fun hit found => (known hit (own found).1).2, singleOwn.imp ?_⟩
    intro earlier later same outreaches
    have longer := outreaches.2
    rw [same] at longer
    exact Int.lt_irrefl _ longer
  obtain ⟨inMemory, succeed⟩ := answers_eq_unswept ordered calm
  have inStore : ({} : SharedWindows).answers client hits =
      Window.answers [] (Hit.own client hits) := by
    refine SharedWindows.answers_eq_kept (fun _ _ => rfl) rfl (.empty _) (ordered.filter _)
      singleOwn ?_ (inMemory ▸ succeed)
    intro hit found
    obtain ⟨⟨offset, written, allowed⟩, _⟩ := known hit (own found).1
    exact Moment.asRead_of_isLegible written (legible offset allowed)
  exact ⟨inMemory.trans inStore.symm, succeed⟩

/-! ## Offsets of less than a second -/

/-- One hit within sixty seconds. -/
def onceAMinute : Policy := ⟨1, .whole 60⟩

section TwoHits

variable {sweepMicros : Int} {now old : Moment}

theorem Window.slide_first (fits : Fits sweepMicros onceAMinute now) :
    ∃ decision, slide [] onceAMinute now = .ok (decision, [now]) ∧ decision.allowed = true := by
  obtain ⟨cutoff, start⟩ := fits.cutoff
  obtain ⟨resetAt, reset⟩ := fits.resetAt
  have comparable : ∀ hit ∈ ([] : List Moment), hit.alike now = true := nofun
  obtain ⟨decision, kept, slid⟩ := slide_succeeds comparable start reset
  obtain ⟨follows, keptEquality⟩ := slide_eq_ok slid
  rw [List.filter_nil] at follows keptEquality
  have admitted : decision.allowed = true := follows.allowed.mpr (by decide)
  rw [keptEquality, admitted] at slid
  exact ⟨decision, slid, admitted⟩

/-- The second hit is rejected as long as the first one counts, and then there is room again one
window after the first one, on the clock of the first one. -/
theorem Window.slide_second (fits : Fits sweepMicros onceAMinute now)
    (alike : old.alike now = true)
    (movable : ∃ resetAt, old.addSeconds onceAMinute.windowSeconds = .ok resetAt) :
    ∃ decision kept, slide [old] onceAMinute now = .ok (decision, kept) ∧
      (decision.allowed = true ↔ onceAMinute.counts now old = false) ∧
      (onceAMinute.counts now old = true → decision.resetAt.offset = old.offset) := by
  obtain ⟨cutoff, start⟩ := fits.cutoff
  obtain ⟨resetNow, moved⟩ := fits.resetAt
  obtain ⟨resetOld, movedOld⟩ := movable
  have comparable : ∀ hit ∈ [old], hit.alike now = true := by simpa using alike
  cases counts : onceAMinute.counts now old with
  | false =>
      have gone : [old].filter (onceAMinute.counts now) = [] := by simp [counts]
      obtain ⟨decision, kept, slid⟩ := slide_succeeds comparable start
        (by rw [gone]; exact moved)
      have follows := (slide_eq_ok slid).1
      rw [gone] at follows
      exact ⟨decision, kept, slid, iff_of_true (follows.allowed.mpr (by decide)) rfl, nofun⟩
  | true =>
      have kept : [old].filter (onceAMinute.counts now) = [old] := by simp [counts]
      obtain ⟨decision, others, slid⟩ := slide_succeeds comparable start
        (by rw [kept]; exact movedOld)
      have follows := (slide_eq_ok slid).1
      rw [kept] at follows
      refine ⟨decision, others, slid, ?_, fun _ => (Moment.addSeconds_eq_ok follows.resetAt).2⟩
      simp [follows.allowed, onceAMinute]

theorem MemoryWindows.answers_of_two {client : String} {first second : Decision}
    {kept : List Moment} (fitsOld : Fits sweepMicros onceAMinute old)
    (fits : Fits sweepMicros onceAMinute now) (order : old.NotAfter now)
    (slidFirst : Window.slide [] onceAMinute old = .ok (first, [old]))
    (slidSecond : Window.slide [old] onceAMinute now = .ok (second, kept)) :
    ({ sweepMicros } : MemoryWindows).answers client
        [⟨client, onceAMinute, old⟩, ⟨client, onceAMinute, now⟩] = [.ok first, .ok second] := by
  have own : Hit.own client [⟨client, onceAMinute, old⟩, ⟨client, onceAMinute, now⟩] =
      [⟨client, onceAMinute, old⟩, ⟨client, onceAMinute, now⟩] := by simp [Hit.own]
  have calm : Calm sweepMicros
      (Hit.own client [⟨client, onceAMinute, old⟩, ⟨client, onceAMinute, now⟩]) := by
    rw [own]
    exact ⟨by simp [fitsOld, fits],
      List.pairwise_pair.mpr fun outreaches => Int.lt_irrefl _ outreaches.2⟩
  rw [(answers_eq_unswept (List.pairwise_pair.mpr order) calm).1, own]
  simp only [Window.answers, slidFirst, slidSecond]

theorem SharedWindows.answers_of_two {client : String} {first second : Decision}
    {kept : List Moment}
    (slidFirst : Window.slide [] onceAMinute old = .ok (first, [old]))
    (admitted : first.allowed = true)
    (slidSecond : Window.slide [old.asRead] onceAMinute now = .ok (second, kept)) :
    ({} : SharedWindows).answers client [⟨client, onceAMinute, old⟩, ⟨client, onceAMinute, now⟩] =
      [.ok first, .ok second] := by
  have empty : ({} : SharedWindows).read? client = some [] := rfl
  obtain ⟨after, answer, still, read⟩ := hit_of_read (fun _ _ => rfl) empty slidFirst
  rw [admitted, if_pos rfl] at read
  obtain ⟨last, answerSecond, _, _⟩ := hit_of_read still read slidSecond
  simp only [answers, answer, answerSecond, if_true]

end TwoHits

/-- A moment in the middle of the range of years, on a clock with an offset. -/
def Moment.atOffset (offset : ClockOffset) : Moment :=
  { Moment.middle 0 with offset := some offset }

theorem fits_atOffset (offset : ClockOffset) :
    Fits (60 * microsPerSecond) onceAMinute (.atOffset offset) := by
  have wall : (Moment.atOffset offset).wall = (Moment.middle 0).wall := rfl
  refine ⟨?_, ?_, ?_⟩
  · exact Moment.subtractSeconds_succeeds ⟨_, rfl⟩ (by rw [wall]; decide) (by rw [wall]; decide)
  · exact Moment.addSeconds_succeeds ⟨_, rfl⟩ (by rw [wall]; decide) (by rw [wall]; decide)
  · exact Moment.addMicros_succeeds (by rw [wall]; decide) (by rw [wall]; decide)

private theorem instant_atOffset (offset : ClockOffset) :
    (Moment.atOffset offset).instant = (Moment.middle 0).instant - offset.micros := by
  have universal : (Moment.middle 0).instant = ((Moment.middle 0).wall : Int) := Int.sub_zero _
  rw [universal]
  rfl

theorem fits_afterMinute : Fits (60 * microsPerSecond) onceAMinute (.middle 59700000) := by
  refine ⟨?_, ?_, ?_⟩
  · exact Moment.subtractSeconds_succeeds ⟨_, rfl⟩ (by decide) (by decide)
  · exact Moment.addSeconds_succeeds ⟨_, rfl⟩ (by decide) (by decide)
  · exact Moment.addMicros_succeeds (by decide) (by decide)

theorem movable_middle :
    ∃ resetAt, (Moment.middle 0).addSeconds onceAMinute.windowSeconds = .ok resetAt :=
  Moment.addSeconds_succeeds ⟨_, rfl⟩ (by decide) (by decide)

/-- A clock whose offset does not read back is taken for one that shows universal time. -/
theorem asRead_atOffset {offset : ClockOffset} (little : ¬ offset.IsLegible) :
    (Moment.atOffset offset).asRead = .middle 0 := by
  simp only [Moment.atOffset, Moment.asRead, Option.map_some, offset.asRead_of_not_isLegible little]
  rfl

/-- A hit that is repeated at the same time tells the stores apart if its offset does not read back:
both reject it, but they name different times at which there is room again. -/
theorem isLegible_of_storesAgree {offsets : ClockOffset → Prop} (agree : StoresAgree offsets)
    {offset : ClockOffset} (allowed : offsets offset) : offset.IsLegible := by
  by_contra little
  let now : Moment := .atOffset offset
  have fits := fits_atOffset offset
  have order := Moment.NotAfter.refl now
  have each {property : Hit → Prop} (holds : property ⟨"ann", onceAMinute, now⟩) :
      ∀ hit ∈ [(⟨"ann", onceAMinute, now⟩ : Hit), ⟨"ann", onceAMinute, now⟩], property hit := by
    simp [holds]
  obtain ⟨same, _⟩ := agree (60 * microsPerSecond) _ (List.pairwise_pair.mpr order)
    (each ⟨⟨offset, rfl, allowed⟩, fits⟩) (each (each fun _ => rfl)) "ann"
  obtain ⟨first, slidFirst, admitted⟩ := Window.slide_first fits
  obtain ⟨inMemory, _, slidInMemory, _, onClock⟩ :=
    Window.slide_second fits now.alike_refl fits.resetAt
  have alike : (Moment.middle 0).alike now = true := rfl
  obtain ⟨inStore, _, slidInStore, _, onReadClock⟩ :=
    Window.slide_second fits alike movable_middle
  rw [answers_of_two fits fits order slidFirst slidInMemory,
    SharedWindows.answers_of_two slidFirst admitted (by rwa [asRead_atOffset little])] at same
  obtain rfl : inMemory = inStore := by simpa using same
  have span : onceAMinute.windowSeconds.span = 60000000 := by decide
  have bound : offset.micros.natAbs < 1000000 := Nat.not_le.mp fun long => little (.inr long)
  have countsNow : onceAMinute.counts now now = true := by
    rw [Policy.counts, decide_eq_true_eq, span]
    omega
  have countsRead : onceAMinute.counts now (.middle 0) = true := by
    rw [Policy.counts, decide_eq_true_eq, span, instant_atOffset]
    omega
  have clocks : some offset = some .universal :=
    (onClock countsNow).symm.trans (onReadClock countsRead)
  rw [Option.some.inj clocks] at little
  exact little (.inl rfl)

/-- The stores agree exactly under offsets that read back: none, or those of at least a second. -/
theorem storesAgree_iff (offsets : ClockOffset → Prop) :
    StoresAgree offsets ↔ ∀ offset, offsets offset → offset.IsLegible :=
  ⟨fun agree _ allowed => isLegible_of_storesAgree agree allowed, storesAgree_of_legible⟩

/-- A client hits on a clock that leads by half a second, and again a minute and a fifth of a second
later.  In memory the first hit does not count any more, but in the shared store it has moved half a
second toward the second one, and still counts. -/
theorem stores_disagree_of_half_second :
    ∃ offset hits first inMemory inStore, offset.micros = 500000 ∧
      hits = [⟨"ann", onceAMinute, .atOffset offset⟩,
        ⟨"ann", onceAMinute, .middle 59700000⟩] ∧
      Hit.InOrder hits ∧ (∀ hit ∈ hits, Fits (60 * microsPerSecond) hit.policy hit.now) ∧
      ({ sweepMicros := 60 * microsPerSecond } : MemoryWindows).answers "ann" hits =
        [.ok first, .ok inMemory] ∧
      ({} : SharedWindows).answers "ann" hits = [.ok first, .ok inStore] ∧
      inMemory.allowed = true ∧ inStore.allowed = false := by
  let offset : ClockOffset := ⟨500000, by decide⟩
  have fitsOld := fits_atOffset offset
  have fits := fits_afterMinute
  have order : (Moment.atOffset offset).NotAfter (.middle 59700000) := by decide
  have readsBack : (Moment.atOffset offset).asRead = .middle 0 :=
    asRead_atOffset (by unfold ClockOffset.IsLegible; decide)
  obtain ⟨first, slidFirst, admitted⟩ := Window.slide_first fitsOld
  obtain ⟨inMemory, _, slidInMemory, gone, _⟩ :=
    Window.slide_second fits order.alike fitsOld.resetAt
  have alike : (Moment.middle 0).alike (.middle 59700000) = true := rfl
  obtain ⟨inStore, _, slidInStore, counted, _⟩ :=
    Window.slide_second fits alike movable_middle
  refine ⟨offset, _, first, inMemory, inStore, rfl, rfl, List.pairwise_pair.mpr order,
    by simp [fitsOld, fits], ?_, ?_, gone.mpr (by decide), ?_⟩
  · exact answers_of_two fitsOld fits order slidFirst slidInMemory
  · exact SharedWindows.answers_of_two slidFirst admitted (by rwa [readsBack])
  · exact Bool.eq_false_iff.mpr (mt counted.mp (by decide))

end AccessGate
