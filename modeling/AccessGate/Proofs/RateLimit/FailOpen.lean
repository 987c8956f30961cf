import AccessGate.Proofs.RateLimit.Agreement

/-!
# Hits on an unreliable store

The shared store may fail a command, and the text under the key of a client may be anything.
`SharedWindows.Ends` lists the three ways in which a hit can end then: it is rejected on the evidence
of hits that were read, it is recorded once it is written, or it is let through with nothing written.
A recorded hit is told by the text that was written, which `failsOpen_iff` finds to be true of all
clocks but those with an offset of less than a second.
-/

namespace AccessGate

/-- Hits that cannot be decided on: some of them cannot be compared with this one, or the start of
the window or the time when there is room again lies outside the range of years. -/
def Window.IsStuck (hits : List Moment) (policy : Policy) (now : Moment) : Prop :=
  (∃ hit ∈ hits, hit.alike now = false) ∨
    (∀ cutoff, now.subtractSeconds policy.windowSeconds ≠ .ok cutoff) ∨
    ∀ resetAt, ((hits.filter (policy.counts now)).head?.getD now).addSeconds
      policy.windowSeconds ≠ .ok resetAt

theorem Window.isStuck_of_slide_eq_error {hits : List Moment} {policy : Policy} {now : Moment}
    {failure : TimeError} (failed : slide hits policy now = .error failure) :
    IsStuck hits policy now := by
  by_contra loose
  simp only [IsStuck, not_or, not_exists, not_and, not_forall, Bool.not_eq_false, not_not] at loose
  obtain ⟨alike, ⟨cutoff, moved⟩, resetAt, reset⟩ := loose
  obtain ⟨decision, kept, slid⟩ := slide_succeeds alike moved reset
  rw [failed] at slid
  cases slid

namespace SharedWindows

open KeyValueStore MemoryWindows

/-- How a hit ends, where the hit is recorded as the given moment. -/
inductive Ends (windows : SharedWindows) (client : String) (policy : Policy)
    (now moment : Moment) : Except TimeError Decision × SharedWindows → Prop where
  | rejected (hits : List Moment) (decision : Decision) :
      ¬ windows.store.Refuses [.get (key client)] → windows.read? client = some hits →
      decision.Follows policy (hits.filter (policy.counts now)) now → decision.allowed = false →
      Ends windows client policy now moment
        (.ok decision, { store := windows.store.issue [.get (key client)] })
  | recorded (hits : List Moment) (decision : Decision) (text : String) :
      ¬ windows.store.Refuses [.get (key client), .set (key client) text policy.windowSeconds] →
      windows.read? client = some hits →
      decision.Follows policy (hits.filter (policy.counts now)) now → decision.allowed = true →
      decode? text = some (hits.filter (policy.counts now) ++ [moment]) →
      Ends windows client policy now moment
        (.ok decision, { store := {
          windows.store.issue [.get (key client), .set (key client) text policy.windowSeconds] with
          entries := windows.store.entries.put (key client) text } })
  | letThrough (issued : List Command) (resetAt : Moment) :
      now.addSeconds policy.windowSeconds = .ok resetAt →
      (windows.store.Refuses issued ∨ windows.read? client = none ∨
        ∃ hits, windows.read? client = some hits ∧ Window.IsStuck hits policy now) →
      Ends windows client policy now moment
        (.ok ⟨true, policy.limit, 0, resetAt⟩, { store := windows.store.issue issued })

variable {windows : SharedWindows} {client : String} {policy : Policy} {now : Moment}

private theorem mapM_hit?_legible {items : List Json} {hits : List Moment}
    (read : items.mapM hit? = some hits) : ∀ hit ∈ hits, hit.asRead = hit := by
  induction items generalizing hits with
  | nil =>
      cases read
      simp
  | cons item items induction =>
      rw [List.mapM_cons] at read
      obtain ⟨first, told, read⟩ := Option.bind_eq_some_iff.mp read
      obtain ⟨others, later, read⟩ := Option.bind_eq_some_iff.mp read
      cases read
      refine List.forall_mem_cons.mpr ⟨?_, induction later⟩
      unfold hit? at told
      split at told
      · exact Moment.asRead_of_read? told
      · cases told

private theorem legible_of_read? {hits : List Moment} (read : windows.read? client = some hits) :
    ∀ hit ∈ hits, hit.asRead = hit := by
  have none : ∀ hit ∈ ([] : List Moment), hit.asRead = hit := by simp
  unfold read? decode? at read
  split at read
  · split at read
    · cases read
      exact none
    · split at read
      · obtain ⟨items, _, read⟩ := Option.bind_eq_some_iff.mp read
        exact mapM_hit?_legible read
      · cases read
  · cases read
    exact none

/-- An admitted hit is recorded or, if it cannot be written, let through. -/
theorem ends_recording {hits kept : List Moment} {decision : Decision} {resetAt : Moment}
    (reset : now.addSeconds policy.windowSeconds = .ok resetAt)
    (got : windows.store.fails windows.store.commands.length (.get (key client)) = false)
    (read : windows.read? client = some hits)
    (slid : Window.slide hits policy now = .ok (decision, kept))
    (admitted : decision.allowed = true) :
    Ends windows client policy now now.asRead
      (match (windows.store.issue [.get (key client)]).set (key client) (encode kept)
          policy.windowSeconds with
        | (.ok (), store) => (.ok decision, { store })
        | (.error _, store) => (.ok ⟨true, policy.limit, 0, resetAt⟩, { store })) := by
  obtain ⟨follows, same⟩ := Window.slide_eq_ok slid
  rw [admitted, if_pos rfl] at same
  rcases (windows.store.issue [.get (key client)]).set_cases (key client) (encode kept)
      policy.windowSeconds with ⟨failed, outcome⟩ | ⟨set, outcome⟩
  · simp only [outcome, issue_issue]
    refine .letThrough _ _ reset (.inl (refuses_cons.mpr (.inr ?_)))
    exact refuses_cons.mpr (.inl failed)
  · simp only [outcome, issue_issue]
    refine .recorded hits decision (encode kept) ?_ read follows admitted ?_
    · intro refuses
      rcases refuses_cons.mp refuses with failed | refuses
      · rw [got] at failed
        cases failed
      · exact not_refuses_singleton set refuses
    · have unchanged : (hits.filter (policy.counts now)).map Moment.asRead =
          hits.filter (policy.counts now) := by
        refine (List.map_congr_left fun hit found => ?_).trans (List.map_id _)
        exact legible_of_read? read hit (List.mem_filter.mp found).1
      rw [decode?_encode, same, List.map_append, unchanged]
      rfl

theorem hit_ends (client : String)
    (reset : ∃ resetAt, now.addSeconds policy.windowSeconds = .ok resetAt) :
    Ends windows client policy now now.asRead (windows.hit client policy now) := by
  obtain ⟨resetAt, reset⟩ := reset
  have through : allowed policy now = .ok ⟨true, policy.limit, 0, resetAt⟩ := by
    rw [allowed, reset]
    rfl
  unfold hit
  rcases windows.store.get_cases (key client) with ⟨failed, outcome⟩ | ⟨got, outcome⟩
  · simp only [outcome, through]
    exact .letThrough _ _ reset (.inl (refuses_cons.mpr (.inl failed)))
  · simp only [outcome, through, decide?_eq_decided?]
    cases read : windows.read? client with
    | none =>
        simp only [decided?, read, Option.bind_none]
        exact .letThrough _ _ reset (.inr (.inl read))
    | some hits =>
        simp only [decided?, read, Option.bind_some]
        cases slid : Window.slide hits policy now with
        | error failure =>
            exact .letThrough _ _ reset
              (.inr (.inr ⟨hits, read, Window.isStuck_of_slide_eq_error slid⟩))
        | ok decided =>
            obtain ⟨decision, kept⟩ := decided
            simp only [Except.toOption]
            cases admitted : decision.allowed with
            | false =>
                rw [if_neg Bool.false_ne_true]
                exact .rejected hits decision (not_refuses_singleton got) read
                  (Window.slide_eq_ok slid).1 admitted
            | true =>
                rw [if_pos rfl]
                exact ends_recording reset got read slid admitted

/-! ## Clocks -/

/-- Every hit whose window has an end within the range of years returns, and ends in one of the
three ways: whatever is stored, whichever commands fail, and on every clock that shows no offset or
one of these offsets. -/
def FailsOpen (offsets : ClockOffset → Prop) : Prop :=
  ∀ windows client policy now, 1 ≤ policy.limit →
    (∀ offset, now.offset = some offset → offsets offset) →
    (∃ resetAt, now.addSeconds policy.windowSeconds = .ok resetAt) →
    Ends windows client policy now now (windows.hit client policy now)

private theorem failsOpen_of_legible {offsets : ClockOffset → Prop}
    (legible : ∀ offset, offsets offset → offset.IsLegible) : FailsOpen offsets := by
  intro windows client policy now _ allowed reset
  have ends : Ends windows client policy now now.asRead (windows.hit client policy now) :=
    hit_ends client reset
  have readsBack : now.asRead = now :=
    Moment.asRead_eq_self fun offset known => legible offset (allowed offset known)
  rwa [readsBack] at ends

private theorem asRead_eq_of_ends {sweepMicros : Int} {moment : Moment}
    (fits : Fits sweepMicros onceAMinute now)
    (ends : Ends {} client onceAMinute now moment
      (({} : SharedWindows).hit client onceAMinute now)) : now.asRead = moment := by
  have empty : ({} : SharedWindows).read? client = some [] := rfl
  obtain ⟨first, slid, admitted⟩ := Window.slide_first fits
  obtain ⟨after, answer, _, read⟩ := hit_of_read (fun _ _ => rfl) empty slid
  rw [admitted, if_pos rfl, List.map_singleton] at read
  rw [answer] at ends
  cases ends with
  | rejected hits decision worked known follows denied =>
      rw [admitted] at denied
      cases denied
  | recorded hits decision text worked known follows _ told =>
      cases known
      rw [read?, Table.get?_put, if_pos rfl] at read
      change decode? text = _ at read
      rw [told, List.filter_nil, List.nil_append] at read
      exact (List.singleton_inj.mp (Option.some.inj read)).symm
  | letThrough issued resetAt reset cause =>
      cases (empty.symm.trans read)

private theorem isLegible_of_failsOpen {offsets : ClockOffset → Prop} (opens : FailsOpen offsets)
    {offset : ClockOffset} (allowed : offsets offset) : offset.IsLegible := by
  by_contra little
  have fits := fits_atOffset offset
  have ends := opens {} "ann" onceAMinute (.atOffset offset) (by decide)
    (fun known same => Option.some.inj same ▸ allowed) fits.resetAt
  have moved := asRead_eq_of_ends fits ends
  rw [asRead_atOffset little] at moved
  have clocks : some ClockOffset.universal = some offset := congrArg Moment.offset moved
  rw [← Option.some.inj clocks] at little
  exact little (.inl rfl)

/-- A hit fails open on every clock, where its own moment is recorded as it reads back.  It is
recorded as this very moment exactly on clocks whose offsets read back: none, or those of at least a
second. -/
theorem failsOpen_iff (offsets : ClockOffset → Prop) :
    (∀ windows client policy now,
      (∃ resetAt, now.addSeconds policy.windowSeconds = .ok resetAt) →
      Ends windows client policy now now.asRead (windows.hit client policy now)) ∧
    (FailsOpen offsets ↔ ∀ offset, offsets offset → offset.IsLegible) :=
  ⟨fun _ client _ _ reset => hit_ends client reset,
    fun opens _ allowed => isLegible_of_failsOpen opens allowed, failsOpen_of_legible⟩

/-- A client hits on a clock that leads by half a second, and the hit is recorded half a second after
its moment.  So a hit a minute and a fifth of a second later is rejected, though none counts then. -/
theorem rejected_without_evidence :
    ∃ offset first second after last, offset.micros = 500000 ∧
      (∃ resetAt, (Moment.atOffset offset).addSeconds onceAMinute.windowSeconds = .ok resetAt) ∧
      ({} : SharedWindows).hit "ann" onceAMinute (.atOffset offset) = (.ok first, after) ∧
      first.allowed = true ∧
      after.read? "ann" = some [.middle 0] ∧ Moment.middle 0 ≠ .atOffset offset ∧
      after.hit "ann" onceAMinute (.middle 59700000) = (.ok second, last) ∧
      second.allowed = false ∧
      onceAMinute.counts (.middle 59700000) (.atOffset offset) = false := by
  let offset : ClockOffset := ⟨500000, by decide⟩
  have empty : ({} : SharedWindows).read? "ann" = some [] := rfl
  have readsBack : (Moment.atOffset offset).asRead = .middle 0 :=
    asRead_atOffset (by unfold ClockOffset.IsLegible; decide)
  have alike : (Moment.middle 0).alike (.middle 59700000) = true := rfl
  obtain ⟨first, slidFirst, admitted⟩ := Window.slide_first (fits_atOffset offset)
  obtain ⟨after, answer, still, read⟩ := hit_of_read (fun _ _ => rfl) empty slidFirst
  rw [admitted, if_pos rfl, List.map_singleton, readsBack] at read
  obtain ⟨second, _, slidSecond, counted, _⟩ :=
    Window.slide_second fits_afterMinute alike movable_middle
  obtain ⟨last, answerSecond, _, _⟩ := hit_of_read still read slidSecond
  refine ⟨offset, first, second, after, last, rfl, (fits_atOffset offset).resetAt, answer, admitted,
    read, by decide, answerSecond, ?_, by decide⟩
  exact Bool.eq_false_iff.mpr (mt counted.mp (by decide))

end SharedWindows

end AccessGate
