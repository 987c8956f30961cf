import AccessGate.Proofs.Cache.Shared
import AccessGate.Proofs.RateLimit.Isolation
import AccessGate.Proofs.Time.IsoText
import AccessGate.RateLimit.Shared

/-!
# What a hit does to the windows in the shared store

A client's window is written as text after an admitted hit and read back by the next one.  On a
store that never fails, a hit slides what it reads, writes what it keeps if it is admitted, and
leaves the text as it is otherwise.  So a rejected hit does not drop what no longer counts; but
later hits do not count that either, and so the answers are those of a window that keeps only what
counts, as long as every moment reads back as itself.
-/

namespace AccessGate

/-- The answers that one client gets in a run of hits of many clients. -/
def SharedWindows.answers (windows : SharedWindows) (client : String) :
    List Hit → List (Except TimeError Decision)
  | [] => []
  | hit :: hits =>
      let (answer, after) := windows.hit hit.client hit.policy hit.now
      if hit.client = client then answer :: after.answers client hits
      else after.answers client hits

namespace SharedWindows

variable {windows : SharedWindows} {client : String} {policy : Policy} {now : Moment}

theorem answers_own {hit : Hit} {hits : List Hit} (own : hit.client = client) :
    windows.answers client (hit :: hits) =
      (windows.hit hit.client hit.policy hit.now).1 ::
        (windows.hit hit.client hit.policy hit.now).2.answers client hits := by
  simp only [answers, if_pos own]

theorem answers_other {hit : Hit} {hits : List Hit} (other : hit.client ≠ client) :
    windows.answers client (hit :: hits) =
      (windows.hit hit.client hit.policy hit.now).2.answers client hits := by
  simp only [answers, if_neg other]

/-! ## Texts -/

private theorem key_inj {client other : String} : key client = key other ↔ client = other := by
  rw [key, key, String.append_right_inj]

/-- A written window reads back, up to the offsets of its clocks. -/
theorem decode?_encode (hits : List Moment) :
    decode? (encode hits) = some (hits.map Moment.asRead) := by
  have filled : (encode hits).isEmpty = false := by
    rw [encode, Json.write, String.isEmpty_eq_false_iff, ne_eq, ← String.toList_eq_nil_iff,
      String.toList_ofList]
    exact List.cons_ne_nil _ _
  have each : ∀ hits : List Moment, ((hits.map Moment.write).map Json.text).mapM hit? =
      some (hits.map Moment.asRead) := by
    intro hits
    induction hits with
    | nil => rfl
    | cons hit hits induction =>
        rw [List.map_cons, List.map_cons, List.mapM_cons, induction, hit?, Moment.read?_write]
        rfl
  rw [decode?, filled, if_neg Bool.false_ne_true, encode,
    Json.readUnmarked_write_texts Json.Layout.addsGaps_spaced]
  exact each hits

/-- The hits that are read of a client, if its text can be read. -/
def read? (windows : SharedWindows) (client : String) : Option (List Moment) :=
  match windows.store.entries.get? (key client) with
  | some text => decode? text
  | none => some []

/-! ## Hits -/

/-- What a client's hits and a new one are decided to, as far as they can be read and slid. -/
def decided? (windows : SharedWindows) (client : String) (policy : Policy) (now : Moment) :
    Option (Decision × List Moment) :=
  (windows.read? client).bind fun hits => (Window.slide hits policy now).toOption

theorem decide?_eq_decided? :
    decide? (windows.store.entries.get? (key client)) policy now =
      windows.decided? client policy now := by
  unfold decide? decided? read?
  cases windows.store.entries.get? (key client) <;> rfl

/-- On a reliable store a hit is not recorded if what is stored cannot be decided on.  Otherwise it
writes the hits that are kept if it is admitted, and leaves the stored text as it is if not. -/
theorem hit_cases (reliable : windows.store.IsReliable) (client : String) (policy : Policy)
    (now : Moment) :
    (windows.decided? client policy now = none ∧
      windows.hit client policy now =
        (allowed policy now, { store := windows.store.issue [.get (key client)] })) ∨
    ∃ decision kept after, windows.decided? client policy now = some (decision, kept) ∧
      windows.hit client policy now = (.ok decision, after) ∧ after.store.IsReliable ∧
      after.store.entries =
        if decision.allowed then windows.store.entries.put (key client) (encode kept)
        else windows.store.entries := by
  have still : (windows.store.issue [.get (key client)]).IsReliable := reliable
  rw [hit, reliable.get]
  simp only [decide?_eq_decided?]
  cases windows.decided? client policy now with
  | none => exact .inl ⟨rfl, rfl⟩
  | some outcome =>
      obtain ⟨decision, kept⟩ := outcome
      refine .inr ⟨decision, kept, ?_⟩
      cases admitted : decision.allowed with
      | false =>
          simp only [admitted, Bool.false_eq_true, if_false]
          exact ⟨_, trivial, rfl, still, rfl⟩
      | true =>
          simp only [admitted, if_true, still.set]
          exact ⟨_, trivial, rfl, still, rfl⟩

/-- A hit slides the hits that are read.  If it is admitted, the next hit reads those that it kept,
and else the same ones again. -/
theorem hit_of_read (reliable : windows.store.IsReliable) {hits kept : List Moment}
    {decision : Decision} (read : windows.read? client = some hits)
    (slid : Window.slide hits policy now = .ok (decision, kept)) :
    ∃ after, windows.hit client policy now = (.ok decision, after) ∧ after.store.IsReliable ∧
      after.read? client = some (if decision.allowed then kept.map Moment.asRead else hits) := by
  have known : windows.decided? client policy now = some (decision, kept) := by
    rw [decided?, read, Option.bind_some, slid]
    rfl
  rcases windows.hit_cases reliable client policy now with
    ⟨unknown, _⟩ | ⟨other, others, after, same, answer, still, entries⟩
  · rw [known] at unknown
    cases unknown
  · rw [known] at same
    cases same
    refine ⟨after, answer, still, ?_⟩
    rw [read?, entries]
    cases decision.allowed with
    | false => exact read
    | true =>
        rw [if_pos rfl, Table.get?_put, if_pos rfl]
        exact decode?_encode kept

theorem hit_other (reliable : windows.store.IsReliable) {other : String}
    (different : other ≠ client) (policy : Policy) (now : Moment) :
    (windows.hit other policy now).2.store.IsReliable ∧
      (windows.hit other policy now).2.read? client = windows.read? client := by
  rcases windows.hit_cases reliable other policy now with
    ⟨_, answer⟩ | ⟨decision, kept, after, _, answer, still, entries⟩
  · rw [answer]
    exact ⟨reliable, rfl⟩
  · rw [answer]
    refine ⟨still, ?_⟩
    rw [read?, entries]
    cases decision.allowed with
    | false => rfl
    | true =>
        rw [if_pos rfl, Table.get?_put, if_neg (mt key_inj.mp different)]
        rfl

end SharedWindows

/-! ## Windows that keep more than what counts -/

/-- Stored hits tell the same at the later hits of their client as kept ones, and they read back as
themselves. -/
structure Mirrors (stored kept : List Moment) (later : List Hit) : Prop where
  same : ∀ hit ∈ later, stored.filter hit.counts = kept.filter hit.counts
  alike : ∀ old ∈ stored, ∀ hit ∈ later, old.alike hit.now = true
  legible : ∀ old ∈ stored, old.asRead = old

namespace Mirrors

variable {stored kept keptNext : List Moment} {hit : Hit} {later : List Hit} {decision : Decision}

theorem empty (later : List Hit) : Mirrors [] [] later where
  same _ _ := rfl
  alike _ found := by cases found
  legible _ found := by cases found

private theorem counts_of_later {next : Hit} {old : Moment} (behind : hit.now.NotAfter next.now)
    (single : next.policy.windowSeconds = hit.policy.windowSeconds)
    (counts : next.counts old = true) : hit.counts old = true := by
  have order := behind.instant_le
  simp only [Hit.counts, Policy.counts, decide_eq_true_eq, single] at counts ⊢
  omega

/-- Both decide alike on a hit, and the stored hits tell the same as the kept ones afterwards. -/
theorem next (mirrors : Mirrors stored kept (hit :: later))
    (slid : Window.slide kept hit.policy hit.now = .ok (decision, keptNext))
    (legible : hit.now.asRead = hit.now) (behind : ∀ next ∈ later, hit.now.NotAfter next.now)
    (single : ∀ next ∈ later, next.policy.windowSeconds = hit.policy.windowSeconds) :
    Window.slide stored hit.policy hit.now = .ok (decision, keptNext) ∧
      Mirrors (if decision.allowed then keptNext.map Moment.asRead else stored) keptNext later := by
  have same : stored.filter (hit.policy.counts hit.now) =
      kept.filter (hit.policy.counts hit.now) := mirrors.same hit List.mem_cons_self
  obtain ⟨cutoff, moved, _⟩ := bind_eq_ok.mp slid
  obtain ⟨follows, keptEquality⟩ := Window.slide_eq_ok slid
  rw [← same] at follows keptEquality
  constructor
  · obtain ⟨other, others, decided⟩ := Window.slide_succeeds
      (fun old member => mirrors.alike old member hit List.mem_cons_self) moved follows.resetAt
    obtain ⟨otherFollows, othersEquality⟩ := Window.slide_eq_ok decided
    obtain rfl := otherFollows.unique follows
    rw [decided, othersEquality, keptEquality]
  · cases admitted : decision.allowed with
    | false =>
        rw [admitted, if_neg Bool.false_ne_true, List.append_nil] at keptEquality
        rw [if_neg Bool.false_ne_true]
        refine ⟨?_, fun old member next found =>
          mirrors.alike old member next (List.mem_cons_of_mem _ found), mirrors.legible⟩
        intro next found
        rw [keptEquality, List.filter_filter]
        apply List.filter_congr
        intro old _
        rw [Bool.eq_iff_iff, Bool.and_eq_true]
        refine ⟨fun counts => ⟨counts, ?_⟩, And.left⟩
        exact counts_of_later (behind next found) (single next found) counts
    | true =>
        rw [admitted, if_pos rfl] at keptEquality
        have origin : ∀ old ∈ keptNext, old ∈ stored ∨ old = hit.now := by
          intro old member
          rw [keptEquality, List.mem_append, List.mem_singleton] at member
          exact member.imp_left fun early => (List.mem_filter.mp early).1
        have readsBack : ∀ old ∈ keptNext, old.asRead = old := by
          intro old member
          rcases origin old member with early | rfl
          · exact mirrors.legible old early
          · exact legible
        have unchanged : keptNext.map Moment.asRead = keptNext :=
          (List.map_congr_left readsBack).trans (List.map_id keptNext)
        rw [if_pos rfl, unchanged]
        refine ⟨fun _ _ => rfl, ?_, readsBack⟩
        intro old member next found
        rcases origin old member with early | rfl
        · exact mirrors.alike old early next (List.mem_cons_of_mem _ found)
        · exact (behind next found).alike

end Mirrors

/-! ## Runs -/

namespace SharedWindows

/-- A client whose moments read back as themselves and whose windows all have the same length is
answered as by a window that keeps only what counts. -/
theorem answers_eq_kept {client : String} {hits : List Hit} {windows : SharedWindows}
    {stored kept : List Moment} (reliable : windows.store.IsReliable)
    (read : windows.read? client = some stored)
    (mirrors : Mirrors stored kept (Hit.own client hits))
    (ordered : Hit.InOrder (Hit.own client hits))
    (single : (Hit.own client hits).Pairwise fun earlier later =>
      later.policy.windowSeconds = earlier.policy.windowSeconds)
    (legible : ∀ hit ∈ Hit.own client hits, hit.now.asRead = hit.now)
    (succeed : ∀ answer ∈ Window.answers kept (Hit.own client hits),
      ∃ decision, answer = .ok decision) :
    windows.answers client hits = Window.answers kept (Hit.own client hits) := by
  -- `Mirrors` is what every hit of the client preserves; other hits do not touch its text.
  induction hits generalizing windows stored kept with
  | nil => rfl
  | cons hit hits induction =>
      by_cases same : hit.client = client
      · rw [Hit.own_cons_same same] at mirrors ordered single legible succeed ⊢
        obtain ⟨behind, orderedLater⟩ := List.pairwise_cons.mp ordered
        obtain ⟨sameLength, singleLater⟩ := List.pairwise_cons.mp single
        obtain ⟨legibleNow, legibleLater⟩ := List.forall_mem_cons.mp legible
        cases slid : Window.slide kept hit.policy hit.now with
        | error failure =>
            simp only [Window.answers, slid, List.forall_mem_cons] at succeed
            obtain ⟨⟨_, failed⟩, _⟩ := succeed
            cases failed
        | ok outcome =>
            obtain ⟨decision, keptNext⟩ := outcome
            obtain ⟨decided, mirrorsLater⟩ := mirrors.next slid legibleNow behind sameLength
            simp only [Window.answers, slid, List.forall_mem_cons] at succeed ⊢
            obtain ⟨after, answer, still, readNext⟩ :=
              windows.hit_of_read reliable (same ▸ read) decided
            rw [answers_own same, answer]
            rw [same] at readNext
            exact congrArg _ (induction still readNext mirrorsLater orderedLater singleLater
              legibleLater succeed.2)
      · rw [Hit.own_cons_other same] at mirrors ordered single legible succeed ⊢
        obtain ⟨still, unread⟩ := windows.hit_other reliable same hit.policy hit.now
        rw [answers_other same]
        exact induction still (unread.trans read) mirrors ordered single legible succeed

end SharedWindows

end AccessGate
