import AccessGate.Proofs.Cache.Keys
import AccessGate.Proofs.Cache.Trace
import AccessGate.Proofs.Json.RoundTrip

/-!
# What the shared cache holds

The shared store either carries a command out or refuses it and keeps everything as it was.  On a
store that never refuses, a lookup depends on the text under the key of the pair alone, so a use of
the cache disturbs exactly the pairs whose keys it writes or deletes.  These are more pairs than it
means: keys can be shared, and names can hold stars.
-/

namespace AccessGate

/-! ## Commands -/

namespace KeyValueStore

/-- The store fails one of the commands that are issued to it in a row. -/
def Refuses (store : KeyValueStore) (issued : List Command) : Prop :=
  ∃ index command, issued[index]? = some command ∧
    store.fails (store.commands.length + index) command = true

/-- No command ever fails. -/
def IsReliable (store : KeyValueStore) : Prop :=
  ∀ position command, store.fails position command = false

/-- The store with some more commands behind it. -/
def issue (store : KeyValueStore) (issued : List Command) : KeyValueStore :=
  { store with commands := store.commands ++ issued }

variable {store : KeyValueStore}

theorem IsReliable.not_refuses (reliable : store.IsReliable) (issued : List Command) :
    ¬ store.Refuses issued := by
  intro refuses
  obtain ⟨index, command, _, failed⟩ := refuses
  rw [reliable] at failed
  cases failed

private theorem not_refuses_nil : ¬ store.Refuses [] := by
  intro refuses
  obtain ⟨index, command, found, _⟩ := refuses
  simp at found

theorem refuses_cons {command : Command} {others : List Command} :
    store.Refuses (command :: others) ↔
      store.fails store.commands.length command = true ∨
        (store.issue [command]).Refuses others := by
  have shift (index : Nat) : store.commands.length + (index + 1) =
      (store.commands ++ [command]).length + index := by
    rw [List.length_append, List.length_singleton]
    omega
  constructor
  · intro refuses
    obtain ⟨index, found, there, failed⟩ := refuses
    cases index with
    | zero =>
        obtain rfl : command = found := by simpa using there
        exact .inl failed
    | succ index =>
        rw [shift] at failed
        exact .inr ⟨index, found, by simpa using there, failed⟩
  · intro refuses
    rcases refuses with failed | refuses
    · exact ⟨0, command, rfl, failed⟩
    · obtain ⟨index, found, there, failed⟩ := refuses
      refine ⟨index + 1, found, by simpa using there, ?_⟩
      rw [shift]
      exact failed

theorem carryOut_cases {α : Type} (store : KeyValueStore) (command : Command)
    (effect : Table String String → α × Table String String) :
    (store.fails store.commands.length command = true ∧
      store.carryOut command effect = (.error .disconnected, store.issue [command])) ∨
    (store.fails store.commands.length command = false ∧
      store.carryOut command effect =
        (.ok (effect store.entries).1,
          { store.issue [command] with entries := (effect store.entries).2 })) := by
  unfold carryOut
  cases failed : store.fails store.commands.length command with
  | true => exact .inl ⟨rfl, rfl⟩
  | false => exact .inr ⟨rfl, rfl⟩

theorem get_cases (store : KeyValueStore) (key : String) :
    (store.fails store.commands.length (.get key) = true ∧
      store.get key = (.error .disconnected, store.issue [.get key])) ∨
    (store.fails store.commands.length (.get key) = false ∧
      store.get key = (.ok (store.entries.get? key), store.issue [.get key])) :=
  store.carryOut_cases ..

theorem set_cases (store : KeyValueStore) (key value : String) (lifetime : Quantity) :
    (store.fails store.commands.length (.set key value lifetime) = true ∧
      store.set key value lifetime = (.error .disconnected, store.issue [.set key value lifetime])) ∨
    (store.fails store.commands.length (.set key value lifetime) = false ∧
      store.set key value lifetime =
        (.ok (), { store.issue [.set key value lifetime] with
          entries := store.entries.put key value })) :=
  store.carryOut_cases ..

theorem issue_issue (store : KeyValueStore) (issued others : List Command) :
    (store.issue issued).issue others = store.issue (issued ++ others) := by
  simp only [issue, List.append_assoc]

theorem IsReliable.carryOut {α : Type} (reliable : store.IsReliable) (command : Command)
    (effect : Table String String → α × Table String String) :
    store.carryOut command effect =
      (.ok (effect store.entries).1,
        { store.issue [command] with entries := (effect store.entries).2 }) := by
  rcases store.carryOut_cases command effect with ⟨failed, _⟩ | ⟨_, outcome⟩
  · rw [reliable] at failed
    cases failed
  · exact outcome

theorem IsReliable.get (reliable : store.IsReliable) (key : String) :
    store.get key = (.ok (store.entries.get? key), store.issue [.get key]) :=
  reliable.carryOut ..

theorem IsReliable.set (reliable : store.IsReliable) (key value : String) (lifetime : Quantity) :
    store.set key value lifetime =
      (.ok (), { store.issue [.set key value lifetime] with
        entries := store.entries.put key value }) :=
  reliable.carryOut ..

/-! ## Deletions -/

/-- How a deletion of all keys with a property ends: refused with all texts kept, because the store
failed one of its commands, or done, with exactly these keys gone. -/
inductive Deletes (struck : String → Prop) (store : KeyValueStore) :
    Except Disconnected Unit × KeyValueStore → Prop where
  | refused (issued : List Command) :
      store.Refuses issued → Deletes struck store (.error .disconnected, store.issue issued)
  | done (issued : List Command) (entries : Table String String) :
      ¬ store.Refuses issued →
      (∀ key, struck key → entries.get? key = none) →
      (∀ key, ¬ struck key → entries.get? key = store.entries.get? key) →
      Deletes struck store (.ok (), { store.issue issued with entries })

theorem not_refuses_singleton {command : Command}
    (worked : store.fails store.commands.length command = false) : ¬ store.Refuses [command] := by
  intro refuses
  rcases refuses_cons.mp refuses with failed | refuses
  · rw [worked] at failed
    cases failed
  · exact not_refuses_nil refuses

theorem Deletes.congr {struck other : String → Prop}
    {result : Except Disconnected Unit × KeyValueStore} (deletes : store.Deletes struck result)
    (same : ∀ key text, store.entries.get? key = some text → (struck key ↔ other key)) :
    store.Deletes other result := by
  cases deletes with
  | refused issued refuses => exact .refused issued refuses
  | done issued entries unrefused gone kept =>
      refine .done issued entries unrefused ?_ ?_
      · intro key struckKey
        cases found : store.entries.get? key with
        | some text => exact gone key ((same key text found).mpr struckKey)
        | none =>
            by_cases known : struck key
            · exact gone key known
            · rw [kept key known, found]
      · intro key spared
        cases found : store.entries.get? key with
        | some text =>
            rw [← found]
            exact kept key fun known => spared ((same key text found).mp known)
        | none =>
            by_cases known : struck key
            · exact gone key known
            · rw [kept key known, found]

theorem Deletes.behind {struck : String → Prop} {command : Command}
    {result : Except Disconnected Unit × KeyValueStore}
    (worked : store.fails store.commands.length command = false)
    (deletes : (store.issue [command]).Deletes struck result) : store.Deletes struck result := by
  have joined (issued : List Command) :
      (store.issue [command]).issue issued = store.issue (command :: issued) := by
    simp only [issue, List.append_assoc, List.singleton_append]
  cases deletes with
  | refused issued refuses =>
      rw [joined]
      exact .refused _ (refuses_cons.mpr (.inr refuses))
  | done issued entries unrefused gone kept =>
      rw [joined]
      refine .done _ entries ?_ gone kept
      intro refuses
      rcases refuses_cons.mp refuses with failed | refuses
      · rw [worked] at failed
        cases failed
      · exact unrefused refuses

theorem deletes_delete (store : KeyValueStore) (keys : List String) :
    store.Deletes (· ∈ keys) (store.delete keys) := by
  rcases store.carryOut_cases (.delete keys) fun entries => ((), entries.eraseAll keys) with
    ⟨failed, outcome⟩ | ⟨worked, outcome⟩
  · rw [delete, outcome]
    exact .refused _ (refuses_cons.mpr (.inl failed))
  · rw [delete, outcome]
    refine .done _ _ (not_refuses_singleton worked) ?_ ?_
    · intro key member
      rw [Table.get?_eraseAll, if_pos member]
    · intro key absent
      rw [Table.get?_eraseAll, if_neg absent]

end KeyValueStore

namespace SharedCache

open KeyValueStore

/-- Scanning for a pattern and deleting what was found deletes the keys that fit the pattern. -/
theorem deletes_deleteFitting (store : KeyValueStore) (pattern : String) :
    store.Deletes (fun key => Text.fits pattern key = true) (deleteFitting store pattern) := by
  let found := (TextSet.ofList (store.entries.keys.filter (Text.fits pattern))).items
  have listed (key text : String) (stored : store.entries.get? key = some text) :
      key ∈ found ↔ Text.fits pattern key = true := by
    have member : key ∈ found ↔ key ∈ store.entries.keys.filter (Text.fits pattern) :=
      TextSet.mem_ofList ..
    rw [member, List.mem_filter, Table.mem_keys_iff, stored]
    simp
  rcases store.carryOut_cases (.scan pattern) fun entries =>
      ((TextSet.ofList (entries.keys.filter (Text.fits pattern))).items, entries) with
    ⟨failed, outcome⟩ | ⟨worked, outcome⟩
  · rw [deleteFitting, scan, outcome]
    exact .refused _ (refuses_cons.mpr (.inl failed))
  · rw [deleteFitting, scan, outcome]
    refine Deletes.congr ?_ listed
    change store.Deletes (· ∈ found)
      (if found.isEmpty then (.ok (), store.issue [.scan pattern])
        else (store.issue [.scan pattern]).delete found)
    split
    · next empty =>
      rw [List.isEmpty_iff] at empty
      refine .done [.scan pattern] store.entries (not_refuses_singleton worked) ?_ ?_
      · intro key member
        rw [empty] at member
        cases member
      · intro key _
        rfl
    · exact .behind worked (deletes_delete _ found)

/-- Deletes the entries that an invalidation names. -/
def invalidate (cache : SharedCache) : Invalidation → Except Disconnected Unit × SharedCache
  | .ofUser user tenant => cache.invalidateUser user tenant
  | .ofTenant tenant => cache.invalidateTenant tenant

theorem deletes_invalidate (cache : SharedCache) (request : Invalidation) :
    ∃ outcome store, cache.invalidate request = (outcome, { cache with store }) ∧
      cache.store.Deletes request.Strikes (outcome, store) := by
  cases request with
  | ofUser user tenant =>
      cases tenant with
      | none =>
          refine ⟨_, _, rfl, ?_⟩
          exact (deletes_deleteFitting ..).congr fun _ _ _ => fits_userPattern
      | some tenant =>
          refine ⟨_, _, rfl, ?_⟩
          refine (deletes_delete cache.store [cacheKey user tenant]).congr ?_
          intro key _ _
          rw [List.mem_singleton]
          constructor
          · intro same
            exact ⟨(user, tenant), rfl, same⟩
          · intro struck
            obtain ⟨pair, rfl, same⟩ := struck
            exact same
  | ofTenant tenant =>
      refine ⟨_, _, rfl, ?_⟩
      exact (deletes_deleteFitting ..).congr fun _ _ _ => fits_tenantPattern

/-! ## Entries and lookups -/

theorem decode_encode (codes : List String) :
    decode (encode codes) = .ok (some (.ofList codes)) := by
  have read : Json.readUnmarked (encode codes) = .ok (.texts (Text.sorted codes)) :=
    Json.readUnmarked_write_texts Json.Layout.addsGaps_spaced _
  have shown : (Text.sorted codes).map (Json.display ∘ Json.text) = Text.sorted codes :=
    List.map_id'' (fun _ => rfl) _
  rw [decode, read]
  simp only [Json.texts, List.map_map, shown]
  congr 2
  apply TextSet.eq_of_mem_iff
  intro code
  rw [TextSet.mem_ofList, TextSet.mem_ofList, Text.mem_sorted]

/-- What a lookup makes of the text that is stored for a pair, if there is one. -/
def remembered : Option String → Except NestedTooDeep (Option TextSet)
  | some text => decode text
  | none => .ok none

variable {cache : SharedCache}

theorem get_of_reliable (reliable : cache.store.IsReliable) (user tenant : String) :
    cache.get user tenant =
      (remembered (cache.store.entries.get? (cacheKey user tenant)),
        { cache with store := cache.store.issue [.get (cacheKey user tenant)] }) := by
  unfold get
  rw [reliable.get]
  cases cache.store.entries.get? (cacheKey user tenant) <;> rfl

theorem set_of_reliable (reliable : cache.store.IsReliable) (user tenant : String)
    (codes : List String) :
    (cache.set user tenant codes).store.IsReliable ∧
      (cache.set user tenant codes).store.entries =
        cache.store.entries.put (cacheKey user tenant) (encode codes) := by
  have stored : (cache.set user tenant codes).store = _ := congrArg Prod.snd
    (reliable.set (cacheKey user tenant) (encode codes) (.whole cache.lifetime))
  rw [stored]
  exact ⟨reliable, rfl⟩

theorem invalidate_of_reliable (reliable : cache.store.IsReliable) (request : Invalidation) :
    (cache.invalidate request).1 = .ok () ∧ (cache.invalidate request).2.store.IsReliable ∧
      (∀ key, request.Strikes key →
        (cache.invalidate request).2.store.entries.get? key = none) ∧
      (∀ key, ¬ request.Strikes key →
        (cache.invalidate request).2.store.entries.get? key = cache.store.entries.get? key) := by
  obtain ⟨outcome, store, equality, deletes⟩ := cache.deletes_invalidate request
  rw [equality]
  cases deletes with
  | refused issued refuses => exact absurd refuses (reliable.not_refuses issued)
  | done issued entries _ gone kept => exact ⟨rfl, reliable, gone, kept⟩

end SharedCache

/-! ## Uses -/

/-- Whether a use of the shared cache writes or deletes the key of a pair. -/
def CacheUse.Reaches : CacheUse → String × String → Prop
  | get _ _, _ => False
  | set user tenant _, pair => SharesKey (user, tenant) pair
  | invalidate request, pair => ∃ other, request.Names other ∧ SharesKey other pair

/-- The text that a use leaves under the keys that it reaches. -/
def CacheUse.leaves : CacheUse → Option String
  | set _ _ codes => some (SharedCache.encode codes)
  | get _ _ | invalidate _ => none

namespace SharedCache

def after (cache : SharedCache) : CacheUse → SharedCache
  | .get user tenant => (cache.get user tenant).2
  | .set user tenant codes => cache.set user tenant codes
  | .invalidate request => (cache.invalidate request).2

/-- A run of uses on a cache in an empty store that refuses no command. -/
inductive Trace (lifetime : Int) : List CacheUse → SharedCache → Prop where
  | start : Trace lifetime [] { store := {}, lifetime }
  | step {past : List CacheUse} {cache : SharedCache} (use : CacheUse) :
      Trace lifetime past cache → Trace lifetime (past ++ [use]) (cache.after use)

variable {cache : SharedCache} {lifetime : Int} {past : List CacheUse} {pair : String × String}

theorem reliable_after (reliable : cache.store.IsReliable) (use : CacheUse) :
    (cache.after use).store.IsReliable := by
  cases use with
  | get user tenant =>
      rw [after, get_of_reliable reliable]
      exact reliable
  | set user tenant codes => exact (set_of_reliable reliable user tenant codes).1
  | invalidate request => exact (invalidate_of_reliable reliable request).2.1

theorem entries_after_of_not_reaches (reliable : cache.store.IsReliable) {use : CacheUse}
    (pair : String × String) (spared : ¬ use.Reaches pair) :
    (cache.after use).store.entries.get? (cacheKey pair.1 pair.2) =
      cache.store.entries.get? (cacheKey pair.1 pair.2) := by
  cases use with
  | get user tenant =>
      rw [after, get_of_reliable reliable]
      rfl
  | set user tenant codes =>
      rw [after, (set_of_reliable reliable user tenant codes).2, Table.get?_put, if_neg]
      intro same
      exact spared ((cacheKey_eq_iff (user, tenant) pair).mp same)
  | invalidate request =>
      apply (invalidate_of_reliable reliable request).2.2.2
      intro struck
      exact spared (Invalidation.strikes_cacheKey_iff.mp struck)

theorem entries_after_of_reaches (reliable : cache.store.IsReliable) {use : CacheUse}
    (pair : String × String) (reached : use.Reaches pair) :
    (cache.after use).store.entries.get? (cacheKey pair.1 pair.2) = use.leaves := by
  cases use with
  | get user tenant => exact reached.elim
  | set user tenant codes =>
      rw [after, (set_of_reliable reliable user tenant codes).2, Table.get?_put, if_pos]
      · rfl
      · exact (cacheKey_eq_iff (user, tenant) pair).mpr reached
  | invalidate request =>
      apply (invalidate_of_reliable reliable request).2.2.1
      exact Invalidation.strikes_cacheKey_iff.mpr reached

private theorem get_after_of_not_reaches (reliable : cache.store.IsReliable) {use : CacheUse}
    {user tenant : String} (spared : ¬ use.Reaches (user, tenant)) :
    ((cache.after use).get user tenant).1 = (cache.get user tenant).1 := by
  have kept := entries_after_of_not_reaches reliable (user, tenant) spared
  rw [get_of_reliable (reliable_after reliable use), get_of_reliable reliable, kept]

theorem get_after_of_reaches (reliable : cache.store.IsReliable) {use : CacheUse}
    {user tenant : String} (reached : use.Reaches (user, tenant)) :
    ((cache.after use).get user tenant).1 = remembered use.leaves := by
  have left := entries_after_of_reaches reliable (user, tenant) reached
  rw [get_of_reliable (reliable_after reliable use), left]

/-! ## Runs -/

theorem Trace.reliable (trace : Trace lifetime past cache) : cache.store.IsReliable := by
  induction trace with
  | start =>
      intro position command
      rfl
  | step use _ induction => exact reliable_after induction use

/-- The codes that were last written under the key of a pair and not deleted since. -/
def Stands (past : List CacheUse) (pair : String × String) (codes : TextSet) : Prop :=
  ∃ earlier other listed later, past = earlier ++ .set other.1 other.2 listed :: later ∧
    SharesKey other pair ∧ codes = .ofList listed ∧ ∀ use ∈ later, ¬ use.Reaches pair

private theorem stands_append {use : CacheUse} {codes : TextSet} :
    Stands (past ++ [use]) pair codes ↔
      (∃ other listed, use = .set other.1 other.2 listed ∧ SharesKey other pair ∧
        codes = .ofList listed) ∨ (¬ use.Reaches pair ∧ Stands past pair codes) := by
  constructor
  · intro stands
    obtain ⟨earlier, other, listed, later, equality, shares, rfl, spared⟩ := stands
    rcases List.eq_nil_or_concat later with rfl | ⟨before, last, rfl⟩
    · obtain ⟨_, same⟩ := List.append_inj' equality rfl
      exact .inl ⟨other, listed, List.singleton_inj.mp same, shares, rfl⟩
    · rw [List.concat_eq_append] at equality spared
      rw [← List.cons_append, ← List.append_assoc] at equality
      obtain ⟨rfl, same⟩ := List.append_inj' equality rfl
      obtain rfl := List.singleton_inj.mp same
      refine .inr ⟨spared use (by simp), earlier, other, listed, before, rfl, shares, rfl, ?_⟩
      intro follower found
      exact spared follower (List.mem_append_left _ found)
  · intro either
    rcases either with ⟨other, listed, rfl, shares, rfl⟩ | ⟨unreached, stands⟩
    · exact ⟨past, other, listed, [], rfl, shares, rfl, by simp⟩
    · obtain ⟨earlier, other, listed, later, rfl, shares, rfl, spared⟩ := stands
      refine ⟨earlier, other, listed, later ++ [use], by simp, shares, rfl, ?_⟩
      intro follower found
      rcases List.mem_append.mp found with old | new
      · exact spared follower old
      · rw [List.mem_singleton.mp new]
        exact unreached

/-- A use that reaches a pair leaves codes for it only if it sets them. -/
theorem remembered_leaves {use : CacheUse} {codes : TextSet} (reached : use.Reaches pair) :
    remembered use.leaves = .ok (some codes) ↔
      ∃ other listed, use = .set other.1 other.2 listed ∧ SharesKey other pair ∧
        codes = .ofList listed := by
  cases use with
  | get user tenant => exact reached.elim
  | set user tenant written =>
      rw [CacheUse.leaves, remembered, decode_encode]
      constructor
      · intro same
        cases same
        exact ⟨(user, tenant), written, rfl, reached, rfl⟩
      · intro set
        obtain ⟨other, listed, same, _, rfl⟩ := set
        cases same
        rfl
  | invalidate request =>
      constructor
      · intro same
        cases same
      · intro set
        obtain ⟨other, listed, same, _⟩ := set
        cases same

/-- A lookup finds the codes that were last written under the key of the pair, for whichever pair
that was, unless a later use has deleted the key. -/
theorem Trace.remembered_eq_ok_iff (trace : Trace lifetime past cache) (pair : String × String)
    (codes : TextSet) :
    remembered (cache.store.entries.get? (cacheKey pair.1 pair.2)) = .ok (some codes) ↔
      Stands past pair codes := by
  induction trace with
  | start =>
      constructor
      · intro found
        cases found
      · intro stands
        obtain ⟨earlier, other, listed, later, equality, _⟩ := stands
        simp at equality
  | @step past cache use trace induction =>
      rw [stands_append]
      by_cases reached : use.Reaches pair
      · rw [entries_after_of_reaches trace.reliable pair reached, remembered_leaves reached]
        constructor
        · exact .inl
        · intro either
          rcases either with set | ⟨unreached, _⟩
          · exact set
          · exact absurd reached unreached
      · rw [entries_after_of_not_reaches trace.reliable pair reached, induction]
        constructor
        · intro stands
          exact .inr ⟨reached, stands⟩
        · intro either
          rcases either with ⟨other, listed, rfl, shares, _⟩ | ⟨_, stands⟩
          · exact absurd shares reached
          · exact stands

/-- A use that reaches a pair changes what a lookup of the pair finds in some run: the first codes
that are set are found from then on, and codes that are deleted are found no more. -/
theorem disturbs_of_reaches (lifetime : Int) {use : CacheUse} {user tenant : String}
    (reached : use.Reaches (user, tenant)) :
    ∃ past cache, Trace lifetime past cache ∧
      ((cache.after use).get user tenant).1 ≠ (cache.get user tenant).1 := by
  have empty : Trace lifetime [] _ := .start
  cases use with
  | get other place => exact reached.elim
  | set other place codes =>
      refine ⟨_, _, empty, ?_⟩
      rw [get_after_of_reaches empty.reliable reached, get_of_reliable empty.reliable,
        CacheUse.leaves, remembered, decode_encode]
      intro same
      cases same
  | invalidate request =>
      -- Even a set without codes is found, as long as it is stored.
      have reachesOwn : (CacheUse.set user tenant []).Reaches (user, tenant) := .refl _
      have held := empty.step (.set user tenant [])
      refine ⟨_, _, held, ?_⟩
      rw [get_after_of_reaches held.reliable reached,
        get_after_of_reaches empty.reliable reachesOwn, CacheUse.leaves, CacheUse.leaves,
        remembered, remembered, decode_encode]
      intro same
      cases same

/-- A use leaves the lookups of a pair alone, whatever the store holds, if and only if it does not
reach the pair; and a lookup answers with the codes that were last set for a pair with the same
key. -/
theorem undisturbed_iff (lifetime : Int) (user tenant : String) :
    (∀ use : CacheUse,
      (∀ past cache, Trace lifetime past cache →
        ((cache.after use).get user tenant).1 = (cache.get user tenant).1) ↔
      ¬ use.Reaches (user, tenant)) ∧
    ∀ past cache, Trace lifetime past cache → ∀ codes,
      ((cache.get user tenant).1 = .ok (some codes) ↔ Stands past (user, tenant) codes) := by
  constructor
  · intro use
    constructor
    · intro undisturbed reached
      obtain ⟨past, cache, trace, disturbed⟩ := disturbs_of_reaches lifetime reached
      exact disturbed (undisturbed past cache trace)
    · intro spared past cache trace
      exact get_after_of_not_reaches trace.reliable spared
  · intro past cache trace codes
    rw [get_of_reliable trace.reliable]
    exact trace.remembered_eq_ok_iff (user, tenant) codes

/-- The entry of a user outlives the invalidation of another user. -/
theorem undisturbed_by_other_user :
    ∃ past cache, Trace 900 past cache ∧ past.length = 1 ∧
      (cache.get "ann" "t1").1 = .ok (some (.ofList ["shop.catalog.read"])) ∧
      ((cache.after (.invalidate (.ofUser "bob" none))).get "ann" "t1").1 =
        (cache.get "ann" "t1").1 := by
  have empty : Trace 900 [] _ := .start
  have trace := empty.step (.set "ann" "t1" ["shop.catalog.read"])
  obtain ⟨undisturbed, answered⟩ := undisturbed_iff 900 "ann" "t1"
  refine ⟨_, _, trace, rfl, ?_, ?_⟩
  · refine (answered _ _ trace _).mpr ⟨[], ("ann", "t1"), _, [], rfl, .refl _, rfl, ?_⟩
    intro use member
    cases member
  · refine (undisturbed _).mpr ?_ _ _ trace
    intro reached
    obtain ⟨other, named, shares⟩ := reached
    obtain rfl := shares.symm.eq_of_plain ⟨by decide, by decide⟩ ⟨by decide, by decide⟩
    have unfit : ¬ Text.fits "bob" "ann" = true := by decide
    exact unfit named

/-- A user whose name contains a mark is answered for by another one, and an invalidation of the
user named by a star takes the entry of every user. -/
theorem disturbed_by_mark_and_star :
    ∃ cache, Trace 900 [.set "ann:app:desk" "t1" ["shop.catalog.read"]] cache ∧
      (cache.get "ann" "desk:app:t1").1 = .ok (some (.ofList ["shop.catalog.read"])) ∧
      ((cache.after (.invalidate (.ofUser "*" none))).get "ann:app:desk" "t1").1 = .ok none := by
  have empty : Trace 900 [] _ := .start
  have trace := empty.step (.set "ann:app:desk" "t1" ["shop.catalog.read"])
  refine ⟨_, trace, ?_, ?_⟩
  · rw [get_after_of_reaches empty.reliable, CacheUse.leaves, remembered, decode_encode]
    exact .inr (.inr ⟨":desk", by decide, by decide⟩)
  · rw [get_after_of_reaches trace.reliable]
    · rfl
    · have fitting : Text.fits "*" "ann:app:desk" = true := by decide
      exact ⟨("ann:app:desk", "t1"), fitting, .refl _⟩

end SharedCache

end AccessGate
