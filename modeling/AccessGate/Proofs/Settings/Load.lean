import AccessGate.Proofs.Outcome
import AccessGate.Settings.Load
import Mathlib.Data.List.Basic

/-!
# Loading settings, step by step

Settings load in three steps: each source is read into fields, the first field of a name wins, and
all winning fields are validated.  The lemmas tell what a single field more changes in each step, so
that a setting can be followed from its source to its value while everything else stays as it is.
-/

namespace AccessGate

/-! ## Outcomes -/

theorem Validated.both_eq_ok {α β : Type} {first : Validated α} {second : Validated β}
    {values : α × β} :
    both first second = .ok values ↔ first = .ok values.1 ∧ second = .ok values.2 := by
  cases first <;> cases second <;> simp [both, Prod.ext_iff]

theorem Validated.all_eq_ok {α : Type} {outcomes : List (Validated α)} {values : List α} :
    all outcomes = .ok values ↔ outcomes = values.map .ok := by
  induction outcomes generalizing values with
  | nil => cases values <;> simp [all]
  | cons outcome outcomes induction =>
      rw [all, map_eq_ok]
      constructor
      · rintro ⟨⟨head, tail⟩, answer, rfl⟩
        obtain ⟨rfl, rest⟩ := both_eq_ok.mp answer
        rw [List.map_cons, ← induction.mp rest]
      · intro same
        cases values with
        | nil => cases same
        | cons head tail =>
            obtain ⟨rfl, rest⟩ := List.cons.inj same
            exact ⟨(head, tail), both_eq_ok.mpr ⟨rfl, induction.mpr rest⟩, rfl⟩

theorem Validated.insert_eq_map_iff {α : Type} {first last values : List α}
    {outcome : Validated α} :
    first.map .ok ++ outcome :: last.map .ok = values.map .ok ↔
      ∃ value, outcome = .ok value ∧ first ++ value :: last = values := by
  constructor
  · intro same
    have member : outcome ∈ values.map (.ok : α → Validated α) := by
      rw [← same]
      exact List.mem_append_right _ List.mem_cons_self
    obtain ⟨value, _, rfl⟩ := List.mem_map.mp member
    refine ⟨value, rfl, ?_⟩
    apply List.map_injective_iff.mpr fun _ _ => (Except.ok.inj : _ → _ = (_ : α))
    rw [List.map_append, List.map_cons]
    exact same
  · rintro ⟨value, rfl, rfl⟩
    rw [List.map_append, List.map_cons]

theorem Validated.texts_eq_ok {json : Json} {listed : List String} :
    texts json = .ok listed ↔ json = .texts listed := by
  have each (steps : Nat → PathStep) (found : List Json) (listed : List String) :
      (found.mapIdx fun number item => under (steps number) (text item)) =
          listed.map .ok ↔ found = listed.map .text := by
    induction found generalizing steps listed with
    | nil => cases listed <;> simp
    | cons item found induction =>
        cases listed with
        | nil => simp
        | cons first listed =>
            have later := induction (fun number => steps (number + 1)) listed
            rw [List.mapIdx_cons, List.map_cons, List.map_cons, List.cons.injEq, List.cons.injEq,
              later]
            cases item <;> simp [text, under, flaw]
  cases json with
  | list found =>
      rw [texts, items, all_eq_ok, each PathStep.item]
      simp [Json.texts]
  | _ => simp [texts, flaw, Json.texts]

theorem mapM_congr {ε α β : Type} {items : List α} {first second : α → Except ε β}
    (same : ∀ item ∈ items, first item = second item) : items.mapM first = items.mapM second := by
  induction items with
  | nil => rfl
  | cons item items induction =>
      rw [List.forall_mem_cons] at same
      rw [List.mapM_cons, List.mapM_cons, same.1, induction same.2]

private theorem mapM_insert_eq_ok {ε α β : Type} {front back : List α} {item : α}
    {step : α → Except ε β}
    {results : List β} (answer : (front ++ item :: back).mapM step = .ok results) :
    ∃ first result last, front.mapM step = .ok first ∧ step item = .ok result ∧
      back.mapM step = .ok last ∧ results = first ++ result :: last := by
  rw [List.mapM_append, List.mapM_cons] at answer
  obtain ⟨first, before, answer⟩ := bind_eq_ok.mp answer
  obtain ⟨rest, behind, same⟩ := bind_eq_ok.mp answer
  cases same
  obtain ⟨result, here, behind⟩ := bind_eq_ok.mp behind
  obtain ⟨last, after, same⟩ := bind_eq_ok.mp behind
  cases same
  exact ⟨first, result, last, before, here, after, rfl⟩

private theorem mapM_insert {ε α β : Type} {front back : List α} {item : α} {step : α → Except ε β}
    {first last : List β} (before : front.mapM step = .ok first)
    (behind : back.mapM step = .ok last) :
    (front ++ item :: back).mapM step = (step item).map fun result => first ++ result :: last := by
  rw [List.mapM_append, List.mapM_cons, before, behind]
  cases step item <;> rfl

namespace Json

theorem fieldOf?_append (name : String) (first second : List (String × Json)) :
    fieldOf? name (first ++ second) = (fieldOf? name first).or (fieldOf? name second) := by
  induction first with
  | nil => rfl
  | cons field fields induction =>
      by_cases same : field.1 = name
      · simp [fieldOf?, same]
      · simp [fieldOf?, same, induction]

theorem fieldOf?_cons_self (name : String) (value : Json) (fields : List (String × Json)) :
    fieldOf? name ((name, value) :: fields) = some value := by
  rw [fieldOf?, if_pos rfl]

theorem fieldOf?_cons_of_ne {name other : String} (different : name ≠ other) (value : Json)
    (fields : List (String × Json)) :
    fieldOf? other ((name, value) :: fields) = fieldOf? other fields := by
  rw [fieldOf?, if_neg different]

theorem fieldOf?_eq_none_iff {name : String} {fields : List (String × Json)} :
    fieldOf? name fields = none ↔ name ∉ fields.map Prod.fst := by
  induction fields with
  | nil => simp [fieldOf?]
  | cons field fields induction =>
      by_cases same : field.1 = name
      · simp [fieldOf?, same]
      · simp [fieldOf?, same, induction, Ne.symm same]

end Json

namespace Dotenv

theorem expand_of_not_mem {lookUp : String → Option (Option String)} {characters : List Char}
    (plain : '$' ∉ characters) (bound : Nat) :
    expand lookUp bound characters = characters := by
  induction characters generalizing bound with
  | nil => cases bound <;> rfl
  | cons character rest induction =>
      rw [List.mem_cons, not_or] at plain
      cases bound with
      | zero => rfl
      | succ bound =>
          rw [expand, induction plain.2]
          exact fun _ dollar _ => plain.1 dollar.symm

/-- A file whose values hold no dollar sign is read alike in all environments. -/
theorem read_alike {file : String}
    (plain : let characters := unifyLines file.toList
      ∀ entry ∈ bindings (characters.length + 1) characters,
        ∀ value ∈ entry.2, '$' ∉ value.toList)
    (first second : List (String × String)) : read first file = read second file := by
  refine List.foldl_ext _ _ _ fun known entry member => ?_
  obtain ⟨name, value⟩ := entry
  have same (text : String) (found : text ∈ value) :
      resolve first known text = resolve second known text := by
    have free := plain (name, value) member text found
    rw [resolve, resolve, expand_of_not_mem free, expand_of_not_mem free]
  exact congrArg (known.put name) (Option.map_congr same)

end Dotenv

namespace Settings

/-! ## Settling values -/

/-- The outcome for a setting, if a source tells it. -/
def outcome? (sources : List (String × Json)) (field : String × SettingKind × Json) :
    Option (Validated (String × Json)) :=
  (Json.fieldOf? field.1 sources).map fun value =>
    (Validated.under (.field field.1) (validate field.2.1 value)).map fun value => (field.1, value)

/-- The settings that sources tell, the first one first. -/
def settle (sources : List (String × Json)) : Except SettingsError Settings :=
  match Validated.all ((entries {}).filterMap (outcome? sources)) with
  | .ok values => .ok (({} : Settings).assignAll values)
  | .error flaws => .error (.invalid flaws)

theorem settle_eq_ok {sources : List (String × Json)} {settings : Settings} :
    settle sources = .ok settings ↔ ∃ values : List (String × Json),
      (entries {}).filterMap (outcome? sources) = values.map .ok ∧
        ({} : Settings).assignAll values = settings := by
  simp only [← Validated.all_eq_ok]
  unfold settle
  cases Validated.all ((entries {}).filterMap (outcome? sources)) <;> simp

variable {given : List (String × Json)} {environment : List (String × String)} {file : String}

private theorem load_eq_bind : load given environment file =
    (Environment.check environment).mapError .environment >>= fun _ =>
      assigned (environment.map fun (name, value) => (name, some value)) >>= fun fromEnvironment =>
        assigned (Dotenv.read environment file).entries >>= fun fromFile =>
          settle (given ++ fromEnvironment ++ fromFile) :=
  rfl

theorem load_eq_ok {settings : Settings} :
    load given environment file = .ok settings ↔
      Environment.check environment = .ok () ∧ ∃ fromEnvironment fromFile,
        assigned (environment.map fun (name, value) => (name, some value)) = .ok fromEnvironment ∧
        assigned (Dotenv.read environment file).entries = .ok fromFile ∧
        settle (given ++ fromEnvironment ++ fromFile) = .ok settings := by
  rw [load_eq_bind, bind_eq_ok]
  simp only [bind_eq_ok, mapError_eq_ok]
  constructor
  · rintro ⟨_, checked, first, known, second, read, settled⟩
    exact ⟨checked, first, second, known, read, settled⟩
  · rintro ⟨checked, first, second, known, read, settled⟩
    exact ⟨(), checked, first, known, second, read, settled⟩

/-! ## What texts assign -/

/-- What texts assign to a setting, with its name. -/
def assignment (texts : List (String × Option String)) (field : String × SettingKind × Json) :
    Except SettingsError (Option (String × Json)) :=
  (((assigned? texts field.1).map (written? field.2.1)).getD (.ok none)).map fun value =>
    value.map (field.1, ·)

theorem assigned_eq (texts : List (String × Option String)) :
    assigned texts = ((entries {}).mapM (assignment texts)).map fun found =>
      found.filterMap id := by
  let single (field : String × SettingKind × Json) : Except SettingsError (Option (String × Json)) :=
    ((assigned? texts field.1).map (written? field.2.1)).getD (.ok none) >>= fun value =>
      pure (value.map (field.1, ·))
  have each : ∀ field ∈ entries {}, single field = assignment texts field := by
    intro field _
    unfold single assignment
    cases ((assigned? texts field.1).map (written? field.2.1)).getD (.ok none) <;> rfl
  have steps : assigned texts =
      (entries {}).mapM single >>= fun found => pure (found.filterMap id) := rfl
  rw [steps, mapM_congr each]
  cases (entries {}).mapM (assignment texts) <;> rfl

theorem assigned?_append (texts : List (String × Option String)) (name other text : String) :
    assigned? (texts ++ [(name, some text)]) other =
      if Text.lower name = Text.lower other then some text else assigned? texts other := by
  rw [assigned?, List.foldl_append, List.foldl_cons, List.foldl_nil]
  split <;> rfl

/-- No two names of settings differ in letter case only. -/
theorem entries_apart : ((entries {}).map fun field => Text.lower field.1).Nodup := by
  decide +kernel

theorem split_entries {own : String × SettingKind × Json} (member : own ∈ entries {}) :
    ∃ front back, entries {} = front ++ own :: back ∧
      ∀ field ∈ front ++ back, Text.lower own.1 ≠ Text.lower field.1 := by
  obtain ⟨front, back, split⟩ := List.append_of_mem member
  refine ⟨front, back, split, ?_⟩
  have apart := entries_apart
  rw [split, List.map_append, List.map_cons, List.nodup_append] at apart
  obtain ⟨_, apartBehind, apartFront⟩ := apart
  intro field found same
  rcases List.mem_append.mp found with before | behind
  · exact apartFront _ (List.mem_map_of_mem before) _ List.mem_cons_self same.symm
  · rw [List.nodup_cons, same] at apartBehind
    exact apartBehind.1 (List.mem_map_of_mem behind)

theorem names_of_assignments {texts : List (String × Option String)}
    {fields : List (String × SettingKind × Json)} {found : List (Option (String × Json))}
    (answer : fields.mapM (assignment texts) = .ok found) :
    ∀ entry ∈ found.filterMap id, entry.1 ∈ fields.map Prod.fst := by
  induction fields generalizing found with
  | nil =>
      cases answer
      simp
  | cons field fields induction =>
      rw [List.mapM_cons] at answer
      obtain ⟨first, told, answer⟩ := bind_eq_ok.mp answer
      obtain ⟨others, rest, answer⟩ := bind_eq_ok.mp answer
      cases answer
      obtain ⟨value, _, rfl⟩ := map_eq_ok.mp told
      intro entry member
      rw [List.map_cons, List.mem_cons]
      cases value with
      | none => exact .inr (induction rest entry (by simpa using member))
      | some value =>
          have among : entry = (field.1, value) ∨ entry ∈ others.filterMap id := by
            simpa using member
          rcases among with rfl | later
          · exact .inl rfl
          · exact .inr (induction rest entry later)

/-- A text more for a setting that no text assigns yet gives one field more. -/
theorem assigned_append {texts : List (String × Option String)} {found : List (String × Json)}
    (known : assigned texts = .ok found) {own : String × SettingKind × Json}
    (member : own ∈ entries {}) (unset : assigned? texts own.1 = none) :
    ∃ front back, found = front ++ back ∧ own.1 ∉ found.map Prod.fst ∧
      ∀ text, assigned (texts ++ [(own.1, some text)]) =
        (written? own.2.1 text).map fun value =>
          front ++ (value.map (own.1, ·)).toList ++ back := by
  obtain ⟨front, back, split, apart⟩ := split_entries member
  rw [assigned_eq, split] at known
  obtain ⟨results, read, rfl⟩ := map_eq_ok.mp known
  obtain ⟨first, result, last, readFront, readOwn, readBack, rfl⟩ := mapM_insert_eq_ok read
  -- The text stands last, and so it only matters for its own name.
  have untold : assignment texts own = .ok none := by
    rw [assignment, unset]
    rfl
  obtain rfl : none = result := Except.ok.inj (untold.symm.trans readOwn)
  have parts (value : Option (String × Json)) : (first ++ value :: last).filterMap id =
      first.filterMap id ++ value.toList ++ last.filterMap id := by
    cases value <;> simp
  refine ⟨first.filterMap id, last.filterMap id, by simp, ?_, ?_⟩
  · intro listed
    obtain ⟨entry, found, named⟩ := List.mem_map.mp listed
    rw [parts none, Option.toList_none, List.append_nil] at found
    have among : entry.1 ∈ (front ++ back).map Prod.fst := by
      rw [List.map_append, List.mem_append]
      rcases List.mem_append.mp found with before | behind
      · exact .inl (names_of_assignments readFront entry before)
      · exact .inr (names_of_assignments readBack entry behind)
    obtain ⟨field, fieldFound, fieldNamed⟩ := List.mem_map.mp among
    exact apart field fieldFound (by rw [fieldNamed, named])
  · intro text
    have unchanged : ∀ field ∈ front ++ back,
        assignment texts field = assignment (texts ++ [(own.1, some text)]) field := by
      intro field found
      rw [assignment, assignment, assigned?_append, if_neg (apart field found)]
    have told : assignment (texts ++ [(own.1, some text)]) own =
        (written? own.2.1 text).map fun value => value.map (own.1, ·) := by
      rw [assignment, assigned?_append, if_pos rfl]
      rfl
    rw [List.forall_mem_append] at unchanged
    rw [mapM_congr unchanged.1] at readFront
    rw [mapM_congr unchanged.2] at readBack
    rw [assigned_eq, split, mapM_insert readFront readBack, told]
    cases written? own.2.1 text with
    | error failure => rfl
    | ok value => exact congrArg Except.ok (parts (value.map (own.1, ·)))

/-! ## One value more -/

theorem map_fst_of_outcomes {sources : List (String × Json)}
    {fields : List (String × SettingKind × Json)} {values : List (String × Json)}
    (same : fields.filterMap (outcome? sources) = values.map .ok) :
    ∀ value ∈ values, value.1 ∈ fields.map Prod.fst := by
  intro value member
  have listed : .ok value ∈ fields.filterMap (outcome? sources) := by
    rw [same]
    exact List.mem_map_of_mem member
  obtain ⟨field, found, told⟩ := List.mem_filterMap.mp listed
  obtain ⟨json, _, valid⟩ := Option.map_eq_some_iff.mp told
  obtain ⟨_, _, rfl⟩ := map_eq_ok.mp valid
  exact List.mem_map_of_mem found

/-- Where sources settle without telling a setting, a value for it is validated and assigned, and
everything else stays as it is. -/
theorem settle_insert {sources : List (String × Json)} {settings : Settings}
    (settled : settle sources = .ok settings) {own : String × SettingKind × Json}
    (member : own ∈ entries {}) (untold : Json.fieldOf? own.1 sources = none) :
    ∃ front back : List (String × Json), own.1 ∉ (front ++ back).map Prod.fst ∧
      settings = ({} : Settings).assignAll (front ++ back) ∧
      ∀ others value, (∀ name, name ≠ own.1 →
          Json.fieldOf? name others = Json.fieldOf? name sources) →
        Json.fieldOf? own.1 others = some value → ∀ loaded, settle others = .ok loaded ↔
          ∃ valid, validate own.2.1 value = .ok valid ∧
            ({} : Settings).assignAll (front ++ (own.1, valid) :: back) = loaded := by
  obtain ⟨front, back, split, apart⟩ := split_entries member
  obtain ⟨values, same, rfl⟩ := settle_eq_ok.mp settled
  have silent : outcome? sources own = none := by rw [outcome?, untold, Option.map_none]
  rw [split, List.filterMap_append, List.filterMap_cons_none silent] at same
  obtain ⟨first, last, rfl, sameFront, sameBack⟩ := List.append_eq_map_iff.mp same
  refine ⟨first, last, ?_, rfl, ?_⟩
  · intro listed
    obtain ⟨value, found, named⟩ := List.mem_map.mp listed
    have among : value.1 ∈ (front ++ back).map Prod.fst := by
      rw [List.map_append, List.mem_append]
      rcases List.mem_append.mp found with before | behind
      · exact .inl (map_fst_of_outcomes sameFront.symm value before)
      · exact .inr (map_fst_of_outcomes sameBack.symm value behind)
    obtain ⟨field, fieldFound, fieldNamed⟩ := List.mem_map.mp among
    exact apart field fieldFound (by rw [fieldNamed, named])
  · intro others value unchanged told loaded
    -- The settings around this one have other names, and the sources tell the same of them.
    have alike : ∀ field ∈ front ++ back, outcome? others field = outcome? sources field := by
      intro field found
      have different : field.1 ≠ own.1 := fun same => apart field found (by rw [same])
      rw [outcome?, outcome?, unchanged field.1 different]
    rw [List.forall_mem_append] at alike
    have here : outcome? others own = some ((Validated.under (.field own.1)
        (validate own.2.1 value)).map fun valid => (own.1, valid)) := by
      rw [outcome?, told, Option.map_some]
    rw [settle_eq_ok, split, List.filterMap_append, List.filterMap_cons_some here,
      List.filterMap_congr alike.1, List.filterMap_congr alike.2, ← sameFront, ← sameBack]
    simp only [Validated.insert_eq_map_iff]
    constructor
    · rintro ⟨values, ⟨entry, valid, rfl⟩, rfl⟩
      obtain ⟨found, validated, rfl⟩ := map_eq_ok.mp valid
      exact ⟨found, mapError_eq_ok.mp validated, rfl⟩
    · rintro ⟨found, validated, rfl⟩
      exact ⟨_, ⟨_, by rw [validated]; rfl, rfl⟩, rfl⟩

private theorem check_append (checked : Environment.check environment = .ok ()) {name : String}
    (member : name ∈ names) (text : String) :
    Environment.check (environment ++ [(name, text)]) = .ok () ↔ '\x00' ∉ text.toList := by
  have spelled : name ≠ "" ∧ '=' ∉ name.toList ∧ '\x00' ∉ name.toList := by
    revert name
    decide +kernel
  unfold Environment.check at checked ⊢
  rw [List.forM_eq_forM] at checked ⊢
  rw [List.forM_append, checked]
  simp [Environment.checkVariable, Environment.holds, spelled]

/-- A text more in the environment gives what is written in it, if it can be there. -/
theorem load_append_eq_ok {own : String × SettingKind × Json} (member : own ∈ entries {})
    (checked : Environment.check environment = .ok ()) {text : String}
    (unread : Dotenv.read (environment ++ [(own.1, text)]) file = Dotenv.read environment file)
    {fromFile before behind : List (String × Json)}
    (read : assigned (Dotenv.read environment file).entries = .ok fromFile)
    (told : assigned ((environment.map fun (name, value) => (name, some value)) ++
        [(own.1, some text)]) =
      (written? own.2.1 text).map fun value => before ++ (value.map (own.1, ·)).toList ++ behind)
    {loaded : Settings} :
    load given (environment ++ [(own.1, text)]) file = .ok loaded ↔
      '\x00' ∉ text.toList ∧ ∃ value, written? own.2.1 text = .ok value ∧
        settle (given ++ (before ++ (value.map (own.1, ·)).toList ++ behind) ++ fromFile) =
          .ok loaded := by
  rw [load_eq_ok, check_append checked (List.mem_map_of_mem member), List.map_append,
    List.map_singleton, told, unread, read]
  refine and_congr_right fun _ => ⟨?_, ?_⟩
  · rintro ⟨_, _, answer, same, settled⟩
    obtain ⟨value, written, rfl⟩ := map_eq_ok.mp answer
    cases same
    exact ⟨value, written, settled⟩
  · rintro ⟨value, written, settled⟩
    exact ⟨_, fromFile, map_eq_ok.mpr ⟨value, written, rfl⟩, rfl, settled⟩

/-- The settings load, and nothing tells or reads the setting of a name. -/
structure IsOpen (name : String) (given : List (String × Json))
    (environment : List (String × String)) (file : String) : Prop where
  loads : ∃ settings, load given environment file = .ok settings
  ungiven : Json.fieldOf? name given = none
  unassigned : assigned? (environment.map fun (name, value) => (name, some value)) name = none
  unfiled : assigned? (Dotenv.read environment file).entries name = none
  unread : ∀ text, Dotenv.read (environment ++ [(name, text)]) file = Dotenv.read environment file

/-- What loads with a value or a text more: the values around it stay as they are. -/
structure Slot (name : String) (kind : SettingKind) (given : List (String × Json))
    (environment : List (String × String)) (file : String) (front back : List (String × Json)) :
    Prop where
  apart : name ∉ (front ++ back).map Prod.fst
  load_given : ∀ value loaded,
    load ((name, value) :: given) environment file = .ok loaded ↔
      ∃ valid, validate kind value = .ok valid ∧
        ({} : Settings).assignAll (front ++ (name, valid) :: back) = loaded
  load_environment : ∀ text loaded,
    load given (environment ++ [(name, text)]) file = .ok loaded ↔ '\x00' ∉ text.toList ∧
      ((written? kind text = .ok none ∧ ({} : Settings).assignAll (front ++ back) = loaded) ∨
        ∃ value, written? kind text = .ok (some value) ∧ ∃ valid, validate kind value = .ok valid ∧
          ({} : Settings).assignAll (front ++ (name, valid) :: back) = loaded)

theorem IsOpen.slot {own : String × SettingKind × Json} (member : own ∈ entries {})
    (isOpen : IsOpen own.1 given environment file) :
    ∃ front back, Slot own.1 own.2.1 given environment file front back := by
  obtain ⟨settings, loads⟩ := isOpen.loads
  obtain ⟨checked, fromEnvironment, fromFile, known, read, settled⟩ := load_eq_ok.mp loads
  obtain ⟨before, behind, rfl, apart, told⟩ := assigned_append known member isOpen.unassigned
  obtain ⟨_, _, _, apartFile, _⟩ := assigned_append read member isOpen.unfiled
  rw [List.map_append, List.mem_append, not_or] at apart
  have silentBefore := Json.fieldOf?_eq_none_iff.mpr apart.1
  have silentBehind := Json.fieldOf?_eq_none_iff.mpr apart.2
  have silentFile := Json.fieldOf?_eq_none_iff.mpr apartFile
  have untold : Json.fieldOf? own.1 (given ++ (before ++ behind) ++ fromFile) = none := by
    simp only [Json.fieldOf?_append, isOpen.ungiven, silentBefore, silentBehind, silentFile,
      Option.or_none]
  obtain ⟨front, back, apart, rfl, inserts⟩ := settle_insert settled member untold
  refine ⟨front, back, apart, fun value loaded => ?_, fun text loaded => ?_⟩
  -- A given value stands in front of all sources, a text of the environment in the midst of them.
  · rw [← inserts ((own.1, value) :: given ++ (before ++ behind) ++ fromFile) value, load_eq_ok]
    · simp [checked, known, read]
    · intro name different
      exact Json.fieldOf?_cons_of_ne (Ne.symm different) value _
    · exact Json.fieldOf?_cons_self own.1 value _
  · rw [load_append_eq_ok member checked (isOpen.unread text) read (told text), Option.exists]
    refine and_congr_right fun _ => or_congr (and_congr_right fun _ => ?_) (exists_congr fun value =>
      and_congr_right fun _ => inserts _ value ?_ ?_ loaded)
    · rw [Option.map_none, Option.toList_none, List.append_nil, settled, Except.ok.injEq]
    · intro name different
      simp only [Json.fieldOf?_append, Option.map_some, Option.toList_some,
        Json.fieldOf?_cons_of_ne (Ne.symm different)]
      rw [show Json.fieldOf? name [] = none from rfl, Option.or_none]
    · simp only [Json.fieldOf?_append, isOpen.ungiven, silentBefore, Option.map_some,
        Option.toList_some, Json.fieldOf?_cons_self, Option.none_or, Option.some_or]

end Settings

end AccessGate
