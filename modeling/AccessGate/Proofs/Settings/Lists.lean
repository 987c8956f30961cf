import AccessGate.Proofs.Json.Ascii
import AccessGate.Proofs.Json.Length
import AccessGate.Proofs.Settings.Load
import AccessGate.Proofs.Text.Fields

/-!
# Settings of several texts

The items of a setting can be spelled as a JSON array or with commas between them.  Given values
are taken in both spellings.  The environment is read as JSON before commas are looked for, so that
a text with commas is refused there, or read as something else.  It never has the same items: what
JSON finds in a text is shorter than the text by its quotes and brackets, and the items between
commas, put together again, are not.
-/

namespace AccessGate

/-- An item that can be listed between commas. -/
structure IsListable (item : String) : Prop where
  filled : item ≠ ""
  commaless : ',' ∉ item.toList
  trimmed : Text.trim item = item

instance (item : String) : Decidable (IsListable item) :=
  decidable_of_iff (item ≠ "" ∧ ',' ∉ item.toList ∧ Text.trim item = item)
    ⟨fun holds => ⟨holds.1, holds.2.1, holds.2.2⟩,
      fun holds => ⟨holds.filled, holds.commaless, holds.trimmed⟩⟩

def commaText (items : List String) : String :=
  ",".intercalate items

/-! ## Parts between commas -/

private theorem parts_commaText {items : List String} (listable : ∀ item ∈ items, IsListable item) :
    Settings.parts (commaText items) = items := by
  cases items with
  | nil => rfl
  | cons first others =>
      have cut : Text.splitAt ',' (commaText (first :: others)).toList =
          (first :: others).map String.toList := by
        rw [commaText, String.toList_intercalate]
        apply Text.splitAt_intercalate
        · intro field member
          obtain ⟨item, found, rfl⟩ := List.mem_map.mp member
          exact (listable item found).commaless
        · simp
      have trimmed : ((first :: others).map String.toList).map
          (fun part => String.ofList (Text.trimCharacters part)) = first :: others := by
        rw [List.map_map]
        conv_rhs => rw [← List.map_id (first :: others)]
        exact List.map_congr_left fun item found => (listable item found).trimmed
      rw [Settings.parts, cut, trimmed, List.filter_eq_self]
      intro item member
      simpa using (listable item member).filled

private theorem length_trimCharacters_le (characters : List Char) :
    (Text.trimCharacters characters).length ≤ characters.length := by
  have front := (List.dropWhile_sublist Text.isBlank (l := characters)).length_le
  have back := (List.dropWhile_sublist Text.isBlank
    (l := (Text.dropBlank characters).reverse)).length_le
  rw [List.length_reverse] at back
  rw [Text.trimCharacters, List.length_reverse]
  exact back.trans front

theorem length_intercalate (separator : Char) (fields : List (List Char)) :
    ([separator].intercalate fields).length =
      (fields.map fun field => field.length + 1).sum - 1 := by
  induction fields with
  | nil => rfl
  | cons first others induction =>
      cases others with
      | nil => simp
      | cons second others =>
          rw [List.map_cons, List.sum_cons] at induction
          rw [List.intercalate_cons_cons, List.map_cons, List.map_cons, List.sum_cons,
            List.sum_cons]
          simp only [List.length_append, List.length_singleton]
          omega

theorem length_commaText (items : List String) :
    (commaText items).length = (items.map fun item => item.length + 1).sum - 1 := by
  rw [← String.length_toList, commaText, String.toList_intercalate]
  exact (length_intercalate ',' _).trans (by simp [Function.comp_def, String.length_toList])

/-- Parts that are put together again are no longer than the text that they come from. -/
theorem length_commaText_parts_le (text : String) :
    (commaText (Settings.parts text)).length ≤ text.length := by
  have whole := length_intercalate ',' (Text.splitAt ',' text.toList)
  rw [Text.intercalate_splitAt, String.length_toList] at whole
  have filtered := (((List.filter_sublist (p := fun part : String => !part.isEmpty)
    (l := (Text.splitAt ',' text.toList).map fun part =>
      String.ofList (Text.trimCharacters part))).map fun part => part.length + 1)).sum_le_sum
        fun _ _ => Nat.zero_le _
  have trimmed : (((Text.splitAt ',' text.toList).map fun part =>
      String.ofList (Text.trimCharacters part)).map fun part => part.length + 1).sum ≤
        ((Text.splitAt ',' text.toList).map fun field => field.length + 1).sum := by
    rw [List.map_map]
    refine List.sum_le_sum fun field _ => ?_
    simpa using length_trimCharacters_le field
  rw [length_commaText, whole]
  exact Nat.sub_le_sub_right (filtered.trans trimmed) 1

/-! ## What is taken as items -/

theorem Json.texts_injective {first second : List String} (same : texts first = texts second) :
    first = second :=
  List.map_injective_iff.mpr (fun _ _ => Json.text.inj) (Json.list.inj same)

theorem validate_texts_eq_ok {value valid : Json} :
    Settings.validate .texts value = .ok valid ↔ ∃ items, valid = .texts items ∧
      ((∃ text, value = .text text ∧ Settings.parts text = items) ∨ value = .texts items) := by
  have array (json : Json) : (Validated.texts json).map Json.texts = .ok valid ↔
      ∃ items, valid = .texts items ∧ json = .texts items := by
    rw [map_eq_ok]
    constructor
    · rintro ⟨items, listed, rfl⟩
      exact ⟨items, rfl, Validated.texts_eq_ok.mp listed⟩
    · rintro ⟨items, rfl, listed⟩
      exact ⟨items, Validated.texts_eq_ok.mpr listed, rfl⟩
  cases value with
  | text text => simp [Settings.validate, Json.texts, eq_comm]
  | _ => simp [Settings.validate, array, Json.texts]

theorem written?_texts_eq_ok {text : String} {value : Option Json} :
    Settings.written? .texts text = .ok value ↔
      (value = none ∧ Json.readUnmarked text = .ok .null) ∨
        ∃ json, value = some json ∧ json ≠ .null ∧ Json.readUnmarked text = .ok json := by
  rw [Settings.written?]
  cases Json.readUnmarked text with
  | error failure => cases failure <;> simp
  | ok json => cases json <;> simp [eq_comm]

private theorem written?_commaText {items : List String} {value : Json}
    (written : Settings.written? .texts (commaText items) = .ok (some value)) :
    Settings.validate .texts value ≠ .ok (.texts items) := by
  intro valid
  obtain ⟨found, same, taken⟩ := validate_texts_eq_ok.mp valid
  obtain rfl : items = found := Json.texts_injective same
  obtain ⟨absent, _⟩ | ⟨json, present, _, read⟩ := written?_texts_eq_ok.mp written
  · cases absent
  obtain rfl := Option.some.inj present
  rcases taken with ⟨text, rfl, cut⟩ | rfl
  · have shorter := Json.length_of_readUnmarked_text read
    have together := length_commaText_parts_le text
    rw [cut] at together
    omega
  · have shorter := Json.length_of_readUnmarked_texts read
    have longer : (items.map fun item => item.length + 1).sum ≤
        (items.map fun item => item.length + 3).sum :=
      List.sum_le_sum fun _ _ => by omega
    rw [length_commaText] at shorter
    omega

/-! ## The settings and how they are passed -/

/-- A setting of several texts. -/
inductive ListSetting where
  | adminKeys
  | exemptIps
  | exemptKeys
  deriving DecidableEq, Repr

/-- Where a setting is passed. -/
inductive ListSource where
  | given
  | environment
  deriving DecidableEq, Repr

/-- How the items of a setting are spelled. -/
inductive ListSpelling where
  | commas
  | array
  deriving DecidableEq, Repr

/-- Items as a given value. -/
def ListSpelling.value (items : List String) : ListSpelling → Json
  | .commas => .text (commaText items)
  | .array => .texts items

def ListSpelling.text (layout : Json.Layout) (items : List String) : ListSpelling → String
  | .commas => commaText items
  | .array => Json.write layout (.texts items)

namespace ListSetting

def name : ListSetting → String
  | adminKeys => "ADMIN_API_KEYS"
  | exemptIps => "RATE_LIMIT_WHITELISTED_IPS"
  | exemptKeys => "RATE_LIMIT_WHITELISTED_API_KEYS"

def items : ListSetting → Settings → List String
  | adminKeys => Settings.adminKeys
  | exemptIps => Settings.exemptIps
  | exemptKeys => Settings.exemptKeys

/-- Loads the settings with items passed for one of them. -/
def load (setting : ListSetting) (given : List (String × Json))
    (environment : List (String × String)) (file : String) (layout : Json.Layout)
    (items : List String) (spelling : ListSpelling) : ListSource → Except SettingsError Settings
  | .given => Settings.load ((setting.name, spelling.value items) :: given) environment file
  | .environment =>
      Settings.load given (environment ++ [(setting.name, spelling.text layout items)]) file

private theorem mem_entries (setting : ListSetting) :
    (setting.name, .texts, .texts []) ∈ Settings.entries {} := by
  cases setting <;> simp [Settings.entries, name]

private theorem items_assign (setting : ListSetting) (settings : Settings) (items : List String) :
    setting.items (settings.assign setting.name (.texts items)) = items := by
  have read : (items.map Json.text).filterMap Json.text? = items := by
    rw [List.filterMap_map]
    exact List.filterMap_some
  cases setting <;> exact read

private theorem items_assign_of_ne (setting : ListSetting) (settings : Settings) {other : String}
    (different : other ≠ setting.name) (value : Json) :
    setting.items (settings.assign other value) = setting.items settings := by
  unfold Settings.assign
  split <;> cases setting <;> first | rfl | exact absurd rfl different

theorem items_assignAll (setting : ListSetting) {fields : List (String × Json)}
    (apart : setting.name ∉ fields.map Prod.fst) (settings : Settings) :
    setting.items (settings.assignAll fields) = setting.items settings := by
  induction fields generalizing settings with
  | nil => rfl
  | cons field fields induction =>
      rw [List.map_cons, List.mem_cons, not_or] at apart
      exact (induction apart.2 _).trans
        (setting.items_assign_of_ne settings (Ne.symm apart.1) field.2)

theorem items_assignAll_insert (setting : ListSetting) {front back : List (String × Json)}
    (apart : setting.name ∉ (front ++ back).map Prod.fst) (settings : Settings)
    (items : List String) :
    setting.items (settings.assignAll (front ++ (setting.name, .texts items) :: back)) =
      items := by
  rw [List.map_append, List.mem_append, not_or] at apart
  rw [Settings.assignAll, List.foldl_append, List.foldl_cons]
  exact (setting.items_assignAll apart.2 _).trans (setting.items_assign _ items)

/-! ## Passing items -/

theorem validate_value {items : List String} (listable : ∀ item ∈ items, IsListable item)
    (spelling : ListSpelling) :
    Settings.validate .texts (spelling.value items) = .ok (.texts items) := by
  refine validate_texts_eq_ok.mpr ⟨items, rfl, ?_⟩
  cases spelling with
  | commas => exact .inl ⟨commaText items, rfl, parts_commaText listable⟩
  | array => exact .inr rfl

private theorem written?_array {layout : Json.Layout} (gaps : layout.AddsGaps)
    (items : List String) :
    Settings.written? .texts (ListSpelling.array.text layout items) =
      .ok (some (.texts items)) := by
  refine written?_texts_eq_ok.mpr (.inr ⟨_, rfl, nofun, ?_⟩)
  exact Json.readUnmarked_write_texts gaps items

private theorem null_not_mem_array {layout : Json.Layout} (gaps : layout.AddsGaps)
    (items : List String) :
    '\x00' ∉ (ListSpelling.array.text layout items).toList := by
  intro member
  rw [ListSpelling.text, Json.write, String.toList_ofList] at member
  exact absurd (Json.allAscii_value gaps (@Json.ReadsBack.texts 1 items) _ member) (by decide)

variable {setting : ListSetting} {given : List (String × Json)}
  {environment : List (String × String)} {file : String} {layout : Json.Layout}
  {items : List String} {front back : List (String × Json)}

/-- The environment does not take items with commas between them. -/
theorem load_environment_commas
    (slot : Settings.Slot setting.name .texts given environment file front back) :
    ¬∃ loaded, setting.load given environment file layout items .commas .environment =
      .ok loaded ∧ setting.items loaded = items := by
  rintro ⟨loaded, loads, same⟩
  obtain ⟨_, ⟨unset, rfl⟩ | ⟨value, written, valid, validated, rfl⟩⟩ :=
    (slot.load_environment _ _).mp loads
  · -- Null leaves the setting without items, but the text for no items is empty and not null.
    have none : setting.items {} = [] := by cases setting <;> rfl
    rw [setting.items_assignAll slot.apart, none] at same
    subst same
    cases unset
  · obtain ⟨found, rfl, _⟩ := validate_texts_eq_ok.mp validated
    rw [setting.items_assignAll_insert slot.apart] at same
    subst same
    exact written?_commaText written validated

theorem load_eq_ok
    (slot : Settings.Slot setting.name .texts given environment file front back)
    (gaps : layout.AddsGaps) (listable : ∀ item ∈ items, IsListable item) {source : ListSource}
    {spelling : ListSpelling} (taken : ¬(source = .environment ∧ spelling = .commas)) :
    setting.load given environment file layout items spelling source =
      .ok (({} : Settings).assignAll (front ++ (setting.name, .texts items) :: back)) := by
  cases source with
  | given =>
      exact (slot.load_given _ _).mpr ⟨_, validate_value listable spelling, rfl⟩
  | environment =>
      cases spelling with
      | commas => exact absurd ⟨rfl, rfl⟩ taken
      | array =>
          exact (slot.load_environment _ _).mpr ⟨null_not_mem_array gaps items,
            .inr ⟨_, written?_array gaps items, _, validate_value listable .array, rfl⟩⟩

/-- A setting loads with the items that are passed for it, and all ways of passing them load the
same settings, except for commas in the environment: these never give the items. -/
theorem loads_items_iff (isOpen : Settings.IsOpen setting.name given environment file)
    (gaps : layout.AddsGaps) (listable : ∀ item ∈ items, IsListable item) (source : ListSource)
    (spelling : ListSpelling) :
    ((∃ loaded, setting.load given environment file layout items spelling source = .ok loaded ∧
        setting.items loaded = items) ↔ ¬(source = .environment ∧ spelling = .commas)) ∧
      (¬(source = .environment ∧ spelling = .commas) →
        setting.load given environment file layout items spelling source =
          setting.load given environment file layout items .array .environment) := by
  obtain ⟨front, back, slot⟩ := isOpen.slot setting.mem_entries
  refine ⟨⟨?_, fun taken => ?_⟩, fun taken => ?_⟩
  · rintro loads ⟨rfl, rfl⟩
    exact load_environment_commas slot loads
  · exact ⟨_, load_eq_ok slot gaps listable taken, setting.items_assignAll_insert slot.apart {} _⟩
  · rw [load_eq_ok slot gaps listable taken, load_eq_ok slot gaps listable (by simp)]

theorem loads_items_beside_others :
    (∃ loaded, adminKeys.load [("REQUIRE_AUTH", .bool false)] [("SERVICE_NAME", "gate")]
        "LOG_LEVEL=DEBUG" .compact ["null", "two words"] .commas .given = .ok loaded ∧
          loaded.adminKeys = ["null", "two words"]) ∧
      ¬∃ loaded, adminKeys.load [("REQUIRE_AUTH", .bool false)] [("SERVICE_NAME", "gate")]
        "LOG_LEVEL=DEBUG" .compact ["null", "two words"] .commas .environment = .ok loaded ∧
          loaded.adminKeys = ["null", "two words"] := by
  have isOpen : Settings.IsOpen adminKeys.name [("REQUIRE_AUTH", .bool false)]
      [("SERVICE_NAME", "gate")] "LOG_LEVEL=DEBUG" := by
    refine ⟨⟨{ serviceName := "gate", logLevel := "DEBUG", requireAuth := false }, ?_⟩, ?_, ?_, ?_,
      fun text => Dotenv.read_alike ?_ _ _⟩ <;> decide +kernel
  have listable : ∀ item ∈ ["null", "two words"], IsListable item := by decide +kernel
  have passed := loads_items_iff isOpen Json.Layout.addsGaps_compact listable
  exact ⟨(passed .given .commas).1.mpr (by simp),
    fun loads => (passed .environment .commas).1.mp loads ⟨rfl, rfl⟩⟩

/-- Commas in the environment are refused, and items that are JSON are taken for something else. -/
theorem refuses_commas_of_environment :
    (∀ item ∈ ["a", "b", "null"], IsListable item) ∧
      adminKeys.load [] [] "" .compact ["a", "b"] .array .environment =
        .ok { adminKeys := ["a", "b"] } ∧
      adminKeys.load [] [] "" .compact ["a", "b"] .commas .environment = .error .undecodable ∧
      adminKeys.load [] [] "" .compact ["null"] .commas .environment = .ok {} := by
  decide +kernel

end ListSetting

end AccessGate
