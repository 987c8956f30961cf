import AccessGate.Proofs.Json.Number
import AccessGate.Proofs.Json.Text
import AccessGate.Proofs.Outcome

/-!
# Written values read back

A value reads back as itself in every layout that only adds gaps, as long as it holds no doubles,
the names of every object differ, integers have at most as many digits as the reader takes, and it
does not nest too deep.  The reader's bound on its steps is never met: a value takes no more nested
steps than it has characters.
-/

namespace AccessGate.Json

open Reader

/-- A value that reads back as itself within a number of levels. -/
inductive ReadsBack : (depth : Nat) → Json → Prop where
  | null {depth : Nat} : ReadsBack depth .null
  | bool {depth : Nat} (value : Bool) : ReadsBack depth (.bool value)
  | int {depth : Nat} {value : Int}
      (short : (Double.digitsOf value.natAbs).length ≤ integerDigits) :
      ReadsBack depth (.int value)
  | text {depth : Nat} (value : String) : ReadsBack depth (.text value)
  | list {depth : Nat} {items : List Json} (each : ∀ item ∈ items, ReadsBack depth item) :
      ReadsBack (depth + 1) (.list items)
  | object {depth : Nat} {fields : List (String × Json)} (distinct : (fields.map Prod.fst).Nodup)
      (each : ∀ field ∈ fields, ReadsBack depth field.2) : ReadsBack (depth + 1) (.object fields)

theorem ReadsBack.texts {depth : Nat} (texts : List String) :
    ReadsBack (depth + 1) (.texts texts) := by
  refine .list ?_
  intro item member
  obtain ⟨text, _, rfl⟩ := List.mem_map.mp member
  exact .text text

/-- Apart from the comma and the colon, a layout only adds gaps. -/
structure Layout.AddsGaps (layout : Layout) : Prop where
  betweenItems : ∃ gap, layout.betweenItems = ',' :: gap ∧ ∀ character ∈ gap, isGap character = true
  afterName : ∃ gap, layout.afterName = ':' :: gap ∧ ∀ character ∈ gap, isGap character = true

theorem Layout.addsGaps_compact : Layout.compact.AddsGaps :=
  ⟨⟨[], rfl, by simp⟩, ⟨[], rfl, by simp⟩⟩

theorem Layout.addsGaps_spaced : Layout.spaced.AddsGaps :=
  ⟨⟨[' '], rfl, by simp [isGap]⟩, ⟨[' '], rfl, by simp [isGap]⟩⟩

namespace Reader

variable {layout : Layout} {depth : Nat}

/-! ## Gaps -/

theorem dropGap_cons {first : Char} {rest : List Char} (solid : isGap first = false) :
    dropGap (first :: rest) = first :: rest := by
  simp [dropGap, solid]

theorem dropGap_append {gap rest : List Char} (all : ∀ character ∈ gap, isGap character = true) :
    dropGap (gap ++ rest) = dropGap rest := by
  rw [dropGap, dropGap, List.dropWhile_append_of_pos all]

/-- A written value starts with a character that is neither a gap nor a closing bracket. -/
theorem value_start (layout : Layout) {json : Json} (readsBack : ReadsBack depth json) :
    ∃ first rest, Writer.value layout json = first :: rest ∧ isGap first = false ∧
      first ≠ ']' := by
  cases readsBack with
  | null => exact ⟨'n', _, rfl, by decide⟩
  | bool flag => cases flag <;> exact ⟨_, _, rfl, by decide⟩
  | int short =>
      rename_i value
      obtain ⟨first, rest, written, isDigit⟩ := digitsOf_start value.natAbs
      rw [Writer.value, Writer.int, written]
      split
      · exact ⟨'-', _, rfl, by decide⟩
      · refine ⟨first, rest, rfl, ?_⟩
        have solid : first ≠ ' ' ∧ first ≠ '\t' ∧ first ≠ '\n' ∧ first ≠ '\r' ∧ first ≠ ']' := by
          refine ⟨?_, ?_, ?_, ?_, ?_⟩ <;> rintro rfl <;> cases isDigit
        simp [isGap, solid]
  | text value => exact ⟨'"', _, rfl, by decide⟩
  | list each => exact ⟨'[', _, rfl, by decide⟩
  | object distinct each => exact ⟨'\x7b', _, rfl, by decide⟩

/-! ## Parts -/

/-- A written value reads back, whatever follows it. -/
def Restores (layout : Layout) (depth : Nat) (json : Json) : Prop :=
  ∀ bound rest, (Writer.value layout json).length ≤ bound → MayFollow rest →
    value bound depth (Writer.value layout json ++ rest) = .ok (json, rest)

/-- The items of a list start neither with a gap nor with its end. -/
theorem items_start (layout : Layout) {first : Json} (readsBack : ReadsBack depth first)
    (others : List Json) (rest : List Char) :
    dropGap (Writer.items layout (first :: others) ++ rest) =
        Writer.items layout (first :: others) ++ rest ∧
      ∀ after, Writer.items layout (first :: others) ++ rest ≠ ']' :: after := by
  obtain ⟨start, more, written, solid, open_⟩ := value_start layout readsBack
  obtain ⟨behind, equality⟩ :
      ∃ behind, Writer.items layout (first :: others) ++ rest = start :: behind := by
    cases others with
    | nil => exact ⟨_, by rw [Writer.items, written]; rfl⟩
    | cons next others => exact ⟨_, by rw [Writer.items, written]; rfl⟩
  rw [equality]
  refine ⟨dropGap_cons solid, ?_⟩
  rintro after ⟨⟩
  exact open_ rfl

private theorem items_written (gaps : layout.AddsGaps) {first : Json} {others : List Json}
    (readsBack : ∀ item ∈ first :: others, ReadsBack depth item)
    (restores : ∀ item ∈ first :: others, Restores layout depth item) :
    ∀ bound rest, (Writer.items layout (first :: others)).length ≤ bound →
      items bound depth (Writer.items layout (first :: others) ++ rest) =
        .ok (first :: others, rest) := by
  induction others generalizing first with
  | nil =>
      intro bound rest long
      rw [Writer.items, List.length_append, List.length_singleton] at long
      obtain ⟨bound, rfl⟩ : ∃ smaller, bound = smaller + 1 := ⟨bound - 1, by omega⟩
      rw [Writer.items, List.append_assoc, List.singleton_append, items,
        restores first (by simp) bound _ (by omega) (mayFollow_cons (.inr (.inl rfl)) _), ok_bind]
      simp only [dropGap_cons (by decide : isGap ']' = false)]
  | cons next others induction =>
      intro bound rest long
      obtain ⟨gap, between, all⟩ := gaps.betweenItems
      rw [Writer.items, between] at long ⊢
      simp only [List.length_append, List.length_cons] at long
      obtain ⟨bound, rfl⟩ : ∃ smaller, bound = smaller + 1 := ⟨bound - 1, by omega⟩
      rw [List.append_assoc, List.append_assoc, List.cons_append, items,
        restores first (by simp) bound _ (by omega) (mayFollow_cons (.inl rfl) _), ok_bind]
      simp only [dropGap_cons (by decide : isGap ',' = false), dropGap_append all]
      rw [(items_start layout (readsBack next (by simp)) others rest).1,
        induction (fun item member => readsBack item (List.mem_cons_of_mem _ member))
          (fun item member => restores item (List.mem_cons_of_mem _ member)) bound rest (by omega),
        ok_bind]

private theorem putField_new {name : String} {json : Json} {fields : List (String × Json)}
    (new : name ∉ fields.map Prod.fst) : putField name json fields = fields ++ [(name, json)] := by
  induction fields with
  | nil => rfl
  | cons field fields induction =>
      simp only [List.map_cons, List.mem_cons, not_or] at new
      rw [putField, if_neg (Ne.symm new.1), induction new.2]
      rfl

/-- A written field reads back, and its value goes behind the fields already read. -/
theorem member_written (gaps : layout.AddsGaps) {name : String} {json : Json}
    {known : List (String × Json)} (new : name ∉ known.map Prod.fst)
    (readsBack : ReadsBack depth json) (restores : Restores layout depth json) {bound : Nat}
    {rest : List Char} (long : (Writer.value layout json).length ≤ bound)
    (follows : MayFollow rest) :
    members (bound + 1) depth known
        (Writer.text name ++ layout.afterName ++ Writer.value layout json ++ rest) =
      match dropGap rest with
      | '\x7d' :: rest => .ok (known ++ [(name, json)], rest)
      | ',' :: rest => members bound depth (known ++ [(name, json)]) (dropGap rest)
      | rest => .error (.left rest.length) := by
  obtain ⟨gap, named, all⟩ := gaps.afterName
  obtain ⟨start, more, written, solid, _⟩ := value_start layout readsBack
  have undelayed : dropGap (Writer.value layout json ++ rest) =
      Writer.value layout json ++ rest := by
    rw [written, List.cons_append, dropGap_cons solid]
  have apart : Writer.text name ++ layout.afterName ++ Writer.value layout json ++ rest =
      '"' :: (name.toList.flatMap Writer.character ++
        '"' :: ':' :: (gap ++ (Writer.value layout json ++ rest))) := by
    simp [Writer.text, named]
  rw [apart, members, text_written, ok_bind]
  simp only [dropGap_cons (by decide : isGap ':' = false), dropGap_append all]
  have put : putField name json known = known ++ [(name, json)] := putField_new new
  rw [undelayed, restores bound rest long follows, ok_bind]
  exact put ▸ rfl

theorem new_of_distinct {name : String} {json : Json} {known others : List (String × Json)}
    (distinct : ((known ++ (name, json) :: others).map Prod.fst).Nodup) :
    name ∉ known.map Prod.fst := by
  intro member
  rw [List.map_append, List.nodup_append] at distinct
  exact distinct.2.2 name member name (by simp) rfl

private theorem members_written (gaps : layout.AddsGaps) {first : String × Json}
    {others known : List (String × Json)}
    (distinct : ((known ++ first :: others).map Prod.fst).Nodup)
    (readsBack : ∀ field ∈ first :: others, ReadsBack depth field.2)
    (restores : ∀ field ∈ first :: others, Restores layout depth field.2) :
    ∀ bound rest, (Writer.members layout (first :: others)).length ≤ bound →
      members bound depth known (Writer.members layout (first :: others) ++ rest) =
        .ok (known ++ first :: others, rest) := by
  induction others generalizing first known with
  | nil =>
      intro bound rest long
      obtain ⟨name, json⟩ := first
      have back : ReadsBack depth json := readsBack (name, json) (by simp)
      have restored : Restores layout depth json := restores (name, json) (by simp)
      rw [Writer.members] at long ⊢
      simp only [List.length_append, List.length_singleton] at long
      obtain ⟨bound, rfl⟩ : ∃ smaller, bound = smaller + 1 := ⟨bound - 1, by omega⟩
      rw [List.append_assoc _ ['\x7d'], List.singleton_append,
        member_written gaps (new_of_distinct distinct) back restored (by omega)
          (mayFollow_cons (.inr (.inr rfl)) _)]
      simp only [dropGap_cons (by decide : isGap '\x7d' = false)]
  | cons next others induction =>
      intro bound rest long
      obtain ⟨name, json⟩ := first
      have back : ReadsBack depth json := readsBack (name, json) (by simp)
      have restored : Restores layout depth json := restores (name, json) (by simp)
      obtain ⟨gap, between, all⟩ := gaps.betweenItems
      have regrouped : known ++ (name, json) :: next :: others =
          known ++ [(name, json)] ++ next :: others := by simp
      have start : ∃ behind, Writer.members layout (next :: others) ++ rest = '"' :: behind := by
        cases others <;> exact ⟨_, rfl⟩
      obtain ⟨behind, quoted⟩ := start
      rw [Writer.members, between] at long ⊢
      simp only [List.length_append, List.length_cons] at long
      obtain ⟨bound, rfl⟩ : ∃ smaller, bound = smaller + 1 := ⟨bound - 1, by omega⟩
      rw [List.append_assoc _ (Writer.members layout (next :: others)),
        List.append_assoc _ (',' :: gap), List.cons_append,
        member_written gaps (new_of_distinct distinct) back restored (by omega)
          (mayFollow_cons (.inl rfl) _)]
      simp only [dropGap_cons (by decide : isGap ',' = false), dropGap_append all]
      rw [regrouped] at distinct ⊢
      rw [quoted, dropGap_cons (by decide), ← quoted,
        induction distinct (fun field member => readsBack field (List.mem_cons_of_mem _ member))
          (fun field member => restores field (List.mem_cons_of_mem _ member)) bound rest
          (by omega)]

/-! ## Values -/

/-- A value that starts neither a text nor a list nor an object is read as a word or a number. -/
theorem restores_of_scalar {json : Json} {first : Char} {more : List Char}
    (written : Writer.value layout json = first :: more) (text : first ≠ '"')
    (object : first ≠ '\x7b') (list : first ≠ '[')
    (found : ∀ rest, MayFollow rest → scalar (first :: more ++ rest) = .ok (json, rest)) :
    Restores layout depth json := by
  intro bound rest long follows
  rw [written] at long ⊢
  rw [List.length_cons] at long
  obtain ⟨bound, rfl⟩ : ∃ smaller, bound = smaller + 1 := ⟨bound - 1, by omega⟩
  rw [← found rest follows, List.cons_append, value]
  · nofun
  · rintro _ ⟨⟩
    exact text rfl
  · rintro _ ⟨⟩ _
    exact object rfl
  · rintro _ ⟨⟩ _
    exact list rfl
  · rintro _ _ ⟨⟩ _
    exact object rfl
  · rintro _ _ ⟨⟩ _
    exact list rfl

private theorem restores_int {written : Int}
    (short : (Double.digitsOf written.natAbs).length ≤ integerDigits) :
    Restores layout depth (.int written) := by
  obtain ⟨first, more, equality, text, object, list⟩ :
      ∃ first more, Writer.int written = first :: more ∧ first ≠ '"' ∧ first ≠ '\x7b' ∧
        first ≠ '[' := by
    obtain ⟨first, rest, equality, isDigit⟩ := digitsOf_start written.natAbs
    rw [Writer.int, equality]
    split
    · exact ⟨'-', _, rfl, by decide⟩
    · refine ⟨first, rest, rfl, ?_, ?_, ?_⟩ <;> rintro rfl <;> cases isDigit
  refine restores_of_scalar equality text object list fun rest follows => ?_
  rw [← equality, scalar_written short follows]

private theorem restores_text (written : String) : Restores layout depth (.text written) := by
  intro bound rest long follows
  rw [Writer.value, Writer.text] at long ⊢
  simp only [List.length_cons] at long
  obtain ⟨bound, rfl⟩ : ∃ smaller, bound = smaller + 1 := ⟨bound - 1, by omega⟩
  rw [List.cons_append, List.append_assoc, List.singleton_append, value, text_written]
  rfl

private theorem restores_list (gaps : layout.AddsGaps) {list : List Json}
    (readsBack : ∀ item ∈ list, ReadsBack depth item)
    (restores : ∀ item ∈ list, Restores layout depth item) :
    Restores layout (depth + 1) (.list list) := by
  intro bound rest long follows
  rw [Writer.value] at long ⊢
  simp only [List.length_cons] at long
  obtain ⟨bound, rfl⟩ : ∃ smaller, bound = smaller + 1 := ⟨bound - 1, by omega⟩
  rw [List.cons_append, value]
  cases list with
  | nil => rfl
  | cons first others =>
      obtain ⟨undelayed, unended⟩ := items_start layout (readsBack first (by simp)) others rest
      rw [undelayed]
      split
      case h_1 ended => exact absurd ended (unended _)
      case h_2 =>
        rw [items_written gaps readsBack restores bound rest (by omega)]
        rfl

private theorem restores_object (gaps : layout.AddsGaps) {fields : List (String × Json)}
    (distinct : (fields.map Prod.fst).Nodup)
    (readsBack : ∀ field ∈ fields, ReadsBack depth field.2)
    (restores : ∀ field ∈ fields, Restores layout depth field.2) :
    Restores layout (depth + 1) (.object fields) := by
  intro bound rest long follows
  rw [Writer.value] at long ⊢
  simp only [List.length_cons] at long
  obtain ⟨bound, rfl⟩ : ∃ smaller, bound = smaller + 1 := ⟨bound - 1, by omega⟩
  rw [List.cons_append, value]
  cases fields with
  | nil => rfl
  | cons first others =>
      obtain ⟨behind, quoted⟩ :
          ∃ behind, Writer.members layout (first :: others) ++ rest = '"' :: behind := by
        cases others <;> exact ⟨_, rfl⟩
      rw [quoted, dropGap_cons (by decide), ← quoted]
      split
      case h_1 ended =>
        rw [quoted] at ended
        cases ended
      case h_2 =>
        rw [members_written gaps distinct readsBack restores bound rest (by omega)]
        rfl

private theorem restores_of_readsBack (gaps : layout.AddsGaps) {json : Json}
    (readsBack : ReadsBack depth json) : Restores layout depth json := by
  induction readsBack with
  | null => exact restores_of_scalar rfl (by decide) (by decide) (by decide) fun _ _ => rfl
  | bool flag =>
      cases flag with
      | true => exact restores_of_scalar rfl (by decide) (by decide) (by decide) fun _ _ => rfl
      | false => exact restores_of_scalar rfl (by decide) (by decide) (by decide) fun _ _ => rfl
  | int short => exact restores_int short
  | text written => exact restores_text written
  | list each induction => exact restores_list gaps each induction
  | object distinct each induction => exact restores_object gaps distinct each induction

end Reader

/-- A written value reads back as itself. -/
theorem read_write {layout : Layout} (gaps : layout.AddsGaps) {json : Json}
    (readsBack : ReadsBack greatestDepth json) : read (write layout json) = .ok json := by
  obtain ⟨start, more, written, solid, _⟩ := value_start layout readsBack
  have restored := restores_of_readsBack gaps readsBack
    (2 * (Writer.value layout json).length + 2) [] (by omega) mayFollow_nil
  rw [List.append_nil] at restored
  have undelayed : dropGap (Writer.value layout json) = Writer.value layout json := by
    rw [written, dropGap_cons solid]
  rw [read, write, String.toList_ofList]
  simp only [document, undelayed, restored]
  rfl

/-- A written list of texts reads back, also where no byte order mark may stand in front. -/
theorem readUnmarked_write_texts {layout : Layout} (gaps : layout.AddsGaps) (items : List String) :
    readUnmarked (write layout (.texts items)) = .ok (.texts items) := by
  have start : (write layout (.texts items)).toList.head? = some '[' := by
    rw [write, String.toList_ofList]
    rfl
  rw [readUnmarked, start, if_neg (by decide), read_write gaps (.texts items)]

/-! ## Values that nest too deep -/

theorem Reader.value_of_opened {opened depth bound : Nat} (deep : depth < opened)
    (enough : 2 * depth < bound) (rest : List Char) :
    value bound depth (List.replicate opened '[' ++ rest) = .error .tooDeep := by
  induction depth generalizing opened bound with
  | zero =>
      obtain ⟨bound, rfl⟩ : ∃ fewer, bound = fewer + 1 := ⟨bound - 1, by omega⟩
      obtain ⟨opened, rfl⟩ : ∃ fewer, opened = fewer + 1 := ⟨opened - 1, by omega⟩
      rfl
  | succ depth induction =>
      obtain ⟨bound, rfl⟩ : ∃ fewer, bound = fewer + 2 := ⟨bound - 2, by omega⟩
      obtain ⟨opened, rfl⟩ : ∃ fewer, opened = fewer + 2 := ⟨opened - 2, by omega⟩
      have deeper : value bound depth (List.replicate (opened + 1) '[' ++ rest) =
          .error .tooDeep :=
        induction (by omega) (by omega)
      rw [List.replicate_succ, List.cons_append] at deeper
      have unread : items (bound + 1) depth ('[' :: (List.replicate opened '[' ++ rest)) =
          .error .tooDeep := by
        rw [items, deeper]
        rfl
      rw [List.replicate_succ, List.cons_append, List.replicate_succ, List.cons_append, value]
      simp [dropGap_cons (show isGap '[' = false from rfl), unread, Except.map]

theorem read_of_opened {opened : Nat} (deep : greatestDepth < opened) (rest : List Char) :
    read (String.ofList (List.replicate opened '[' ++ rest)) = .error .tooDeep := by
  obtain ⟨more, rfl⟩ : ∃ fewer, opened = fewer + 1 := ⟨opened - 1, by omega⟩
  have start : dropGap (List.replicate (more + 1) '[' ++ rest) =
      List.replicate (more + 1) '[' ++ rest :=
    dropGap_cons rfl
  have enough : 2 * greatestDepth < 2 * (List.replicate (more + 1) '[' ++ rest).length + 2 := by
    rw [List.length_append, List.length_replicate]
    omega
  simp only [read, String.toList_ofList, document, start, value_of_opened deep enough rest]
  rfl

end AccessGate.Json
