import AccessGate.Proofs.Json.Number
import AccessGate.Proofs.Time.Calendar
import AccessGate.Time.IsoText

/-!
# Moments read back

The text of a moment reads back as the same reading of the clock.  Its offset reads back as well,
unless it is shorter than a second: the reader takes such an offset for none, and so the moment that
is read is another instant.  `read?_write` says so for every moment.
-/

namespace AccessGate

namespace Moment

open AccessGate.Double

/-! ## Digits -/

theorem isDigit_of_mem_padded {width value : Nat} {digit : Char}
    (member : digit ∈ padded width value) : digit.isDigit = true := by
  rcases List.mem_append.mp member with zero | written
  · rw [List.eq_of_mem_replicate zero]
    rfl
  · exact Json.Reader.digitsOf_all value digit written

theorem length_padded (width : Nat) {value : Nat} (positive : 0 < width)
    (short : value < 10 ^ width) : (padded width value).length = width := by
  have fits : (digitsOf value).length ≤ width :=
    (Nat.length_toDigits_le_iff (by decide) positive).mpr short
  rw [padded, List.length_append, List.length_replicate]
  omega

private theorem ofDigitChars_padded (width value : Nat) :
    Nat.ofDigitChars 10 (padded width value) 0 = value := by
  rw [padded, Nat.ofDigitChars_append, Nat.ofDigitChars_replicate_zero, Nat.mul_zero, digitsOf,
    Nat.ofDigitChars_ten_toDigits]

theorem padded_two {value : Nat} (short : value < 100) :
    ∃ first second, padded 2 value = [first, second] ∧ first.isDigit = true := by
  match written : padded 2 value, length_padded 2 (by decide) short with
  | [first, second], _ =>
    exact ⟨first, second, rfl, isDigit_of_mem_padded (written ▸ List.mem_cons_self)⟩

namespace Reader

private theorem digits?_append {digits : List Char} (all : ∀ digit ∈ digits, digit.isDigit = true)
    (rest : List Char) :
    digits? digits.length (digits ++ rest) = some (Nat.ofDigitChars 10 digits 0, rest) := by
  induction digits with
  | nil => rfl
  | cons digit digits induction =>
      obtain ⟨isDigit, others⟩ := List.forall_mem_cons.mp all
      have later := @Nat.ofDigitChars_eq_ofDigitChars_zero digits (digit.toNat - 48)
      rw [List.length_cons, List.cons_append, digits?, if_pos isDigit, induction others,
        Nat.ofDigitChars_cons, Nat.mul_zero, Nat.zero_add]
      simp [later, Nat.mul_comm]

theorem digits?_padded (width : Nat) {value : Nat} (positive : 0 < width)
    (short : value < 10 ^ width) (rest : List Char) :
    digits? width (padded width value ++ rest) = some (value, rest) := by
  have all : ∀ digit ∈ padded width value, digit.isDigit = true :=
    fun _ => isDigit_of_mem_padded
  have read := digits?_append all rest
  rwa [length_padded width positive short, ofDigitChars_padded] at read

/-! ## Dates -/

private theorem separatorPlace_of_hyphen {year : List Char} {first : Char} {rest : List Char}
    (four : year.length = 4) (unlike : first ≠ 'W') (long : 2 ≤ rest.length) :
    separatorPlace (year ++ '-' :: first :: rest) = some 10 := by
  match year, four with
  | [a, b, c, d], _ =>
    simp [separatorPlace, unlike]
    omega

theorem length_of_isValid {date : CalendarDate} (valid : date.isValid = true) :
    date.year < 10000 ∧ date.month < 100 ∧ date.day < 100 := by
  have length : ∀ place : Nat, ((CalendarDate.monthLengths date.year)[place]?).getD 0 ≤ 31 := by
    intro place
    have most : ∀ length ∈ CalendarDate.monthLengths date.year, length ≤ 31 := by
      rw [CalendarDate.monthLengths]
      split <;> decide
    cases listed : (CalendarDate.monthLengths date.year)[place]? with
    | none => decide
    | some length => exact most length (List.mem_of_getElem? listed)
  have few := length (date.month - 1)
  simp only [CalendarDate.isValid, Bool.and_eq_true, decide_eq_true_eq] at valid
  omega

def dateText (date : CalendarDate) : List Char :=
  padded 4 date.year ++ '-' :: (padded 2 date.month ++ '-' :: padded 2 date.day)

private theorem date?_dateText {date : CalendarDate} (valid : date.isValid = true) :
    date? (dateText date) = some date := by
  obtain ⟨year, month, day⟩ := length_of_isValid valid
  obtain ⟨first, second, written, isDigit⟩ := padded_two month
  have unlike : first ≠ 'W' := by
    rintro rfl
    exact absurd isDigit (by decide)
  have monthDigits := digits?_padded 2 (by decide) month ('-' :: padded 2 date.day)
  have dayDigits := digits?_padded 2 (by decide) day []
  rw [List.append_nil] at dayDigits
  rw [date?, dateText, digits?_padded 4 (by decide) year]
  simp only [Option.bind_eq_bind, Option.bind_some, List.head?_cons, if_true, List.drop_succ_cons,
    List.drop_zero]
  rw [written, List.cons_append, List.cons_append, List.nil_append] at monthDigits ⊢
  split
  · next week same =>
    cases same
    exact absurd rfl unlike
  · rw [monthDigits, Option.bind_some, hyphen?, if_pos rfl, Option.bind_some, dayDigits,
      Option.bind_some, if_pos]
    simpa using valid

private theorem length_dateText {date : CalendarDate} (valid : date.isValid = true) :
    (dateText date).length = 10 := by
  obtain ⟨year, month, day⟩ := length_of_isValid valid
  simp only [dateText, List.length_append, List.length_cons]
  rw [length_padded 4 (by decide) year, length_padded 2 (by decide) month,
    length_padded 2 (by decide) day]

private theorem separatorPlace_written {date : CalendarDate} (valid : date.isValid = true)
    (clock : List Char) : separatorPlace (dateText date ++ 'T' :: clock) = some 10 := by
  obtain ⟨year, month, day⟩ := length_of_isValid valid
  obtain ⟨first, second, written, isDigit⟩ := padded_two month
  have unlike : first ≠ 'W' := by
    rintro rfl
    exact absurd isDigit (by decide)
  rw [dateText, written, List.append_assoc, List.cons_append]
  exact separatorPlace_of_hyphen (length_padded 4 (by decide) year) unlike (by simp)

/-! ## Clock readings -/

section Units

variable {separated : Bool} {parts : List Nat} {units value : Nat}

/-- A unit before a colon is followed by the next unit. -/
theorem clockFrom_colon (short : value < 100) (colons : parts = [] ∨ separated = true)
    {after : List Char} (more : after ≠ []) :
    clockFrom separated parts (units + 1) (padded 2 value ++ ':' :: after) =
      clockFrom true (parts ++ [value]) units after := by
  have used : if (parts ++ [value]).length = 1 then True else separated = true := by
    split
    · trivial
    · rcases colons with rfl | colons
      · contradiction
      · exact colons
  obtain ⟨next, after, rfl⟩ := List.exists_cons_of_ne_nil more
  rw [clockFrom, digits?_padded 2 (by decide) short]
  simp only [Option.bind_eq_bind, Option.bind_some, used, decide_true, Bool.and_self, if_true]

private theorem clockFrom_point (short : value < 100) {after : List Char} (more : after ≠ []) :
    clockFrom separated parts (units + 1) (padded 2 value ++ '.' :: after) =
      (fraction? after).map fun (micros, complete) => (parts ++ [value], micros, complete) := by
  obtain ⟨next, after, rfl⟩ := List.exists_cons_of_ne_nil more
  rw [clockFrom, digits?_padded 2 (by decide) short]
  simp

theorem clockFrom_end (short : value < 100) :
    clockFrom separated parts (units + 1) (padded 2 value) = some (parts ++ [value], 0, true) := by
  have read := digits?_padded 2 (by decide) short []
  rw [List.append_nil] at read
  rw [clockFrom, read]
  rfl

private theorem fraction?_padded (short : value < 1000000) :
    fraction? (padded 6 value) = some (value, true) := by
  have length := length_padded 6 (by decide) short
  have read := digits?_padded 6 (by decide) short []
  rw [List.append_nil] at read
  rw [fraction?, length]
  simp [read]

end Units

/-- A clock reading in hours, minutes, seconds and microseconds. -/
def clockOf (micros : Nat) : Clock :=
  { hour := micros / 3600000000, minute := micros / 60000000 % 60
    second := micros / 1000000 % 60, micros := micros % 1000000 }

theorem total_clockOf (micros : Nat) : (clockOf micros).total = micros := by
  simp only [clockOf, Clock.total]
  omega

private theorem isValid_clockOf {micros : Nat} (short : micros < microsPerDay) :
    (clockOf micros).isValid = true := by
  rw [microsPerDay] at short
  have hour : (clockOf micros).hour < 24 := Nat.div_lt_of_lt_mul short
  have minute : (clockOf micros).minute < 60 := Nat.mod_lt _ (by decide)
  have second : (clockOf micros).second < 60 := Nat.mod_lt _ (by decide)
  rw [Clock.isValid, decide_eq_true hour, decide_eq_true minute, decide_eq_true second]
  rfl

/-- What is left out of a clock reading is zero. -/
structure LeavesOutZeros (micros : Nat) (seconds fraction : Bool) : Prop where
  ofSeconds : seconds = false → micros / 1000000 % 60 = 0
  ofFraction : fraction = false → micros % 1000000 = 0
  order : fraction = true → seconds = true

theorem clock?_clockText {micros : Nat} {seconds fraction : Bool} (short : micros < microsPerDay)
    (zeros : LeavesOutZeros micros seconds fraction) :
    clock? (clockText micros seconds fraction) = some (clockOf micros, true) := by
  rw [microsPerDay] at short
  have hour : micros / 3600000000 < 100 := by omega
  have minute : micros / 60000000 % 60 < 100 := by omega
  have second : micros / 1000000 % 60 < 100 := by omega
  have some (value : Nat) (rest : List Char) (small : value < 100) :
      padded 2 value ++ rest ≠ [] := by
    obtain ⟨_, _, written, _⟩ := padded_two small
    simp [written]
  have fractional : padded 6 (micros % 1000000) ≠ [] := by
    intro empty
    have fits : micros % 1000000 < 10 ^ 6 := Nat.mod_lt _ (by decide)
    have length := length_padded 6 (by decide) fits
    rw [empty] at length
    cases length
  rw [clock?, clockText, List.append_assoc, List.append_assoc, List.cons_append,
    clockFrom_colon hour (.inl rfl) (some _ _ minute)]
  cases seconds with
  | false =>
      cases fraction with
      | true => cases zeros.order rfl
      | false =>
          simp only [Bool.false_eq_true, if_false, List.append_nil]
          rw [clockFrom_end minute]
          simp [clockOf, zeros.ofSeconds rfl, zeros.ofFraction rfl]
  | true =>
      rw [if_pos rfl, List.cons_append, clockFrom_colon minute (.inr rfl) (some _ _ second)]
      cases fraction with
      | false =>
          simp only [Bool.false_eq_true, if_false, List.append_nil]
          rw [clockFrom_end second]
          simp [clockOf, zeros.ofFraction rfl]
      | true =>
          rw [if_pos rfl, clockFrom_point second fractional, fraction?_padded (by omega)]
          rfl

end Reader

end Moment

/-! ## Offsets -/

/-- An offset as it reads back: one that is shorter than a second is taken for none. -/
def ClockOffset.asRead (offset : ClockOffset) : ClockOffset :=
  if offset.micros.natAbs < 1000000 then .universal else offset

/-- An offset that reads back as itself: none, or one of at least a second. -/
def ClockOffset.IsLegible (offset : ClockOffset) : Prop :=
  offset.micros = 0 ∨ 1000000 ≤ offset.micros.natAbs

theorem ClockOffset.asRead_of_isLegible {offset : ClockOffset} (legible : offset.IsLegible) :
    offset.asRead = offset := by
  obtain ⟨micros, bounded⟩ := offset
  rw [asRead]
  split
  · next little =>
    have zero : micros = 0 := legible.resolve_right (Nat.not_le.mpr little)
    subst zero
    rfl
  · rfl

theorem ClockOffset.asRead_of_not_isLegible {offset : ClockOffset} (little : ¬ offset.IsLegible) :
    offset.asRead = .universal :=
  if_pos (Nat.not_le.mp fun long => little (.inr long))

def Moment.asRead (moment : Moment) : Moment :=
  { moment with offset := moment.offset.map ClockOffset.asRead }

theorem Moment.asRead_of_isLegible {moment : Moment} {offset : ClockOffset}
    (known : moment.offset = some offset) (legible : offset.IsLegible) :
    moment.asRead = moment := by
  obtain ⟨wall, _, wall_lt⟩ := moment
  cases known
  rw [asRead, Option.map_some, offset.asRead_of_isLegible legible]

theorem Moment.asRead_eq_self {moment : Moment}
    (legible : ∀ offset, moment.offset = some offset → offset.IsLegible) :
    moment.asRead = moment := by
  cases known : moment.offset with
  | none => rw [asRead, known, Option.map_none, ← known]
  | some offset => exact asRead_of_isLegible known (legible offset known)

namespace Moment

namespace Reader

private theorem offsetOf?_clockOf (offset : ClockOffset) :
    offsetOf? (decide (offset.micros < 0)) (clockOf offset.micros.natAbs) = some offset.asRead := by
  have known {micros : Int} (same : micros = offset.asRead.micros) :
      (if bounded : micros.natAbs < microsPerDay then some (⟨micros, bounded⟩ : ClockOffset)
        else none) = some offset.asRead := by
    subst same
    rw [dif_pos offset.asRead.micros_lt]
  rw [offsetOf?, total_clockOf]
  apply known
  simp only [ClockOffset.asRead, decide_eq_true_eq]
  by_cases little : offset.micros.natAbs < 1000000
  · rw [if_pos little, if_pos little]
    split <;> rfl
  · rw [if_neg little, if_neg little]
    split <;> omega

private theorem leavesOutZeros_offset (size : Nat) :
    LeavesOutZeros size (size % 1000000 != 0 || size / 1000000 % 60 != 0)
      (size % 1000000 != 0) where
  ofSeconds := by simp
  ofFraction := by simp
  order := by
    intro fraction
    rw [fraction, Bool.true_or]

private theorem leavesOutZeros_clock (clock : Nat) :
    LeavesOutZeros clock true (clock % 1000000 != 0) where
  ofSeconds := nofun
  ofFraction := by simp
  order _ := rfl

private theorem offset?_signed (negative : Bool) {rest : List Char} {clock : Clock}
    (read : clock? rest = some (clock, true)) :
    offset? ((if negative then '-' else '+') :: rest) = offsetOf? negative clock := by
  cases negative with
  | false => simp [offset?, read]
  | true => simp [offset?, read]

private theorem offset?_offsetText (offset : ClockOffset) :
    offset? (offsetText offset) = some offset.asRead := by
  have read := clock?_clockText offset.micros_lt (leavesOutZeros_offset offset.micros.natAbs)
  have signed := offset?_signed (decide (offset.micros < 0)) read
  rw [offsetOf?_clockOf] at signed
  simpa only [offsetText, decide_eq_true_eq] using signed

private theorem startsOffset_iff {character : Char} :
    startsOffset character = true ↔ character = '+' ∨ character = '-' ∨ character = 'Z' := by
  simp [startsOffset, or_assoc]

private theorem startsOffset_clockText {micros : Nat} {seconds fraction : Bool} :
    ∀ character ∈ clockText micros seconds fraction, startsOffset character = false := by
  intro character member
  rw [Bool.eq_false_iff, ne_eq, startsOffset_iff]
  have digits {width value : Nat} (digit : character ∈ padded width value) :
      ¬ (character = '+' ∨ character = '-' ∨ character = 'Z') := by
    have isDigit := isDigit_of_mem_padded digit
    rintro (rfl | rfl | rfl) <;> exact absurd isDigit (by decide)
  simp only [clockText, List.mem_append, List.mem_cons] at member
  rcases member with ((hours | rfl | minutes) | seconds) | fraction
  · exact digits hours
  · decide
  · exact digits minutes
  · split at seconds
    · rcases List.mem_cons.mp seconds with rfl | seconds
      · decide
      · exact digits seconds
    · cases seconds
  · split at fraction
    · rcases List.mem_cons.mp fraction with rfl | fraction
      · decide
      · exact digits fraction
    · cases fraction

private theorem span_offset {reading : List Char} (offset : Option ClockOffset)
    (plain : ∀ character ∈ reading, startsOffset character = false) :
    (reading ++ (offset.map offsetText).getD []).span (fun character => !startsOffset character) =
      (reading, (offset.map offsetText).getD []) := by
  have kept : ∀ character ∈ reading, (!startsOffset character) = true := by
    intro character member
    rw [plain character member]
    rfl
  have stops : ((offset.map offsetText).getD []).takeWhile
      (fun character => !startsOffset character) = [] ∧
      ((offset.map offsetText).getD []).dropWhile (fun character => !startsOffset character) =
        (offset.map offsetText).getD [] := by
    cases offset with
    | none => exact ⟨rfl, rfl⟩
    | some offset =>
        rw [Option.map_some, Option.getD_some, offsetText]
        split <;> exact ⟨rfl, rfl⟩
  rw [List.span_eq_takeWhile_dropWhile, List.takeWhile_append_of_pos kept,
    List.dropWhile_append_of_pos kept, stops.1, stops.2, List.append_nil]

private theorem timed?_written {micros : Nat} (short : micros < microsPerDay)
    (offset : Option ClockOffset) :
    timed? (clockText micros true (micros % 1000000 != 0) ++ (offset.map offsetText).getD []) =
      some (micros, offset.map ClockOffset.asRead) := by
  rw [timed?, span_offset offset startsOffset_clockText]
  simp only [clock?_clockText short (leavesOutZeros_clock micros), Option.bind_eq_bind,
    Option.bind_some, total_clockOf, isValid_clockOf short, if_true]
  cases offset with
  | none => rfl
  | some offset =>
      have some : (offsetText offset).isEmpty = false := rfl
      simp only [Option.map_some, Option.getD_some, some, offset?_offsetText, Bool.false_eq_true,
        if_false, Option.bind_some]

end Reader

open Reader

private theorem characters_eq (moment : Moment) :
    moment.characters =
      dateText (CalendarDate.ofDayNumber (moment.wall / microsPerDay)) ++
        'T' :: (clockText (moment.wall % microsPerDay) true
            (moment.wall % microsPerDay % 1000000 != 0) ++
          (moment.offset.map offsetText).getD []) := by
  simp only [characters, dateText, List.append_assoc, List.cons_append]

private theorem ofWall_wall (moment : Moment) (offset : Option ClockOffset) :
    ofWall moment.wall offset = .ok { moment with offset } := by
  have inRange : 0 ≤ (moment.wall : Int) ∧
      (moment.wall : Int).toNat < CalendarDate.daysBeforeYear 10000 * microsPerDay := by
    rw [Int.toNat_natCast]
    exact ⟨Int.natCast_nonneg _, moment.wall_lt⟩
  rw [ofWall, dif_pos inRange]
  simp only [Int.toNat_natCast]

private theorem read?_written {date : CalendarDate} (valid : date.isValid = true) {clock : Nat}
    (short : clock < microsPerDay) (offset : Option ClockOffset) :
    read? (String.ofList (dateText date ++ 'T' :: (clockText clock true (clock % 1000000 != 0) ++
        (offset.map offsetText).getD []))) =
      (ofWall (date.dayNumber * microsPerDay + clock : Nat)
        (offset.map ClockOffset.asRead)).toOption := by
  have ten := length_dateText valid
  rw [read?, String.toList_ofList, separatorPlace_written valid, Option.bind_eq_bind,
    Option.bind_some, List.take_left' ten, date?_dateText valid, Option.bind_eq_bind,
    Option.bind_some, List.drop_left' ten]
  dsimp only
  rw [timed?_written short, Option.bind_eq_bind, Option.bind_some]

/-- Every moment reads back as the same reading of the clock. -/
theorem read?_write (moment : Moment) : read? moment.write = some moment.asRead := by
  have within : moment.wall / microsPerDay < CalendarDate.daysBeforeYear 10000 :=
    Nat.div_lt_of_lt_mul (by rw [Nat.mul_comm]; exact moment.wall_lt)
  have short : moment.wall % microsPerDay < microsPerDay := Nat.mod_lt _ (by decide)
  obtain ⟨valid, numbered⟩ := CalendarDate.ofDayNumber_spec within
  rw [write, characters_eq, read?_written valid short, numbered, Nat.mul_comm, Nat.div_add_mod,
    ofWall_wall]
  rfl

/-! ## Whatever is read -/

namespace Reader

private theorem isLegible_offsetOf? {negative : Bool} {clock : Clock} {offset : ClockOffset}
    (read : offsetOf? negative clock = some offset) : offset.IsLegible := by
  rw [offsetOf?, Option.dite_none_right_eq_some] at read
  obtain ⟨_, same⟩ := read
  rw [← Option.some.inj same]
  by_cases little : clock.total < 1000000
  · left
    simp only [if_pos little]
    split <;> rfl
  · right
    simp only [if_neg little]
    split <;> omega

private theorem isLegible_offset? {text : List Char} {offset : ClockOffset}
    (read : offset? text = some offset) : offset.IsLegible := by
  unfold offset? at read
  split at read
  · cases read
  · split at read
    · cases read
      exact .inl rfl
    · cases read
  · split at read
    · exact isLegible_offsetOf? read
    · cases read

private theorem isLegible_timed? {text : List Char} {micros : Nat} {offset : ClockOffset}
    (read : timed? text = some (micros, some offset)) : offset.IsLegible := by
  rw [timed?] at read
  generalize text.span (fun character => !startsOffset character) = parts at read
  obtain ⟨reading, signed⟩ := parts
  obtain ⟨⟨clock, complete⟩, _, read⟩ := Option.bind_eq_some_iff.mp read
  simp only at read
  split at read
  · split at read
    · simp at read
    · cases read
  · obtain ⟨found, known, read⟩ := Option.bind_eq_some_iff.mp read
    obtain ⟨told, written, rfl⟩ := Option.map_eq_some_iff.mp known
    split at read
    · cases read
      exact isLegible_offset? written
    · cases read

end Reader

theorem offset_of_ofWall {wall : Int} {offset : Option ClockOffset} {moment : Moment}
    (reached : (ofWall wall offset).toOption = some moment) : moment.offset = offset := by
  rw [ofWall] at reached
  split at reached
  · cases reached
    rfl
  · cases reached

private theorem isLegible_of_read? {text : String} {moment : Moment}
    (read : read? text = some moment)
    {offset : ClockOffset} (known : moment.offset = some offset) : offset.IsLegible := by
  rw [read?] at read
  obtain ⟨place, _, read⟩ := Option.bind_eq_some_iff.mp read
  obtain ⟨date, _, read⟩ := Option.bind_eq_some_iff.mp read
  generalize text.toList.drop place = rest at read
  cases rest with
  | nil =>
      obtain ⟨⟨micros, written⟩, timed, read⟩ := Option.bind_eq_some_iff.mp read
      have same := offset_of_ofWall read
      cases timed
      rw [known] at same
      cases same
  | cons separator clock =>
      obtain ⟨⟨micros, written⟩, timed, read⟩ := Option.bind_eq_some_iff.mp read
      have same := offset_of_ofWall read
      rw [known] at same
      subst same
      exact Reader.isLegible_timed? timed

theorem asRead_of_read? {text : String} {moment : Moment} (read : read? text = some moment) :
    moment.asRead = moment :=
  asRead_eq_self fun _ known => isLegible_of_read? read known

end Moment

end AccessGate
