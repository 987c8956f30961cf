import AccessGate.Proofs.Bytes.Sextets
import AccessGate.Proofs.Secret.StoredHash
import AccessGate.Proofs.Text.Fields

/-!
# The grammar of stored hashes

A text without line feeds is read as a stored hash exactly if it is
`$argon2id$v=19$m=M,t=T,p=P$SALT$DIGEST` with numerals for the costs, within their bounds, and
base64 for the salt and the digest, of which neither is too short.  The grammar is stated here without the
reader: numerals are digits of any script and stand for a number in base 10, and base64 stands for
the whole bytes of a number in base 64.  `reads_exactly_grammar` puts the two together.
-/

namespace AccessGate

/-! ## Numerals -/

namespace Text

/-- Decimal digits of any script stand for a number. -/
def AreDigitsOf (numeral : List Char) (value : Nat) : Prop :=
  ∃ digits : List Nat, numeral.map digitValue? = digits.map some ∧
    value = Nat.ofDigits 10 digits.reverse

private theorem ofDigits_eq (digits : List Nat) :
    ofDigits digits = Nat.ofDigits 10 digits.reverse := by
  induction digits using List.reverseRecOn with
  | nil => rfl
  | append_singleton digits last induction =>
      rw [List.reverse_concat, Nat.ofDigits_cons, ← induction, ofDigits, ofDigits,
        List.foldl_append]
      simp only [List.foldl_cons, List.foldl_nil]
      exact Nat.add_comm _ _

private theorem mapM_digitValue?_eq_some_iff {numeral : List Char} {digits : List Nat} :
    numeral.mapM digitValue? = some digits ↔ numeral.map digitValue? = digits.map some := by
  induction numeral generalizing digits with
  | nil => cases digits <;> simp
  | cons first rest induction =>
      simp only [List.mapM_cons, Option.bind_eq_bind, Option.bind_eq_some_iff, Option.pure_def,
        Option.some.injEq, induction, List.map_cons]
      constructor
      · rintro ⟨digit, read, digits, others, rfl⟩
        rw [read, others, List.map_cons]
      · intro listed
        cases digits with
        | nil => cases listed
        | cons digit digits =>
            obtain ⟨read, others⟩ := List.cons.inj listed
            exact ⟨digit, read, digits, others, rfl⟩

theorem readDigits?_eq_some_iff {numeral : List Char} {value : Nat} :
    readDigits? numeral = some value ↔ numeral ≠ [] ∧ AreDigitsOf numeral value := by
  rw [readDigits?]
  split
  · next empty => simp [List.isEmpty_iff.mp empty]
  · next filled =>
    rw [List.isEmpty_iff] at filled
    simp only [Option.map_eq_some_iff, mapM_digitValue?_eq_some_iff, ofDigits_eq, AreDigitsOf,
      ne_eq, filled, not_false_eq_true, true_and, eq_comm (a := value)]

theorem AreDigitsOf.isDigit {numeral : List Char} {value : Nat}
    (digitsOf : AreDigitsOf numeral value) : ∀ digit ∈ numeral, isDigit digit = true := by
  obtain ⟨digits, listed, _⟩ := digitsOf
  intro digit member
  have read : digitValue? digit ∈ digits.map some := listed ▸ List.mem_map_of_mem member
  obtain ⟨value, _, equality⟩ := List.mem_map.mp read
  rw [Text.isDigit, ← equality, Option.isSome_some]

end Text

namespace StoredHash

open Base64

/-- A numeral of a limited number of digits. -/
structure IsNumeral (greatest : Nat) (numeral : List Char) (value : Nat) : Prop where
  filled : numeral ≠ []
  short : numeral.length ≤ greatest
  digits : Text.AreDigitsOf numeral value

theorem numeral_of_cost? {letter : Char} {greatest : Nat} {text rest : List Char} {value : Nat}
    (read : cost? letter greatest text = some (value, rest)) :
    ∃ numeral, text = letter :: '=' :: (numeral ++ rest) ∧ IsNumeral greatest numeral value := by
  unfold cost? at read
  split at read
  · next first behind =>
    obtain ⟨tail, whole⟩ : behind.takeWhile Text.isDigit <+: behind := List.takeWhile_prefix _
    generalize behind.takeWhile Text.isDigit = numeral at read whole
    subst whole
    simp only at read
    split at read
    · next fits =>
      simp only [Bool.and_eq_true, decide_eq_true_eq] at fits
      obtain ⟨rfl, short⟩ := fits
      rw [List.drop_left, Option.map_eq_some_iff] at read
      obtain ⟨_, known, ⟨⟩⟩ := read
      obtain ⟨filled, digits⟩ := Text.readDigits?_eq_some_iff.mp known
      exact ⟨numeral, rfl, filled, short, digits⟩
    · cases read
  · cases read

theorem cost?_numeral {letter : Char} {greatest : Nat} {numeral rest : List Char} {value : Nat}
    (isNumeral : IsNumeral greatest numeral value) (stops : rest.takeWhile Text.isDigit = []) :
    cost? letter greatest (letter :: '=' :: (numeral ++ rest)) = some (value, rest) := by
  have known : Text.readDigits? numeral = some value :=
    Text.readDigits?_eq_some_iff.mpr ⟨isNumeral.filled, isNumeral.digits⟩
  rw [cost?_of_digits letter greatest isNumeral.digits.isDigit known stops,
    if_pos isNumeral.short]

theorem IsNumeral.not_mem {greatest : Nat} {numeral : List Char} {value : Nat}
    (isNumeral : IsNumeral greatest numeral value) {found : Char}
    (foreign : Text.isDigit found = false) : found ∉ numeral := by
  intro member
  have digit := isNumeral.digits.isDigit found member
  exact absurd (foreign.symm.trans digit) Bool.false_ne_true

/-! ## Costs -/

/-- The text of costs with the given numerals. -/
def costsOf (memory passes lanes : List Char) : List Char :=
  'm' :: '=' :: (memory ++ ',' :: 't' :: '=' :: (passes ++ ',' :: 'p' :: '=' :: lanes))

/-- Numerals write costs. -/
structure Numerals (memory passes lanes : List Char) (costs : Argon2.Costs) : Prop where
  memory : IsNumeral 10 memory costs.memory
  passes : IsNumeral 10 passes costs.passes
  lanes : IsNumeral 3 lanes costs.lanes

private theorem comma?_eq_some_iff {text rest : List Char} :
    comma? text = some rest ↔ text = ',' :: rest := by
  unfold comma?
  split
  · rw [Option.some.injEq, List.cons.injEq, eq_self, true_and]
  · next other => exact ⟨nofun, fun equality => absurd equality (other rest)⟩

theorem costs?_eq_some_iff {text : List Char} {costs : Argon2.Costs} (unbroken : '\n' ∉ text) :
    costs? text = some costs ↔
      ∃ memory passes lanes, text = costsOf memory passes lanes ∧
        Numerals memory passes lanes costs := by
  constructor
  · intro read
    unfold costs? at read
    simp only [Option.bind_eq_bind, Option.bind_eq_some_iff, Prod.exists,
      comma?_eq_some_iff] at read
    obtain ⟨_, _, readMemory, _, rfl, _, _, readPasses, _, rfl, _, rest, readLanes, ends⟩ := read
    obtain ⟨memory, rfl, isMemory⟩ := numeral_of_cost? readMemory
    obtain ⟨passes, rfl, isPasses⟩ := numeral_of_cost? readPasses
    obtain ⟨lanes, rfl, isLanes⟩ := numeral_of_cost? readLanes
    have noFeed : rest ≠ ['\n'] := by
      rintro rfl
      simp at unbroken
    split at ends
    · next stops =>
      obtain rfl := stops.resolve_right noFeed
      cases ends
      exact ⟨memory, passes, lanes, by rw [List.append_nil, costsOf], isMemory, isPasses, isLanes⟩
    · cases ends
  · rintro ⟨memory, passes, lanes, rfl, numerals⟩
    have comma (rest : List Char) : (',' :: rest).takeWhile Text.isDigit = [] :=
      List.takeWhile_cons_of_neg (by decide)
    have last : cost? 'p' 3 ('p' :: '=' :: (lanes ++ [])) = some (costs.lanes, []) :=
      cost?_numeral numerals.lanes rfl
    rw [List.append_nil] at last
    simp [costs?, costsOf, cost?_numeral numerals.memory (comma _), comma?,
      cost?_numeral numerals.passes (comma _), last]

/-! ## Base64 parts -/

/-- A part spells bytes, with at most two characters of padding.  A character that is left over
behind the last group of four spells nothing. -/
def IsBase64 (part : List Char) (bytes : Bytes) : Prop :=
  ∃ body pads, part = body ++ List.replicate pads '=' ∧ pads ≤ 2 ∧ body ≠ [] ∧
    body.length % 4 ≠ 1 ∧ standard.Spells body bytes

theorem partBytes?_eq_some_iff {part : List Char} {bytes : Bytes} (unbroken : '\n' ∉ part) :
    partBytes? part = .ok (some bytes) ↔ IsBase64 part bytes := by
  have plain (body : List Char) (pads : Nat) :
      partOf body pads false = body ++ List.replicate pads '=' := by simp [partOf]
  constructor
  · intro read
    by_cases accepted : isPart part = true
    · obtain ⟨body, pads, feed, rfl, isBody, few⟩ := isPart_iff.mp accepted
      cases feed with
      | true => simp [partOf] at unbroken
      | false =>
          rw [partBytes?_partOf isBody few] at read
          split at read
          · cases read
          · next whole =>
            cases read
            exact ⟨body, pads, plain body pads, few, isBody.filled, whole,
              Alphabet.spells_ofSextets isBody.known⟩
    · simp [partBytes?, accepted] at read
  · rintro ⟨body, pads, rfl, few, filled, whole, spells⟩
    have same : bodyBytes body = bytes :=
      (Alphabet.spells_ofSextets spells.known).unique spells
    rw [← plain, partBytes?_partOf ⟨filled, spells.known⟩ few, if_neg whole, same]

theorem IsBase64.not_mem {part : List Char} {bytes : Bytes} (isBase64 : IsBase64 part bytes)
    {found : Char} (foreign : standard.contains found = false) (notPadding : found ≠ '=') :
    found ∉ part := by
  obtain ⟨body, pads, rfl, _, _, _, spells⟩ := isBase64
  intro member
  rcases List.mem_append.mp member with inside | padding
  · exact absurd (foreign.symm.trans (spells.known found inside)) Bool.false_ne_true
  · exact notPadding (List.mem_replicate.mp padding).2

theorem feed_of_breaksOff {part : List Char} (breaksOff : BreaksOff part) : '\n' ∈ part := by
  obtain ⟨body, pads, rfl, _⟩ := breaksOff
  simp [partOf]

/-! ## Whole texts -/

/-- What stands between the fixed characters of a stored hash. -/
structure Fields where
  memory : List Char
  passes : List Char
  lanes : List Char
  salt : List Char
  digest : List Char

namespace Fields

/-- The text of a stored hash with the given fields. -/
def text (fields : Fields) : String :=
  "$argon2id$v=19$m=" ++ .ofList fields.memory ++ ",t=" ++ .ofList fields.passes ++
    ",p=" ++ .ofList fields.lanes ++ "$" ++ .ofList fields.salt ++ "$" ++ .ofList fields.digest

def costs (fields : Fields) : List Char :=
  costsOf fields.memory fields.passes fields.lanes

/-- Fields are well formed and tell the parts of a stored hash. -/
structure Tell (fields : Fields) (stored : StoredHash) : Prop where
  memory : IsNumeral 10 fields.memory stored.costs.memory
  passes : IsNumeral 10 fields.passes stored.costs.passes
  lanes : IsNumeral 3 fields.lanes stored.costs.lanes
  lanesBound : 1 ≤ stored.costs.lanes ∧ stored.costs.lanes ≤ 255
  passesBound : 1 ≤ stored.costs.passes ∧ stored.costs.passes ≤ 64
  memoryBound : 8 * stored.costs.lanes ≤ stored.costs.memory ∧ stored.costs.memory ≤ 4194304
  salt : IsBase64 fields.salt stored.salt
  digest : IsBase64 fields.digest stored.digest
  longSalt : 8 ≤ stored.salt.length
  longDigest : 16 ≤ stored.digest.length

theorem toList_text (fields : Fields) :
    fields.text.toList = ['$'].intercalate [[], "argon2id".toList, "v=19".toList, fields.costs,
      fields.salt, fields.digest] := by
  have header : "$argon2id$v=19$m=".toList =
      '$' :: ("argon2id".toList ++ '$' :: ("v=19".toList ++ ['$', 'm', '='])) := by simp
  have passes : ",t=".toList = [',', 't', '='] := by decide
  have lanes : ",p=".toList = [',', 'p', '='] := by decide
  have separator : "$".toList = ['$'] := by decide
  generalize "argon2id".toList = algorithm at *
  generalize "v=19".toList = version at *
  unfold text costs costsOf
  simp only [String.toList_append, String.toList_ofList, header, passes, lanes, separator]
  simp only [List.intercalate, List.intersperse, List.flatten_cons, List.flatten_nil,
    List.nil_append, List.append_nil, List.append_assoc, List.cons_append]

end Fields

theorem acceptsCosts_iff {costs : Argon2.Costs} :
    acceptsCosts costs = true ↔ (1 ≤ costs.lanes ∧ costs.lanes ≤ 255) ∧
      (1 ≤ costs.passes ∧ costs.passes ≤ 64) ∧
        8 * costs.lanes ≤ costs.memory ∧ costs.memory ≤ 4194304 := by
  simp only [acceptsCosts, Bool.and_eq_true, decide_eq_true_eq, and_assoc]
  rfl

theorem Fields.Tell.numerals {fields : Fields} {stored : StoredHash} (tell : fields.Tell stored) :
    Numerals fields.memory fields.passes fields.lanes stored.costs :=
  ⟨tell.memory, tell.passes, tell.lanes⟩

theorem Fields.Tell.splitAt_text {fields : Fields} {stored : StoredHash}
    (tell : fields.Tell stored) :
    Text.splitAt '$' fields.text.toList =
      [[], "argon2id".toList, "v=19".toList, fields.costs, fields.salt, fields.digest] := by
  have costs : '$' ∉ fields.costs := by
    have memory : '$' ∉ fields.memory := tell.memory.not_mem (by decide)
    have passes : '$' ∉ fields.passes := tell.passes.not_mem (by decide)
    have lanes : '$' ∉ fields.lanes := tell.lanes.not_mem (by decide)
    simp [Fields.costs, costsOf, memory, passes, lanes]
  rw [Fields.toList_text, Text.splitAt_intercalate _ (by simp)]
  intro field member
  simp only [List.mem_cons, List.not_mem_nil, or_false] at member
  rcases member with rfl | rfl | rfl | rfl | rfl | rfl
  · decide
  · decide
  · decide
  · exact costs
  · exact tell.salt.not_mem (by decide) (by decide)
  · exact tell.digest.not_mem (by decide) (by decide)

private theorem not_isBroken {text : String} (unbroken : '\n' ∉ text.toList) : ¬ IsBroken text := by
  rintro ⟨costs, salt, digest, split, _, breaksOff⟩
  have clean {part : List Char} (member : part ∈ Text.splitAt '$' text.toList) : '\n' ∉ part :=
    mt (Text.mem_of_mem_splitAt member) unbroken
  rw [split] at clean
  rcases breaksOff with salt | digest
  · exact clean (by simp) (feed_of_breaksOff salt)
  · exact clean (by simp) (feed_of_breaksOff digest)

private theorem read_eq_some_iff_tell {text : String} (unbroken : '\n' ∉ text.toList)
    {stored : StoredHash} :
    read text = .ok (some stored) ↔ ∃ fields : Fields, text = fields.text ∧ fields.Tell stored := by
  rw [read_eq_iff (by simp)]
  constructor
  · rintro ⟨costs, salt, digest, split, answer⟩
    have clean {part : List Char} (member : part ∈ Text.splitAt '$' text.toList) : '\n' ∉ part :=
      mt (Text.mem_of_mem_splitAt member) unbroken
    rw [split] at clean
    obtain ⟨⟨readCosts, inBounds⟩, readSalt, readDigest, longSalt, longDigest⟩ :=
      ofParts_eq_some_iff.mp answer
    obtain ⟨memory, passes, lanes, rfl, numerals⟩ :=
      (costs?_eq_some_iff (clean (by simp))).mp readCosts
    rw [partBytes?_eq_some_iff (clean (by simp))] at readSalt readDigest
    obtain ⟨lanesBound, passesBound, memoryBound⟩ := acceptsCosts_iff.mp inBounds
    refine ⟨⟨memory, passes, lanes, salt, digest⟩, ?_, ?_⟩
    · rw [← String.toList_inj, ← Text.intercalate_splitAt '$' text.toList, split,
        Fields.toList_text]
      rfl
    · exact ⟨numerals.memory, numerals.passes, numerals.lanes, lanesBound, passesBound,
        memoryBound, readSalt, readDigest, longSalt, longDigest⟩
  · rintro ⟨fields, rfl, tell⟩
    have clean {part : List Char} (member : part ∈ Text.splitAt '$' fields.text.toList) :
        '\n' ∉ part :=
      mt (Text.mem_of_mem_splitAt member) unbroken
    rw [tell.splitAt_text] at clean
    refine ⟨fields.costs, fields.salt, fields.digest, tell.splitAt_text, ?_⟩
    rw [ofParts_eq_some_iff, partBytes?_eq_some_iff (clean (by simp)),
      partBytes?_eq_some_iff (clean (by simp)), costs?_eq_some_iff (clean (by simp)),
      acceptsCosts_iff]
    exact ⟨⟨⟨_, _, _, rfl, tell.numerals⟩, tell.lanesBound, tell.passesBound, tell.memoryBound⟩,
      tell.salt, tell.digest, tell.longSalt, tell.longDigest⟩

/-- A text without line feeds is read as a stored hash exactly if it is one by the grammar, and
then as that one; otherwise it is malformed. -/
theorem reads_exactly_grammar (text : String) (unbroken : '\n' ∉ text.toList) :
    ∃ outcome, read text = .ok outcome ∧
      ∀ stored, outcome = some stored ↔
        ∃ fields : Fields, text = fields.text ∧ fields.Tell stored := by
  cases answer : read text with
  | error failure => exact absurd (read_eq_error_iff.mp answer) (not_isBroken unbroken)
  | ok outcome =>
      refine ⟨outcome, rfl, ?_⟩
      intro stored
      rw [← read_eq_some_iff_tell unbroken, answer, Except.ok.injEq]

/-- A stored hash with costs in Arabic digits and with leading zeros, too much padding behind the
salt, and surplus bits and no padding at the end of the digest. -/
def unusualText : String :=
  "$argon2id$v=19$m=٠٨,t=1,p=001$c2FsdHNhbHQ==$AAAAAAAAAAAAAAAAAAAAAB"

theorem reads_exactly_grammar_of_arabic_digits :
    '\n' ∉ unusualText.toList ∧
      read unusualText = .ok (some ⟨⟨8, 1, 1⟩, Bytes.ofText "saltsalt", List.replicate 16 0⟩) ∧
        ∃ fields : Fields, unusualText = fields.text ∧
          fields.Tell ⟨⟨8, 1, 1⟩, Bytes.ofText "saltsalt", List.replicate 16 0⟩ := by
  have unbroken : '\n' ∉ unusualText.toList := by decide +kernel
  have answer : read unusualText =
      .ok (some ⟨⟨8, 1, 1⟩, Bytes.ofText "saltsalt", List.replicate 16 0⟩) := by decide +kernel
  obtain ⟨outcome, same, tells⟩ := reads_exactly_grammar unusualText unbroken
  rw [answer, Except.ok.injEq] at same
  exact ⟨unbroken, answer, (tells _).mp same.symm⟩

end StoredHash

end AccessGate
