import AccessGate.Proofs.Secret.StoredHash
import AccessGate.Proofs.Text.Fields

/-!
# Written hashes read back

The text of a stored hash comes apart at its dollar signs into the fields that it was joined from,
because neither decimal costs nor base64 contain one.  The costs read back as far as the reader
accepts them, and the salt and the digest read back whatever padding stands behind them.
-/

namespace AccessGate

namespace StoredHash

open Base64

private theorem isBody_characters {bytes : Bytes} (filled : bytes ≠ []) :
    IsBody (Base64.characters standard bytes) :=
  ⟨characters_ne_nil filled, fun _ member => contains_of_mem_characters isFaithful_standard member⟩

/-- The bytes of a part read back whatever padding it has. -/
theorem partBytes?_characters {bytes : Bytes} (filled : bytes ≠ []) {pads : Nat} (few : pads ≤ 2) :
    partBytes? (partOf (Base64.characters standard bytes) pads false) = .ok (some bytes) := by
  rw [partBytes?_partOf (isBody_characters filled) few, if_neg (length_characters_mod bytes),
    bodyBytes, filterMap_sextet?_characters isFaithful_standard, ofSextets_sextets]

theorem paddedCharacters_eq_partOf (bytes : Bytes) :
    ∃ pads ≤ 2, paddedCharacters standard bytes =
      partOf (Base64.characters standard bytes) pads false := by
  have unfinished : (Base64.characters standard bytes).length % 4 ≠ 1 :=
    length_characters_mod bytes
  refine ⟨(4 - (Base64.characters standard bytes).length % 4) % 4, by omega, ?_⟩
  rw [paddedCharacters, paddingFor, partOf, if_neg Bool.false_ne_true, List.append_nil]

theorem dollar_not_mem_partOf (bytes : Bytes) (pads : Nat) :
    '$' ∉ partOf (Base64.characters standard bytes) pads false := by
  intro member
  rw [partOf, if_neg Bool.false_ne_true, List.append_nil] at member
  rcases List.mem_append.mp member with letter | padding
  · have known := contains_of_mem_characters isFaithful_standard letter
    exact absurd known (by decide)
  · exact absurd (List.eq_of_mem_replicate padding) (by decide)

/-! ## Costs -/

/-- A written cost reads back if it has at most as many digits as the reader takes. -/
theorem cost?_written (letter : Char) (greatest value : Nat) {rest : List Char}
    (stops : rest.takeWhile Text.isDigit = []) :
    cost? letter greatest (letter :: '=' :: (Double.digitsOf value ++ rest)) =
      if (Double.digitsOf value).length ≤ greatest then some (value, rest) else none :=
  cost?_of_digits letter greatest (fun _ => Text.isDigit_of_mem_digitsOf)
    (Text.readDigits?_digitsOf value) stops

/-- The numbers of digits of costs are at most those that the reader takes. -/
structure FewDigits (costs : Argon2.Costs) : Prop where
  memory : (Double.digitsOf costs.memory).length ≤ 10
  passes : (Double.digitsOf costs.passes).length ≤ 10
  lanes : (Double.digitsOf costs.lanes).length ≤ 3

private theorem costsText_eq (costs : Argon2.Costs) :
    costsText costs =
      'm' :: '=' :: (Double.digitsOf costs.memory ++
        ',' :: 't' :: '=' :: (Double.digitsOf costs.passes ++
          ',' :: 'p' :: '=' :: (Double.digitsOf costs.lanes ++ []))) := by
  simp [costsText]

/-- Written costs read back as they were written, if they have few digits, and only then. -/
theorem costs?_costsText_eq_some_iff {costs read : Argon2.Costs} :
    costs? (costsText costs) = some read ↔ FewDigits costs ∧ costs = read := by
  have comma (rest : List Char) : (',' :: rest).takeWhile Text.isDigit = [] :=
    List.takeWhile_cons_of_neg (by decide)
  rw [costsText_eq, costs?, cost?_written 'm' 10 costs.memory (comma _)]
  by_cases memory : (Double.digitsOf costs.memory).length ≤ 10
  case neg =>
    rw [if_neg memory]
    exact iff_of_false nofun fun few => memory few.1.memory
  rw [if_pos memory]
  simp only [Option.bind_eq_bind, Option.bind_some, comma?]
  rw [cost?_written 't' 10 costs.passes (comma _)]
  by_cases passes : (Double.digitsOf costs.passes).length ≤ 10
  case neg =>
    rw [if_neg passes]
    exact iff_of_false nofun fun few => passes few.1.passes
  rw [if_pos passes]
  simp only [Option.bind_some]
  rw [cost?_written 'p' 3 costs.lanes rfl]
  by_cases lanes : (Double.digitsOf costs.lanes).length ≤ 3
  case neg =>
    rw [if_neg lanes]
    exact iff_of_false nofun fun few => lanes few.1.lanes
  rw [if_pos lanes]
  simp [FewDigits.mk memory passes lanes]

private theorem fewDigits_of_accepts {costs : Argon2.Costs} (accepted : acceptsCosts costs = true) :
    FewDigits costs := by
  have short {value digits : Nat} (positive : 0 < digits) (small : value < 10 ^ digits) :
      (Double.digitsOf value).length ≤ digits :=
    (Nat.length_toDigits_le_iff (by decide) positive).mpr small
  have memoryBound : greatestMemory = 4194304 := rfl
  have passesBound : greatestPasses = 64 := rfl
  have lanesBound : greatestLanes = 255 := rfl
  simp only [acceptsCosts, Bool.and_eq_true, decide_eq_true_eq] at accepted
  exact ⟨short (by decide) (by omega), short (by decide) (by omega), short (by decide) (by omega)⟩

/-- Written costs read back if they lie within the accepted bounds, and are refused otherwise. -/
theorem filter_costs?_costsText (costs : Argon2.Costs) :
    (costs? (costsText costs)).filter acceptsCosts =
      if acceptsCosts costs = true then some costs else none := by
  by_cases accepted : acceptsCosts costs = true
  · rw [costs?_costsText_eq_some_iff.mpr ⟨fewDigits_of_accepts accepted, rfl⟩, if_pos accepted,
      Option.filter_some_pos accepted]
  · rw [if_neg accepted, Option.filter_eq_none_iff]
    intro read answer
    rwa [← (costs?_costsText_eq_some_iff.mp answer).2]

private theorem dollar_not_mem_costsText (costs : Argon2.Costs) : '$' ∉ costsText costs := by
  have digits (value : Nat) : '$' ∉ Double.digitsOf value := fun member =>
    absurd (Json.Reader.digitsOf_all value '$' member) (by decide)
  simp [costsText, digits]

/-! ## Whole texts -/

/-- The fields of a stored hash as text, with the given numbers of padding characters behind the
salt and behind the digest. -/
def fields (stored : StoredHash) (saltPads digestPads : Nat) : List (List Char) :=
  [[], "argon2id".toList, "v=19".toList, costsText stored.costs,
    partOf (Base64.characters standard stored.salt) saltPads false,
    partOf (Base64.characters standard stored.digest) digestPads false]

/-- A stored hash as text, with the given numbers of padding characters. -/
def writePadded (stored : StoredHash) (saltPads digestPads : Nat) : String :=
  String.ofList (['$'].intercalate (stored.fields saltPads digestPads))

theorem write_eq_writePadded (stored : StoredHash) :
    ∃ saltPads ≤ 2, ∃ digestPads ≤ 2, stored.write = stored.writePadded saltPads digestPads := by
  obtain ⟨saltPads, fewSalt, salt⟩ := paddedCharacters_eq_partOf stored.salt
  obtain ⟨digestPads, fewDigest, digest⟩ := paddedCharacters_eq_partOf stored.digest
  refine ⟨saltPads, fewSalt, digestPads, fewDigest, ?_⟩
  have header : "$argon2id$v=19$".toList =
      '$' :: ("argon2id".toList ++ '$' :: ("v=19".toList ++ ['$'])) := by decide
  have joined : stored.characters = ['$'].intercalate (stored.fields saltPads digestPads) := by
    unfold StoredHash.characters
    rw [header, salt, digest]
    simp only [fields, List.intercalate, List.intersperse, List.flatten_cons, List.flatten_nil,
      List.nil_append, List.append_nil, List.append_assoc, List.cons_append]
  unfold write writePadded
  rw [joined]

private theorem splitAt_writePadded (stored : StoredHash) (saltPads digestPads : Nat) :
    Text.splitAt '$' (stored.writePadded saltPads digestPads).toList =
      stored.fields saltPads digestPads := by
  rw [writePadded, String.toList_ofList, Text.splitAt_intercalate _ (by simp [fields])]
  intro field member
  simp only [fields, List.mem_cons, List.not_mem_nil, or_false] at member
  rcases member with rfl | rfl | rfl | rfl | rfl | rfl
  · decide
  · decide
  · decide
  · exact dollar_not_mem_costsText stored.costs
  · exact dollar_not_mem_partOf stored.salt saltPads
  · exact dollar_not_mem_partOf stored.digest digestPads

/-- A written hash reads back, whatever padding it has, if its costs lie within the accepted bounds;
otherwise it is malformed. -/
theorem read_writePadded {stored : StoredHash} (longSalt : leastSalt ≤ stored.salt.length)
    (longDigest : leastDigest ≤ stored.digest.length) {saltPads digestPads : Nat}
    (fewSalt : saltPads ≤ 2) (fewDigest : digestPads ≤ 2) :
    read (stored.writePadded saltPads digestPads) =
      .ok (if acceptsCosts stored.costs = true then some stored else none) := by
  have salted : stored.salt ≠ [] :=
    List.ne_nil_of_length_pos (Nat.lt_of_lt_of_le (by decide) longSalt)
  have digested : stored.digest ≠ [] :=
    List.ne_nil_of_length_pos (Nat.lt_of_lt_of_le (by decide) longDigest)
  have enough : (decide (leastSalt ≤ stored.salt.length) &&
      decide (leastDigest ≤ stored.digest.length)) = true := by
    simp [longSalt, longDigest]
  simp only [read, splitAt_writePadded, fields]
  rw [if_pos (by decide), ofParts, filter_costs?_costsText]
  by_cases accepted : acceptsCosts stored.costs = true
  · simp only [if_pos accepted, partBytes?_characters salted fewSalt,
      partBytes?_characters digested fewDigest, bind, Except.bind, enough]
    rfl
  · simp only [if_neg accepted]

end StoredHash

end AccessGate
