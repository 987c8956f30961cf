import AccessGate.Proofs.Bytes.Base64
import AccessGate.Secret.StoredHash

/-!
# Which stored hashes can be read

A text is read as a stored hash, found malformed, or cannot be read at all.  The last happens
exactly if the costs are in order and the salt or the digest breaks off: its characters leave a
group of four unfinished, and a line feed stands where padding should have completed the group.
`read_eq_error_iff` tells this of the text alone.
-/

namespace AccessGate.StoredHash

open Base64

/-! ## Base64 parts -/

/-- A part with a body, padding, and possibly a line feed. -/
def partOf (body : List Char) (pads : Nat) (feed : Bool) : List Char :=
  body ++ (List.replicate pads '=' ++ if feed then ['\n'] else [])

/-- A body consists of characters of the alphabet, and of at least one. -/
structure IsBody (body : List Char) : Prop where
  filled : body ≠ []
  known : ∀ found ∈ body, standard.contains found = true

/-- A part breaks off: behind an unfinished group it has too little padding, and a line feed. -/
def BreaksOff (part : List Char) : Prop :=
  ∃ body pads, part = partOf body pads true ∧ IsBody body ∧ 0 < body.length % 4 ∧
    body.length % 4 + pads < 4

/-- The bytes of a body, without surplus bits. -/
def bodyBytes (body : List Char) : Bytes :=
  ofSextets (body.filterMap standard.sextet?)

private theorem takeWhile_partOf {body : List Char} (isBody : IsBody body) (pads : Nat)
    (feed : Bool) :
    (partOf body pads feed).takeWhile standard.contains = body := by
  rw [partOf, List.takeWhile_append_of_pos isBody.known]
  have stops : (List.replicate pads '=' ++ if feed then ['\n'] else []).takeWhile
      standard.contains = [] := by
    cases pads with
    | zero => cases feed <;> decide
    | succ pads => rfl
  rw [stops, List.append_nil]

/-- Parts are bodies with at most two padding characters, and possibly a line feed. -/
theorem isPart_iff {part : List Char} :
    isPart part = true ↔
      ∃ body pads feed, part = partOf body pads feed ∧ IsBody body ∧ pads ≤ 2 := by
  constructor
  · intro accepted
    have known : (part.takeWhile standard.contains).all standard.contains = true :=
      List.all_takeWhile
    have front : part.takeWhile standard.contains <+: part := List.takeWhile_prefix _
    obtain ⟨tail, whole⟩ := front
    simp only [isPart, Bool.and_eq_true, Bool.not_eq_true', List.isEmpty_eq_false_iff] at accepted
    generalize part.takeWhile standard.contains = body at known whole accepted
    subst whole
    obtain ⟨filled, ends⟩ := accepted
    have isBody : IsBody body := ⟨filled, fun _ => List.all_eq_true.mp known _⟩
    rw [List.drop_left, List.contains_iff_mem] at ends
    simp only [List.mem_cons, List.not_mem_nil, or_false] at ends
    rcases ends with rfl | rfl | rfl | rfl | rfl | rfl
    · exact ⟨body, 0, false, rfl, isBody, by decide⟩
    · exact ⟨body, 1, false, rfl, isBody, by decide⟩
    · exact ⟨body, 2, false, rfl, isBody, by decide⟩
    · exact ⟨body, 0, true, rfl, isBody, by decide⟩
    · exact ⟨body, 1, true, rfl, isBody, by decide⟩
    · exact ⟨body, 2, true, rfl, isBody, by decide⟩
  · rintro ⟨body, pads, feed, rfl, isBody, few⟩
    have listed : ∀ pads ≤ 2, ∀ feed : Bool,
        [[], ['='], ['=', '='], ['\n'], ['=', '\n'], ['=', '=', '\n']].contains
          (List.replicate pads '=' ++ if feed then ['\n'] else []) = true := by decide
    simp only [isPart, takeWhile_partOf isBody, Bool.and_eq_true, Bool.not_eq_true',
      List.isEmpty_eq_false_iff]
    rw [partOf, List.drop_left]
    exact ⟨isBody.filled, listed pads few feed⟩

/-! ## Their bytes -/

theorem dropPadding_of_last {front : List Char} {last : Char} (different : last ≠ '=') :
    dropPadding (front ++ [last]) = front ++ [last] := by
  simp [dropPadding, different]

private theorem dropPadding_partOf {body : List Char} (isBody : IsBody body) (pads : Nat) :
    dropPadding (partOf body pads false) = body := by
  have stripped : dropPadding (partOf body pads false) = dropPadding body := by
    rw [dropPadding, dropPadding, partOf, if_neg Bool.false_ne_true, List.append_nil,
      List.reverse_append, List.reverse_replicate, List.dropWhile_append_of_pos]
    intro found member
    rw [(List.mem_replicate.mp member).2]
    rfl
  rw [stripped]
  rcases List.eq_nil_or_concat body with rfl | ⟨front, last, rfl⟩
  · rfl
  · rw [List.concat_eq_append] at isBody ⊢
    exact dropPadding_of_last
      (ne_padding_of_contains isFaithful_standard (isBody.known last (by simp)))

private theorem dropPadding_partOf_feed (body : List Char) (pads : Nat) :
    dropPadding (partOf body pads true) = partOf body pads true := by
  rw [partOf, if_pos rfl, ← List.append_assoc]
  exact dropPadding_of_last (by decide)

theorem readLenient?_body {body : List Char} (isBody : IsBody body) {rest : List Char} :
    readLenient? standard (body ++ rest) =
      ((gather standard body.length 0 rest).map fun more =>
        ofSextets (body.filterMap standard.sextet? ++ more)) := by
  rw [readLenient?, gather_body isFaithful_standard isBody.known, Option.map_map, Nat.zero_add]
  rfl

/-- A part without a line feed has bytes, unless a single character is left over. -/
theorem partBytes?_partOf {body : List Char} (isBody : IsBody body) {pads : Nat} (few : pads ≤ 2) :
    partBytes? (partOf body pads false) =
      .ok (if body.length % 4 = 1 then none else some (bodyBytes body)) := by
  have accepted : isPart (partOf body pads false) = true :=
    isPart_iff.mpr ⟨body, pads, false, rfl, isBody, few⟩
  simp only [partBytes?, accepted, dropPadding_partOf isBody, Bool.not_true, Bool.false_or,
    decide_eq_true_eq]
  by_cases single : body.length % 4 = 1
  · rw [if_pos single, if_pos single]
  · rw [if_neg single, if_neg single, readLenient?_body isBody, gather_paddingFor single]
    simp [bodyBytes]

/-- What follows the body of a part with a line feed finishes the reading or not. -/
theorem gather_feed {count pads : Nat} (few : pads ≤ 2) :
    gather standard count 0
        (List.replicate pads '=' ++ '\n' :: paddingFor (count + pads + 1)) =
      if 0 < count % 4 ∧ count % 4 + pads < 4 then none else some [] := by
  have foreign (pads : Nat) (rest : List Char) :
      gather standard count pads ('\n' :: rest) = gather standard count pads rest :=
    gather_foreign (by decide) (by decide) count pads rest
  rw [paddingFor, ← List.append_nil (List.replicate ((4 - _) % 4) '=')]
  by_cases early : count % 4 < 2
  · rw [gather_padding_early early, foreign, gather_padding_early early, gather]
    by_cases whole : count % 4 = 0
    · simp [whole]
    · rw [if_neg whole, if_pos (by omega)]
  · by_cases complete : 4 ≤ count % 4 + pads
    · rw [gather_padding_complete (by omega) (by omega) (by omega), if_neg (by omega)]
    · rw [gather_padding_incomplete (by omega) (by omega), foreign,
        gather_padding_incomplete (by omega) (by omega), gather, if_neg (by omega),
        if_pos (by omega)]

/-- A part with a line feed is malformed if the line feed looks like a single left-over character,
cannot be read if it breaks off, and has bytes otherwise. -/
theorem partBytes?_partOf_feed {body : List Char} (isBody : IsBody body) {pads : Nat}
    (few : pads ≤ 2) :
    partBytes? (partOf body pads true) =
      if (body.length + pads) % 4 = 0 then .ok none
      else if 0 < body.length % 4 ∧ body.length % 4 + pads < 4 then .error .unfinished
      else .ok (some (bodyBytes body)) := by
  have accepted : isPart (partOf body pads true) = true :=
    isPart_iff.mpr ⟨body, pads, true, rfl, isBody, few⟩
  have length : (partOf body pads true).length = body.length + pads + 1 := by
    simp [partOf, Nat.add_assoc]
  simp only [partBytes?, accepted, dropPadding_partOf_feed, length, Bool.not_true, Bool.false_or,
    decide_eq_true_eq]
  by_cases single : (body.length + pads) % 4 = 0
  · rw [if_pos (by omega), if_pos single]
  · have read : readLenient? standard
        (partOf body pads true ++ paddingFor (body.length + pads + 1)) =
        if 0 < body.length % 4 ∧ body.length % 4 + pads < 4 then none
        else some (bodyBytes body) := by
      rw [partOf, if_pos rfl, List.append_assoc, List.append_assoc, List.singleton_append,
        readLenient?_body isBody, gather_feed few]
      split <;> simp [bodyBytes]
    rw [if_neg (by omega), if_neg single, read]
    by_cases broken : 0 < body.length % 4 ∧ body.length % 4 + pads < 4
    · rw [if_pos broken, if_pos broken]
    · rw [if_neg broken, if_neg broken]

theorem partBytes?_eq_error_iff {part : List Char} :
    partBytes? part = .error .unfinished ↔ BreaksOff part := by
  constructor
  · intro failed
    by_cases accepted : isPart part = true
    · obtain ⟨body, pads, feed, rfl, isBody, few⟩ := isPart_iff.mp accepted
      cases feed with
      | false =>
          rw [partBytes?_partOf isBody few] at failed
          cases failed
      | true =>
          rw [partBytes?_partOf_feed isBody few] at failed
          split at failed
          · cases failed
          · split at failed
            · next broken => exact ⟨body, pads, rfl, isBody, broken⟩
            · cases failed
    · simp [partBytes?, accepted] at failed
  · rintro ⟨body, pads, rfl, isBody, unfinished, little⟩
    rw [partBytes?_partOf_feed isBody (by omega), if_neg (by omega), if_pos ⟨unfinished, little⟩]

/-! ## Costs -/

/-- Digits are read as a cost if they are not too many, and something else follows. -/
theorem cost?_of_digits (letter : Char) (greatest : Nat) {digits rest : List Char} {value : Nat}
    (all : ∀ digit ∈ digits, Text.isDigit digit = true)
    (known : Text.readDigits? digits = some value)
    (stops : rest.takeWhile Text.isDigit = []) :
    cost? letter greatest (letter :: '=' :: (digits ++ rest)) =
      if digits.length ≤ greatest then some (value, rest) else none := by
  have taken : (digits ++ rest).takeWhile Text.isDigit = digits := by
    rw [List.takeWhile_append_of_pos all, stops, List.append_nil]
  rw [cost?, taken]
  simp [known]

/-! ## Whole texts -/

/-- A text breaks off: its costs are in order, and its salt or its digest breaks off. -/
def IsBroken (text : String) : Prop :=
  ∃ costs salt digest, Text.splitAt '$' text.toList =
      [[], "argon2id".toList, "v=19".toList, costs, salt, digest] ∧
    ((costs? costs).filter acceptsCosts).isSome = true ∧ (BreaksOff salt ∨ BreaksOff digest)

private theorem ofParts_eq_error_iff {costs salt digest : List Char} :
    ofParts costs salt digest = .error .unfinished ↔
      ((costs? costs).filter acceptsCosts).isSome = true ∧
        (BreaksOff salt ∨ BreaksOff digest) := by
  rw [← partBytes?_eq_error_iff, ← partBytes?_eq_error_iff, ofParts]
  cases (costs? costs).filter acceptsCosts with
  | none => simp
  | some accepted =>
      cases partBytes? salt with
      | error _ => simp [bind, Except.bind]
      | ok salt =>
          cases partBytes? digest with
          | error _ => simp [bind, Except.bind]
          | ok digest =>
              cases salt <;> cases digest <;> simp [bind, Except.bind]
              split <;> simp

theorem read_eq_iff {text : String} {outcome : Except Unfinished (Option StoredHash)}
    (wellFormed : outcome ≠ .ok none) :
    read text = outcome ↔
      ∃ costs salt digest, Text.splitAt '$' text.toList =
          [[], "argon2id".toList, "v=19".toList, costs, salt, digest] ∧
        ofParts costs salt digest = outcome := by
  constructor
  · intro answer
    unfold read at answer
    split at answer
    · next before algorithm version costs salt digest split =>
      split at answer
      · next header =>
        simp only [Bool.and_eq_true, decide_eq_true_eq] at header
        obtain ⟨⟨rfl, rfl⟩, rfl⟩ := header
        exact ⟨costs, salt, digest, split, answer⟩
      · exact absurd answer.symm wellFormed
    · exact absurd answer.symm wellFormed
  · rintro ⟨costs, salt, digest, split, answer⟩
    simp only [read, split]
    exact answer

theorem read_eq_error_iff {text : String} : read text = .error .unfinished ↔ IsBroken text := by
  have wellFormed : Except.error Unfinished.unfinished ≠ .ok (none : Option StoredHash) := by simp
  simp only [read_eq_iff wellFormed, ofParts_eq_error_iff, IsBroken]

theorem not_isBroken_of_read {text : String} (outcome : Option StoredHash)
    (answer : read text = .ok outcome) : ¬ IsBroken text := by
  rw [← read_eq_error_iff, answer]
  simp

theorem ofParts_eq_some_iff {costs salt digest : List Char} {stored : StoredHash} :
    ofParts costs salt digest = .ok (some stored) ↔
      (costs? costs = some stored.costs ∧ acceptsCosts stored.costs = true) ∧
        partBytes? salt = .ok (some stored.salt) ∧ partBytes? digest = .ok (some stored.digest) ∧
          leastSalt ≤ stored.salt.length ∧ leastDigest ≤ stored.digest.length := by
  obtain ⟨costs', salt', digest'⟩ := stored
  rw [← Option.filter_eq_some_iff, ofParts]
  cases (costs? costs).filter acceptsCosts with
  | none => simp
  | some accepted =>
      cases partBytes? salt with
      | error _ => simp [bind, Except.bind]
      | ok salt =>
          cases partBytes? digest with
          | error _ => simp [bind, Except.bind]
          | ok digest =>
              cases salt with
              | none => simp [bind, Except.bind]
              | some salt =>
                  cases digest with
                  | none => simp [bind, Except.bind]
                  | some digest =>
                      simp only [bind, Except.bind, Bool.and_eq_true, decide_eq_true_eq]
                      grind

theorem acceptsCosts_of_read {text : String} {stored : StoredHash}
    (answer : read text = .ok (some stored)) : acceptsCosts stored.costs = true := by
  obtain ⟨costs, salt, digest, _, answer⟩ := (read_eq_iff (by simp)).mp answer
  exact (ofParts_eq_some_iff.mp answer).1.2

end AccessGate.StoredHash
