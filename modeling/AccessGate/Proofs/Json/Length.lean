import AccessGate.Json.Reader
import AccessGate.Proofs.Outcome
import Mathlib

/-!
# What is read is shorter than what is written

A text is written with two quotes around it and at least one character for each of its own.  So a
text that is read is shorter than the document by two characters, and the texts of a list, with the
commas between them, are shorter still.
-/

namespace AccessGate.Json

namespace Reader

variable {characters rest : List Char}

theorem length_dropGap_le (characters : List Char) :
    (dropGap characters).length ≤ characters.length :=
  (List.dropWhile_sublist isGap).length_le

theorem withCode_eq_ok {code : Nat} {found : Found (List Nat)} {codes : List Nat}
    (answer : withCode code found = .ok (codes, rest)) :
    ∃ later, found = .ok (later, rest) ∧ codes = code :: later := by
  obtain ⟨⟨later, behind⟩, rfl, same⟩ := map_eq_ok.mp answer
  obtain ⟨rfl, rfl⟩ := Prod.mk.inj same
  exact ⟨later, rfl, rfl⟩

private theorem length_of_textCodes {opening : Nat} {codes : List Nat}
    (answer : textCodes opening characters = .ok (codes, rest)) :
    codes.length + rest.length + 1 ≤ characters.length := by
  fun_induction textCodes opening characters generalizing codes with
  | case1 => cases answer
  | case2 behind =>
      cases answer
      simp
  | case3 => cases answer
  | case4 => cases answer
  | case5 a b c d behind unit escape more induction =>
      obtain ⟨later, read, rfl⟩ := withCode_eq_ok answer
      have shorter := induction read
      simp only [List.length_cons]
      omega
  | case6 => cases answer
  | case7 escaped behind long character short induction =>
      obtain ⟨later, read, rfl⟩ := withCode_eq_ok answer
      have shorter := induction read
      simp only [List.length_cons]
      omega
  | case8 => cases answer
  | case9 => cases answer
  | case10 character behind quote backslash long short printable induction =>
      obtain ⟨later, read, rfl⟩ := withCode_eq_ok answer
      have shorter := induction read
      simp only [List.length_cons]
      omega

private theorem length_joinPairs_le (codes : List Nat) :
    (joinPairs codes).length ≤ codes.length := by
  induction codes using joinPairs.induct with
  | case1 => exact Nat.le_refl _
  | case2 code => exact Nat.le_refl _
  | case3 high low others pair induction =>
      rw [joinPairs, if_pos pair, List.length_cons, List.length_cons, List.length_cons]
      omega
  | case4 high low others pair induction =>
      rw [joinPairs, if_neg pair, List.length_cons, List.length_cons]
      omega

private theorem length_of_text {found : String} (answer : text characters = .ok (found, rest)) :
    found.length + rest.length + 1 ≤ characters.length := by
  obtain ⟨⟨codes, behind⟩, read, same⟩ := map_eq_ok.mp answer
  obtain ⟨rfl, rfl⟩ := Prod.mk.inj same
  have joined := length_joinPairs_le codes
  have written := length_of_textCodes read
  rw [String.length_ofList]
  omega

/-! ## Values that are texts or lists -/

private theorem number_eq_ok {json : Json} (answer : number characters = .ok (json, rest)) :
    (∃ value, json = .int value) ∨ ∃ value, json = .float value := by
  unfold number at answer
  dsimp only at answer
  split at answer
  · cases answer
  · split at answer
    · cases answer
      exact .inr ⟨_, rfl⟩
    · split at answer
      · split at answer
        · cases answer
        · cases answer
          exact .inl ⟨_, rfl⟩
      · cases answer
        exact .inr ⟨_, rfl⟩

/-- A word or a number is neither a text nor a list. -/
theorem scalar_eq_ok {json : Json} (answer : scalar characters = .ok (json, rest)) :
    (∀ found, json ≠ .text found) ∧ ∀ found, json ≠ .list found := by
  unfold scalar at answer
  split at answer
  · next found known =>
    cases answer
    obtain ⟨word, member, read⟩ := List.exists_of_findSome?_eq_some known
    obtain ⟨behind, _, same⟩ := Option.map_eq_some_iff.mp read
    obtain ⟨rfl, rfl⟩ := Prod.mk.inj same
    simp only [wordValues, List.mem_cons, List.not_mem_nil, or_false] at member
    rcases member with rfl | rfl | rfl | rfl | rfl | rfl <;> simp
  · rcases number_eq_ok answer with ⟨value, rfl⟩ | ⟨value, rfl⟩ <;> simp

private theorem value_eq_text {bound depth : Nat} {found : String}
    (answer : value bound depth characters = .ok (.text found, rest)) :
    ∃ behind, characters = '"' :: behind ∧ text behind = .ok (found, rest) := by
  cases bound with
  | zero => simp [value] at answer
  | succ bound =>
      unfold value at answer
      split at answer
      · cases answer
      · next _ behind =>
        obtain ⟨⟨read, after⟩, text, same⟩ := map_eq_ok.mp answer
        cases same
        exact ⟨behind, rfl, text⟩
      · cases answer
      · cases answer
      · split at answer
        · cases answer
        · obtain ⟨_, _, same⟩ := map_eq_ok.mp answer
          cases same
      · split at answer
        · cases answer
        · obtain ⟨_, _, same⟩ := map_eq_ok.mp answer
          cases same
      · exact absurd rfl ((scalar_eq_ok answer).1 found)

private theorem value_eq_list {bound depth : Nat} {found : List Json}
    (answer : value bound depth characters = .ok (.list found, rest)) :
    ∃ behind, characters = '[' :: behind ∧
      ((found = [] ∧ dropGap behind = ']' :: rest) ∨
        ∃ bound depth, items bound depth (dropGap behind) = .ok (found, rest)) := by
  cases bound with
  | zero => simp [value] at answer
  | succ bound =>
      unfold value at answer
      split at answer
      · cases answer
      · obtain ⟨_, _, same⟩ := map_eq_ok.mp answer
        cases same
      · cases answer
      · cases answer
      · split at answer
        · cases answer
        · obtain ⟨_, _, same⟩ := map_eq_ok.mp answer
          cases same
      · next behind depth =>
        split at answer
        · next ended =>
          cases answer
          exact ⟨behind, rfl, .inl ⟨rfl, ended⟩⟩
        · obtain ⟨⟨read, after⟩, listed, same⟩ := map_eq_ok.mp answer
          cases same
          exact ⟨behind, rfl, .inr ⟨bound, depth, listed⟩⟩
      · exact absurd rfl ((scalar_eq_ok answer).2 found)

/-! ## Lengths -/

theorem length_of_value_text {bound depth : Nat} {found : String}
    (answer : value bound depth characters = .ok (.text found, rest)) :
    found.length + rest.length + 2 ≤ characters.length := by
  obtain ⟨behind, rfl, read⟩ := value_eq_text answer
  have shorter := length_of_text read
  rw [List.length_cons]
  omega

/-- The texts of a list take two quotes each and one character behind them. -/
theorem length_of_items {bound depth : Nat} {texts : List String}
    (answer : items bound depth characters = .ok (texts.map Json.text, rest)) :
    (texts.map fun text => text.length + 3).sum + rest.length ≤ characters.length := by
  induction bound generalizing characters texts with
  | zero => simp [items] at answer
  | succ bound induction =>
      rw [items] at answer
      obtain ⟨⟨first, behind⟩, read, answer⟩ := bind_eq_ok.mp answer
      have gap := length_dropGap_le behind
      dsimp only at answer
      split at answer
      · next after ended =>
        obtain ⟨same, rfl⟩ := Prod.mk.inj (Except.ok.inj answer)
        obtain ⟨text, rfl, rfl⟩ := List.map_eq_singleton_iff.mp same.symm
        have shorter := length_of_value_text read
        rw [ended, List.length_cons] at gap
        simp only [List.map_cons, List.map_nil, List.sum_cons, List.sum_nil]
        omega
      · next after more =>
        obtain ⟨⟨others, last⟩, listed, answer⟩ := bind_eq_ok.mp answer
        obtain ⟨same, rfl⟩ := Prod.mk.inj (Except.ok.inj answer)
        obtain ⟨text, texts, rfl, rfl, rfl⟩ := List.map_eq_cons_iff.mp same.symm
        have shorter := length_of_value_text read
        have later : (texts.map fun text => text.length + 3).sum + last.length ≤
            (dropGap after).length := induction listed
        have inner := length_dropGap_le after
        rw [more, List.length_cons] at gap
        simp only [List.map_cons, List.sum_cons]
        omega
      · cases answer

private theorem length_of_value_list {bound depth : Nat} {texts : List String}
    (answer : value bound depth characters = .ok (.texts texts, rest)) :
    (texts.map fun text => text.length + 3).sum + 1 ≤ characters.length := by
  obtain ⟨behind, rfl, ⟨none, _⟩ | ⟨bound, depth, listed⟩⟩ := value_eq_list answer
  · obtain rfl := List.map_eq_nil_iff.mp none
    simp
  · have shorter := length_of_items listed
    have gap := length_dropGap_le behind
    rw [List.length_cons]
    omega

end Reader

theorem read_eq_ok {text : String} {json : Json} (answer : readUnmarked text = .ok json) :
    ∃ bound depth rest,
      Reader.value bound depth (Reader.dropGap text.toList) = .ok (json, rest) := by
  unfold readUnmarked at answer
  split at answer
  · cases answer
  · unfold read at answer
    dsimp only at answer
    split at answer
    · next found document =>
      cases answer
      unfold Reader.document at document
      obtain ⟨⟨value, rest⟩, read, last⟩ := bind_eq_ok.mp document
      dsimp only at last
      split at last
      · cases last
        exact ⟨_, _, rest, read⟩
      · cases last
    all_goals cases answer

theorem length_of_readUnmarked_text {document found : String}
    (answer : readUnmarked document = .ok (.text found)) : found.length + 2 ≤ document.length := by
  obtain ⟨bound, depth, rest, read⟩ := read_eq_ok answer
  have shorter := Reader.length_of_value_text read
  have gap := Reader.length_dropGap_le document.toList
  rw [String.length_toList] at gap
  omega

theorem length_of_readUnmarked_texts {document : String} {texts : List String}
    (answer : readUnmarked document = .ok (.texts texts)) :
    (texts.map fun text => text.length + 3).sum + 1 ≤ document.length := by
  obtain ⟨bound, depth, rest, read⟩ := read_eq_ok answer
  have shorter := Reader.length_of_value_list read
  have gap := Reader.length_dropGap_le document.toList
  rw [String.length_toList] at gap
  omega

end AccessGate.Json
