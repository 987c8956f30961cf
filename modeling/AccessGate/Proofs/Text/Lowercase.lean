import AccessGate.Proofs.Text.LetterCase
import AccessGate.Text.Lowercase

/-!
# Lower-casing within a text

Lower-casing commutes with joining texts except for the capital sigma.  It is described here in two
steps: first every other character is lower-cased, by itself, and then the sigmas are settled by
what surrounds them.  Of the surroundings only two bits matter, whether a letter comes before the
text and whether one comes behind it.
-/

namespace AccessGate.Text

/-! ## Neighbouring letters -/

/-- Whether the first character that is not skipped is a cased letter, where it is known whether
that is so beyond the end. -/
def letterAhead : List Char → Bool → Bool
  | [], beyond => beyond
  | character :: rest, beyond =>
      if skippedCharacters.contains character then letterAhead rest beyond
      else casedCharacters.contains character

theorem startsWithLetter_append (characters others : List Char) :
    startsWithLetter (characters ++ others) =
      letterAhead characters (startsWithLetter others) := by
  induction characters with
  | nil => rfl
  | cons character rest induction =>
      simp only [List.cons_append, startsWithLetter, letterAhead, induction]

theorem letterAhead_append (characters others : List Char) (beyond : Bool) :
    letterAhead (characters ++ others) beyond =
      letterAhead characters (letterAhead others beyond) := by
  induction characters with
  | nil => rfl
  | cons character rest induction => simp only [List.cons_append, letterAhead, induction]

theorem startsWithLetter_eq (characters : List Char) :
    startsWithLetter characters = letterAhead characters false := by
  have joined := startsWithLetter_append characters []
  rwa [List.append_nil] at joined

/-- Whether the last character that is not skipped is a cased letter, where it is known whether that
is so before the start. -/
def letterBehind (characters : List Char) (before : Bool) : Bool :=
  letterAhead characters.reverse before

theorem letterBehind_append (characters others : List Char) (before : Bool) :
    letterBehind (characters ++ others) before =
      letterBehind others (letterBehind characters before) := by
  rw [letterBehind, List.reverse_append, letterAhead_append]
  rfl

theorem letterBehind_cons (character : Char) (rest : List Char) (before : Bool) :
    letterBehind (character :: rest) before = letterBehind rest (letterAhead [character] before) :=
  letterBehind_append [character] rest before

/-! ## Sigmas -/

/-- The small form of a capital sigma, by whether letters come before and behind it. -/
def sigma (behind ahead : Bool) : Char :=
  if behind && !ahead then 'ς' else 'σ'

/-- A small form for the capital sigma, and any other character as it is. -/
def settled (small character : Char) : Char :=
  if character = 'Σ' then small else character

/-- Settles the capital sigmas of a text by what surrounds them. -/
def settle (behind ahead : Bool) : List Char → List Char
  | [] => []
  | character :: rest =>
      settled (sigma behind (letterAhead rest ahead)) character ::
        settle (letterAhead [character] behind) ahead rest

variable {behind ahead beyond : Bool}

theorem settle_append (characters others : List Char) :
    settle behind ahead (characters ++ others) =
      settle behind (letterAhead others ahead) characters ++
        settle (letterBehind characters behind) ahead others := by
  induction characters generalizing behind with
  | nil => rfl
  | cons character rest induction =>
      simp only [List.cons_append, settle, letterAhead_append, induction, letterBehind_cons]

@[simp] theorem length_settle (characters : List Char) :
    (settle behind ahead characters).length = characters.length := by
  induction characters generalizing behind with
  | nil => rfl
  | cons character rest induction => rw [settle, List.length_cons, induction, List.length_cons]

theorem settle_of_not_mem {characters : List Char} (absent : 'Σ' ∉ characters) :
    settle behind ahead characters = characters := by
  induction characters generalizing behind with
  | nil => rfl
  | cons character rest induction =>
      rw [List.mem_cons, not_or] at absent
      rw [settle, settled, if_neg (Ne.symm absent.1), induction absent.2]

theorem letterAhead_settled (character : Char) (before : Bool) :
    letterAhead [settled (sigma behind ahead) character] before =
      letterAhead [character] before := by
  unfold settled
  split
  · next capital =>
    subst capital
    cases behind <;> cases ahead <;> cases before <;> decide +kernel
  · rfl

theorem letterAhead_settle (characters : List Char) :
    letterAhead (settle behind ahead characters) beyond = letterAhead characters beyond := by
  induction characters generalizing behind with
  | nil => rfl
  | cons character rest induction =>
      calc letterAhead (settle behind ahead (character :: rest)) beyond
        _ = letterAhead [settled (sigma behind (letterAhead rest ahead)) character]
              (letterAhead (settle (letterAhead [character] behind) ahead rest) beyond) :=
            letterAhead_append [_] _ beyond
        _ = letterAhead [character] (letterAhead rest beyond) := by
            rw [letterAhead_settled, induction]
        _ = letterAhead (character :: rest) beyond :=
            (letterAhead_append [character] rest beyond).symm

private theorem letterBehind_settle (characters : List Char) (before : Bool) :
    letterBehind (settle behind ahead characters) before = letterBehind characters before := by
  induction characters generalizing behind before with
  | nil => rfl
  | cons character rest induction =>
      rw [settle, letterBehind_cons, letterAhead_settled, induction, letterBehind_cons]

theorem mem_settle {character : Char} {characters : List Char}
    (member : character ∈ settle behind ahead characters) :
    character = 'σ' ∨ character = 'ς' ∨ character ∈ characters ∧ character ≠ 'Σ' := by
  induction characters generalizing behind with
  | nil => cases member
  | cons first rest induction =>
      rcases List.mem_cons.mp member with head | tail
      · unfold settled at head
        split at head
        · unfold sigma at head
          split at head
          · exact .inr (.inl head)
          · exact .inl head
        · next other =>
          subst head
          exact .inr (.inr ⟨List.mem_cons_self, other⟩)
      · rcases induction tail with small | final | ⟨listed, other⟩
        · exact .inl small
        · exact .inr (.inl final)
        · exact .inr (.inr ⟨List.mem_cons_of_mem _ listed, other⟩)

/-! ## Lower-casing in two steps -/

/-- The first step for one character: anything but the capital sigma is lower-cased. -/
def lowerOther (character : Char) : List Char :=
  if character = 'Σ' then ['Σ'] else lowerCharacter character

/-- The first step. -/
def lowerOthers (characters : List Char) : List Char :=
  characters.flatMap lowerOther

theorem lowerOthers_cons (character : Char) (rest : List Char) :
    lowerOthers (character :: rest) = lowerOther character ++ lowerOthers rest :=
  List.flatMap_cons

private theorem lowerOthers_append (characters others : List Char) :
    lowerOthers (characters ++ others) = lowerOthers characters ++ lowerOthers others :=
  List.flatMap_append

theorem letterAhead_lowerOther (character : Char) (before : Bool) :
    letterAhead (lowerOther character) before = letterAhead [character] before ∧
      letterBehind (lowerOther character) before = letterAhead [character] before := by
  unfold lowerOther
  split
  · next capital => exact capital ▸ ⟨rfl, rfl⟩
  · unfold lowerCharacter
    split
    · next dotted =>
      subst dotted
      cases before <;> decide +kernel
    · have same : letterAhead [smallLetter character] before = letterAhead [character] before := by
        simp only [letterAhead, skipped_smallLetter, cased_smallLetter]
      exact ⟨same, same⟩

theorem letterAhead_lowerOthers (characters : List Char) :
    letterAhead (lowerOthers characters) beyond = letterAhead characters beyond := by
  induction characters with
  | nil => rfl
  | cons character rest induction =>
      rw [lowerOthers_cons, letterAhead_append, (letterAhead_lowerOther _ _).1, induction]
      exact (letterAhead_append [character] rest beyond).symm

theorem letterBehind_lowerOthers (characters : List Char) (before : Bool) :
    letterBehind (lowerOthers characters) before = letterBehind characters before := by
  induction characters generalizing before with
  | nil => rfl
  | cons character rest induction =>
      rw [lowerOthers_cons, letterBehind_append, (letterAhead_lowerOther _ _).2, induction,
        letterBehind_cons]

theorem smallLetter_ne_sigma (character : Char) : smallLetter character ≠ 'Σ' := by
  intro capital
  have small := smallLetter_smallLetter character
  rw [capital] at small
  exact absurd small (by decide +kernel)

theorem sigma_not_mem_lowerCharacter (character : Char) : 'Σ' ∉ lowerCharacter character := by
  unfold lowerCharacter
  split
  · decide
  · intro member
    exact smallLetter_ne_sigma character (List.mem_singleton.mp member).symm

/-- The lower-case form of characters that stand between others. -/
def lowerWithin (behind ahead : Bool) (characters : List Char) : List Char :=
  settle behind ahead (lowerOthers characters)

theorem lowerWithin_append (characters others : List Char) :
    lowerWithin behind ahead (characters ++ others) =
      lowerWithin behind (letterAhead others ahead) characters ++
        lowerWithin (letterBehind characters behind) ahead others := by
  unfold lowerWithin
  rw [lowerOthers_append, settle_append, letterAhead_lowerOthers, letterBehind_lowerOthers]

private theorem lowerAfter_eq (before characters : List Char) :
    lowerAfter before characters = lowerWithin (startsWithLetter before) false characters := by
  induction characters generalizing before with
  | nil => rfl
  | cons character rest induction =>
      have next : startsWithLetter (character :: before) =
          letterAhead [character] (startsWithLetter before) := startsWithLetter_append [character] _
      unfold lowerWithin at *
      rw [lowerAfter, induction, lowerOthers_cons, settle_append, (letterAhead_lowerOther _ _).2,
        next]
      congr 1
      unfold lowerOther
      split
      · have ahead : letterAhead (lowerOthers rest) false = startsWithLetter rest := by
          rw [letterAhead_lowerOthers, startsWithLetter_eq]
        rw [settle, settled, if_pos rfl, letterAhead, settle, ahead, sigma]
        split <;> rfl
      · exact (settle_of_not_mem (sigma_not_mem_lowerCharacter character)).symm

theorem lowerCharacters_eq (characters : List Char) :
    lowerCharacters characters = lowerWithin false false characters :=
  lowerAfter_eq [] characters

/-- Lower-casing leaves letters where they are, and so does it with what is seen from either end. -/
theorem letterAhead_lowerWithin (characters : List Char) :
    letterAhead (lowerWithin behind ahead characters) beyond = letterAhead characters beyond := by
  unfold lowerWithin
  rw [letterAhead_settle, letterAhead_lowerOthers]

theorem letterBehind_lowerWithin (characters : List Char) :
    letterBehind (lowerWithin behind ahead characters) beyond = letterBehind characters beyond := by
  unfold lowerWithin
  rw [letterBehind_settle, letterBehind_lowerOthers]

/-! ## Texts in lower case -/

/-- A character that lower-casing leaves alone, wherever it stands. -/
def IsLower (character : Char) : Prop :=
  lowerCharacter character = [character] ∧ character ≠ 'Σ'

theorem isLower_of_mem_lowerCharacter {character other : Char}
    (member : other ∈ lowerCharacter character) : IsLower other := by
  have different : other ≠ 'Σ' := by
    rintro rfl
    exact sigma_not_mem_lowerCharacter character member
  refine ⟨?_, different⟩
  unfold lowerCharacter at member
  split at member
  · rcases List.mem_cons.mp member with rfl | member
    · decide +kernel
    · obtain rfl := List.mem_singleton.mp member
      decide +kernel
  · next undotted =>
    obtain rfl := List.mem_singleton.mp member
    rw [lowerCharacter, if_neg (smallLetter_ne_dotted undotted), smallLetter_smallLetter]

private theorem isLower_of_mem_lowerWithin {character : Char} {characters : List Char}
    (member : character ∈ lowerWithin behind ahead characters) : IsLower character := by
  rcases mem_settle member with rfl | rfl | ⟨listed, different⟩
  · exact ⟨by decide +kernel, by decide⟩
  · exact ⟨by decide +kernel, by decide⟩
  · obtain ⟨origin, _, found⟩ := List.mem_flatMap.mp listed
    unfold lowerOther at found
    split at found
    · exact absurd (List.mem_singleton.mp found) different
    · exact isLower_of_mem_lowerCharacter found

theorem lowerOthers_of_forall {characters : List Char}
    (small : ∀ character ∈ characters, lowerOther character = [character]) :
    lowerOthers characters = characters := by
  induction characters with
  | nil => rfl
  | cons character rest induction =>
      obtain ⟨head, tail⟩ := List.forall_mem_cons.mp small
      rw [lowerOthers_cons, head, induction tail]
      rfl

theorem IsLower.lowerOther_eq {character : Char} (small : IsLower character) :
    lowerOther character = [character] := by
  rw [lowerOther, if_neg small.2, small.1]

theorem lowerWithin_of_isLower {characters : List Char}
    (small : ∀ character ∈ characters, IsLower character) :
    lowerWithin behind ahead characters = characters := by
  rw [lowerWithin, lowerOthers_of_forall fun _ listed => (small _ listed).lowerOther_eq,
    settle_of_not_mem]
  intro member
  exact (small _ member).2 rfl

theorem isLower_of_mem_lowerCharacters {character : Char} {characters : List Char}
    (member : character ∈ lowerCharacters characters) : IsLower character := by
  rw [lowerCharacters_eq] at member
  exact isLower_of_mem_lowerWithin member

theorem lowerCharacters_eq_nil_iff (characters : List Char) :
    lowerCharacters characters = [] ↔ characters = [] := by
  cases characters with
  | nil => exact iff_of_true rfl rfl
  | cons character rest =>
      apply iff_of_false
      · intro empty
        have none : lowerOther character ++ lowerOthers rest = [] := by
          rw [← lowerOthers_cons, ← List.length_eq_zero_iff,
            ← length_settle (lowerOthers (character :: rest))]
          rw [lowerCharacters_eq] at empty
          exact congrArg List.length empty
        unfold lowerOther lowerCharacter at none
        split at none
        · cases none
        · split at none <;> cases none
      · exact List.cons_ne_nil _ _

theorem lowerCharacters_lowerCharacters (characters : List Char) :
    lowerCharacters (lowerCharacters characters) = lowerCharacters characters := by
  rw [lowerCharacters_eq (lowerCharacters characters)]
  exact lowerWithin_of_isLower fun _ member => isLower_of_mem_lowerCharacters member

end AccessGate.Text
