import AccessGate.Proofs.Text.Lowercase

/-!
# Lower-casing at seams

Texts that are equal when they are lower-cased by themselves may differ once they are joined to
others.  At the seam the capital sigma of the one text may take another form, where the other text
has a small sigma already.  `lowerWithin_eq_iff` names the only two places where this can happen:
the last character of the text and the first one, up to skipped characters.
-/

namespace AccessGate.Text

/-- Whether characters end in a capital sigma behind a letter, up to skipped characters. -/
def endsInSigma (behind : Bool) : List Char → Bool
  | [] => false
  | character :: rest =>
      (character = 'Σ' && behind && rest.all skippedCharacters.contains) ||
        endsInSigma (letterAhead [character] behind) rest

/-- Whether characters start with a capital sigma before anything but a letter, up to skipped
characters. -/
def startsInSigma (ahead : Bool) : List Char → Bool
  | [] => false
  | character :: rest =>
      if skippedCharacters.contains character then startsInSigma ahead rest
      else character = 'Σ' && !letterAhead rest ahead

/-- If a letter follows, both texts end in a capital sigma or neither does; if a letter precedes,
both start with one or neither does. -/
def FitAlike (behind ahead : Bool) (characters others : List Char) : Prop :=
  (ahead = true → endsInSigma false characters = endsInSigma false others) ∧
    (behind = true → startsInSigma ahead characters = startsInSigma ahead others)

instance (behind ahead : Bool) (characters others : List Char) :
    Decidable (FitAlike behind ahead characters others) :=
  inferInstanceAs (Decidable (_ ∧ _))

variable {behind ahead : Bool}

/-! ## Skipped characters -/

theorem ne_sigma_of_skipped {character : Char}
    (skipped : skippedCharacters.contains character = true) : character ≠ 'Σ' := by
  rintro rfl
  exact absurd skipped (by decide +kernel)

theorem letterAhead_of_skipped {characters : List Char}
    (skipped : characters.all skippedCharacters.contains = true) :
    letterAhead characters ahead = ahead := by
  induction characters with
  | nil => rfl
  | cons character rest induction =>
      rw [List.all_cons, Bool.and_eq_true] at skipped
      rw [letterAhead, if_pos skipped.1, induction skipped.2]

theorem letterAhead_of_not_skipped {characters : List Char}
    (notSkipped : characters.all skippedCharacters.contains = false) (first second : Bool) :
    letterAhead characters first = letterAhead characters second := by
  induction characters with
  | nil => cases notSkipped
  | cons character rest induction =>
      rw [List.all_cons] at notSkipped
      unfold letterAhead
      split
      · next skipped =>
        rw [skipped, Bool.true_and] at notSkipped
        exact induction notSkipped
      · rfl

theorem all_skipped_eq (characters : List Char) :
    characters.all skippedCharacters.contains =
      (letterAhead characters true && !letterAhead characters false) := by
  cases skipped : characters.all skippedCharacters.contains with
  | true => rw [letterAhead_of_skipped skipped, letterAhead_of_skipped skipped]; rfl
  | false => rw [letterAhead_of_not_skipped skipped true false, Bool.and_not_self]

/-! ## Sigmas at the ends -/

theorem endsInSigma_cons (character : Char) (rest : List Char) :
    endsInSigma false (character :: rest) =
      endsInSigma (letterAhead [character] false) rest := by
  rw [endsInSigma, Bool.and_false, Bool.false_and, Bool.false_or]

theorem endsInSigma_of_skipped {characters : List Char}
    (skipped : characters.all skippedCharacters.contains = true) :
    endsInSigma behind characters = false := by
  induction characters generalizing behind with
  | nil => rfl
  | cons character rest induction =>
      rw [List.all_cons, Bool.and_eq_true] at skipped
      rw [endsInSigma, induction skipped.2, decide_eq_false (ne_sigma_of_skipped skipped.1)]
      rfl

private theorem endsInSigma_of_not_mem {characters : List Char} (absent : 'Σ' ∉ characters) :
    endsInSigma behind characters = false := by
  induction characters generalizing behind with
  | nil => rfl
  | cons character rest induction =>
      rw [List.mem_cons, not_or] at absent
      rw [endsInSigma, induction absent.2, decide_eq_false (Ne.symm absent.1)]
      rfl

theorem endsInSigma_append (characters others : List Char) :
    endsInSigma behind (characters ++ others) =
      (endsInSigma behind characters && others.all skippedCharacters.contains ||
        endsInSigma (letterBehind characters behind) others) := by
  induction characters generalizing behind with
  | nil => rfl
  | cons character rest induction =>
      rw [List.cons_append, endsInSigma, induction, endsInSigma, letterBehind_cons, List.all_append,
        Bool.and_or_distrib_right, Bool.or_assoc, Bool.and_assoc _ (rest.all _)]

/-! ## Settling alike -/

theorem settled_eq_iff {small other first second : Char}
    (same : settled small first = settled small second) :
    settled other first = settled other second ↔
      ((first = 'Σ' ↔ second = 'Σ') ∨ other = small) := by
  unfold settled at *
  by_cases firstSigma : first = 'Σ' <;> by_cases secondSigma : second = 'Σ' <;>
    simp_all [eq_comm]

theorem letterAhead_eq_of_settle_eq {characters others : List Char}
    (same : settle behind ahead characters = settle behind ahead others) (beyond : Bool) :
    letterAhead characters beyond = letterAhead others beyond := by
  rw [← letterAhead_settle characters, same, letterAhead_settle]

theorem heads_of_settle_eq {first second : Char} {rest remaining : List Char}
    (same : settle behind ahead (first :: rest) = settle behind ahead (second :: remaining)) :
    settled (sigma behind (letterAhead remaining ahead)) first =
        settled (sigma behind (letterAhead remaining ahead)) second ∧
      (∀ before, letterAhead [first] before = letterAhead [second] before) ∧
      settle (letterAhead [second] behind) ahead rest =
        settle (letterAhead [second] behind) ahead remaining := by
  obtain ⟨sameHead, sameTail⟩ := List.cons.inj same
  have sameLetter (before : Bool) : letterAhead [first] before = letterAhead [second] before := by
    rw [← letterAhead_settled first, sameHead, letterAhead_settled]
  rw [sameLetter] at sameTail
  rw [letterAhead_eq_of_settle_eq sameTail] at sameHead
  exact ⟨sameHead, sameLetter, sameTail⟩

theorem all_skipped_eq_of_letterAhead_eq {characters others : List Char}
    (same : ∀ beyond, letterAhead characters beyond = letterAhead others beyond) :
    characters.all skippedCharacters.contains = others.all skippedCharacters.contains := by
  rw [all_skipped_eq, all_skipped_eq, same, same]

/-- A letter behind the characters matters only for a sigma that ends them. -/
theorem settle_true_eq_iff {characters others : List Char}
    (same : settle behind false characters = settle behind false others) :
    settle behind true characters = settle behind true others ↔
      endsInSigma behind characters = endsInSigma behind others := by
  induction characters generalizing behind others with
  | nil =>
      cases others with
      | nil => exact iff_of_true rfl rfl
      | cons other remaining => cases same
  | cons character rest induction =>
      cases others with
      | nil => cases same
      | cons other remaining =>
          obtain ⟨sameHead, sameLetter, sameTail⟩ := heads_of_settle_eq same
          have sameAhead := letterAhead_eq_of_settle_eq sameTail
          have sameSkipped := all_skipped_eq_of_letterAhead_eq sameAhead
          rw [settle, settle, endsInSigma, endsInSigma, sameLetter, sameSkipped, sameAhead,
            List.cons.injEq, induction sameTail]
          cases skipped : remaining.all skippedCharacters.contains with
          | true =>
              -- Only the first character can be the sigma that ends the text.
              rw [letterAhead_of_skipped skipped] at sameHead
              rw [letterAhead_of_skipped skipped, settled_eq_iff sameHead,
                endsInSigma_of_skipped skipped, endsInSigma_of_skipped (sameSkipped.trans skipped)]
              cases behind <;> simp [sigma]
          | false =>
              rw [letterAhead_of_not_skipped skipped true false]
              simp [sameHead]

theorem settle_ahead_eq_iff {characters others : List Char}
    (same : settle behind false characters = settle behind false others) :
    settle behind ahead characters = settle behind ahead others ↔
      (ahead = true → endsInSigma behind characters = endsInSigma behind others) := by
  cases ahead with
  | false => simp [same]
  | true => simp [settle_true_eq_iff same]

/-- A letter before the characters matters, besides, only for a sigma that starts them. -/
theorem settle_behind_eq_iff {characters others : List Char}
    (same : settle false false characters = settle false false others) :
    settle true ahead characters = settle true ahead others ↔
      FitAlike true ahead characters others := by
  induction characters generalizing others with
  | nil =>
      cases others with
      | nil => exact iff_of_true rfl ⟨fun _ => rfl, fun _ => rfl⟩
      | cons other remaining => cases same
  | cons character rest induction =>
      cases others with
      | nil => cases same
      | cons other remaining =>
          obtain ⟨sameHead, sameLetter, sameTail⟩ := heads_of_settle_eq same
          have sameAhead := letterAhead_eq_of_settle_eq sameTail
          have sameSkipped := all_skipped_eq_of_letterAhead_eq sameLetter
          simp only [List.all_cons, List.all_nil, Bool.and_true] at sameSkipped
          rw [FitAlike, endsInSigma_cons, endsInSigma_cons, startsInSigma, startsInSigma,
            sameSkipped, settle, settle, sameLetter false, sameLetter true, sameAhead,
            List.cons.injEq]
          cases skipped : skippedCharacters.contains other with
          | true =>
              -- What is skipped has no form of its own, and does not stand between neighbours.
              rw [skipped] at sameSkipped
              simp only [letterAhead, skipped, if_true] at sameTail ⊢
              rw [induction sameTail]
              simp only [settled, ne_sigma_of_skipped skipped, ne_sigma_of_skipped sameSkipped,
                if_false] at sameHead ⊢
              simp [sameHead, FitAlike]
          | false =>
              -- Behind the first character the letter before it is out of sight.
              simp only [letterAhead, skipped, Bool.false_eq_true, if_false] at sameTail ⊢
              rw [settle_ahead_eq_iff sameTail, settled_eq_iff sameHead]
              cases letterAhead remaining ahead <;> simp [sigma, and_comm]

/-! ## Lower-casing alike -/

private theorem endsInSigma_lowerOther (character : Char) :
    endsInSigma behind (lowerOther character) = (character = 'Σ' && behind) := by
  unfold lowerOther
  split
  · next capital => simp [capital, endsInSigma]
  · next different =>
    unfold lowerCharacter
    split
    · cases behind <;> simp [endsInSigma, different]
    · simp [endsInSigma, different, smallLetter_ne_sigma]

theorem endsInSigma_lowerOthers (characters : List Char) :
    endsInSigma behind (lowerOthers characters) = endsInSigma behind characters := by
  induction characters generalizing behind with
  | nil => rfl
  | cons character rest induction =>
      have sameSkipped : (lowerOthers rest).all skippedCharacters.contains =
          rest.all skippedCharacters.contains :=
        all_skipped_eq_of_letterAhead_eq fun _ => letterAhead_lowerOthers rest
      rw [lowerOthers_cons, endsInSigma_append, endsInSigma_lowerOther, sameSkipped,
        (letterAhead_lowerOther character behind).2, induction]
      rfl

theorem startsInSigma_lowerOthers (characters : List Char) :
    startsInSigma ahead (lowerOthers characters) = startsInSigma ahead characters := by
  induction characters with
  | nil => rfl
  | cons character rest induction =>
      rw [lowerOthers_cons, lowerOther]
      split
      · next capital =>
        rw [List.singleton_append, startsInSigma, startsInSigma, induction, letterAhead_lowerOthers,
          capital]
      · next different =>
        unfold lowerCharacter
        split
        · next dotted =>
          subst dotted
          rw [List.cons_append, startsInSigma, startsInSigma, if_neg (by decide +kernel),
            if_neg (by decide +kernel)]
          rfl
        · rw [List.singleton_append, startsInSigma, startsInSigma, induction, skipped_smallLetter]
          simp [different, smallLetter_ne_sigma]

/-- The only places where a text that is joined to others may come out differently. -/
theorem lowerWithin_eq_iff {characters others : List Char}
    (same : lowerCharacters characters = lowerCharacters others) :
    lowerWithin behind ahead characters = lowerWithin behind ahead others ↔
      FitAlike behind ahead characters others := by
  rw [lowerCharacters_eq, lowerCharacters_eq] at same
  rw [FitAlike, ← endsInSigma_lowerOthers characters, ← endsInSigma_lowerOthers others,
    ← startsInSigma_lowerOthers characters, ← startsInSigma_lowerOthers others]
  cases behind with
  | false =>
      rw [lowerWithin, lowerWithin, settle_ahead_eq_iff same]
      simp
  | true => exact settle_behind_eq_iff same

/-- A letter behind a text leaves its lower-case form alone, unless it ends in a sigma. -/
theorem lowerWithin_eq_lowerCharacters_iff (characters : List Char) :
    lowerWithin false ahead characters = lowerCharacters characters ↔
      ¬ (endsInSigma false characters = true ∧ ahead = true) := by
  have small : ∀ character ∈ lowerCharacters characters, IsLower character :=
    fun _ member => isLower_of_mem_lowerCharacters member
  have absent : 'Σ' ∉ lowerCharacters characters := fun member => (small _ member).2 rfl
  have alike : lowerWithin false ahead characters =
      lowerWithin false ahead (lowerCharacters characters) ↔
        FitAlike false ahead characters (lowerCharacters characters) :=
    lowerWithin_eq_iff (lowerCharacters_lowerCharacters characters).symm
  rw [lowerWithin_of_isLower small] at alike
  rw [alike, FitAlike, endsInSigma_of_not_mem absent]
  cases endsInSigma false characters <;> simp

/-! ## Texts joined by dots -/

private theorem dot_skipped : skippedCharacters.contains '.' = true := by
  decide +kernel

theorem letterAhead_dot (characters : List Char) :
    letterAhead ('.' :: characters) ahead = letterAhead characters ahead := by
  rw [letterAhead, if_pos dot_skipped]

theorem letterBehind_dot (characters : List Char) :
    letterBehind ('.' :: characters) behind = letterBehind characters behind := by
  rw [letterBehind_cons, letterAhead_dot]
  rfl

/-- A dot does not come between neighbours. -/
theorem lowerWithin_join (characters others : List Char) :
    lowerWithin behind ahead (characters ++ '.' :: others) =
      lowerWithin behind (letterAhead others ahead) characters ++
        '.' :: lowerWithin (letterBehind characters behind) ahead others := by
  have dot (behind ahead : Bool) : lowerWithin behind ahead ['.'] = ['.'] := by
    apply lowerWithin_of_isLower
    intro character member
    obtain rfl := List.mem_singleton.mp member
    exact ⟨by decide, by decide⟩
  rw [lowerWithin_append, letterAhead_dot, ← List.singleton_append, lowerWithin_append, dot,
    letterBehind_dot]
  rfl

theorem length_lowerWithin (characters : List Char) :
    (lowerWithin behind ahead characters).length = (lowerCharacters characters).length := by
  rw [lowerCharacters_eq, lowerWithin, lowerWithin, length_settle, length_settle]

theorem letterAhead_eq_of_lowerCharacters_eq {characters others : List Char}
    (same : lowerCharacters characters = lowerCharacters others) (beyond : Bool) :
    letterAhead characters beyond = letterAhead others beyond := by
  rw [lowerCharacters_eq, lowerCharacters_eq] at same
  rw [← letterAhead_lowerWithin characters, same, letterAhead_lowerWithin]

theorem letterBehind_eq_of_lowerCharacters_eq {characters others : List Char}
    (same : lowerCharacters characters = lowerCharacters others) (before : Bool) :
    letterBehind characters before = letterBehind others before := by
  rw [lowerCharacters_eq, lowerCharacters_eq] at same
  rw [← letterBehind_lowerWithin characters, same, letterBehind_lowerWithin]

theorem lowerWithin_join_eq_iff {characters others rest remaining : List Char}
    (same : lowerCharacters characters = lowerCharacters others)
    (sameAhead : letterAhead rest ahead = letterAhead remaining ahead) :
    lowerWithin behind ahead (characters ++ '.' :: rest) =
        lowerWithin behind ahead (others ++ '.' :: remaining) ↔
      FitAlike behind (letterAhead rest ahead) characters others ∧
        lowerWithin (letterBehind characters behind) ahead rest =
          lowerWithin (letterBehind characters behind) ahead remaining := by
  rw [lowerWithin_join, lowerWithin_join, ← sameAhead,
    ← letterBehind_eq_of_lowerCharacters_eq same, ← lowerWithin_eq_iff same]
  constructor
  · intro joined
    obtain ⟨first, second⟩ := List.append_inj joined
      (by rw [length_lowerWithin, length_lowerWithin, same])
    exact ⟨first, (List.cons.inj second).2⟩
  · intro ⟨first, second⟩
    rw [first, second]

end AccessGate.Text
