import AccessGate.Proofs.Text.Seams

/-!
# What lower-casing a joined text gives away

Texts that are lower-cased between the same neighbours may come out equal, although they are not
equal when they are lower-cased by themselves.  A text is steady between its neighbours if no other
text can be mistaken for it in this way.  `steady_iff` tells the steady texts by their sigmas.
-/

namespace AccessGate.Text

/-- Whether characters have a place where a capital sigma takes another form between its neighbours
than by itself, and where a capital sigma or the form that it takes stands. -/
def sways (alone behind ahead : Bool) : List Char → Bool
  | [] => false
  | character :: rest =>
      let form := sigma behind (letterAhead rest ahead)
      form != sigma alone (letterAhead rest false) && (character = 'Σ' || character = form) ||
        sways (letterAhead [character] alone) (letterAhead [character] behind) ahead rest

/-- Between these neighbours no other text can be mistaken for these characters. -/
def Steady (behind ahead : Bool) (characters : List Char) : Prop :=
  sways false behind ahead (lowerOthers characters) = false

instance (behind ahead : Bool) (characters : List Char) :
    Decidable (Steady behind ahead characters) :=
  inferInstanceAs (Decidable (_ = false))

variable {alone behind ahead : Bool}

/-! ## Steady characters -/

private theorem settle_eq_of_not_sways {characters others : List Char}
    (same : settle behind ahead others = settle behind ahead characters)
    (steady : sways alone behind ahead characters = false) :
    settle alone false others = settle alone false characters := by
  induction characters generalizing alone behind others with
  | nil =>
      cases others with
      | nil => rfl
      | cons other remaining => cases same
  | cons character rest induction =>
      cases others with
      | nil => cases same
      | cons other remaining =>
          obtain ⟨sameHead, sameLetter, sameTail⟩ := heads_of_settle_eq same
          rw [sways, Bool.or_eq_false_iff] at steady
          obtain ⟨steadyHead, steadyTail⟩ := steady
          have sameAhead := letterAhead_eq_of_settle_eq sameTail false
          rw [settle, settle, sameLetter, sameAhead, induction sameTail steadyTail, List.cons.injEq]
          refine ⟨(settled_eq_iff sameHead).mpr ?_, rfl⟩
          by_cases sameForm : sigma behind (letterAhead rest ahead) =
              sigma alone (letterAhead rest false)
          · exact .inr sameForm.symm
          · left
            simp only [bne_iff_ne.mpr sameForm, Bool.true_and, Bool.or_eq_false_iff,
              decide_eq_false_iff_not] at steadyHead
            -- A capital sigma instead of the character would have come out as its form.
            refine iff_of_false ?_ steadyHead.1
            rintro rfl
            rw [settled, if_pos rfl, settled, if_neg steadyHead.1] at sameHead
            exact steadyHead.2 sameHead.symm

/-! ## Other characters -/

theorem settled_capital (small : Char) : settled small 'Σ' = small :=
  if_pos rfl

theorem settled_sigma (small : Char) : settled small (sigma behind ahead) = sigma behind ahead :=
  if_neg (by cases behind <;> cases ahead <;> decide)

theorem letterAhead_capital (before : Bool) : letterAhead ['Σ'] before = true := by
  cases before <;> decide +kernel

theorem letterAhead_sigma (before : Bool) : letterAhead [sigma behind ahead] before = true := by
  cases before <;> cases behind <;> cases ahead <;> decide +kernel

private theorem lowerOther_sigma : lowerOther (sigma behind ahead) = [sigma behind ahead] := by
  cases behind <;> cases ahead <;> decide +kernel

/-- A capital sigma and the form that it takes are mistaken for each other, where they are followed
by the same characters. -/
theorem exists_of_sigma {character : Char} {rest : List Char}
    (differs : sigma behind (letterAhead rest ahead) ≠ sigma alone (letterAhead rest false))
    (stands : character = 'Σ' ∨ character = sigma behind (letterAhead rest ahead)) :
    ∃ other, lowerOther other = [other] ∧
      settle behind ahead (other :: rest) = settle behind ahead (character :: rest) ∧
      settle alone false (other :: rest) ≠ settle alone false (character :: rest) := by
  rcases stands with rfl | rfl
  · refine ⟨sigma behind (letterAhead rest ahead), lowerOther_sigma, ?_, ?_⟩
    · rw [settle, settle, settled_sigma, settled_capital, letterAhead_sigma, letterAhead_capital]
    · rw [settle, settle, settled_sigma, settled_capital]
      exact fun equal => differs (List.cons.inj equal).1
  · refine ⟨'Σ', rfl, ?_, ?_⟩
    · rw [settle, settle, settled_sigma, settled_capital, letterAhead_sigma, letterAhead_capital]
    · rw [settle, settle, settled_sigma, settled_capital]
      exact fun equal => differs (List.cons.inj equal).1.symm

private theorem exists_of_sways {characters : List Char}
    (swayed : sways alone behind ahead characters = true) :
    ∃ others, settle behind ahead others = settle behind ahead characters ∧
      settle alone false others ≠ settle alone false characters ∧
      ∀ other ∈ others, other ∈ characters ∨ lowerOther other = [other] := by
  induction characters generalizing alone behind with
  | nil => cases swayed
  | cons character rest induction =>
      rw [sways, Bool.or_eq_true, Bool.and_eq_true] at swayed
      rcases swayed with ⟨differs, stands⟩ | later
      · simp only [bne_iff_ne, Bool.or_eq_true, decide_eq_true_eq] at differs stands
        obtain ⟨other, alike, same, different⟩ := exists_of_sigma differs stands
        refine ⟨other :: rest, same, different, List.forall_mem_cons.mpr ⟨.inr alike, ?_⟩⟩
        exact fun _ listed => .inl (List.mem_cons_of_mem _ listed)
      · obtain ⟨others, same, different, origin⟩ := induction later
        refine ⟨character :: others, ?_, ?_, ?_⟩
        · rw [settle, settle, same, letterAhead_eq_of_settle_eq same]
        · rw [settle, settle]
          exact fun equal => different (List.cons.inj equal).2
        · refine List.forall_mem_cons.mpr ⟨.inl List.mem_cons_self, fun other listed => ?_⟩
          exact (origin other listed).imp_left (List.mem_cons_of_mem _)

/-! ## Texts between neighbours -/

private theorem lowerOther_of_mem_lowerOthers {character : Char} {characters : List Char}
    (member : character ∈ lowerOthers characters) : lowerOther character = [character] := by
  obtain ⟨origin, _, found⟩ := List.mem_flatMap.mp member
  unfold lowerOther at found
  split at found
  · rw [List.mem_singleton.mp found]
    rfl
  · exact (isLower_of_mem_lowerCharacter found).lowerOther_eq

/-- Exactly the steady characters are known by what they are lower-cased to between their
neighbours. -/
theorem steady_iff {characters : List Char} :
    Steady behind ahead characters ↔
      ∀ others, lowerWithin behind ahead others = lowerWithin behind ahead characters →
        lowerCharacters others = lowerCharacters characters := by
  constructor
  · intro steady others same
    rw [lowerCharacters_eq, lowerCharacters_eq]
    exact settle_eq_of_not_sways same steady
  · intro known
    refine Bool.eq_false_iff.mpr fun swayed => ?_
    obtain ⟨others, same, different, origin⟩ := exists_of_sways swayed
    have small : lowerOthers others = others := lowerOthers_of_forall fun other listed =>
      (origin other listed).elim lowerOther_of_mem_lowerOthers id
    have alike := known others (by rw [lowerWithin, small, same, lowerWithin])
    rw [lowerCharacters_eq, lowerCharacters_eq, lowerWithin, small] at alike
    exact different alike

end AccessGate.Text
