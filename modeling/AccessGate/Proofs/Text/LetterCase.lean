import AccessGate.Text.LetterCase

/-!
# Letter case of characters

The case tables fit together: no cased letter is skipped, and the small letter of a capital is again
a cased letter, without a small letter of its own.  Since the tables list ranges and runs, these
facts are checked range by range and not character by character.
-/

namespace AccessGate.Text

namespace CharRanges

/-- Whether all points from the first to the last one lie in one of the ranges. -/
def spans (characters : CharRanges) (first last : Nat) : Bool :=
  characters.ranges.any fun range => Nat.ble range.1 first && Nat.ble last range.2

/-- Whether none of the ranges reaches in between the first and the last point. -/
def avoids (characters : CharRanges) (first last : Nat) : Bool :=
  !characters.ranges.any fun range => Nat.ble range.1 last && Nat.ble first range.2

variable {characters : CharRanges} {first last : Nat} {character : Char}

theorem contains_of_spans (spans : characters.spans first last = true)
    (above : first ≤ character.toNat) (below : character.toNat ≤ last) :
    characters.contains character = true := by
  simp only [CharRanges.spans, List.any_eq_true, Bool.and_eq_true, Nat.ble_eq] at spans
  obtain ⟨range, listed, start, stop⟩ := spans
  simp only [contains, List.any_eq_true, Bool.and_eq_true, decide_eq_true_eq]
  exact ⟨range, listed, by omega, by omega⟩

private theorem not_contains_of_avoids (avoids : characters.avoids first last = true)
    (above : first ≤ character.toNat) (below : character.toNat ≤ last) :
    characters.contains character = false := by
  simp only [CharRanges.avoids, Bool.not_eq_true', List.any_eq_false, Bool.and_eq_true,
    Nat.ble_eq] at avoids
  simp only [contains, List.any_eq_false, Bool.and_eq_true, decide_eq_true_eq]
  intro range listed within
  exact avoids range listed ⟨by omega, by omega⟩

end CharRanges

/-! ## Cased letters -/

private theorem skipped_avoids_cased :
    casedCharacters.ranges.all (fun range => skippedCharacters.avoids range.1 range.2) = true := by
  decide +kernel

theorem not_skipped_of_cased {character : Char}
    (cased : casedCharacters.contains character = true) :
    skippedCharacters.contains character = false := by
  simp only [CharRanges.contains, List.any_eq_true, Bool.and_eq_true, decide_eq_true_eq] at cased
  obtain ⟨range, listed, above, below⟩ := cased
  have avoids := List.all_eq_true.mp skipped_avoids_cased range listed
  exact CharRanges.not_contains_of_avoids avoids above below

/-! ## Runs of capital letters -/

namespace CapitalRun

/-- The code point of the small letter of a point of the run. -/
def small (run : CapitalRun) (point : Nat) : Nat :=
  (point + run.shift).toNat

def points (run : CapitalRun) : List Nat :=
  (List.range ((run.last - run.first) / run.step + 1)).map fun index => run.first + run.step * index

/-- Whether the capitals of the run are cased, mostly because one range includes the run. -/
def isCased (run : CapitalRun) : Bool :=
  casedCharacters.spans run.first run.last ||
    run.points.all fun point => casedCharacters.spans point point

/-- Whether the small letters of the run are cased letters other than the capital dotted I, and
small by themselves if they belong to ASCII. -/
def hasSmallLetters (run : CapitalRun) : Bool :=
  casedCharacters.spans (run.small run.first) (run.small run.last) &&
    (Nat.ble 0x80 (run.small run.first) ||
      Nat.ble 97 (run.small run.first) && Nat.ble (run.small run.last) 122) &&
    (Nat.blt (run.small run.last) 304 ||
      Nat.blt 304 (run.small run.first) && Nat.blt (run.small run.last) 0xd800 ||
      Nat.blt 0xdfff (run.small run.first) && Nat.blt (run.small run.last) 0x110000)

/-- Whether none of the small letters of the run is a capital of another one: that one lies apart,
or it takes every second point and the small letters are the points in between. -/
def misses (run other : CapitalRun) : Bool :=
  Nat.blt other.last (run.small run.first) || Nat.blt (run.small run.last) other.first ||
    (other.step == 2 && (run.step == 2 || run.first == run.last) &&
      (run.small run.first + other.first) % 2 == 1)

end CapitalRun

private theorem capitalRuns_isCased : capitalRuns.all CapitalRun.isCased = true := by
  decide +kernel

private theorem capitalRuns_hasSmallLetters :
    capitalRuns.all CapitalRun.hasSmallLetters = true := by
  decide +kernel

private theorem capitalRuns_misses :
    capitalRuns.all (fun run => capitalRuns.all run.misses) = true := by
  decide +kernel

namespace CapitalRun

variable {run : CapitalRun} {point : Nat}

theorem contains_iff :
    run.contains point = true ↔
      run.first ≤ point ∧ point ≤ run.last ∧ (point - run.first) % run.step = 0 := by
  simp [contains, and_assoc]

theorem small_between (positive : 0 < run.small run.first) (above : run.first ≤ point)
    (below : point ≤ run.last) :
    (run.small point : Int) = point + run.shift ∧ run.small run.first ≤ run.small point ∧
      run.small point ≤ run.small run.last := by
  unfold small at *
  omega

private theorem isCased_of_contains {character : Char} (listed : run ∈ capitalRuns)
    (found : run.contains character.toNat = true) :
    casedCharacters.contains character = true := by
  obtain ⟨above, below, regular⟩ := contains_iff.mp found
  have cased := List.all_eq_true.mp capitalRuns_isCased run listed
  rcases Bool.or_eq_true_iff.mp cased with spans | each
  · exact CharRanges.contains_of_spans spans above below
  · have spans := List.all_eq_true.mp each character.toNat ?_
    · exact CharRanges.contains_of_spans spans (Nat.le_refl _) (Nat.le_refl _)
    · -- The point is the capital whose number is its distance from the first, in steps.
      refine List.mem_map.mpr ⟨(character.toNat - run.first) / run.step, ?_, ?_⟩
      · have := Nat.div_le_div_right (c := run.step) (Nat.sub_le_sub_right below run.first)
        simp only [List.mem_range]
        omega
      · have := Nat.div_add_mod (character.toNat - run.first) run.step
        omega

theorem bounds_of_mem (listed : run ∈ capitalRuns) :
    casedCharacters.spans (run.small run.first) (run.small run.last) = true ∧
      (0x80 ≤ run.small run.first ∨ 97 ≤ run.small run.first ∧ run.small run.last ≤ 122) ∧
      (run.small run.last < 304 ∨ 304 < run.small run.first ∧ run.small run.last < 0xd800 ∨
        0xdfff < run.small run.first ∧ run.small run.last < 0x110000) := by
  have checked := List.all_eq_true.mp capitalRuns_hasSmallLetters run listed
  simpa only [hasSmallLetters, Bool.and_eq_true, Bool.or_eq_true, Nat.ble_eq, Nat.blt_eq,
    and_assoc, or_assoc] using checked

private theorem not_contains_small {other : CapitalRun} (listed : run ∈ capitalRuns)
    (otherListed : other ∈ capitalRuns) (found : run.contains point = true) :
    other.contains (run.small point) = false := by
  obtain ⟨above, below, regular⟩ := contains_iff.mp found
  obtain ⟨_, letters, _⟩ := bounds_of_mem listed
  obtain ⟨exact', start, stop⟩ := small_between (by omega) above below
  have firstExact : (run.small run.first : Int) = run.first + run.shift :=
    (small_between (by omega) (Nat.le_refl run.first) (Nat.le_trans above below)).1
  have checked := List.all_eq_true.mp (List.all_eq_true.mp capitalRuns_misses run listed) other
    otherListed
  simp only [misses, Bool.or_eq_true, Bool.and_eq_true, Nat.blt_eq, beq_iff_eq] at checked
  rw [← Bool.not_eq_true, contains_iff]
  intro ⟨otherAbove, otherBelow, otherRegular⟩
  rcases checked with (apart | apart) | ⟨⟨two, runTwo | single⟩, odd⟩
  · omega
  · omega
  · -- Both runs take every second point, and their first points differ by an odd number.
    rw [two] at otherRegular
    rw [runTwo] at regular
    omega
  · rw [two] at otherRegular
    omega

end CapitalRun

/-! ## Small letters -/

private theorem ascii_cases :
    ∀ point < 0x80, smallLetter (Char.ofNat point) = Char.ofNat point ∨
      (casedCharacters.contains (Char.ofNat point) = true ∧
        casedCharacters.contains (smallLetter (Char.ofNat point)) = true ∧
        smallLetter (smallLetter (Char.ofNat point)) = smallLetter (Char.ofNat point) ∧
        smallLetter (Char.ofNat point) ≠ 'İ') := by
  decide +kernel

private theorem toLower_of_small {character : Char} (above : 97 ≤ character.toNat) :
    character.toLower = character := by
  unfold Char.toLower
  split
  · next capital =>
    have below : character.toNat ≤ 90 := capital.2
    omega
  · rfl

/-- A character is small already, or it and its small letter are cased letters, of which the latter
is small. -/
theorem smallLetter_cases (character : Char) :
    smallLetter character = character ∨
      (casedCharacters.contains character = true ∧
        casedCharacters.contains (smallLetter character) = true ∧
        smallLetter (smallLetter character) = smallLetter character ∧
        smallLetter character ≠ 'İ') := by
  by_cases ascii : character.toNat < 0x80
  · have cases := ascii_cases character.toNat ascii
    rwa [Char.ofNat_toNat] at cases
  · cases capital : capitalRuns.find? (·.contains character.toNat) with
    | none =>
        left
        simp [smallLetter, ascii, capital]
    | some run =>
        right
        have listed := List.mem_of_find?_eq_some capital
        have found : run.contains character.toNat = true := by
          simpa using List.find?_some capital
        obtain ⟨above, below, _⟩ := CapitalRun.contains_iff.mp found
        obtain ⟨cased, letters, valid⟩ := CapitalRun.bounds_of_mem listed
        obtain ⟨_, start, stop⟩ := CapitalRun.small_between (by omega) above below
        have small : smallLetter character = Char.ofNat (run.small character.toNat) := by
          simp [smallLetter, ascii, capital, CapitalRun.small]
        have point : (smallLetter character).toNat = run.small character.toNat := by
          have isValid : (run.small character.toNat).isValidChar := by
            unfold Nat.isValidChar
            omega
          rw [small, Char.ofNat, dif_pos isValid]
          exact UInt32.toNat_ofNatLT
        refine ⟨CapitalRun.isCased_of_contains listed found, ?_, ?_, ?_⟩
        · exact CharRanges.contains_of_spans cased (by omega) (by omega)
        · by_cases smallAscii : (smallLetter character).toNat < 0x80
          · rw [smallLetter, if_pos smallAscii]
            exact toLower_of_small (by omega)
          · have none : capitalRuns.find? (·.contains (smallLetter character).toNat) = none := by
              rw [List.find?_eq_none]
              intro other otherListed
              rw [point, CapitalRun.not_contains_small listed otherListed found]
              simp
            rw [smallLetter, if_neg smallAscii, none]
        · intro dotted
          rw [dotted] at point
          have dottedPoint : 'İ'.toNat = 304 := rfl
          omega

theorem smallLetter_smallLetter (character : Char) :
    smallLetter (smallLetter character) = smallLetter character := by
  rcases smallLetter_cases character with small | ⟨_, _, small, _⟩
  · rw [small, small]
  · exact small

theorem cased_smallLetter (character : Char) :
    casedCharacters.contains (smallLetter character) = casedCharacters.contains character := by
  rcases smallLetter_cases character with small | ⟨cased, smallCased, _⟩
  · rw [small]
  · rw [cased, smallCased]

theorem skipped_smallLetter (character : Char) :
    skippedCharacters.contains (smallLetter character) = skippedCharacters.contains character := by
  rcases smallLetter_cases character with small | ⟨cased, smallCased, _⟩
  · rw [small]
  · rw [not_skipped_of_cased cased, not_skipped_of_cased smallCased]

theorem smallLetter_ne_dotted {character : Char} (undotted : character ≠ 'İ') :
    smallLetter character ≠ 'İ' := by
  rcases smallLetter_cases character with small | ⟨_, _, _, different⟩
  · rwa [small]
  · exact different

end AccessGate.Text
