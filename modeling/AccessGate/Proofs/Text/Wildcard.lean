import AccessGate.Text.Wildcard

/-!
# What fits a pattern

A pattern fits part by part: a text fits two patterns in a row if it splits into texts that fit the
one and the other.  A pattern without stars only fits itself, and every pattern fits itself, stars
included.
-/

namespace AccessGate.Text

theorem mem_suffixes {α : Type} {rest items : List α} :
    rest ∈ suffixes items ↔ ∃ run, items = run ++ rest := by
  induction items with
  | nil => simp [suffixes, eq_comm]
  | cons item items induction =>
      rw [suffixes, List.mem_cons, induction]
      constructor
      · rintro (rfl | ⟨run, rfl⟩)
        · exact ⟨[], rfl⟩
        · exact ⟨item :: run, rfl⟩
      · rintro ⟨run, split⟩
        cases run with
        | nil => exact .inl split.symm
        | cons first run =>
            rw [List.cons_append, List.cons.injEq] at split
            exact .inr ⟨run, split.2⟩

private theorem fitsCharacters_star {pattern characters : List Char} :
    fitsCharacters ('*' :: pattern) characters = true ↔
      ∃ run rest, characters = run ++ rest ∧ fitsCharacters pattern rest = true := by
  rw [fitsCharacters, List.any_eq_true]
  constructor
  · rintro ⟨rest, member, fitting⟩
    obtain ⟨run, split⟩ := mem_suffixes.mp member
    exact ⟨run, rest, split, fitting⟩
  · rintro ⟨run, rest, split, fitting⟩
    exact ⟨rest, mem_suffixes.mpr ⟨run, split⟩, fitting⟩

private theorem fitsCharacters_literal {sign : Char} (literal : sign ≠ '*')
    {pattern characters : List Char} :
    fitsCharacters (sign :: pattern) characters = true ↔
      ∃ rest, characters = sign :: rest ∧ fitsCharacters pattern rest = true := by
  cases characters with
  | nil =>
      rw [fitsCharacters]
      · simp
      · exact literal
  | cons character characters =>
      rw [fitsCharacters]
      · rw [Bool.and_eq_true, decide_eq_true_eq]
        constructor
        · rintro ⟨rfl, fitting⟩
          exact ⟨characters, rfl, fitting⟩
        · rintro ⟨rest, split, fitting⟩
          obtain ⟨rfl, rfl⟩ := List.cons.inj split
          exact ⟨rfl, fitting⟩
      · exact literal

/-- The first sign of a pattern stands for a run of characters: any run if it is the star, and else
the run of the sign alone. -/
theorem fitsCharacters_cons {sign : Char} {pattern characters : List Char} :
    fitsCharacters (sign :: pattern) characters = true ↔
      ∃ run rest, characters = run ++ rest ∧ (sign = '*' ∨ run = [sign]) ∧
        fitsCharacters pattern rest = true := by
  by_cases star : sign = '*'
  · subst star
    simp [fitsCharacters_star]
  · rw [fitsCharacters_literal star]
    constructor
    · rintro ⟨rest, split, fitting⟩
      exact ⟨[sign], rest, split, .inr rfl, fitting⟩
    · rintro ⟨run, rest, split, same | rfl, fitting⟩
      · exact absurd same star
      · exact ⟨rest, split, fitting⟩

private theorem fitsCharacters_append {first second characters : List Char} :
    fitsCharacters (first ++ second) characters = true ↔
      ∃ start rest, characters = start ++ rest ∧ fitsCharacters first start = true ∧
        fitsCharacters second rest = true := by
  induction first generalizing characters with
  | nil =>
      constructor
      · intro fitting
        exact ⟨[], characters, rfl, rfl, fitting⟩
      · rintro ⟨start, rest, rfl, empty, fitting⟩
        obtain rfl : start = [] := by simpa [fitsCharacters] using empty
        exact fitting
  | cons sign first induction =>
      rw [List.cons_append, fitsCharacters_cons]
      constructor
      · rintro ⟨run, left, rfl, stands, fitting⟩
        obtain ⟨start, rest, rfl, fits, others⟩ := induction.mp fitting
        refine ⟨run ++ start, rest, (List.append_assoc ..).symm, ?_, others⟩
        exact fitsCharacters_cons.mpr ⟨run, start, rfl, stands, fits⟩
      · rintro ⟨start, rest, rfl, fits, others⟩
        obtain ⟨run, left, rfl, stands, fitting⟩ := fitsCharacters_cons.mp fits
        refine ⟨run, left ++ rest, List.append_assoc .., stands, ?_⟩
        exact induction.mpr ⟨left, rest, rfl, fitting, others⟩

private theorem fitsCharacters_of_literal {pattern : List Char} (literal : '*' ∉ pattern)
    {characters : List Char} :
    fitsCharacters pattern characters = true ↔ characters = pattern := by
  induction pattern generalizing characters with
  | nil => simp [fitsCharacters]
  | cons sign pattern induction =>
      rw [List.mem_cons, not_or] at literal
      rw [fitsCharacters_cons]
      constructor
      · rintro ⟨run, rest, rfl, star | rfl, fitting⟩
        · exact absurd star.symm literal.1
        · rw [(induction literal.2).mp fitting]
          rfl
      · rintro rfl
        exact ⟨[sign], pattern, rfl, .inr rfl, (induction literal.2).mpr rfl⟩

private theorem fitsCharacters_self (characters : List Char) :
    fitsCharacters characters characters = true := by
  induction characters with
  | nil => rfl
  | cons sign characters induction =>
      exact fitsCharacters_cons.mpr ⟨[sign], characters, rfl, .inr rfl, induction⟩

/-! ## Texts -/

theorem fits_append {first second text : String} :
    fits (first ++ second) text = true ↔
      ∃ start rest, text = start ++ rest ∧ fits first start = true ∧ fits second rest = true := by
  rw [fits, String.toList_append, fitsCharacters_append]
  constructor
  · rintro ⟨start, rest, split, fitsStart, fitsRest⟩
    refine ⟨.ofList start, .ofList rest, ?_, ?_, ?_⟩
    · rw [← String.ofList_append, ← split, String.ofList_toList]
    · rwa [fits, String.toList_ofList]
    · rwa [fits, String.toList_ofList]
  · rintro ⟨start, rest, rfl, fitsStart, fitsRest⟩
    exact ⟨start.toList, rest.toList, String.toList_append .., fitsStart, fitsRest⟩

theorem fits_of_literal {pattern text : String} (literal : '*' ∉ pattern.toList) :
    fits pattern text = true ↔ text = pattern := by
  rw [fits, fitsCharacters_of_literal literal, String.toList_inj]

theorem fits_literal_append {first second text : String} (literal : '*' ∉ first.toList) :
    fits (first ++ second) text = true ↔
      ∃ rest, text = first ++ rest ∧ fits second rest = true := by
  rw [fits_append]
  constructor
  · rintro ⟨start, rest, rfl, fitsStart, fitsRest⟩
    rw [(fits_of_literal literal).mp fitsStart]
    exact ⟨rest, rfl, fitsRest⟩
  · rintro ⟨rest, rfl, fitsRest⟩
    exact ⟨first, rest, rfl, (fits_of_literal literal).mpr rfl, fitsRest⟩

theorem fits_star (text : String) : fits "*" text = true :=
  fitsCharacters_cons.mpr ⟨text.toList, [], (List.append_nil _).symm, .inl rfl, rfl⟩

theorem fits_self (text : String) : fits text text = true :=
  fitsCharacters_self text.toList

end AccessGate.Text
