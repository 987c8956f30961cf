import AccessGate.Key.Pem
import AccessGate.Proofs.Bytes.Base64

/-!
# Armored blocks read back

A text with nothing but an armored block reads back as this block.
-/

namespace AccessGate.Pem

/-! ## Cutting -/

theorem through?_clear {first : Char} {later before : List Char} (clear : first ∉ before)
    (rest : List Char) :
    through? (first :: later) (first :: later) (before ++ rest) =
      (through? (first :: later) (first :: later) rest).map fun (found, after) =>
        (before ++ found, after) := by
  induction before with
  | nil => simp
  | cons character before induction =>
      rw [List.mem_cons, not_or] at clear
      rw [List.cons_append, through?, if_neg (Ne.symm clear.1), induction clear.2, Option.map_map]
      rfl

private theorem through?_expected (mark expected rest : List Char) :
    through? mark expected (expected ++ rest) = some (expected, rest) := by
  induction expected with
  | nil => rw [List.nil_append, through?]
  | cons next later induction => rw [List.cons_append, through?, if_pos rfl, induction]; rfl

theorem cut?_append {mark before : List Char} {first : Char} {later : List Char}
    (opens : mark = first :: later) (clear : first ∉ before) (rest : List Char) :
    cut? mark (before ++ (mark ++ rest)) = some (before, rest) := by
  subst opens
  rw [cut?, through?_clear clear, through?_expected]
  simp

/-! ## Armored blocks -/

def armoredBody (content : Bytes) : List Char :=
  Base64.paddedCharacters Base64.standard content ++ ['\n']

def armored (kind : List Char) (content : Bytes) : List Char :=
  "-----BEGIN ".toList ++ (kind ++ ("-----".toList ++ ('\n' :: (armoredBody content ++
    ("-----END ".toList ++ (kind ++ ("-----".toList ++ ['\n'])))))))

theorem plain_of_mem (content : Bytes) :
    ∀ found ∈ Base64.paddedCharacters Base64.standard content,
      found ≠ '-' ∧ Text.isSpace found = false ∧ isGap found = false :=
  Base64.forall_mem_paddedCharacters (by decide) (by decide) content

theorem boundaries?_armored {kind : List Char} (dashless : '-' ∉ kind) {content : Bytes}
    (filled : content ≠ []) :
    boundaries? (armored kind content) = some (kind, kind, armoredBody content, ['\n']) := by
  have plain := plain_of_mem content
  have body : '-' ∉ armoredBody content := by
    intro member
    rcases List.mem_append.mp member with letter | feed
    · exact (plain _ letter).1 rfl
    · simp at feed
  have ended : cut? "-----END ".toList (armoredBody content ++
      ("-----END ".toList ++ (kind ++ ("-----".toList ++ ['\n'])))) =
        some (armoredBody content, kind ++ ("-----".toList ++ ['\n'])) :=
    cut?_append rfl body _
  have opened (rest : List Char) : cut? "-----".toList (kind ++ ("-----".toList ++ rest)) =
      some (kind, rest) :=
    cut?_append rfl dashless _
  have begun (rest : List Char) : cut? "-----BEGIN ".toList ("-----BEGIN ".toList ++ rest) =
      some ([], rest) :=
    cut?_append rfl List.not_mem_nil rest
  have started (rest : List Char) : ('\n' :: (armoredBody content ++ rest)).dropWhile isGap =
      armoredBody content ++ rest := by
    obtain ⟨first, others, written⟩ : ∃ first others,
        Base64.paddedCharacters Base64.standard content = first :: others :=
      List.exists_cons_of_ne_nil (Base64.paddedCharacters_ne_nil filled)
    have solid : isGap first = false := (plain first (by simp [written])).2.2
    rw [armoredBody, written, List.dropWhile_cons_of_pos rfl, List.cons_append, List.cons_append,
      List.dropWhile_cons_of_neg (by simp [solid])]
  unfold boundaries? armored
  simp only [begun, opened, started, ended, Option.bind_eq_bind, Option.bind_some]
  rfl

theorem block?_armored {kind : List Char} (named : kind ≠ []) (content : Bytes) :
    block? kind kind (armoredBody content) =
      some { kind := String.ofList kind, headers := [], content } := by
  have plain := plain_of_mem content
  have feedless : '\n' ∉ Base64.paddedCharacters Base64.standard content := by
    intro member
    exact absurd (plain _ member).2.1 (by decide)
  have returnless : '\r' ∉ armoredBody content := by
    intro member
    rcases List.mem_append.mp member with letter | feed
    · exact absurd (plain _ letter).2.1 (by decide)
    · simp at feed
  have paragraphs : cut? ['\n', '\n'] (armoredBody content) = none := by
    rw [cut?, armoredBody, through?_clear feedless]
    rfl
  have otherParagraphs : cut? ['\r', '\n', '\r', '\n'] (armoredBody content) = none := by
    rw [cut?, ← List.append_nil (armoredBody content), through?_clear returnless]
    rfl
  have parted : parts (armoredBody content) = ([], armoredBody content) := by
    rw [parts, paragraphs, otherParagraphs]
    rfl
  have letters : (armoredBody content).filter (fun character => !Text.isSpace character) =
      Base64.paddedCharacters Base64.standard content := by
    rw [armoredBody, List.filter_append, List.filter_eq_self.mpr]
    · simp
      decide
    · intro character member
      simp [(plain _ member).2.1]
  have headed : (lines []).mapM header? = some [] := by decide
  have filled : kind.isEmpty = false := by simp [named]
  rw [block?]
  simp only [parted, headed, letters, Base64.length_paddedCharacters_mod, filled,
    Base64.readCanonical?_paddedCharacters Base64.isFaithful_standard, Option.bind_eq_bind,
    Option.bind_some]
  simp

variable {kind : String} {content : Bytes}

theorem first?_armored (named : kind.toList ≠ []) (dashless : '-' ∉ kind.toList)
    (filled : content ≠ []) :
    first? (String.ofList (armored kind.toList content)) =
      some { kind, headers := [], content } := by
  have block := block?_armored named content
  rw [String.ofList_toList] at block
  rw [first?, String.toList_ofList, boundaries?_armored dashless filled]
  exact block

theorem all?_armored (named : kind.toList ≠ []) (dashless : '-' ∉ kind.toList)
    (filled : content ≠ []) :
    all? (String.ofList (armored kind.toList content)) =
      some [{ kind, headers := [], content }] := by
  have block := block?_armored named content
  rw [String.ofList_toList] at block
  obtain ⟨bound, long⟩ : ∃ bound, (armored kind.toList content).length = bound + 2 := by
    unfold armored
    -- the marks are no matter here, and comparing them takes long
    generalize "-----BEGIN ".toList = opening, "-----END ".toList = ending, "-----".toList = dashes
    refine Nat.exists_eq_add_of_le' ?_
    simp only [List.length_append, List.length_cons]
    omega
  have nothing : boundaries? ['\n'] = none := by decide
  rw [all?, ← String.length_toList, String.toList_ofList, long, blocks?,
    boundaries?_armored dashless filled]
  simp only [block, blocks?, nothing]
  rfl

end AccessGate.Pem
