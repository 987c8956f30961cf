import AccessGate.Proofs.Text.Seams
import AccessGate.Resolver

/-!
# Letter case of codes

A permission code is lower-cased as one text, and so is the start of all codes of a module.  Where
the parts of a code meet, a capital sigma may take another form than it has in the part by itself.
Hence parts that are equal without regard to letter case give the same code if and only if they fit
alike, and a code starts like the codes of its module if and only if no sigma gets in the way.
-/

namespace AccessGate

open AccessGate.Text

variable {key module action otherKey otherModule otherAction : String}

theorem Text.toList_lower (text : String) :
    (Text.lower text).toList = Text.lowerCharacters text.toList :=
  String.toList_ofList

theorem Text.lower_eq_iff {text other : String} :
    Text.lower text = Text.lower other ↔
      Text.lowerCharacters text.toList = Text.lowerCharacters other.toList := by
  rw [← String.toList_inj, Text.toList_lower, Text.toList_lower]

theorem Text.eq_empty_iff_of_lower_eq {text other : String}
    (same : Text.lower text = Text.lower other) : text = "" ↔ other = "" := by
  rw [Text.lower_eq_iff] at same
  rw [← String.toList_eq_nil_iff, ← String.toList_eq_nil_iff, ← lowerCharacters_eq_nil_iff, same,
    lowerCharacters_eq_nil_iff]

theorem toList_join (text other : String) :
    (text ++ "." ++ other).toList = text.toList ++ '.' :: other.toList := by
  simp [String.toList_append]

/-! ## Equal codes -/

/-- The parts of two codes fit alike, each between its neighbours. -/
def JoinAlike (key module action otherKey otherModule otherAction : String) : Prop :=
  FitAlike false (letterAhead (module ++ "." ++ action).toList false) key.toList otherKey.toList ∧
    FitAlike (letterBehind key.toList false) (letterAhead action.toList false)
      module.toList otherModule.toList ∧
    FitAlike (letterBehind (key ++ "." ++ module).toList false) false
      action.toList otherAction.toList

instance : Decidable (JoinAlike key module action otherKey otherModule otherAction) :=
  inferInstanceAs (Decidable (_ ∧ _))

theorem toList_permissionCode :
    (permissionCode key module action).toList =
      lowerWithin false false (key.toList ++ '.' :: (module ++ "." ++ action).toList) := by
  rw [permissionCode, Text.toList_lower, lowerCharacters_eq, toList_join, toList_join, toList_join,
    List.append_assoc, List.cons_append]

theorem length_permissionCode :
    (permissionCode key module action).toList.length = (Text.lower key).toList.length +
      ((Text.lower module).toList.length + ((Text.lower action).toList.length + 1) + 1) := by
  rw [toList_permissionCode, toList_join, lowerWithin_join, lowerWithin_join, List.length_append,
    List.length_cons, List.length_append, List.length_cons, length_lowerWithin, length_lowerWithin,
    length_lowerWithin, Text.toList_lower, Text.toList_lower, Text.toList_lower]

/-- Parts that differ in letter case alone give the same code exactly if they fit alike. -/
theorem permissionCode_eq_iff (sameKey : Text.lower key = Text.lower otherKey)
    (sameModule : Text.lower module = Text.lower otherModule)
    (sameAction : Text.lower action = Text.lower otherAction) :
    permissionCode key module action = permissionCode otherKey otherModule otherAction ↔
      JoinAlike key module action otherKey otherModule otherAction := by
  rw [Text.lower_eq_iff] at sameKey sameModule sameAction
  have sameLetter : letterAhead action.toList false = letterAhead otherAction.toList false :=
    letterAhead_eq_of_lowerCharacters_eq sameAction false
  have sameEnd : letterAhead (module ++ "." ++ action).toList false =
      letterAhead (otherModule ++ "." ++ otherAction).toList false := by
    rw [toList_join, toList_join, letterAhead_append, letterAhead_append, letterAhead_dot,
      letterAhead_dot, sameLetter, letterAhead_eq_of_lowerCharacters_eq sameModule]
  rw [← String.toList_inj, toList_permissionCode, toList_permissionCode,
    lowerWithin_join_eq_iff sameKey sameEnd, toList_join, toList_join,
    lowerWithin_join_eq_iff sameModule sameLetter, lowerWithin_eq_iff sameAction, JoinAlike,
    toList_join, toList_join, letterBehind_append key.toList, letterBehind_dot]

/-! ## Codes of a module -/

namespace Resolver

theorem moduleStart_eq : moduleStart key module = permissionCode key module "" := by
  rw [moduleStart, permissionCode, String.append_empty]

theorem toList_moduleStart :
    (moduleStart key module).toList = lowerCharacters ((key ++ "." ++ module).toList ++ ['.']) := by
  rw [moduleStart, Text.toList_lower, String.toList_append]
  rfl

/-- A code has the start of its module, unless key and module end in a sigma and a letter of the
action lets it take another form. -/
theorem belongsTo_permissionCode_iff :
    belongsTo key module (permissionCode key module action) = true ↔
      ¬ (endsInSigma false (key ++ "." ++ module).toList = true ∧
        letterAhead action.toList false = true) := by
  have joined : lowerCharacters (permissionCode key module action).toList =
      lowerWithin false (letterAhead action.toList false)
          ((key ++ "." ++ module).toList ++ ['.']) ++
        lowerWithin (letterBehind ((key ++ "." ++ module).toList ++ ['.']) false) false
          action.toList := by
    rw [permissionCode, Text.toList_lower, lowerCharacters_lowerCharacters, toList_join,
      lowerCharacters_eq, ← lowerWithin_append, List.append_assoc]
    rfl
  have ends : endsInSigma false ((key ++ "." ++ module).toList ++ ['.']) =
      endsInSigma false (key ++ "." ++ module).toList := by
    have skipped : ['.'].all skippedCharacters.contains = true := by decide +kernel
    rw [endsInSigma_append, endsInSigma_of_skipped skipped, skipped, Bool.and_true, Bool.or_false]
  rw [belongsTo, List.isPrefixOf_iff_prefix, toList_moduleStart, joined, ← ends,
    ← lowerWithin_eq_lowerCharacters_iff]
  constructor
  · intro start
    have within := List.prefix_of_prefix_length_le start (List.prefix_append _ _)
      (Nat.le_of_eq (length_lowerWithin _).symm)
    exact (within.eq_of_length (length_lowerWithin _).symm).symm
  · intro same
    rw [same]
    exact List.prefix_append _ _

end Resolver

end AccessGate
