import AccessGate.Json.Reader
import AccessGate.Json.Writer

/-!
# Written texts read back

Every text between quotes reads back as itself.  The writer splits characters beyond the first
65536 into surrogate pairs, and since no character is itself half a pair, the reader joins exactly
those pairs again.
-/

namespace AccessGate

namespace Text

private theorem hexValue?_hexDigit : ∀ value < 16, hexValue? (hexDigit value) = some value := by
  decide

end Text

namespace Json.Reader

open AccessGate.Text

private theorem codeUnit?_digits {unit : Nat} (short : unit < 0x10000) :
    codeUnit? (hexDigit (unit / 16 / 16 / 16 % 16)) (hexDigit (unit / 16 / 16 % 16))
      (hexDigit (unit / 16 % 16)) (hexDigit (unit % 16)) = some unit := by
  simp only [codeUnit?, hexValue?_hexDigit _ (Nat.mod_lt _ (by decide : 16 > 0)),
    Option.some.injEq]
  omega

/-- The codes in which a character is written. -/
def codesOf (character : Char) : List Nat :=
  if character.toNat < 0x10000 then [character.toNat]
  else
    [0xd800 + (character.toNat - 0x10000) / 0x400, 0xdc00 + (character.toNat - 0x10000) % 0x400]

theorem textCodes_unitEscape {opening unit : Nat} {rest after : List Char} {codes : List Nat}
    (short : unit < 0x10000) (more : rest ≠ [])
    (read : textCodes opening rest = .ok (codes, after)) :
    textCodes opening (Writer.unitEscape unit ++ rest) = .ok (unit :: codes, after) := by
  have written : Writer.unitEscape unit ++ rest =
      '\\' :: 'u' :: hexDigit (unit / 16 / 16 / 16 % 16) :: hexDigit (unit / 16 / 16 % 16) ::
        hexDigit (unit / 16 % 16) :: hexDigit (unit % 16) :: rest := rfl
  have filled : rest.isEmpty = false := by simp [more]
  rw [written, textCodes, codeUnit?_digits short]
  simp [filled, read, withCode, Except.map]

private theorem textCodes_shortEscape {opening : Nat} {escaped character : Char}
    {rest after : List Char}
    {codes : List Nat} (short : shortEscape? escaped = some character)
    (read : textCodes opening rest = .ok (codes, after)) :
    textCodes opening ('\\' :: escaped :: rest) = .ok (character.toNat :: codes, after) := by
  have direct : textCodes opening ('\\' :: escaped :: rest) =
      withCode character.toNat (textCodes opening rest) := by
    rw [textCodes, short]
    rintro _ _ _ _ _ rfl
    cases short
  rw [direct, read]
  rfl

private theorem textCodes_plain {opening : Nat} {character : Char} {rest after : List Char}
    {codes : List Nat} (quote : character ≠ '"') (backslash : character ≠ '\\')
    (printable : 0x20 ≤ character.toNat) (read : textCodes opening rest = .ok (codes, after)) :
    textCodes opening (character :: rest) = .ok (character.toNat :: codes, after) := by
  rw [textCodes, if_neg (by omega), read]
  · rfl
  · exact quote
  · exact fun equality _ => backslash equality
  · exact fun _ _ _ _ _ equality _ => backslash equality
  · exact fun _ _ equality _ => backslash equality

private theorem textCodes_character {opening : Nat} (character : Char) {rest after : List Char}
    {codes : List Nat} (more : rest ≠ []) (read : textCodes opening rest = .ok (codes, after)) :
    textCodes opening (Writer.character character ++ rest) =
      .ok (codesOf character ++ codes, after) := by
  have ascii (small : character.toNat < 0x10000) : codesOf character = [character.toNat] := by
    rw [codesOf, if_pos small]
  rw [Writer.character]
  iterate 7
    split
    case isTrue equality =>
      subst equality
      exact textCodes_shortEscape rfl read
  rename_i quote backslash _ _ _ _ _
  split
  case isTrue printable =>
    simp only [Bool.and_eq_true, decide_eq_true_eq] at printable
    rw [ascii (by omega)]
    exact textCodes_plain quote backslash printable.1 read
  split
  case isTrue small =>
    rw [ascii small]
    exact textCodes_unitEscape small more read
  case isFalse large =>
    have valid : character.toNat < 0xd800 ∨
        0xdfff < character.toNat ∧ character.toNat < 0x110000 := character.valid
    rw [codesOf, if_neg large, List.append_assoc]
    refine textCodes_unitEscape (by omega) (by simp [Writer.unitEscape]) ?_
    exact textCodes_unitEscape (by omega) more read

private theorem textCodes_written {opening : Nat} (characters after : List Char) :
    textCodes opening (characters.flatMap Writer.character ++ '"' :: after) =
      .ok (characters.flatMap codesOf, after) := by
  induction characters with
  | nil => rfl
  | cons character characters induction =>
      rw [List.flatMap_cons, List.flatMap_cons, List.append_assoc]
      exact textCodes_character character (by simp) induction

/-! ## Surrogate pairs -/

private theorem joinPairs_single {code : Nat} (codes : List Nat)
    (single : isHighHalf code = false) :
    joinPairs (code :: codes) = characterOf code :: joinPairs codes := by
  cases codes with
  | nil => rfl
  | cons low rest => simp [joinPairs, single]

private theorem joinPairs_codesOf (character : Char) (codes : List Nat) :
    joinPairs (codesOf character ++ codes) = character :: joinPairs codes := by
  have valid : character.toNat < 0xd800 ∨
      0xdfff < character.toNat ∧ character.toNat < 0x110000 := character.valid
  rw [codesOf]
  split
  case isTrue small =>
    have whole : isHighHalf character.toNat = false ∧ isLowHalf character.toNat = false := by
      simp [isHighHalf, isLowHalf]
      omega
    rw [List.singleton_append, joinPairs_single codes whole.1, characterOf, whole.1, whole.2]
    simp
  case isFalse large =>
    have halves : isHighHalf (0xd800 + (character.toNat - 0x10000) / 0x400) = true ∧
        isLowHalf (0xdc00 + (character.toNat - 0x10000) % 0x400) = true := by
      simp [isHighHalf, isLowHalf]
      omega
    have joined : 0x10000 + (0xd800 + (character.toNat - 0x10000) / 0x400 - 0xd800) * 0x400 +
        (0xdc00 + (character.toNat - 0x10000) % 0x400 - 0xdc00) = character.toNat := by
      omega
    simp only [List.cons_append, List.nil_append]
    rw [joinPairs, halves.1, halves.2, Bool.and_self, if_pos rfl, joined, Char.ofNat_toNat]

private theorem joinPairs_written (characters : List Char) :
    joinPairs (characters.flatMap codesOf) = characters := by
  induction characters with
  | nil => rfl
  | cons character characters induction =>
      rw [List.flatMap_cons, joinPairs_codesOf, induction]

theorem text_written (written : String) (after : List Char) :
    text (written.toList.flatMap Writer.character ++ '"' :: after) = .ok (written, after) := by
  rw [text, textCodes_written]
  simp [Except.map, joinPairs_written]

end Json.Reader

end AccessGate
