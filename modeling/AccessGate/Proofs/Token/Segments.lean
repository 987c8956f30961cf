import AccessGate.Proofs.Bytes.Base64
import AccessGate.Proofs.Json.Ascii
import AccessGate.Proofs.Outcome
import AccessGate.Token.Service

/-!
# Segments of tokens

No segment holds a dot, so a token falls apart into the segments that it was put together from, and
each of them reads back as what was written into it.
-/

namespace AccessGate.Token

theorem dot_not_mem_segment (bytes : Bytes) : '.' ∉ segment bytes := by
  intro member
  have known := Base64.contains_of_mem_characters Base64.isFaithful_addressSafe member
  exact absurd known (by decide)

theorem dot_not_mem_jsonSegment (json : Json) : '.' ∉ jsonSegment json :=
  dot_not_mem_segment _

theorem bytes?_segment (bytes : Bytes) : bytes? (segment bytes) = some bytes :=
  Base64.readCanonical?_characters Base64.isFaithful_addressSafe bytes

theorem object_ofText_write {fields : List (String × Json)}
    (readsBack : Json.ReadsBack Json.Reader.greatestDepth (.object fields)) :
    object (Bytes.ofText (Json.write .compact (.object fields))) = .ok fields := by
  rw [object, Json.text?_ofText_write Json.Layout.addsGaps_compact readsBack, present, ok_bind,
    Json.read_write Json.Layout.addsGaps_compact readsBack]

theorem bytes?_jsonSegment (json : Json) :
    bytes? (jsonSegment json) = some (Bytes.ofText (Json.write .compact json)) :=
  bytes?_segment _

theorem takeWhile_dotless {segment rest : List Char} (dotless : '.' ∉ segment) :
    (segment ++ '.' :: rest).takeWhile (· ≠ '.') = segment := by
  rw [List.takeWhile_append_of_pos]
  · simp
  · intro character member
    simp only [ne_eq, decide_not, Bool.not_eq_true', decide_eq_false_iff_not]
    rintro rfl
    exact dotless member

theorem cutHeader?_append {header claims : List Char} (dotless : '.' ∉ header) :
    cutHeader? (signedPart header claims) = some (header, claims) := by
  simp only [cutHeader?, signedPart, takeWhile_dotless dotless]
  simp

theorem cutSignature?_append {part signature : List Char} (dotless : '.' ∉ signature) :
    cutSignature? (part ++ '.' :: signature) = some (part, signature) := by
  have reversed :
      (part ++ '.' :: signature).reverse = signature.reverse ++ '.' :: part.reverse := by
    simp
  have behind : ((part ++ '.' :: signature).reverse.takeWhile (· ≠ '.')).reverse = signature := by
    rw [reversed, takeWhile_dotless (by simpa using dotless), List.reverse_reverse]
  have length : (part ++ '.' :: signature).length - signature.length - 1 = part.length := by
    simp only [List.length_append, List.length_cons]
    omega
  simp only [cutSignature?, behind, length]
  simp
  omega

end AccessGate.Token
