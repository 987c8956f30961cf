import AccessGate.Proofs.Bytes.Sextets
import AccessGate.Proofs.Outcome
import AccessGate.Proofs.Token.Verification

/-!
# The key document

The key document writes the modulus and the exponent of the public key as base64 of their shortest
bytes.  Whoever completes the padding and reads the bytes gets the numbers back, whatever their
size: `keyDocument_tells_key` says so of every number, and of every document that is given out.  The
key is the one in the configured file, in either of the forms in which public keys are stored.
-/

namespace AccessGate

/-! ## Shortest bytes -/

/-- The shortest bytes of a number, most significant first: a zero stands in front only if it is
alone. -/
structure Bytes.IsShortest (bytes : Bytes) (value : Nat) : Prop where
  value : Bytes.toNat bytes = value
  filled : bytes ≠ []
  leading : bytes.head? = some 0 → bytes = [0]

theorem Bytes.isShortest_ofNat (value : Nat) : (Bytes.ofNat value).IsShortest value := by
  constructor
  · exact toNat_ofNat value
  · apply List.ne_nil_of_length_pos
    rw [length_ofNat, width]
    split <;> omega
  · intro leading
    by_cases zero : value = 0
    · subst zero
      rfl
    · exact absurd leading (head?_ofNat zero)

/-! ## Base64 without padding -/

namespace Base64

/-- Reads base64 from which the padding was left out. -/
def readUnpadded? (alphabet : Alphabet) (text : String) : Option Bytes :=
  readLenient? alphabet (text.toList ++ paddingFor text.toList.length)

theorem toList_write (alphabet : Alphabet) (bytes : Bytes) :
    (write alphabet bytes).toList = characters alphabet bytes :=
  String.toList_ofList

theorem readUnpadded?_write {alphabet : Alphabet} (faithful : alphabet.IsFaithful)
    (bytes : Bytes) : readUnpadded? alphabet (write alphabet bytes) = some bytes := by
  rw [readUnpadded?, toList_write]
  exact readLenient?_paddedCharacters faithful bytes

private theorem isAlphanum_of_mem_write {bytes : Bytes} {found : Char}
    (member : found ∈ (write addressSafe bytes).toList) :
    found.isAlphanum = true ∨ found = '-' ∨ found = '_' := by
  have letters : ∀ sextet < 64, (addressSafe.character sextet).isAlphanum = true ∨
      addressSafe.character sextet = '-' ∨ addressSafe.character sextet = '_' := by
    decide
  rw [toList_write] at member
  obtain ⟨sextet, listed, rfl⟩ := List.mem_map.mp member
  exact letters sextet (sextets_lt bytes sextet listed)

end Base64

/-! ## Documents -/

namespace KeyDocument

def number? (field : Json) : Option Nat := do
  let text ← field.text?
  let bytes ← Base64.readUnpadded? Base64.addressSafe text
  return Bytes.toNat bytes

/-- The public key that a key document tells, if it tells a single one. -/
def key? (document : Json) : Option Rsa.PublicKey := do
  let .list [key] ← document.field? "keys" | none
  let modulus ← number? (← key.field? "n")
  let exponent ← number? (← key.field? "e")
  return { modulus, exponent }

end KeyDocument

namespace TokenService

open Base64

theorem number?_documentNumber (value : Nat) :
    KeyDocument.number? (documentNumber value) = some value := by
  have read := readUnpadded?_write isFaithful_addressSafe (Bytes.ofNat value)
  simp only [KeyDocument.number?, documentNumber, Json.text?, Option.bind_eq_bind, Option.bind_some,
    read, Bytes.toNat_ofNat]
  rfl

private theorem documentNumber_injective : Function.Injective documentNumber := by
  intro value other same
  have told := number?_documentNumber value
  rw [same, number?_documentNumber] at told
  exact (Option.some.inj told).symm

theorem map_keyDocument (service : TokenService) (files : KeyFiles) :
    (service.keyDocument files).map KeyDocument.key? = (service.verifyingKey files).map some := by
  rw [keyDocument]
  cases service.verifyingKey files with
  | error fault => rfl
  | ok key =>
      have modulus := number?_documentNumber key.modulus
      have exponent := number?_documentNumber key.exponent
      simp [pure, Except.pure, Except.map, KeyDocument.key?, Json.field?, Json.fieldOf?, modulus,
        exponent]

section Configured

variable {service : TokenService} {files : KeyFiles} {name text : String}

theorem verifyingKey_of_read (configured : service.verifyingKeyPath = .text name)
    (named : Text.isBlankText name = false) (found : files.read name = .ok text) :
    service.verifyingKey files =
      (KeyStore.publicKey text).mapError (Fault.unusableKey .verifying) := by
  rw [verifyingKey, configured, KeyStore.load]
  simp only [named, Bool.false_eq_true, if_false, found]

private theorem keyDocument_of_texts (configured : service.verifyingKeyPath = .text name)
    (named : Text.isBlankText name = false) (found : files.read name = .ok text)
    {key : Rsa.PublicKey} (sound : key.isSound = true)
    (writable : Der.IsWritable key.namedElement.content.length) (stored : text ∈ key.texts) :
    ∃ document, service.keyDocument files = .ok document ∧
      KeyDocument.key? document = some key := by
  have told := map_keyDocument service files
  rw [verifyingKey_of_read configured named found,
    KeyStore.publicKey_of_mem_texts sound writable text stored] at told
  exact map_eq_ok.mp told

end Configured

/-- A number stands in the key document as text of letters, digits, hyphens and underscores, which
spells the shortest bytes of the number and reads back as them once its padding is restored.  So
different numbers have different texts, and the document tells the modulus and the exponent of the
key that tokens are verified with; it is given out exactly if that key can be loaded.  The key is
read from the configured file: whatever public key was stored in it is the one that is told. -/
theorem keyDocument_tells_key :
    (∀ value, ∃ text bytes, documentNumber value = .text text ∧
      (∀ found ∈ text.toList, found.isAlphanum = true ∨ found = '-' ∨ found = '_') ∧
      addressSafe.Spells text.toList bytes ∧ readUnpadded? addressSafe text = some bytes ∧
      bytes.IsShortest value) ∧
    Function.Injective documentNumber ∧
    (∀ (service : TokenService) (files : KeyFiles),
      (service.keyDocument files).map KeyDocument.key? =
        (service.verifyingKey files).map some) ∧
    ∀ (service : TokenService) (files : KeyFiles) (name text : String),
      service.verifyingKeyPath = .text name → Text.isBlankText name = false →
      files.read name = .ok text →
      (service.keyDocument files).map KeyDocument.key? =
        ((KeyStore.publicKey text).mapError (Fault.unusableKey .verifying)).map some ∧
      ∀ key : Rsa.PublicKey, key.isSound = true →
        Der.IsWritable key.namedElement.content.length → text ∈ key.texts →
        ∃ document, service.keyDocument files = .ok document ∧
          KeyDocument.key? document = some key := by
  refine ⟨?_, documentNumber_injective, map_keyDocument, ?_⟩
  · intro value
    refine ⟨write addressSafe (Bytes.ofNat value), Bytes.ofNat value, rfl, ?_, ?_, ?_, ?_⟩
    · intro found member
      exact isAlphanum_of_mem_write member
    · rw [toList_write]
      exact Alphabet.spells_characters isFaithful_addressSafe (Bytes.ofNat value)
    · exact readUnpadded?_write isFaithful_addressSafe (Bytes.ofNat value)
    · exact Bytes.isShortest_ofNat value
  · intro service files name text configured named found
    constructor
    · rw [map_keyDocument, verifyingKey_of_read configured named found]
    · intro key sound writable stored
      exact keyDocument_of_texts configured named found sound writable stored

/-- A key that is stored with its algorithm is told. -/
theorem keyDocument_tells_mersenne :
    ∃ files : KeyFiles, files.read "public.pem" = .ok (String.ofList (Pem.armored
        "PUBLIC KEY".toList Rsa.KeyNumbers.mersenne.publicKey.namedElement.written)) ∧
      ∃ document, (mersenne "gate" "shop").keyDocument files = .ok document ∧
        KeyDocument.key? document = some Rsa.KeyNumbers.mersenne.publicKey := by
  let text := String.ofList (Pem.armored "PUBLIC KEY".toList
    Rsa.KeyNumbers.mersenne.publicKey.namedElement.written)
  let files : KeyFiles := { entries := [("public.pem", some text)] }
  have found : files.read "public.pem" = .ok text := rfl
  have tells := (keyDocument_tells_key.2.2.2 (mersenne "gate" "shop") files "public.pem" text rfl
    (by decide) found).2
  exact ⟨files, found, tells Rsa.KeyNumbers.mersenne.publicKey (by decide +kernel)
    (by decide +kernel) (by simp [text, Rsa.PublicKey.texts])⟩

/-- The usual public exponent takes four characters. -/
example : write addressSafe (Bytes.ofNat 65537) = "AQAB" := by
  decide +kernel

end TokenService

end AccessGate
