import AccessGate.Key.Load
import AccessGate.Proofs.Key.Der
import AccessGate.Proofs.Key.Pem
import AccessGate.Proofs.Key.Rsa

/-!
# Keys in files

The halves of a key are loaded from the files that they were written to.
-/

namespace AccessGate

open Der (IsWritable)

/-! ## Bare keys -/

/-- A bare private key. -/
def Rsa.KeyNumbers.element (numbers : KeyNumbers) : Der.Element :=
  .sequence ([0, numbers.modulus, numbers.publicExponent, numbers.privateExponent,
    numbers.firstPrime, numbers.secondPrime, numbers.firstExponent, numbers.secondExponent,
    numbers.coefficient].map Der.integer)

def Rsa.PublicKey.element (key : PublicKey) : Der.Element :=
  .sequence ([key.modulus, key.exponent].map Der.integer)

/-- A public key with its algorithm, which takes no parameters. -/
def Rsa.PublicKey.namedElement (key : PublicKey) : Der.Element :=
  .sequence [.sequence [⟨Der.nameTag, KeyAlgorithm.rsaName⟩, ⟨Der.nullTag, []⟩],
    ⟨Der.bitsTag, 0 :: key.element.written⟩]

namespace KeyStore

private theorem barePrivate?_written {numbers : Rsa.KeyNumbers} (sound : numbers.isSound = true)
    (writable : IsWritable numbers.element.content.length) :
    barePrivate? numbers.element.written = some numbers.privateKey := by
  have elements := Der.sequence?_written writable
  rw [barePrivate?, Rsa.KeyNumbers.element, elements, Option.bind_eq_bind, Option.bind_some,
    Der.mapM_natural?_integer]
  exact if_pos sound

theorem barePublic?_written {key : Rsa.PublicKey} (sound : key.isSound = true)
    (writable : IsWritable key.element.content.length) :
    barePublic? key.element.written = some key := by
  have elements := Der.sequence?_written writable
  rw [barePublic?, Rsa.PublicKey.element, elements, Option.bind_eq_bind, Option.bind_some]
  simp only [List.map_cons, List.map_nil, Der.natural?_integer, Option.bind_eq_bind,
    Option.bind_some]
  exact if_pos sound

theorem writable_element {key : Rsa.PublicKey}
    (writable : IsWritable key.namedElement.content.length) :
    IsWritable key.element.content.length := by
  apply writable.of_le
  have inside : (0 :: key.element.written).length ≤ key.namedElement.content.length :=
    Der.length_content_le ⟨Der.bitsTag, 0 :: key.element.written⟩ (by simp)
  rw [List.length_cons, Der.Element.written, List.length_cons, List.length_append] at inside
  omega

private theorem bits?_whole (bytes : Bytes) :
    (⟨Der.bitsTag, 0 :: bytes⟩ : Der.Element).bits? = some bytes := by
  cases ending : bytes.getLast? with
  | none => simp [Der.Element.bits?, ending]
  | some last => simp [Der.Element.bits?, ending, Nat.mod_one]

private theorem namedPublic_written {key : Rsa.PublicKey} (sound : key.isSound = true)
    (writable : IsWritable key.namedElement.content.length) :
    namedPublic key.namedElement.written = .ok key := by
  have elements := Der.sequence?_written writable
  have algorithm : KeyAlgorithm.read?
      (.sequence [⟨Der.nameTag, KeyAlgorithm.rsaName⟩, ⟨Der.nullTag, []⟩]) = some .rsa := by
    decide
  rw [namedPublic, Rsa.PublicKey.namedElement, elements]
  simp only [algorithm, bits?_whole]
  rw [publicOf, barePublic?_written sound (writable_element writable), readable]

end KeyStore

/-! ## Files -/

/-- The texts of files that tell a public key: bare, or with its algorithm. -/
def Rsa.PublicKey.texts (key : PublicKey) : List String :=
  [String.ofList (Pem.armored "RSA PUBLIC KEY".toList key.element.written),
    String.ofList (Pem.armored "PUBLIC KEY".toList key.namedElement.written)]

/-- The directory of a key, with a file for either half of it. -/
def KeyFiles.ofKey (numbers : Rsa.KeyNumbers) : KeyFiles :=
  { entries :=
      [("private.pem", some (String.ofList
        (Pem.armored "RSA PRIVATE KEY".toList numbers.element.written))),
      ("public.pem", some (String.ofList
        (Pem.armored "RSA PUBLIC KEY".toList numbers.publicKey.element.written)))] }

namespace KeyStore

theorem load_eq_ok {κ : Type} {files : KeyFiles} {use : KeyUse} {name text : String}
    {read : String → Except KeyFlaw κ} {key : κ} (named : Text.isBlankText name = false)
    (found : files.read name = .ok text) (known : read text = .ok key) :
    load files use (.text name) read = .ok key := by
  simp only [load, named, Bool.false_eq_true, if_false, found, known]
  rfl

variable {numbers : Rsa.KeyNumbers}

theorem load_private (sound : numbers.isSound = true)
    (writable : IsWritable numbers.element.content.length) :
    load (.ofKey numbers) .signing (.text "private.pem") privateKey = .ok numbers.privateKey := by
  have block := Pem.all?_armored (by decide : "RSA PRIVATE KEY".toList ≠ []) (by decide)
    numbers.element.written_ne_nil
  have known : privateKey (String.ofList (Pem.armored "RSA PRIVATE KEY".toList
      numbers.element.written)) = .ok numbers.privateKey := by
    rw [privateKey, block]
    exact congrArg readable (barePrivate?_written sound writable)
  exact load_eq_ok (by decide) rfl known

theorem publicKey_of_mem_texts {key : Rsa.PublicKey} (sound : key.isSound = true)
    (writable : IsWritable key.namedElement.content.length) :
    ∀ text ∈ key.texts, publicKey text = .ok key := by
  simp only [Rsa.PublicKey.texts, List.forall_mem_cons, List.not_mem_nil, false_implies,
    implies_true, and_true]
  constructor
  · rw [publicKey, Pem.first?_armored (by decide : "RSA PUBLIC KEY".toList ≠ []) (by decide)
      key.element.written_ne_nil]
    simp only [barePublic?_written sound (writable_element writable), Option.some_or]
    rfl
  · rw [publicKey, Pem.first?_armored (by decide : "PUBLIC KEY".toList ≠ []) (by decide)
      key.namedElement.written_ne_nil]
    simp only [namedPublic_written sound writable, if_true]

theorem load_public (sound : numbers.publicKey.isSound = true)
    (writable : IsWritable numbers.publicKey.namedElement.content.length) :
    load (.ofKey numbers) .verifying (.text "public.pem") publicKey = .ok numbers.publicKey :=
  load_eq_ok (by decide) rfl (publicKey_of_mem_texts sound writable _ List.mem_cons_self)

end KeyStore

end AccessGate
