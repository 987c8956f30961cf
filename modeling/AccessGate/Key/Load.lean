import AccessGate.Fault
import AccessGate.Key.Algorithm
import AccessGate.Key.Files
import AccessGate.Key.NamedCurves
import AccessGate.Key.Pem
import AccessGate.Key.Rsa
import AccessGate.Text.Blank

/-!
# Loading keys

A public key is stored bare or together with its algorithm; a private key likewise.  A key of
another algorithm has to be readable too, and is then refused.
-/

namespace AccessGate.KeyStore

open Der

/-- A key that is read in some way, or not at all. -/
def readable {κ : Type} (key : Option κ) : Except KeyFlaw κ :=
  match key with
  | some key => .ok key
  | none => .error .unreadable

/-- What becomes of a key that is no RSA key, depending on whether it can be read. -/
def refused {κ : Type} (isReadable : Bool) : Except KeyFlaw κ :=
  .error (if isReadable then .foreign else .unreadable)

def curve (name : Bytes) : Except KeyFlaw Curve :=
  match Curve.named? name with
  | some curve => .ok curve
  | none => .error .unsupported

/-! ## Public keys -/

def barePublic? (bytes : Bytes) : Option Rsa.PublicKey := do
  match ← sequence? bytes with
  | [modulus, exponent] =>
      let key : Rsa.PublicKey := { modulus := ← modulus.natural?, exponent := ← exponent.natural? }
      if key.isSound then some key else none
  | _ => none

def publicOf (algorithm : KeyAlgorithm) (content : Bytes) : Except KeyFlaw Rsa.PublicKey :=
  match algorithm with
  | .rsa => readable (barePublic? content)
  | .curve name => do refused ((← curve name).hasPoint content)
  | .describedCurve => .error .unreadable
  | .bytes length | .seeded length _ => refused (content.length = length)
  | .number => refused ((single? content).bind Element.natural?).isSome
  | .other => .error .unsupported

/-- A public key that is stored with its algorithm. -/
def namedPublic (bytes : Bytes) : Except KeyFlaw Rsa.PublicKey :=
  match sequence? bytes with
  | some [algorithm, content] =>
      match KeyAlgorithm.read? algorithm, content.bits? with
      | some algorithm, some content => publicOf algorithm content
      | _, _ => .error .unreadable
  | _ => .error .unreadable

def publicKey (text : String) : Except KeyFlaw Rsa.PublicKey :=
  match Pem.first? text with
  | none => .error .unreadable
  | some block =>
      if block.kind = "PUBLIC KEY" then namedPublic block.content
      else if block.kind = "RSA PUBLIC KEY" then
        readable ((barePublic? block.content).or (namedPublic block.content).toOption)
      else .error .unreadable

/-! ## Private keys -/

def barePrivate? (bytes : Bytes) : Option Rsa.PrivateKey := do
  match ← (← sequence? bytes).mapM Element.natural? with
  | [0, modulus, publicExponent, privateExponent, firstPrime, secondPrime, firstExponent,
      secondExponent, coefficient] =>
      let numbers : Rsa.KeyNumbers :=
        { modulus, publicExponent, privateExponent, firstPrime, secondPrime, firstExponent,
          secondExponent, coefficient }
      if numbers.isSound then some numbers.privateKey else none
  | _ => none

/-- What a private key of a curve may tell: the curve, and the spelling of its point. -/
def curveParts? : List Element → Option (Option Bytes × Option Bytes)
  | [] => some (none, none)
  | [part] =>
      if part.tag = 0xa0 then do some (some (← (← single? part.content).name?), none)
      else if part.tag = 0xa1 then do some (none, some (← (← single? part.content).bits?))
      else none
  | [name, point] =>
      if name.tag = 0xa0 && point.tag = 0xa1 then do
        some (some (← (← single? name.content).name?), some (← (← single? point.content).bits?))
      else none
  | _ => none

/-- Whether bytes are a private key of a curve, which may be known from elsewhere. -/
def isCurveKey (known : Option Bytes) (bytes : Bytes) : Except KeyFlaw Bool := do
  match sequence? bytes with
  | some (version :: secret :: parts) =>
      match version.natural?, secret.bytes?, curveParts? parts with
      | some 1, some secret, some (told, point) =>
          if known.isSome && told.isSome && known ≠ told then throw .unreadable
          match known.or told with
          | none => return false
          | some name => return (← curve name).isPair (Bytes.toNat secret) point
      | _, _, _ => return false
  | _ => return false

def privateOf (algorithm : KeyAlgorithm) (content : Bytes) : Except KeyFlaw Rsa.PrivateKey :=
  match algorithm with
  | .rsa => readable (barePrivate? content)
  | .curve name => do refused (← isCurveKey (some name) content)
  | .describedCurve => .error .unreadable
  | .bytes length =>
      refused (((single? content).bind Element.bytes?).any fun bytes => bytes.length = length)
  | .seeded _ seed =>
      refused ((single? content).any fun element =>
        element.tag = 0x80 && element.content.length = seed)
  | .number => refused ((single? content).bind Element.natural?).isSome
  | .other => .error .unsupported

/-- Whether an element is a name with a set of values. -/
def isAttribute (element : Element) : Bool :=
  match element.parts? with
  | some [name, values] =>
      name.name?.isSome && values.tag = 0x31 &&
        (elements? values.content.length values.content).isSome
  | _ => false

/-- Whether elements are nothing or the attributes of a key. -/
def areAttributes : List Element → Bool
  | [] => true
  | [part] =>
      part.tag = 0xa0 && (elements? part.content.length part.content).any (·.all isAttribute)
  | _ => false

/-- A private key that is stored with its algorithm. -/
def namedPrivate (bytes : Bytes) : Except KeyFlaw Rsa.PrivateKey :=
  match sequence? bytes with
  | some (version :: algorithm :: content :: attributes) =>
      match version.natural?, KeyAlgorithm.read? algorithm, content.bytes? with
      | some 0, some algorithm, some content =>
          if areAttributes attributes then privateOf algorithm content else .error .unreadable
      | _, _, _ => .error .unreadable
  | _ => .error .unreadable

/-- Whether bytes are a private key of an algorithm whose keys come with its three numbers. -/
def isNumbersKey (bytes : Bytes) : Bool :=
  match (sequence? bytes).bind (·.mapM Element.natural?) with
  | some [0, _, _, _, _, _] => true
  | _ => false

/-- Whether bytes are an encrypted key: how it is encrypted, and the encrypted bytes. -/
def isEncrypted (bytes : Bytes) : Bool :=
  match sequence? bytes with
  | some [algorithm, content] => (KeyAlgorithm.read? algorithm).isSome && content.bytes?.isSome
  | _ => false

/-- The kinds of blocks that hold private keys. -/
def privateKinds : List String :=
  ["PRIVATE KEY", "ENCRYPTED PRIVATE KEY", "RSA PRIVATE KEY", "EC PRIVATE KEY", "DSA PRIVATE KEY"]

/-- The private key in a block of such a kind. -/
def privateIn (block : Pem.Block) : Except KeyFlaw Rsa.PrivateKey :=
  match block.header? "Proc-Type" with
  | some "4,ENCRYPTED" =>
      .error (if (block.header? "DEK-Info").any (·.toList.contains ',') then .encrypted
        else .unreadable)
  | some _ => .error .unreadable
  | none =>
      if block.kind = "PRIVATE KEY" then namedPrivate block.content
      else if block.kind = "RSA PRIVATE KEY" then readable (barePrivate? block.content)
      else if block.kind = "EC PRIVATE KEY" then do refused (← isCurveKey none block.content)
      else if block.kind = "DSA PRIVATE KEY" then refused (isNumbersKey block.content)
      else .error (if isEncrypted block.content then .encrypted else .unreadable)

/-- The private key in a file's text: the first one among its blocks. -/
def privateKey (text : String) : Except KeyFlaw Rsa.PrivateKey :=
  match (Pem.all? text).bind (·.find? fun block => privateKinds.contains block.kind) with
  | some block => privateIn block
  | none => .error .unreadable

/-! ## Files -/

/-- Loads a key for a use from the file at a path.  No path is configured where it is blank, or a
value that counts as false. -/
def load {κ : Type} (files : KeyFiles) (use : KeyUse) (path : Json)
    (read : String → Except KeyFlaw κ) : Except Fault κ :=
  let missing := Fault.service (.keySourceNotConfigured (.text use.name))
  match path with
  | .text name =>
      if Text.isBlankText name then .error missing
      else
        match files.read name with
        | .error .missing => .error (.service (.keyFileMissing path))
        | .error .tooLong => .error .overlongPath
        | .ok text => (read text).mapError (Fault.unusableKey use)
  | path => .error (if path.holds then .noPath else missing)

end AccessGate.KeyStore
