import AccessGate.Bytes.Decoding
import AccessGate.Directory.Basic
import AccessGate.Json.Order
import AccessGate.Json.Reader
import AccessGate.Json.Writer
import AccessGate.Key.Load
import AccessGate.Settings.Basic
import AccessGate.Time.Quantity

/-!
# Access tokens

A token is three segments between dots: a header, the claims and a signature over both, each as
base64 without padding.  Tokens are issued with a private key and verified with the public one.
A token that does not pass gives no payload; only an unusable key, a clock that has no count of
seconds, and values of a kind that does not suit their use are failures.

A token may also break down on the way, before any rule refuses it.  Verifiers differ in what they
make of that: a breakdown escapes from some of them as a failure, and counts as a refusal in others.
-/

namespace AccessGate

/-- A user of the directory, as told by the caller. -/
structure User where
  id : Json
  userName : Json
  email : Json
  deriving Repr

/-- What a token tells about its user. -/
structure Claims where
  user : User
  /-- The key of the tenant. -/
  application : Json
  roles : List Json
  permissions : List Json
  issuer : Json
  audience : Json
  /-- When the token was issued, in seconds. -/
  issuedAt : Int
  /-- When the token expires, in seconds. -/
  expiresAt : Int
  deriving Repr

/-- Claims as the fields of an object.  A token is valid from the time it is issued. -/
def Claims.fields (claims : Claims) : List (String × Json) :=
  [("sub", claims.user.id), ("name", claims.user.userName),
    ("preferred_username", claims.user.userName), ("email", claims.user.email),
    ("app", claims.application), ("roles", .list claims.roles),
    ("permissions", .list claims.permissions), ("iss", claims.issuer),
    ("aud", claims.audience), ("iat", .int claims.issuedAt), ("nbf", .int claims.issuedAt),
    ("exp", .int claims.expiresAt)]

/-- What a verified token tells.  Apart from the user's id, its values may be of any kind. -/
structure TokenPayload where
  subject : String
  name : Json
  email : Json
  application : Json
  roles : List Json
  permissions : List Json
  issuedAt : Json
  expiresAt : Json

def TokenPayload.fields (payload : TokenPayload) : List (String × Json) :=
  [("sub", .text payload.subject), ("name", payload.name), ("email", payload.email),
    ("app", payload.application), ("roles", .list payload.roles),
    ("permissions", .list payload.permissions), ("iat", payload.issuedAt),
    ("exp", payload.expiresAt)]

namespace Token

/-- Why the verification of a token cannot go on. -/
inductive Breakdown where
  /-- The header or the claims nest too deep to be read. -/
  | nestedTooDeep
  /-- A time is of a kind that stands for no number. -/
  | unsuitableTime
  | infiniteTime
  deriving DecidableEq, Repr

/-- The fault as which a breakdown escapes. -/
def Breakdown.fault : Breakdown → Fault
  | nestedTooDeep => .nestedTooDeep
  | unsuitableTime => .unsuitableValue
  | infiniteTime => .time .outOfRange

/-- Why a token is not accepted. -/
inductive Rejection where
  | refused
  | broken (breakdown : Breakdown)
  deriving DecidableEq, Repr

/-- What is there; a token is refused for what is missing. -/
def present {α : Type} (found : Option α) : Except Rejection α :=
  match found with
  | some value => .ok value
  | none => .error .refused

/-- Refuses a token that does not meet a condition. -/
def require (condition : Bool) : Except Rejection Unit :=
  if condition then .ok () else .error .refused

/-- What becomes of a token where some breakdowns escape. -/
def settle {α : Type} (escaping : List Breakdown) (judged : Except Rejection α) :
    Except Fault (Option α) :=
  match judged with
  | .ok value => .ok (some value)
  | .error .refused => .ok none
  | .error (.broken breakdown) =>
      if breakdown ∈ escaping then .error breakdown.fault else .ok none

/-- The fixed header of an issued token. -/
def header : Json :=
  .object [("alg", .text "RS256"), ("kid", .text "authsmith-key-1"), ("typ", .text "JWT")]

/-- A segment with the given bytes. -/
def segment (bytes : Bytes) : List Char :=
  Base64.characters Base64.addressSafe bytes

def jsonSegment (json : Json) : List Char :=
  segment (Bytes.ofText (Json.write .compact json))

/-- The bytes of a segment: without padding, or padded to a multiple of four characters. -/
def bytes? (characters : List Char) : Option Bytes :=
  Base64.readCanonical? Base64.addressSafe characters

/-- The fields of the object that is written in bytes. -/
def object (bytes : Bytes) : Except Rejection (List (String × Json)) := do
  match Json.read (← present (Bytes.text? bytes)) with
  | .ok (.object fields) => .ok fields
  | .error .tooDeep => .error (.broken .nestedTooDeep)
  | _ => .error .refused

/-- The signed part of a token: the segments of the header and the claims. -/
def signedPart (header claims : List Char) : List Char :=
  header ++ '.' :: claims

def signedBytes (part : List Char) : Bytes :=
  Bytes.ofText (String.ofList part)

/-- A token with the given claims, signed with a key that is long enough. -/
def write? (key : Rsa.PrivateKey) (claims : Claims) : Option String :=
  let part := signedPart (jsonSegment header) (jsonSegment (.object claims.fields))
  (Rsa.sign? key (signedBytes part)).map fun signature =>
    String.ofList (part ++ '.' :: segment signature)

/-- The signed part and the signature of a token, which the last dot separates. -/
def cutSignature? (token : List Char) : Option (List Char × List Char) :=
  let signature := (token.reverse.takeWhile (· ≠ '.')).reverse
  if signature.length < token.length then
    some (token.take (token.length - signature.length - 1), signature)
  else none

/-- The header and the claims of a signed part, which the first dot separates. -/
def cutHeader? (part : List Char) : Option (List Char × List Char) :=
  let header := part.takeWhile (· ≠ '.')
  if header.length < part.length then some (header, part.drop (header.length + 1)) else none

/-- Whether the header's list of extensions that have to be understood is acceptable. -/
def acceptsExtensions (header : List (String × Json)) : Bool :=
  match Json.fieldOf? "crit" header with
  | none => true
  | some (.list items) => !items.isEmpty && items.all fun
      | .text name => name = "b64" && (Json.fieldOf? name header).isSome
      | _ => false
  | some _ => false

/-- Whether a field is missing or a text. -/
def isOptionalText (name : String) (fields : List (String × Json)) : Bool :=
  match Json.fieldOf? name fields with
  | none | some (.text _) => true
  | some _ => false

def acceptsHeader (header : List (String × Json)) : Bool :=
  isOptionalText "kid" header && acceptsExtensions header &&
    (match Json.fieldOf? "b64" header with
      | some (.bool false) => false
      | _ => true) &&
    (match Json.fieldOf? "alg" header with
      | some (.text name) => name = "RS256"
      | _ => false)

/-- Whether a field is there and not null. -/
def hasValue (fields : List (String × Json)) (name : String) : Bool :=
  match Json.fieldOf? name fields with
  | none | some .null => false
  | some _ => true

/-- The whole seconds that a time stands for. -/
def seconds (time : Json) : Except Rejection Int :=
  match time with
  | .null | .list _ | .object _ => .error (.broken .unsuitableTime)
  | .float (.infinite _) => .error (.broken .infiniteTime)
  | time => present time.whole?

/-- Refuses claims with a time, where it is there, that does not satisfy a condition. -/
def checkTime (claims : List (String × Json)) (name : String) (condition : Int → Bool) :
    Except Rejection Unit :=
  match Json.fieldOf? name claims with
  | none => .ok ()
  | some time => do require (condition (← seconds time))

/-- Refuses claims that are not valid at a time, in seconds. -/
def checkTimes (claims : List (String × Json)) (now : Double) : Except Rejection Unit := do
  let reached (time : Int) : Bool := !now.lessThanInt time
  checkTime claims "iat" reached
  checkTime claims "nbf" reached
  checkTime claims "exp" now.lessThanInt

/-- Whether a text is the wanted one, or one of those wanted. -/
def isWanted (wanted : Json) (found : String) : Bool :=
  match wanted with
  | .text wanted => found = wanted
  | wanted => (wanted.items?.getD []).any fun item => item.text? = some found

/-- Whether claims have the issuer that is asked for, if any. -/
def acceptsIssuer (claims : List (String × Json)) (issuer : Json) : Bool :=
  !issuer.holds ||
    match Json.fieldOf? "iss" claims with
    | some (.text found) => isWanted issuer found
    | _ => false

/-- Whether claims have the audience that is asked for.  Where none is asked for, they have to
leave it open. -/
def acceptsAudience (claims : List (String × Json)) (audience : Json) : Bool :=
  match Json.fieldOf? "aud" claims with
  | none => !audience.holds
  | some value =>
      if !audience.holds then !value.holds
      else
        match value with
        | .text found => isWanted audience found
        | .list items =>
            match items.mapM Json.text? with
            | some texts => texts.any (isWanted audience)
            | none => false
        | _ => false

/-- Whether claims have the fields that are required. -/
def isComplete (claims : List (String × Json)) : Bool :=
  ["exp", "iat", "sub"].all (hasValue claims)

/-- Refuses complete claims that are not acceptable at a time. -/
def checkClaims (claims : List (String × Json)) (issuer audience : Json) (now : Double) :
    Except Rejection Unit := do
  checkTimes claims now
  require (acceptsIssuer claims issuer && acceptsAudience claims audience &&
    isOptionalText "sub" claims && isOptionalText "jti" claims)

/-- The claims of a genuine token.  They are only read once the signature has been verified. -/
def genuine (key : Rsa.PublicKey) (token : String) : Except Rejection (List (String × Json)) := do
  let (part, signature) ← present (cutSignature? token.toList)
  let (header, claims) ← present (cutHeader? part)
  let header ← object (← present (bytes? header))
  let claims ← present (bytes? claims)
  let signature ← present (bytes? signature)
  require (acceptsHeader header && Rsa.verify key (signedBytes part) signature)
  object claims

/-- The claims of a genuine token, if they are acceptable. -/
def accepted (escaping : List Breakdown) (issuer audience : Json) (now : Moment)
    (claims : List (String × Json)) : Except Fault (Option (List (String × Json))) := do
  if audience.holds && audience.items?.isNone then throw .unsuitableValue
  if !isComplete claims then return none
  let now ← now.timestamp.mapError Fault.time
  settle escaping (do checkClaims claims issuer audience now; return claims)

/-- The items of a claim; none where it is missing. -/
def listed (claims : List (String × Json)) (name : String) : Except Fault (List Json) :=
  match Json.fieldOf? name claims with
  | none => .ok []
  | some value =>
      match value.items? with
      | some items => .ok items
      | none => .error .unsuitableValue

def payload (claims : List (String × Json)) : Except Fault TokenPayload := do
  let value (name : String) (default : Json) : Json := (Json.fieldOf? name claims).getD default
  let roles ← listed claims "roles"
  let permissions ← listed claims "permissions"
  return { subject := ((Json.fieldOf? "sub" claims).bind Json.text?).getD ""
           name := value "name" (.text ""), email := value "email" (.text "")
           application := value "app" (.text ""), roles, permissions
           issuedAt := value "iat" .null, expiresAt := value "exp" .null }

end Token

/-- A token service as far as it differs from the settings. -/
structure TokenOptions where
  signingKeyPath : Option Json := none
  verifyingKeyPath : Option Json := none
  issuer : Option Json := none
  audience : Option Json := none
  /-- The lifetime of a token in minutes; zero does not differ. -/
  lifetime : Option Json := none
  /-- The breakdowns that the verifier in use lets escape. -/
  escaping : List Token.Breakdown := []

/-- Issues and verifies tokens. -/
structure TokenService where
  signingKeyPath : Json
  verifyingKeyPath : Json
  issuer : Json
  audience : Json
  /-- The lifetime of a token in minutes, if it is a number. -/
  lifetime : Option Quantity
  /-- The breakdowns of verification that escape from it; others refuse the token. -/
  escaping : List Token.Breakdown := []
  deriving Repr

namespace TokenService

/-- The token service of options over settings. -/
def ofOptions (settings : Settings) (options : TokenOptions) : TokenService :=
  { signingKeyPath := options.signingKeyPath.getD (.text settings.signingKeyPath)
    verifyingKeyPath := options.verifyingKeyPath.getD (.text settings.verifyingKeyPath)
    issuer := options.issuer.getD (.text settings.tokenIssuer)
    audience := options.audience.getD (.text settings.tokenAudience)
    lifetime := match options.lifetime.filter Json.holds with
      | some lifetime => Quantity.ofJson? lifetime
      | none => some (.whole settings.tokenLifetime)
    escaping := options.escaping }

def microsPerMinute : Nat := 60 * microsPerSecond

/-- The second in which a token that is issued now expires. -/
def expiresAt (service : TokenService) (now : Moment) : Except Fault Int := do
  match service.lifetime with
  | none => throw .unsuitableValue
  | some lifetime =>
      let micros ← (lifetime.micros microsPerMinute).mapError Fault.time
      let expiry ← (now.addMicros micros).mapError Fault.time
      expiry.unixSeconds.mapError Fault.time

/-- The items of a collection in increasing order. -/
def sortedItems (collection : Json) : Except Fault (List Json) :=
  match collection.items?.bind Json.sorted? with
  | some items => .ok items
  | none => .error .unsuitableValue

def claims (service : TokenService) (now : Moment) (user : User)
    (application roles permissions : Json) : Except Fault Claims := do
  let roles ← sortedItems roles
  let permissions ← sortedItems permissions
  let issuedAt ← now.unixSeconds.mapError Fault.time
  return { user, application, roles, permissions, issuer := service.issuer
           audience := service.audience, issuedAt, expiresAt := ← service.expiresAt now }

def issue (service : TokenService) (files : KeyFiles) (now : Moment) (user : User)
    (application roles permissions : Json) : Except Fault String := do
  let claims ← service.claims now user application roles permissions
  let key ← KeyStore.load files .signing service.signingKeyPath KeyStore.privateKey
  if claims.issuer.text?.isNone then throw .unsuitableValue
  match Token.write? key claims with
  | some token => return token
  | none => throw (.unusableKey .signing .tooShort)

def verifyingKey (service : TokenService) (files : KeyFiles) : Except Fault Rsa.PublicKey :=
  KeyStore.load files .verifying service.verifyingKeyPath KeyStore.publicKey

def verify (service : TokenService) (files : KeyFiles) (now : Moment) (token : String) :
    Except Fault (Option TokenPayload) := do
  let key ← service.verifyingKey files
  match ← Token.settle service.escaping (Token.genuine key token) with
  | none => return none
  | some claims =>
      match ← Token.accepted service.escaping service.issuer service.audience now claims with
      | none => return none
      | some claims => return some (← Token.payload claims)

def documentNumber (value : Nat) : Json :=
  .text (Base64.write Base64.addressSafe (Bytes.ofNat value))

/-- The document by which others learn the public key. -/
def keyDocument (service : TokenService) (files : KeyFiles) : Except Fault Json := do
  let key ← service.verifyingKey files
  return .object [("keys", .list [.object
    [("kty", .text "RSA"), ("use", .text "sig"), ("kid", .text "authsmith-key-1"),
      ("alg", .text "RS256"), ("n", documentNumber key.modulus),
      ("e", documentNumber key.exponent)]])]

end TokenService

end AccessGate
