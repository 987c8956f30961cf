import AccessGate.Http.AuthGate
import AccessGate.Proofs.Token.Verification

/-!
# Kinds of claims

A signature tells who made a token, but not what was put into it.  The readers of a payload expect
texts, lists of texts and integers, and get what the claims hold.  `verifies_typed_iff` says from
which tokens they get what they expect, or no payload, and which tokens have a principal: the claims
have to be of the right kinds from the start, as nothing is checked later on, and no breakdown may
escape from the verifier.
-/

namespace AccessGate

namespace Json

def IsText (value : Json) : Prop :=
  ∃ text, value = .text text

def IsInt (value : Json) : Prop :=
  ∃ number, value = .int number

/-- A value is a list of items of a kind, or else a text or an object, whose items are texts. -/
def HasItems (kind : Json → Prop) : Json → Prop
  | list items => ∀ item ∈ items, kind item
  | text _ | object _ => True
  | _ => False

private theorem hasItems_iff {kind : Json → Prop} (texts : ∀ text, kind (.text text))
    (value : Json) :
    value.HasItems kind ↔ ∃ items, value.items? = some items ∧ ∀ item ∈ items, kind item := by
  have each {α : Type} (spell : α → String) (parts : List α) :
      ∀ item ∈ parts.map fun part => text (spell part), kind item := by
    intro item member
    obtain ⟨part, _, rfl⟩ := List.mem_map.mp member
    exact texts (spell part)
  cases value with
  | list items => simp [HasItems, items?]
  | text characters => exact iff_of_true trivial ⟨_, rfl, each _ _⟩
  | object fields => exact iff_of_true trivial ⟨_, rfl, each _ _⟩
  | null | bool | int | float => simp [HasItems, items?]

end Json

open Json (IsText IsInt HasItems)

/-- The values of a payload are of the kinds that its readers expect.  The subject is a text in any
case. -/
structure TokenPayload.IsTyped (payload : TokenPayload) : Prop where
  name : payload.name.IsText
  email : payload.email.IsText
  application : payload.application.IsText
  roles : ∀ role ∈ payload.roles, role.IsText
  permissions : ∀ permission ∈ payload.permissions, permission.IsText
  issuedAt : payload.issuedAt.IsInt
  expiresAt : payload.expiresAt.IsInt

namespace Token

variable {claims : List (String × Json)} {name : String} {kind : Json → Prop}

/-- A claim is missing or of a kind. -/
def Told (claims : List (String × Json)) (name : String) (kind : Json → Prop) : Prop :=
  ∀ value, Json.fieldOf? name claims = some value → kind value

/-- The claims that a payload is made of are of the kinds that are expected. -/
structure AreTyped (claims : List (String × Json)) : Prop where
  name : Told claims "name" IsText
  email : Told claims "email" IsText
  application : Told claims "app" IsText
  roles : Told claims "roles" (HasItems IsText)
  permissions : Told claims "permissions" (HasItems IsText)
  issuedAt : Told claims "iat" IsInt
  expiresAt : Told claims "exp" IsInt

/-- Roles and permissions are of kinds that sets can be made of. -/
structure AreSettable (claims : List (String × Json)) : Prop where
  roles : Told claims "roles" (HasItems fun item => item.isScalar = true)
  permissions : Told claims "permissions" (HasItems fun item => item.isScalar = true)

theorem Told.weaken {stronger weaker : Json → Prop} (told : Told claims name (HasItems stronger))
    (implies : ∀ item, stronger item → weaker item) : Told claims name (HasItems weaker) := by
  intro value found
  have lists := told value found
  cases value with
  | list items => exact fun item member => implies item (lists item member)
  | text | object => exact trivial
  | null | bool | int | float => exact lists

theorem AreTyped.areSettable (typed : AreTyped claims) : AreSettable claims := by
  have scalar : ∀ item : Json, item.IsText → item.isScalar = true := by
    rintro _ ⟨text, rfl⟩
    rfl
  exact ⟨typed.roles.weaken scalar, typed.permissions.weaken scalar⟩

/-! ## Payloads -/

theorem told_iff_getD {default : Json} (fallback : kind default) :
    Told claims name kind ↔ kind ((Json.fieldOf? name claims).getD default) := by
  unfold Told
  cases Json.fieldOf? name claims with
  | none => simpa using fallback
  | some value => simp

theorem told_iff_of_hasValue (present : hasValue claims name = true) (default : Json) :
    Told claims name kind ↔ kind ((Json.fieldOf? name claims).getD default) := by
  unfold Told
  cases found : Json.fieldOf? name claims with
  | none => simp [hasValue, found] at present
  | some value => simp

theorem told_hasItems_iff (texts : ∀ text, kind (.text text)) :
    Told claims name (HasItems kind) ↔
      ∃ items, listed claims name = .ok items ∧ ∀ item ∈ items, kind item := by
  unfold Told listed
  cases Json.fieldOf? name claims with
  | none => simp
  | some value =>
      simp only [Option.some.injEq, forall_eq', Json.hasItems_iff texts]
      cases value.items? with
      | none => simp
      | some items => simp

theorem payload_eq_ok {payload : TokenPayload} (told : Token.payload claims = .ok payload) :
    listed claims "roles" = .ok payload.roles ∧
      listed claims "permissions" = .ok payload.permissions ∧
      payload.subject = ((Json.fieldOf? "sub" claims).bind Json.text?).getD "" ∧
      payload.name = (Json.fieldOf? "name" claims).getD (.text "") ∧
      payload.email = (Json.fieldOf? "email" claims).getD (.text "") ∧
      payload.application = (Json.fieldOf? "app" claims).getD (.text "") ∧
      payload.issuedAt = (Json.fieldOf? "iat" claims).getD .null ∧
      payload.expiresAt = (Json.fieldOf? "exp" claims).getD .null := by
  obtain ⟨roles, listedRoles, told⟩ := bind_eq_ok.mp told
  obtain ⟨permissions, listedPermissions, told⟩ := bind_eq_ok.mp told
  cases told
  exact ⟨listedRoles, listedPermissions, rfl, rfl, rfl, rfl, rfl, rfl⟩

theorem payload_of_listed {roles permissions : List Json}
    (listedRoles : listed claims "roles" = .ok roles)
    (listedPermissions : listed claims "permissions" = .ok permissions) :
    Token.payload claims = .ok {
      subject := ((Json.fieldOf? "sub" claims).bind Json.text?).getD ""
      name := (Json.fieldOf? "name" claims).getD (.text "")
      email := (Json.fieldOf? "email" claims).getD (.text "")
      application := (Json.fieldOf? "app" claims).getD (.text "")
      roles
      permissions
      issuedAt := (Json.fieldOf? "iat" claims).getD .null
      expiresAt := (Json.fieldOf? "exp" claims).getD .null } :=
  bind_eq_ok.mpr ⟨roles, listedRoles, bind_eq_ok.mpr ⟨permissions, listedPermissions, rfl⟩⟩

private theorem payload_typed_iff (complete : isComplete claims = true) :
    (∃ payload, Token.payload claims = .ok payload ∧ payload.IsTyped) ↔ AreTyped claims := by
  simp only [isComplete, List.all_cons, List.all_nil, Bool.and_true, Bool.and_eq_true] at complete
  obtain ⟨expires, issued, _⟩ := complete
  have texts (text : String) : IsText (.text text) := ⟨text, rfl⟩
  constructor
  · rintro ⟨payload, told, typed⟩
    obtain ⟨roles, permissions, _, name, email, application, issuedAt, expiresAt⟩ :=
      payload_eq_ok told
    exact {
      name := (told_iff_getD (texts "")).mpr (name ▸ typed.name)
      email := (told_iff_getD (texts "")).mpr (email ▸ typed.email)
      application := (told_iff_getD (texts "")).mpr (application ▸ typed.application)
      roles := (told_hasItems_iff texts).mpr ⟨_, roles, typed.roles⟩
      permissions := (told_hasItems_iff texts).mpr ⟨_, permissions, typed.permissions⟩
      issuedAt := (told_iff_of_hasValue issued .null).mpr (issuedAt ▸ typed.issuedAt)
      expiresAt := (told_iff_of_hasValue expires .null).mpr (expiresAt ▸ typed.expiresAt) }
  · intro typed
    obtain ⟨roles, listedRoles, rolesTyped⟩ := (told_hasItems_iff texts).mp typed.roles
    obtain ⟨permissions, listedPermissions, permissionsTyped⟩ :=
      (told_hasItems_iff texts).mp typed.permissions
    exact ⟨_, payload_of_listed listedRoles listedPermissions, {
      name := (told_iff_getD (texts "")).mp typed.name
      email := (told_iff_getD (texts "")).mp typed.email
      application := (told_iff_getD (texts "")).mp typed.application
      roles := rolesTyped
      permissions := permissionsTyped
      issuedAt := (told_iff_of_hasValue issued .null).mp typed.issuedAt
      expiresAt := (told_iff_of_hasValue expires .null).mp typed.expiresAt }⟩

/-- A principal can be made of a payload exactly if sets can be made of its roles and
permissions. -/
theorem payload_settable_iff :
    (∃ principal, Token.payload claims >>= Principal.ofToken = .ok principal) ↔
      AreSettable claims := by
  have texts (text : String) : (Json.text text).isScalar = true := rfl
  constructor
  · rintro ⟨principal, made⟩
    obtain ⟨payload, told, made⟩ := bind_eq_ok.mp made
    obtain ⟨roles, permissions, _⟩ := payload_eq_ok told
    unfold Principal.ofToken at made
    split at made
    · next scalar =>
      rw [List.all_append, Bool.and_eq_true, List.all_eq_true, List.all_eq_true] at scalar
      exact ⟨(told_hasItems_iff texts).mpr ⟨_, roles, scalar.1⟩,
        (told_hasItems_iff texts).mpr ⟨_, permissions, scalar.2⟩⟩
    · cases made
  · intro settable
    obtain ⟨roles, listedRoles, rolesScalar⟩ := (told_hasItems_iff texts).mp settable.roles
    obtain ⟨permissions, listedPermissions, permissionsScalar⟩ :=
      (told_hasItems_iff texts).mp settable.permissions
    rw [payload_of_listed listedRoles listedPermissions, ok_bind]
    refine ⟨_, if_pos ?_⟩
    rw [List.all_append, Bool.and_eq_true, List.all_eq_true, List.all_eq_true]
    exact ⟨rolesScalar, permissionsScalar⟩

private theorem some_payload_typed_iff (complete : isComplete claims = true) :
    (∃ answer, (Token.payload claims).map some = .ok answer ∧
      ∀ payload ∈ answer, payload.IsTyped) ↔ AreTyped claims := by
  rw [← payload_typed_iff complete]
  constructor
  · rintro ⟨answer, told, typed⟩
    obtain ⟨payload, made, same⟩ := map_eq_ok.mp told
    exact ⟨payload, made, typed payload same.symm⟩
  · rintro ⟨payload, made, typed⟩
    refine ⟨some payload, map_eq_ok.mpr ⟨payload, made, rfl⟩, ?_⟩
    rintro _ ⟨⟩
    exact typed

private theorem some_payload_settable_iff :
    (∃ principal, (Token.payload claims >>= Principal.ofToken).map some = .ok principal) ↔
      AreSettable claims := by
  rw [← payload_settable_iff]
  simp [map_eq_ok]

theorem listed_cases (claims : List (String × Json)) (name : String) :
    listed claims name = .error .unsuitableValue ∨ ∃ items, listed claims name = .ok items := by
  unfold listed
  cases Json.fieldOf? name claims with
  | none => exact .inr ⟨[], rfl⟩
  | some value =>
      cases items : value.items? with
      | none => simp [items]
      | some items => simp [items]

private theorem payload_cases (claims : List (String × Json)) :
    Token.payload claims = .error .unsuitableValue ∨
      ∃ payload, Token.payload claims = .ok payload := by
  rcases listed_cases claims "roles" with roles | ⟨roles, listedRoles⟩
  · left
    rw [Token.payload, roles, error_bind]
  · rcases listed_cases claims "permissions" with permissions | ⟨permissions, listedPermissions⟩
    · left
      rw [Token.payload, listedRoles, ok_bind, permissions, error_bind]
    · exact .inr ⟨_, payload_of_listed listedRoles listedPermissions⟩

end Token

/-! ## Judged tokens -/

namespace Token

/-- What is made of a token at a time: its claims if it is accepted, or else why it is not. -/
def judge (key : Rsa.PublicKey) (issuer audience : Json) (time : Double) (token : String) :
    Except Rejection (List (String × Json)) := do
  let claims ← genuine key token
  require (isComplete claims)
  checkClaims claims issuer audience time
  return claims

/-- A token breaks down in a way that escapes. -/
def BreaksDown (escaping : List Breakdown) (judged : Except Rejection (List (String × Json))) :
    Prop :=
  ∃ breakdown ∈ escaping, judged = .error (.broken breakdown)

private theorem settle_bind {α β : Type} (escaping : List Breakdown) (first : Except Rejection α)
    (next : α → Except Rejection β) :
    settle escaping (first >>= next) = settle escaping first >>= fun found =>
      match found with
      | none => .ok none
      | some value => settle escaping (next value) := by
  rcases first with (_ | breakdown) | value
  · rfl
  · rw [error_bind]
    simp only [settle]
    split <;> rfl
  · rfl

theorem settle_cases {α : Type} (escaping : List Breakdown) (judged : Except Rejection α) :
    (∃ value, judged = .ok value ∧ settle escaping judged = .ok (some value)) ∨
      (∃ breakdown ∈ escaping, judged = .error (.broken breakdown) ∧
        settle escaping judged = .error breakdown.fault) ∨
      ((∀ value, judged ≠ .ok value) ∧ (∀ breakdown ∈ escaping,
        judged ≠ .error (.broken breakdown)) ∧ settle escaping judged = .ok none) := by
  rcases judged with (_ | breakdown) | value
  · exact .inr (.inr ⟨nofun, nofun, rfl⟩)
  · by_cases escapes : breakdown ∈ escaping
    · exact .inr (.inl ⟨breakdown, escapes, rfl, if_pos escapes⟩)
    · refine .inr (.inr ⟨nofun, ?_, if_neg escapes⟩)
      rintro _ member ⟨⟩
      exact escapes member
  · exact .inl ⟨value, rfl, rfl⟩

theorem require_eq_ok {condition : Bool} : require condition = .ok () ↔ condition = true := by
  cases condition <;> simp [require]

/-- The header is read before the signature is looked at. -/
theorem genuine_of_opened {opened : Nat} (deep : Json.Reader.greatestDepth < opened)
    (key : Rsa.PublicKey) (claims : List Char) {signature : List Char} (dotless : '.' ∉ signature) :
    genuine key (String.ofList (signedPart
      (segment (Bytes.ofText (String.ofList (List.replicate opened '[')))) claims ++
        '.' :: signature)) = .error (.broken .nestedTooDeep) := by
  have ascii : Bytes.text? (Bytes.ofText (String.ofList (List.replicate opened '['))) =
      some (String.ofList (List.replicate opened '[')) := by
    refine Bytes.text?_ofText fun character member => ?_
    rw [String.toList_ofList] at member
    rw [List.eq_of_mem_replicate member]
    decide
  have unread : Json.read (String.ofList (List.replicate opened '[')) = .error .tooDeep := by
    simpa using Json.read_of_opened deep []
  have broken : object (Bytes.ofText (String.ofList (List.replicate opened '['))) =
      .error (.broken .nestedTooDeep) := by
    rw [object, ascii, present, ok_bind, unread]
  rw [genuine, String.toList_ofList, cutSignature?_append dotless, present, ok_bind]
  simp only [cutHeader?_append (dot_not_mem_segment _), present, ok_bind, bytes?_segment, broken,
    error_bind]

section Judged

variable {key : Rsa.PublicKey} {issuer audience : Json} {time : Double} {token : String}

theorem judge_eq_ok (judged : judge key issuer audience time token = .ok claims) :
    isComplete claims = true ∧ isOptionalText "sub" claims = true := by
  obtain ⟨found, _, judged⟩ := bind_eq_ok.mp judged
  obtain ⟨_, complete, judged⟩ := bind_eq_ok.mp judged
  obtain ⟨_, checked, judged⟩ := bind_eq_ok.mp judged
  cases judged
  obtain ⟨_, _, rest⟩ := bind_eq_ok.mp checked
  have conditions := require_eq_ok.mp rest
  simp only [Bool.and_eq_true] at conditions
  exact ⟨require_eq_ok.mp complete, conditions.1.2⟩

private theorem subject_of_judged (judged : judge key issuer audience time token = .ok claims) :
    ∃ subject, Json.fieldOf? "sub" claims = some (.text subject) := by
  obtain ⟨complete, text⟩ := judge_eq_ok judged
  simp only [isComplete, List.all_cons, List.all_nil, Bool.and_true, Bool.and_eq_true] at complete
  obtain ⟨_, _, present⟩ := complete
  cases found : Json.fieldOf? "sub" claims with
  | none => simp [hasValue, found] at present
  | some value =>
      cases value with
      | text subject => exact ⟨subject, rfl⟩
      | null => simp [hasValue, found] at present
      | bool | int | float | list | object => simp [isOptionalText, found] at text

end Judged

end Token

namespace TokenService

/-- What a service makes of a token at a time. -/
def judge (service : TokenService) (key : Rsa.PublicKey) (time : Double) (token : String) :
    Except Token.Rejection (List (String × Json)) :=
  Token.judge key service.issuer service.audience time token

section Verify

variable {service : TokenService} {files : KeyFiles} {key : Rsa.PublicKey} {audience : String}
  {now : Moment} {time : Double}

/-- A token gives the payload of the claims with which it is accepted. -/
theorem verify_eq (loaded : service.verifyingKey files = .ok key)
    (expects : service.audience = .text audience) (clock : now.timestamp = .ok time)
    (token : String) :
    service.verify files now token =
      Token.settle service.escaping (service.judge key time token) >>= fun accepted =>
        match accepted with
        | none => .ok none
        | some claims => (Token.payload claims).map some := by
  have listed : (service.audience.holds && service.audience.items?.isNone) = false := by
    rw [expects]
    exact Bool.and_false _
  rw [verify, loaded, ok_bind, judge, Token.judge, Token.settle_bind, bind_assoc]
  congr 1
  funext genuine
  cases genuine with
  | none => rfl
  | some claims =>
      simp only [Token.accepted, listed, clock, mapError_ok, ok_bind]
      cases Token.isComplete claims with
      | false => rfl
      | true => rfl

theorem verify_of_broken (loaded : service.verifyingKey files = .ok key)
    (expects : service.audience = .text audience) (clock : now.timestamp = .ok time)
    {token : String} {breakdown : Token.Breakdown}
    (broken : service.judge key time token = .error (.broken breakdown)) :
    service.verify files now token =
      if breakdown ∈ service.escaping then .error breakdown.fault else .ok none := by
  rw [verify_eq loaded expects clock token, broken, Token.settle]
  split <;> rfl

end Verify

/-! ## Claims of a shop -/

/-- Claims that hold in a shop from some time on, with any name, any roles and any end. -/
def shopClaims (name roles expiry : Json) : List (String × Json) :=
  [("sub", .text "u1"), ("name", name), ("roles", roles), ("aud", .text "shop"),
    ("iat", .int 1714521601), ("exp", expiry)]

/-- A quarter of an hour after the claims of a shop begin to hold. -/
def shopExpiry : Json :=
  .int 1714522501

private theorem readsBack_shopExpiry : Json.ReadsBack 979 shopExpiry :=
  .int (by decide +kernel)

private theorem readsBack_shopClaims {name roles expiry : Json}
    (nameReads : Json.ReadsBack 979 name)
    (rolesRead : Json.ReadsBack 979 roles) (expiryReads : Json.ReadsBack 979 expiry) :
    Json.ReadsBack Json.Reader.greatestDepth (.object (shopClaims name roles expiry)) := by
  have names : (shopClaims name roles expiry).map Prod.fst =
      ["sub", "name", "roles", "aud", "iat", "exp"] := rfl
  refine .object (by rw [names]; decide) ?_
  simp only [shopClaims, List.forall_mem_cons, List.not_mem_nil, false_implies, implies_true,
    and_true]
  exact ⟨.text _, nameReads, rolesRead, .text _, .int (by decide +kernel), expiryReads⟩

theorem timestamp_laterInMay :
    laterInMay.timestamp = .ok (Moment.secondsOf laterInMay.sinceEpoch) :=
  Moment.timestamp_of_offset rfl

section Shop

variable {name roles expiry : Json} {escaping : List Token.Breakdown} {token : String}

private theorem checkClaims_shopClaims (name roles expiry : Json) (time : Double) :
    Token.checkClaims (shopClaims name roles expiry) (.text "") (.text "shop") time = (do
      Token.require (!time.lessThanInt 1714521601)
      Token.checkTime [("exp", expiry)] "exp" time.lessThanInt) := by
  have times : Token.checkTimes (shopClaims name roles expiry) time = (do
      Token.require (!time.lessThanInt 1714521601)
      Token.checkTime [("exp", expiry)] "exp" time.lessThanInt) := rfl
  have others : (Token.acceptsIssuer (shopClaims name roles expiry) (.text "") &&
      Token.acceptsAudience (shopClaims name roles expiry) (.text "shop") &&
      Token.isOptionalText "sub" (shopClaims name roles expiry) &&
      Token.isOptionalText "jti" (shopClaims name roles expiry)) = true := rfl
  rw [Token.checkClaims, times, others]
  exact bind_pure _

theorem judge_mersenne (nameReads : Json.ReadsBack 979 name) (rolesRead : Json.ReadsBack 979 roles)
    (expiryReads : Json.ReadsBack 979 expiry)
    (written : Token.signed? Rsa.KeyNumbers.mersenne.privateKey (shopClaims name roles expiry) =
      some token) :
    ({ mersenne "" "shop" with escaping } : TokenService).judge Rsa.KeyNumbers.mersenne.publicKey
      (Moment.secondsOf laterInMay.sinceEpoch) token = do
        Token.require (Token.hasValue [("exp", expiry)] "exp")
        Token.checkTime [("exp", expiry)] "exp"
          (Moment.secondsOf laterInMay.sinceEpoch).lessThanInt
        return shopClaims name roles expiry := by
  have genuine := Token.genuine_signed? Rsa.KeyNumbers.areMates_mersenne
    (readsBack_shopClaims nameReads rolesRead expiryReads) written
  have begun : (Moment.secondsOf laterInMay.sinceEpoch).lessThanInt 1714521601 = false := by
    decide +kernel
  have complete : Token.isComplete (shopClaims name roles expiry) =
      (Token.hasValue [("exp", expiry)] "exp" && true) := rfl
  have issuer : ({ mersenne "" "shop" with escaping } : TokenService).issuer = .text "" := rfl
  have audience : ({ mersenne "" "shop" with escaping } : TokenService).audience =
      .text "shop" := rfl
  rw [judge, Token.judge, genuine, ok_bind, complete, Bool.and_true, issuer, audience,
    checkClaims_shopClaims, begun]
  rfl

theorem judge_mersenne_of_expiry (nameReads : Json.ReadsBack 979 name)
    (rolesRead : Json.ReadsBack 979 roles)
    (written : Token.signed? Rsa.KeyNumbers.mersenne.privateKey
      (shopClaims name roles shopExpiry) = some token) :
    (mersenne "" "shop").judge Rsa.KeyNumbers.mersenne.publicKey
      (Moment.secondsOf laterInMay.sinceEpoch) token = .ok (shopClaims name roles shopExpiry) := by
  have running : (Moment.secondsOf laterInMay.sinceEpoch).lessThanInt 1714522501 = true := by
    decide +kernel
  have checked (time : Double) : Token.checkTime [("exp", shopExpiry)] "exp" time.lessThanInt =
      Token.require (time.lessThanInt 1714522501) := rfl
  refine (@judge_mersenne name roles shopExpiry [] token nameReads rolesRead readsBack_shopExpiry
    written).trans ?_
  rw [checked, running]
  rfl

end Shop

/-- A token without claims and without a signature, whose header opens too many lists. -/
def deepToken : String :=
  String.ofList (Token.signedPart
    (Token.segment (Bytes.ofText (String.ofList (List.replicate 981 '[')))) [] ++ ['.'])

private theorem genuine_deepToken (key : Rsa.PublicKey) :
    Token.genuine key deepToken = .error (.broken .nestedTooDeep) :=
  Token.genuine_of_opened (by decide) key [] List.not_mem_nil

theorem exists_signed?_mersenne (claims : List (String × Json)) :
    ∃ token, Token.signed? Rsa.KeyNumbers.mersenne.privateKey claims = some token :=
  Token.exists_signed? (by decide +kernel) claims

end TokenService

namespace AuthGate

open TokenService

/-! ## Gates -/

theorem ofToken_eq {gate : AuthGate} {service : TokenService} {key : Rsa.PublicKey}
    {audience : String} {now : Moment} {time : Double} (verifies : gate.tokens = some service)
    (loaded : service.verifyingKey gate.files = .ok key)
    (expects : service.audience = .text audience) (clock : now.timestamp = .ok time)
    (token : String) :
    gate.ofToken token now =
      Token.settle service.escaping (service.judge key time token) >>= fun accepted =>
        match accepted with
        | none => .ok none
        | some claims => (Token.payload claims >>= Principal.ofToken).map some := by
  simp only [ofToken, verifies, verify_eq loaded expects clock token]
  rcases Token.settle_cases service.escaping (service.judge key time token) with
    ⟨claims, _, settled⟩ | ⟨breakdown, _, _, settled⟩ | ⟨_, _, settled⟩
  · rw [settled]
    rcases Token.payload_cases claims with unsuitable | ⟨payload, told⟩
    · simp only [ok_bind, unsuitable]
      rfl
    · simp only [ok_bind, told]
      rfl
  · rw [settled]
    cases breakdown <;> rfl
  · rw [settled]
    rfl

/-- A token gives no payload or one of the expected kinds exactly if it does not break down in a way
that escapes and the claims with which it is accepted are of these kinds.  A gate has an answer
exactly if sets can be made of the roles and the permissions instead, so in every such case.  There
is no payload exactly if the token is not accepted and nothing escapes. -/
theorem verifies_typed_iff {gate : AuthGate} {service : TokenService} {key : Rsa.PublicKey}
    {audience : String} {now : Moment} {time : Double} (verifies : gate.tokens = some service)
    (loaded : service.verifyingKey gate.files = .ok key)
    (expects : service.audience = .text audience) (clock : now.timestamp = .ok time)
    (token : String) :
    ((∃ answer, service.verify gate.files now token = .ok answer ∧
        ∀ payload ∈ answer, payload.IsTyped) ↔
      ¬ Token.BreaksDown service.escaping (service.judge key time token) ∧
        ∀ claims, service.judge key time token = .ok claims → Token.AreTyped claims) ∧
    ((∃ principal, gate.ofToken token now = .ok principal) ↔
      ¬ Token.BreaksDown service.escaping (service.judge key time token) ∧
        ∀ claims, service.judge key time token = .ok claims → Token.AreSettable claims) ∧
    ((∃ answer, service.verify gate.files now token = .ok answer ∧
        ∀ payload ∈ answer, payload.IsTyped) →
      ∃ principal, gate.ofToken token now = .ok principal) ∧
    (service.verify gate.files now token = .ok none ↔
      ¬ Token.BreaksDown service.escaping (service.judge key time token) ∧
        ∀ claims, service.judge key time token ≠ .ok claims) ∧
    (∀ breakdown ∈ service.escaping,
      service.judge key time token = .error (.broken breakdown) →
        service.verify gate.files now token = .error breakdown.fault ∧
        gate.ofToken token now = .error breakdown.fault) ∧
    ∀ payload, service.verify gate.files now token = .ok (some payload) →
      ∃ claims, service.judge key time token = .ok claims ∧
        Json.fieldOf? "sub" claims = some (.text payload.subject) := by
  rw [verify_eq loaded expects clock token, ofToken_eq verifies loaded expects clock token]
  rcases Token.settle_cases service.escaping (service.judge key time token) with
    ⟨claims, judged, settled⟩ | ⟨breakdown, escapes, judged, settled⟩ | ⟨refused, held, settled⟩
  · have complete := (Token.judge_eq_ok judged).1
    obtain ⟨subject, found⟩ := Token.subject_of_judged judged
    have runs : ¬ Token.BreaksDown service.escaping (service.judge key time token) := by
      rintro ⟨breakdown, _, broken⟩
      cases judged.symm.trans broken
    have typed := Token.some_payload_typed_iff complete
    have settable := @Token.some_payload_settable_iff claims
    simp only [settled, ok_bind, runs, not_false_eq_true, true_and]
    simp only [judged, Except.ok.injEq, forall_eq', exists_eq_left']
    refine ⟨typed, settable, fun answers => settable.mpr (typed.mp answers).areSettable, ?_, ?_, ?_⟩
    · simp [map_eq_ok]
    · rintro _ _ ⟨⟩
    · intro payload told
      obtain ⟨_, made, ⟨⟩⟩ := map_eq_ok.mp told
      obtain ⟨_, _, read, _⟩ := Token.payload_eq_ok made
      rw [found, read, found]
      rfl
  · have breaks : Token.BreaksDown service.escaping (service.judge key time token) :=
      ⟨breakdown, escapes, judged⟩
    simp only [settled, error_bind, breaks]
    simp only [judged]
    refine ⟨by simp, by simp, by simp, by simp, ?_, by simp⟩
    rintro _ _ ⟨⟩
    exact ⟨rfl, rfl⟩
  · have runs : ¬ Token.BreaksDown service.escaping (service.judge key time token) := by
      rintro ⟨breakdown, escapes, broken⟩
      exact held breakdown escapes broken
    simp only [settled, ok_bind, runs]
    refine ⟨by simp [refused], by simp [refused], by simp, by simp [refused], ?_, by simp⟩
    intro breakdown escapes broken
    exact absurd broken (held breakdown escapes)

theorem verifies_typed_of_reader :
    ∃ token, Token.signed? Rsa.KeyNumbers.mersenne.privateKey
        (shopClaims (.text "ann") (.texts ["reader"]) shopExpiry) = some token ∧
      ∃ answer, (mersenne "" "shop").verify (.ofKey .mersenne) laterInMay token = .ok answer ∧
        ∀ payload ∈ answer, payload.IsTyped := by
  obtain ⟨token, written⟩ :=
    exists_signed?_mersenne (shopClaims (.text "ann") (.texts ["reader"]) shopExpiry)
  have judged := judge_mersenne_of_expiry (.text _) (.texts _) written
  let gate : AuthGate :=
    { keys := { adminKeys := .empty }, tokens := some (mersenne "" "shop")
      files := .ofKey .mersenne }
  have verifies : gate.tokens = some (mersenne "" "shop") := rfl
  refine ⟨token, written, ?_⟩
  refine (verifies_typed_iff verifies verifyingKey_mersenne rfl timestamp_laterInMay token).1.mpr ?_
  rw [judged]
  refine ⟨by rintro ⟨_, _, ⟨⟩⟩, ?_⟩
  rintro _ ⟨⟩
  exact {
    name := by rintro _ ⟨⟩; exact ⟨_, rfl⟩
    email := by rintro _ ⟨⟩
    application := by rintro _ ⟨⟩
    roles := by rintro _ ⟨⟩; simp [Json.texts, Json.HasItems, IsText]
    permissions := by rintro _ ⟨⟩
    issuedAt := by rintro _ ⟨⟩; exact ⟨_, rfl⟩
    expiresAt := by rintro _ ⟨⟩; exact ⟨_, rfl⟩ }

/-- What a signed token tells is not checked.  A name that is a number is handed on, roles that are
a number make verification fail, and roles that are lists themselves make the gate fail.  Where
breakdowns escape, a time that is a list makes verification fail as well, and so does an unsigned
token whose header nests too deep. -/
theorem unchecked_claims :
    (∃ token payload, Token.signed? Rsa.KeyNumbers.mersenne.privateKey
          (shopClaims (.int 5) (.list []) shopExpiry) = some token ∧
        (mersenne "" "shop").verify (.ofKey .mersenne) laterInMay token = .ok (some payload) ∧
        ¬ payload.IsTyped) ∧
    (∃ token, Token.signed? Rsa.KeyNumbers.mersenne.privateKey
          (shopClaims (.text "ann") (.int 5) shopExpiry) = some token ∧
        (mersenne "" "shop").verify (.ofKey .mersenne) laterInMay token =
          .error .unsuitableValue) ∧
    (∃ token, Token.signed? Rsa.KeyNumbers.mersenne.privateKey
          (shopClaims (.text "ann") (.list [.list []]) shopExpiry) = some token ∧
        ∀ gate : AuthGate, gate.tokens = some (mersenne "" "shop") →
          gate.files = .ofKey .mersenne →
          gate.ofToken token laterInMay = .error .unsettableItems) ∧
    (∃ token, Token.signed? Rsa.KeyNumbers.mersenne.privateKey
          (shopClaims (.text "ann") (.list []) (.list [])) = some token ∧
        ∀ escaping, ({ mersenne "" "shop" with escaping } : TokenService).verify (.ofKey .mersenne)
            laterInMay token =
          if .unsuitableTime ∈ escaping then .error .unsuitableValue else .ok none) ∧
    ∀ escaping, ({ mersenne "" "shop" with escaping } : TokenService).verify (.ofKey .mersenne)
        laterInMay deepToken =
      if .nestedTooDeep ∈ escaping then .error .nestedTooDeep else .ok none := by
  have readsName : Json.ReadsBack 979 (.text "ann") := .text _
  have readsFive : Json.ReadsBack 979 (.int 5) := .int (by decide +kernel)
  have readsEmpty : Json.ReadsBack 979 (.list []) := .list (by simp)
  have readsNested : Json.ReadsBack 979 (.list [.list []]) := .list (by
    simp only [List.forall_mem_cons, List.not_mem_nil, false_implies, implies_true, and_true]
    exact .list (by simp))
  have loaded (escaping : List Token.Breakdown) :
      ({ mersenne "" "shop" with escaping } : TokenService).verifyingKey (.ofKey .mersenne) =
        .ok Rsa.KeyNumbers.mersenne.publicKey := @verifyingKey_mersenne "" "shop"
  refine ⟨?_, ?_, ?_, ?_, ?_⟩
  · obtain ⟨token, written⟩ := exists_signed?_mersenne (shopClaims (.int 5) (.list []) shopExpiry)
    obtain ⟨payload, verified, number⟩ : ∃ payload,
        (mersenne "" "shop").verify (.ofKey .mersenne) laterInMay token = .ok (some payload) ∧
          payload.name = .int 5 := by
      rw [verify_eq verifyingKey_mersenne rfl timestamp_laterInMay,
        judge_mersenne_of_expiry readsFive readsEmpty written]
      exact ⟨_, rfl, rfl⟩
    refine ⟨token, payload, written, verified, fun typed => ?_⟩
    obtain ⟨text, name⟩ := typed.name
    cases number.symm.trans name
  · obtain ⟨token, written⟩ :=
      exists_signed?_mersenne (shopClaims (.text "ann") (.int 5) shopExpiry)
    refine ⟨token, written, ?_⟩
    rw [verify_eq verifyingKey_mersenne rfl timestamp_laterInMay,
      judge_mersenne_of_expiry readsName readsFive written]
    rfl
  · obtain ⟨token, written⟩ :=
      exists_signed?_mersenne (shopClaims (.text "ann") (.list [.list []]) shopExpiry)
    refine ⟨token, written, ?_⟩
    intro gate verifies files
    rw [ofToken_eq verifies (files ▸ verifyingKey_mersenne) rfl timestamp_laterInMay,
      judge_mersenne_of_expiry readsName readsNested written]
    rfl
  · obtain ⟨token, written⟩ :=
      exists_signed?_mersenne (shopClaims (.text "ann") (.list []) (.list []))
    refine ⟨token, written, fun escaping => ?_⟩
    exact verify_of_broken (loaded escaping) rfl timestamp_laterInMay
      (judge_mersenne readsName readsEmpty readsEmpty written)
  · intro escaping
    refine verify_of_broken (loaded escaping) rfl timestamp_laterInMay ?_
    rw [judge, Token.judge, genuine_deepToken, error_bind]

end AuthGate

end AccessGate
