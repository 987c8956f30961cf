import AccessGate.Proofs.Key.Files
import AccessGate.Proofs.Outcome
import AccessGate.Proofs.Time.Timestamp
import AccessGate.Proofs.Token.Segments

/-!
# Verifying issued tokens

A token that one service issued is verified by another one with the matching key: it gives its
payload while it is valid, if the services agree on the issuer and the audience, and none otherwise.
-/

namespace AccessGate

/-- A user who is described in texts. -/
def User.ofTexts (id userName email : String) : User :=
  { id := .text id, userName := .text userName, email := .text email }

/-- What a token tells that describes its user in texts. -/
def TokenPayload.ofTexts (id userName email application : String)
    (roles permissions : List String) (issuedAt expiresAt : Int) : TokenPayload :=
  { subject := id, name := .text userName, email := .text email, application := .text application
    roles := roles.map .text, permissions := permissions.map .text, issuedAt := .int issuedAt
    expiresAt := .int expiresAt }

/-- Claims tell texts about a user of a tenant, in the name of an issuer and for an audience. -/
structure Claims.Tell (claims : Claims) (id userName email application : String)
    (roles permissions : List String) (issuer audience : String) : Prop where
  user : claims.user = .ofTexts id userName email
  application : claims.application = .text application
  roles : claims.roles = roles.map .text
  permissions : claims.permissions = permissions.map .text
  issuer : claims.issuer = .text issuer
  audience : claims.audience = .text audience

namespace Token

variable {id issuer audience : String}

/-! ## Fields -/

private theorem readsBack_header : Json.ReadsBack Json.Reader.greatestDepth header := by
  refine .object (by decide) ?_
  simp only [List.forall_mem_cons, List.not_mem_nil, false_implies, implies_true, and_true]
  exact ⟨.text _, .text _, .text _⟩

/-- The names of the fields of claims, in their order. -/
def claimNames : List String :=
  ["sub", "name", "preferred_username", "email", "app", "roles", "permissions", "iss", "aud", "iat",
    "nbf", "exp"]

private theorem fields_names (claims : Claims) : claims.fields.map Prod.fst = claimNames :=
  rfl

private theorem readsBack_fields {claims : Claims} {id userName email application : String}
    {roles permissions : List String} {issuer audience : String}
    (tell : claims.Tell id userName email application roles permissions issuer audience)
    (issued : (Double.digitsOf claims.issuedAt.natAbs).length ≤ Json.Reader.integerDigits)
    (expires : (Double.digitsOf claims.expiresAt.natAbs).length ≤ Json.Reader.integerDigits) :
    Json.ReadsBack Json.Reader.greatestDepth (.object claims.fields) := by
  refine .object (by rw [fields_names]; decide) ?_
  simp only [Claims.fields, User.ofTexts, tell.user, tell.application, tell.roles,
    tell.permissions, tell.issuer, tell.audience, List.forall_mem_cons, List.not_mem_nil,
    false_implies, implies_true, and_true]
  exact ⟨.text _, .text _, .text _, .text _, .text _, .texts _, .texts _, .text _, .text _,
    .int issued, .int issued, .int expires⟩

/-! ## Refusals -/

private theorem require_bind {α : Type} (condition : Bool) (next : Unit → Except Rejection α) :
    require condition >>= next = if condition then next () else .error .refused := by
  cases condition <;> rfl

theorem require_bind_require (first second : Bool) :
    (do require first; require second) = require (first && second) := by
  cases first <;> rfl

/-! ## Genuine tokens -/

/-- A token with any fields, signed with a key that is long enough. -/
def signed? (key : Rsa.PrivateKey) (fields : List (String × Json)) : Option String :=
  let part := signedPart (jsonSegment header) (jsonSegment (.object fields))
  (Rsa.sign? key (signedBytes part)).map fun signature =>
    String.ofList (part ++ '.' :: segment signature)

theorem genuine_signed? {signing : Rsa.PrivateKey} {verifying : Rsa.PublicKey}
    {fields : List (String × Json)} {token : String} (mates : Rsa.AreMates signing verifying)
    (readsBack : Json.ReadsBack Json.Reader.greatestDepth (.object fields))
    (written : signed? signing fields = some token) :
    genuine verifying token = .ok fields := by
  obtain ⟨signature, signed, rfl⟩ := Option.map_eq_some_iff.mp written
  have headed : object (Bytes.ofText (Json.write .compact header)) = .ok [("alg", .text "RS256"),
      ("kid", .text "authsmith-key-1"), ("typ", .text "JWT")] :=
    object_ofText_write readsBack_header
  have accepted : acceptsHeader [("alg", .text "RS256"), ("kid", .text "authsmith-key-1"),
      ("typ", .text "JWT")] = true := by decide
  simp only [genuine, String.toList_ofList, cutSignature?_append (dot_not_mem_segment _),
    cutHeader?_append (dot_not_mem_jsonSegment _), present, ok_bind, bytes?_jsonSegment,
    bytes?_segment, headed, accepted, mates _ _ signed, Bool.and_self, require, if_true,
    object_ofText_write readsBack]

private theorem genuine_write? {signing : Rsa.PrivateKey} {verifying : Rsa.PublicKey}
    {claims : Claims}
    {token : String} (mates : Rsa.AreMates signing verifying)
    (readsBack : Json.ReadsBack Json.Reader.greatestDepth (.object claims.fields))
    (written : write? signing claims = some token) :
    genuine verifying token = .ok claims.fields :=
  genuine_signed? mates readsBack written

theorem exists_signed? {key : Rsa.PrivateKey} (long : Rsa.leastLength ≤ Bytes.width key.modulus)
    (fields : List (String × Json)) : ∃ token, signed? key fields = some token := by
  rw [signed?, Rsa.sign?, Rsa.length?, if_pos long]
  exact ⟨_, rfl⟩

/-! ## Acceptable claims -/

section Acceptance

variable {claims : Claims}

private theorem isComplete_fields (subject : claims.user.id = .text id) :
    isComplete claims.fields = true := by
  have read : isComplete claims.fields = (hasValue [("sub", claims.user.id)] "sub" && true) := rfl
  rw [read, subject]
  rfl

private theorem checkTimes_fields (claims : Claims) (time : Double) :
    checkTimes claims.fields time =
      require (!time.lessThanInt claims.issuedAt && time.lessThanInt claims.expiresAt) := by
  have read : checkTimes claims.fields time = (do
      require (!time.lessThanInt claims.issuedAt)
      require (!time.lessThanInt claims.issuedAt)
      require (time.lessThanInt claims.expiresAt)) := rfl
  rw [read, require_bind_require, require_bind_require, ← Bool.and_assoc, Bool.and_self]

private theorem acceptsIssuer_fields (named : claims.issuer = .text issuer) (wanted : String) :
    acceptsIssuer claims.fields (.text wanted) = decide (wanted = "" ∨ wanted = issuer) := by
  have read : acceptsIssuer claims.fields (.text wanted) =
      acceptsIssuer [("iss", claims.issuer)] (.text wanted) := rfl
  rw [read, named, Bool.eq_iff_iff, decide_eq_true_iff]
  by_cases empty : wanted = ""
  · subst empty
    simp [acceptsIssuer, Json.holds]
  · simp [acceptsIssuer, Json.holds, Json.fieldOf?, isWanted, empty]
    exact eq_comm

private theorem acceptsAudience_fields (named : claims.audience = .text audience)
    (wanted : String) :
    acceptsAudience claims.fields (.text wanted) = decide (wanted = audience) := by
  have read : acceptsAudience claims.fields (.text wanted) =
      acceptsAudience [("aud", claims.audience)] (.text wanted) := rfl
  rw [read, named, Bool.eq_iff_iff, decide_eq_true_iff]
  by_cases empty : wanted = ""
  · subst empty
    simp [acceptsAudience, Json.holds, Json.fieldOf?]
  · simp [acceptsAudience, Json.holds, Json.fieldOf?, isWanted, empty]
    exact eq_comm

/-- Claims are accepted while they are valid, by whoever asks for no other issuer and for their
audience. -/
theorem accepted_fields (subject : claims.user.id = .text id)
    (issued : claims.issuer = .text issuer) (meant : claims.audience = .text audience)
    {later : Moment} {time : Double} (clock : later.timestamp = .ok time)
    (escaping : List Breakdown) (wantedIssuer wantedAudience : String) :
    accepted escaping (.text wantedIssuer) (.text wantedAudience) later claims.fields =
      .ok (if time.lessThanInt claims.issuedAt = false ∧ time.lessThanInt claims.expiresAt = true ∧
          (wantedIssuer = "" ∨ wantedIssuer = issuer) ∧ wantedAudience = audience
        then some claims.fields else none) := by
  have texts : isOptionalText "sub" claims.fields = true ∧
      isOptionalText "jti" claims.fields = true := by
    have read : isOptionalText "sub" claims.fields =
        isOptionalText "sub" [("sub", claims.user.id)] := rfl
    rw [read, subject]
    exact ⟨rfl, rfl⟩
  have checked : checkClaims claims.fields (.text wantedIssuer) (.text wantedAudience) time =
      require (decide (time.lessThanInt claims.issuedAt = false ∧
        time.lessThanInt claims.expiresAt = true ∧ (wantedIssuer = "" ∨ wantedIssuer = issuer) ∧
        wantedAudience = audience)) := by
    rw [checkClaims, checkTimes_fields, require_bind_require, acceptsIssuer_fields issued,
      acceptsAudience_fields meant, texts.1, texts.2]
    congr 1
    rw [Bool.eq_iff_iff]
    simp [and_assoc]
  have listed : ((Json.text wantedAudience).holds && (Json.text wantedAudience).items?.isNone) =
      false := Bool.and_false _
  rw [accepted, listed, isComplete_fields subject, clock]
  simp only [Bool.false_eq_true, if_false, Bool.not_true, mapError_ok]
  rw [ok_bind, checked, require_bind]
  simp only [decide_eq_true_iff]
  split <;> rfl

private theorem payload_fields (subject : claims.user.id = .text id) :
    payload claims.fields =
      .ok { subject := id, name := claims.user.userName, email := claims.user.email
            application := claims.application, roles := claims.roles
            permissions := claims.permissions, issuedAt := .int claims.issuedAt
            expiresAt := .int claims.expiresAt } := by
  have read : payload claims.fields =
      .ok { subject := (claims.user.id.text?).getD "", name := claims.user.userName
            email := claims.user.email, application := claims.application, roles := claims.roles
            permissions := claims.permissions, issuedAt := .int claims.issuedAt
            expiresAt := .int claims.expiresAt } := rfl
  rw [read, subject]
  rfl

end Acceptance

end Token

namespace TokenService

/-! ## Issuing -/

theorem sortedItems_texts (texts : List String) :
    sortedItems (.texts texts) = .ok ((Text.sorted texts).map .text) := by
  have all : (texts.map Json.text).mapM Json.text? = some texts := by
    induction texts with
    | nil => simp
    | cons text texts induction => simp [induction, Json.text?]
  rw [sortedItems, Json.texts, Json.items?, Option.bind_some, Json.sorted?, all]

private theorem claims_eq_ok {service : TokenService} {issuer audience : String}
    (issues : service.issuer = .text issuer) (means : service.audience = .text audience)
    {now : Moment} {id userName email application : String} {roles permissions : List String}
    {claims : Claims}
    (told : service.claims now (.ofTexts id userName email) (.text application) (.texts roles)
      (.texts permissions) = .ok claims) :
    claims.Tell id userName email application (Text.sorted roles) (Text.sorted permissions) issuer
        audience ∧
      now.unixSeconds = .ok claims.issuedAt ∧ service.expiresAt now = .ok claims.expiresAt := by
  rw [TokenService.claims, sortedItems_texts, sortedItems_texts, ok_bind, ok_bind] at told
  obtain ⟨issuedAt, counted, told⟩ := bind_eq_ok.mp told
  obtain ⟨expiresAt, expiry, told⟩ := bind_eq_ok.mp told
  cases told
  exact ⟨⟨rfl, rfl, rfl, rfl, issues, means⟩, mapError_eq_ok.mp counted, expiry⟩

/-- A token expires in the whole seconds of a moment that is a span after it was issued. -/
theorem expiresAt_eq_ok {service : TokenService} {now : Moment} {expiresAt : Int}
    (expires : service.expiresAt now = .ok expiresAt) :
    ∃ lifetime span, service.lifetime = some lifetime ∧
      lifetime.micros microsPerMinute = .ok span ∧
      ∃ expiry : Moment, expiry.sinceEpoch = now.sinceEpoch + span ∧
        expiry.unixSeconds = .ok expiresAt := by
  rw [TokenService.expiresAt] at expires
  cases known : service.lifetime with
  | none =>
      rw [known] at expires
      cases expires
  | some lifetime =>
      rw [known] at expires
      obtain ⟨span, spanned, expires⟩ := bind_eq_ok.mp expires
      obtain ⟨expiry, moved, expires⟩ := bind_eq_ok.mp expires
      have instant := (Moment.addMicros_eq_ok (mapError_eq_ok.mp moved)).1
      refine ⟨lifetime, span, rfl, mapError_eq_ok.mp spanned, expiry, ?_,
        mapError_eq_ok.mp expires⟩
      rw [Moment.sinceEpoch, Moment.sinceEpoch, instant]
      omega

theorem length_digitsOf_unixSeconds {moment : Moment} {seconds : Int}
    (counted : moment.unixSeconds = .ok seconds) :
    (Double.digitsOf seconds.natAbs).length ≤ Json.Reader.integerDigits := by
  have bounded := natAbs_lt_of_isWholeSeconds (Moment.isWholeSeconds_unixSeconds counted)
    moment.natAbs_sinceEpoch_lt
  have short : (Nat.toDigits 10 seconds.natAbs).length ≤ 20 :=
    (Nat.length_toDigits_le_iff (by decide) (by decide)).mpr (Nat.lt_trans bounded (by decide))
  exact Nat.le_trans short (by decide)

/-- An issued token consists of claims that were signed. -/
theorem issue_eq_ok_iff {service : TokenService} {files : KeyFiles} {now : Moment} {user : User}
    {application roles permissions : Json} {key : Rsa.PrivateKey} {token : String}
    (loaded : KeyStore.load files .signing service.signingKeyPath KeyStore.privateKey = .ok key) :
    service.issue files now user application roles permissions = .ok token ↔
      ∃ claims, service.claims now user application roles permissions = .ok claims ∧
        claims.issuer.text?.isSome = true ∧ Token.write? key claims = some token := by
  rw [issue, bind_eq_ok]
  refine exists_congr fun claims => and_congr_right fun _ => ?_
  rw [loaded, ok_bind]
  cases claims.issuer.text? with
  | none => exact iff_of_false (by rintro ⟨⟩) fun both => nomatch both.1
  | some name =>
      cases Token.write? key claims with
      | none => exact iff_of_false (by rintro ⟨⟩) fun both => nomatch both.2
      | some written =>
          constructor
          · rintro ⟨⟩
            exact ⟨rfl, rfl⟩
          · rintro ⟨_, ⟨⟩⟩
            rfl

private theorem issue_returns {service : TokenService} {files : KeyFiles} {key : Rsa.PrivateKey}
    (loaded : KeyStore.load files .signing service.signingKeyPath KeyStore.privateKey = .ok key)
    (long : Rsa.leastLength ≤ Bytes.width key.modulus) {issuer : String}
    (issues : service.issuer = .text issuer) {now : Moment} {user : User}
    {application roles permissions : Json} {claims : Claims}
    (told : service.claims now user application roles permissions = .ok claims) :
    ∃ token, service.issue files now user application roles permissions = .ok token := by
  have named : claims.issuer = service.issuer := by
    obtain ⟨_, _, told⟩ := bind_eq_ok.mp told
    obtain ⟨_, _, told⟩ := bind_eq_ok.mp told
    obtain ⟨_, _, told⟩ := bind_eq_ok.mp told
    obtain ⟨_, _, told⟩ := bind_eq_ok.mp told
    cases told
    rfl
  have signs : ∃ token, Token.write? key claims = some token :=
    Token.exists_signed? long claims.fields
  obtain ⟨token, written⟩ := signs
  exact ⟨token, (issue_eq_ok_iff loaded).mpr ⟨claims, told, by rw [named, issues]; rfl, written⟩⟩

/-! ## Verifying -/

theorem verify_of_issue {issuing asking : TokenService} {signingFiles verifyingFiles : KeyFiles}
    {signing : Rsa.PrivateKey} {verifying : Rsa.PublicKey} (mates : Rsa.AreMates signing verifying)
    {issuer audience wantedIssuer wantedAudience : String}
    (issues : issuing.issuer = .text issuer) (means : issuing.audience = .text audience)
    (wants : asking.issuer = .text wantedIssuer) (expects : asking.audience = .text wantedAudience)
    (loaded : KeyStore.load signingFiles .signing issuing.signingKeyPath KeyStore.privateKey =
      .ok signing)
    (found : asking.verifyingKey verifyingFiles = .ok verifying)
    {now later : Moment} {time : Double} (clock : later.timestamp = .ok time)
    {id userName email application token : String} {roles permissions : List String}
    (issued : issuing.issue signingFiles now (.ofTexts id userName email) (.text application)
      (.texts roles) (.texts permissions) = .ok token) :
    ∃ issuedAt expiresAt, now.unixSeconds = .ok issuedAt ∧ issuing.expiresAt now = .ok expiresAt ∧
      asking.verify verifyingFiles later token =
        .ok (if time.lessThanInt issuedAt = false ∧ time.lessThanInt expiresAt = true ∧
            (wantedIssuer = "" ∨ wantedIssuer = issuer) ∧ wantedAudience = audience
          then some (.ofTexts id userName email application (Text.sorted roles)
            (Text.sorted permissions) issuedAt expiresAt)
          else none) := by
  obtain ⟨claims, told, _, written⟩ := (issue_eq_ok_iff loaded).mp issued
  obtain ⟨tell, counted, expires⟩ := claims_eq_ok issues means told
  obtain ⟨_, _, _, _, expiry, _, expiryCounted⟩ := expiresAt_eq_ok expires
  have readsBack := Token.readsBack_fields tell (length_digitsOf_unixSeconds counted)
    (length_digitsOf_unixSeconds expiryCounted)
  have subject : claims.user.id = .text id := by rw [tell.user]; rfl
  refine ⟨claims.issuedAt, claims.expiresAt, counted, expires, ?_⟩
  rw [verify, found, ok_bind, Token.genuine_write? mates readsBack written, Token.settle, ok_bind]
  simp only [wants, expects]
  rw [Token.accepted_fields subject tell.issuer tell.audience clock, ok_bind]
  by_cases accepts : time.lessThanInt claims.issuedAt = false ∧
      time.lessThanInt claims.expiresAt = true ∧ (wantedIssuer = "" ∨ wantedIssuer = issuer) ∧
      wantedAudience = audience
  · simp only [if_pos accepts, Token.payload_fields subject, tell.user, tell.application,
      tell.roles, tell.permissions]
    rfl
  · simp only [if_neg accepts]
    rfl

/-! ## Services with the files of a key -/

/-- A service with the files of a key with a Mersenne prime, whose tokens last for a quarter of an
hour. -/
def mersenne (issuer audience : String) : TokenService where
  signingKeyPath := .text "private.pem"
  verifyingKeyPath := .text "public.pem"
  issuer := .text issuer
  audience := .text audience
  lifetime := some (.whole 15)

section Mersenne

variable {issuer audience : String}

theorem load_mersenne :
    KeyStore.load (.ofKey .mersenne) .signing (mersenne issuer audience).signingKeyPath
      KeyStore.privateKey = .ok Rsa.KeyNumbers.mersenne.privateKey :=
  KeyStore.load_private Rsa.KeyNumbers.isSound_mersenne (by decide +kernel)

theorem verifyingKey_mersenne :
    (mersenne issuer audience).verifyingKey (.ofKey .mersenne) =
      .ok Rsa.KeyNumbers.mersenne.publicKey :=
  KeyStore.load_public (by decide +kernel) (by decide +kernel)

theorem micros_mersenne {lifetime : Quantity} {span : Int}
    (known : (mersenne issuer audience).lifetime = some lifetime)
    (spanned : lifetime.micros microsPerMinute = .ok span) : span = 900000000 := by
  have whole : (Quantity.whole 15).micros microsPerMinute = .ok 900000000 := by decide +kernel
  cases known
  rw [whole] at spanned
  exact (Except.ok.inj spanned).symm

theorem issue_mersenne {now : Moment} {user : User} {application roles permissions : Json}
    (told : ((mersenne issuer audience).claims now user application roles
      permissions).toOption.isSome = true) :
    ∃ token, (mersenne issuer audience).issue (.ofKey .mersenne) now user application roles
      permissions = .ok token := by
  cases known : (mersenne issuer audience).claims now user application roles permissions with
  | error failure =>
      rw [known] at told
      cases told
  | ok claims =>
      have long : Rsa.leastLength ≤ Bytes.width Rsa.KeyNumbers.mersenne.privateKey.modulus := by
        decide +kernel
      exact issue_returns load_mersenne long rfl known

end Mersenne

/-- One and a half seconds into May of 2024. -/
def inMay : Moment where
  wall := CalendarDate.dayNumber ⟨2024, 5, 1⟩ * microsPerDay + 1500000
  offset := some .universal
  wall_lt := by decide +kernel

/-- Five minutes into May of 2024. -/
def laterInMay : Moment where
  wall := CalendarDate.dayNumber ⟨2024, 5, 1⟩ * microsPerDay + 300000000
  offset := some .universal
  wall_lt := by decide +kernel

/-- The last microsecond of the first second of 2600. -/
def lateMoment : Moment where
  wall := CalendarDate.dayNumber ⟨2600, 1, 1⟩ * microsPerDay + 999999
  offset := some .universal
  wall_lt := by decide +kernel

/-! ## Issued tokens -/

/-- An issued token gives its payload from the second in which it was issued until the one in which
it expires, to a service that asks for the same audience, and for the same issuer or for none. -/
theorem verify_issued {issuing asking : TokenService} {signingFiles verifyingFiles : KeyFiles}
    {signing : Rsa.PrivateKey} {verifying : Rsa.PublicKey} (mates : Rsa.AreMates signing verifying)
    {issuer audience wantedIssuer wantedAudience : String}
    (issues : issuing.issuer = .text issuer) (means : issuing.audience = .text audience)
    (wants : asking.issuer = .text wantedIssuer) (expects : asking.audience = .text wantedAudience)
    (loaded : KeyStore.load signingFiles .signing issuing.signingKeyPath KeyStore.privateKey =
      .ok signing)
    (found : asking.verifyingKey verifyingFiles = .ok verifying)
    {now later : Moment} {time : Double} (clock : later.timestamp = .ok time)
    {id userName email application token : String} {roles permissions : List String}
    (issued : issuing.issue signingFiles now (.ofTexts id userName email) (.text application)
      (.texts roles) (.texts permissions) = .ok token) :
    ∃ lifetime span issuedAt expiresAt, issuing.lifetime = some lifetime ∧
      lifetime.micros microsPerMinute = .ok span ∧
      issuedAt = Moment.wholeSeconds now.sinceEpoch ∧ IsWholeSeconds now.sinceEpoch issuedAt ∧
      expiresAt = Moment.wholeSeconds (now.sinceEpoch + span) ∧
      IsWholeSeconds (now.sinceEpoch + span) expiresAt ∧
      asking.verify verifyingFiles later token =
        .ok (if time.lessThanInt issuedAt = false ∧ time.lessThanInt expiresAt = true ∧
            (wantedIssuer = "" ∨ wantedIssuer = issuer) ∧ wantedAudience = audience
          then some (.ofTexts id userName email application (Text.sorted roles)
            (Text.sorted permissions) issuedAt expiresAt)
          else none) := by
  obtain ⟨issuedAt, expiresAt, counted, expires, verified⟩ :=
    verify_of_issue mates issues means wants expects loaded found clock issued
  obtain ⟨lifetime, span, known, spanned, expiry, moved, expiryCounted⟩ := expiresAt_eq_ok expires
  have issuedWhole := Moment.isWholeSeconds_unixSeconds counted
  have expiresWhole := Moment.isWholeSeconds_unixSeconds expiryCounted
  rw [moved] at expiresWhole
  refine ⟨lifetime, span, issuedAt, expiresAt, known, spanned, Moment.unixSeconds_eq_ok counted,
    issuedWhole, ?_, expiresWhole, verified⟩
  rw [← moved]
  exact Moment.unixSeconds_eq_ok expiryCounted

theorem verify_issued_within_minutes :
    ∃ token,
      (mersenne "gate" "shop").issue (.ofKey .mersenne) inMay (.ofTexts "u1" "ann" "ann@shop.org")
          (.text "shop") (.texts ["reader", "admin", "reader"]) (.texts []) = .ok token ∧
        (mersenne "" "shop").verify (.ofKey .mersenne) laterInMay token =
          .ok (some (.ofTexts "u1" "ann" "ann@shop.org" "shop" ["admin", "reader", "reader"] []
            1714521601 1714522501)) := by
  obtain ⟨token, issued⟩ : ∃ token, (mersenne "gate" "shop").issue (.ofKey .mersenne) inMay
      (.ofTexts "u1" "ann" "ann@shop.org") (.text "shop") (.texts ["reader", "admin", "reader"])
      (.texts []) = .ok token :=
    issue_mersenne (by decide +kernel)
  have clock : laterInMay.timestamp = .ok (Moment.secondsOf laterInMay.sinceEpoch) :=
    Moment.timestamp_of_offset rfl
  have wants : (mersenne "" "shop").issuer = .text "" := rfl
  have expects : (mersenne "" "shop").audience = .text "shop" := rfl
  obtain ⟨lifetime, span, issuedAt, expiresAt, known, spanned, counted, _, expires, _, verified⟩ :=
    verify_issued Rsa.KeyNumbers.areMates_mersenne rfl rfl wants expects load_mersenne
      verifyingKey_mersenne clock issued
  have issuedAt_eq : issuedAt = 1714521601 := counted.trans (by decide +kernel)
  have expiresAt_eq : expiresAt = 1714522501 := by
    rw [expires, micros_mersenne known spanned]
    decide +kernel
  have roles : Text.sorted ["reader", "admin", "reader"] = ["admin", "reader", "reader"] := by
    simp [Text.sorted, List.mergeSort]
  have permissions : Text.sorted [] = [] := List.mergeSort_nil
  have valid : (Moment.secondsOf laterInMay.sinceEpoch).lessThanInt 1714521601 = false ∧
      (Moment.secondsOf laterInMay.sinceEpoch).lessThanInt 1714522501 = true := by
    decide +kernel
  refine ⟨token, issued, ?_⟩
  rw [verified, issuedAt_eq, expiresAt_eq, roles, permissions,
    if_pos ⟨valid.1, valid.2, .inl rfl, rfl⟩]

/-- Centuries from now, a token may tell the second after the one in which it was issued. -/
theorem issued_in_next_second :
    Rsa.AreMates Rsa.KeyNumbers.mersenne.privateKey Rsa.KeyNumbers.mersenne.publicKey ∧
      ∃ token payload,
        (mersenne "gate" "shop").issue (.ofKey .mersenne) lateMoment
            (.ofTexts "u1" "ann" "ann@shop.org") (.text "shop") (.texts []) (.texts []) =
              .ok token ∧
          (mersenne "gate" "shop").verify (.ofKey .mersenne) lateMoment token = .ok (some payload) ∧
          lateMoment.sinceEpoch.tdiv microsPerSecond = 19880899200 ∧
          payload.issuedAt = .int 19880899201 := by
  obtain ⟨token, issued⟩ : ∃ token, (mersenne "gate" "shop").issue (.ofKey .mersenne) lateMoment
      (.ofTexts "u1" "ann" "ann@shop.org") (.text "shop") (.texts []) (.texts []) = .ok token :=
    issue_mersenne (by decide +kernel)
  have clock : lateMoment.timestamp = .ok (Moment.secondsOf lateMoment.sinceEpoch) :=
    Moment.timestamp_of_offset rfl
  have wants : (mersenne "gate" "shop").issuer = .text "gate" := rfl
  have expects : (mersenne "gate" "shop").audience = .text "shop" := rfl
  obtain ⟨issuedAt, expiresAt, counted, expires, verified⟩ :=
    verify_of_issue Rsa.KeyNumbers.areMates_mersenne rfl rfl wants expects load_mersenne
      verifyingKey_mersenne clock issued
  obtain ⟨lifetime, span, known, spanned, expiry, moved, expiryCounted⟩ := expiresAt_eq_ok expires
  have issuedAt_eq : issuedAt = 19880899201 :=
    (Moment.unixSeconds_eq_ok counted).trans (by decide +kernel)
  have expiresAt_eq : expiresAt = 19880900101 := by
    rw [Moment.unixSeconds_eq_ok expiryCounted, moved, micros_mersenne known spanned]
    decide +kernel
  have valid : (Moment.secondsOf lateMoment.sinceEpoch).lessThanInt 19880899201 = false ∧
      (Moment.secondsOf lateMoment.sinceEpoch).lessThanInt 19880900101 = true := by
    decide +kernel
  rw [issuedAt_eq, expiresAt_eq, if_pos ⟨valid.1, valid.2, .inr rfl, rfl⟩] at verified
  exact ⟨Rsa.KeyNumbers.areMates_mersenne, token, _, issued, verified, by decide +kernel, rfl⟩

end TokenService

end AccessGate
