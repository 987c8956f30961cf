import AccessGate.Collection.TextSet
import AccessGate.Http.Request
import AccessGate.RateLimit.Window
import AccessGate.Settings.Basic
import AccessGate.Text.Blank
import AccessGate.Text.Split

/-!
# Rate limit rules

The rules tell which policy applies to a path, who a client is, and who is exempt from limits.
-/

namespace AccessGate

/-- Rules as far as they differ from the settings.  A limit or a window of zero does not differ. -/
structure RuleOptions where
  generalLimit : Option Int := none
  signInLimit : Option Int := none
  registrationLimit : Option Int := none
  passwordResetLimit : Option Int := none
  windowSeconds : Option Quantity := none
  exemptIps : Option (List String) := none
  exemptKeys : Option (List String) := none

/-- The policies by kind of path, and the exemptions. -/
structure Rules where
  general : Policy
  signIn : Policy
  registration : Policy
  passwordReset : Policy
  exemptIps : TextSet
  exemptKeys : TextSet

namespace Rules

/-- The window of registrations and password resets. -/
def hourSeconds : Quantity := .whole 3600

/-- An option, or the default where it is missing or zero. -/
def chosen (option : Option Int) (default : Int) : Int :=
  match option with
  | some value => if value = 0 then default else value
  | none => default

def ofOptions (settings : Settings) (options : RuleOptions) : Rules :=
  let window := Quantity.chosen options.windowSeconds (.whole settings.limitWindow)
  { general := ⟨chosen options.generalLimit settings.generalLimit, window⟩
    signIn := ⟨chosen options.signInLimit settings.signInLimit, window⟩
    registration := ⟨chosen options.registrationLimit settings.registrationLimit, hourSeconds⟩
    passwordReset := ⟨chosen options.passwordResetLimit settings.passwordResetLimit, hourSeconds⟩
    exemptIps := .ofList (options.exemptIps.getD settings.exemptIps)
    exemptKeys := .ofList (options.exemptKeys.getD settings.exemptKeys) }

/-- The policy for a path, by the first matching part of its lower-case form. -/
def policyFor (rules : Rules) (path : String) : Policy :=
  let path := Text.lowerCharacters path.toList
  let mentions (part : String) : Bool := Text.occursIn part.toList path
  if mentions "/auth/login" || mentions "/auth/refresh" then rules.signIn
  else if mentions "/auth/register" then rules.registration
  else if mentions "/password-reset" then rules.passwordReset
  else rules.general

/-- The first address that a list of forwarding hops names, unless it is blank. -/
def firstHop? (hops : String) : Option String :=
  let first := String.ofList (Text.trimCharacters (hops.toList.takeWhile (· ≠ ',')))
  if first.isEmpty then none else some first

/-- The address of a client: the first forwarding hop, else the address that a proxy reports, else
the peer. -/
def clientIp (request : Request) : String :=
  match (request.header? "x-forwarded-for").bind firstHop? with
  | some hop => hop
  | none =>
      match request.header? "x-real-ip" with
      | some ip => if ip.isEmpty then peer else Text.trim ip
      | none => peer
where
  /-- The peer's address. -/
  peer : String := request.peer.getD "unknown"

/-- The API key that a request presents in its own header, unless it is empty. -/
def presentedKey? (request : Request) : Option String :=
  (request.header? "x-api-key").filter fun key => !key.isEmpty

/-- The name under which a client is counted: its address, and the start of its API key. -/
def clientName (request : Request) : String :=
  match presentedKey? request with
  | some key => clientIp request ++ ":" ++ String.ofList (key.toList.take 8)
  | none => clientIp request

/-- Whether a request is exempt from limits. -/
def exempts (rules : Rules) (request : Request) : Bool :=
  clientIp request ∈ rules.exemptIps ||
    ((presentedKey? request).map fun key => decide (key ∈ rules.exemptKeys)).getD false

end Rules

end AccessGate
