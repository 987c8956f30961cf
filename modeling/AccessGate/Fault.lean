import AccessGate.Json.Convert
import AccessGate.Json.Display
import AccessGate.Time.Moment

/-!
# Faults

A service fault is an expected failure: it has a code, a message that callers may see, an optional
detail that they may not see, and a debug id by which support finds it.  These are texts as a rule,
but any values are kept as they were given.  The kind settles the status that callers are answered
with.  All other faults are causes that only the caller's program
sees.
-/

namespace AccessGate

/-- The kinds of service faults. -/
inductive FaultKind where
  | service
  | retryable
  | terminal
  | notFound
  | conflict
  | invalidInput
  | unavailable
  | signingKey
  | keySourceNotConfigured
  | keyFileMissing
  deriving DecidableEq, Repr

namespace FaultKind

/-- The kind that a kind specialises. -/
def general? : FaultKind → Option FaultKind
  | service => none
  | retryable | terminal => some service
  | notFound | conflict | invalidInput | signingKey => some terminal
  | unavailable => some retryable
  | keySourceNotConfigured | keyFileMissing => some signingKey

/-- A kind and the kinds it specialises, step by step. -/
def lineage (kind : FaultKind) : List FaultKind :=
  kind :: match kind.general? with
    | none => []
    | some general => general :: match general.general? with
      | none => []
      | some broader => broader :: broader.general?.toList

def name : FaultKind → String
  | service => "ServiceError"
  | retryable => "RetryableError"
  | terminal => "TerminalError"
  | notFound => "NotFoundError"
  | conflict => "ConflictError"
  | invalidInput => "InputValidationError"
  | unavailable => "InfrastructureUnavailableError"
  | signingKey => "SigningKeyError"
  | keySourceNotConfigured => "KeySourceNotConfiguredError"
  | keyFileMissing => "KeyFileMissingError"

/-- The status that callers are answered with. -/
def status : FaultKind → Nat
  | retryable | unavailable => 503
  | notFound => 404
  | conflict => 409
  | invalidInput => 400
  | _ => 500

/-- Whether a fault of a kind goes away by itself, where the kind settles that. -/
def retryable? : FaultKind → Option Bool
  | service => none
  | retryable | unavailable => some true
  | _ => some false

/-- The code of a kind, where the kind settles it. -/
def code? : FaultKind → Option String
  | notFound => some "NOT_FOUND"
  | conflict => some "CONFLICT"
  | invalidInput => some "INPUT_VALIDATION"
  | unavailable => some "INFRASTRUCTURE_UNAVAILABLE"
  | keySourceNotConfigured => some "KEY_SOURCE_NOT_CONFIGURED"
  | keyFileMissing => some "KEY_FILE_MISSING"
  | service | retryable | terminal | signingKey => none

end FaultKind

/-- An expected failure. -/
structure ServiceFault where
  kind : FaultKind
  code : Json
  message : Json
  detail : Json := .null
  retryable : Json := .bool (kind.retryable?.getD false)
  /-- The debug id, unless one is to be made up. -/
  debugId : Json := .null
  /-- The key use or the path that a fault about signing keys is about. -/
  subject : Option Json := none
  deriving Repr

namespace ServiceFault

/-- A fault of a kind that settles its code. -/
def ofKind (kind : FaultKind) (message : String) (detail : Option String) : ServiceFault :=
  { kind, code := .text (kind.code?.getD ""), message := .text message
    detail := .optionalText detail }

/-- Something does not exist. -/
def notFound (message : String) : ServiceFault :=
  ofKind .notFound message none

/-- The caller's input cannot be processed. -/
def invalidInput (message : String) : ServiceFault :=
  ofKind .invalidInput message none

/-- A backing store cannot be reached. -/
def unavailable (message : String) (detail : Option String) : ServiceFault :=
  ofKind .unavailable message detail

/-- No path is configured for a signing key of the given use. -/
def keySourceNotConfigured (use : Json) : ServiceFault :=
  { ofKind .keySourceNotConfigured s!"JWT {use.display} key path is not configured." none with
    subject := some use }

/-- There is no file at the configured path of a signing key. -/
def keyFileMissing (path : Json) : ServiceFault :=
  let message := "JWT key file not found."
  let detail := s!"JWT key file not found: {path.display}"
  { ofKind .keyFileMissing message (some detail) with subject := some path }

/-- The status that callers are answered with. -/
def status (fault : ServiceFault) : Nat :=
  fault.kind.status

/-- The line that names a fault by its code and message. -/
def line (fault : ServiceFault) : String :=
  s!"[{fault.code.display}] {fault.message.display}"

/-- The debug id of a fault, given the id to use where an own one is missing or empty. -/
def debugIdOr (fault : ServiceFault) (fresh : String) : Json :=
  if fault.debugId.holds then fault.debugId else .text fresh

/-- What callers are told of a fault. -/
def body (fault : ServiceFault) (fresh : String) : List (String × Json) :=
  [("error", fault.code), ("message", fault.message), ("debug_id", fault.debugIdOr fresh)]

def description (fault : ServiceFault) (fresh : String) : String :=
  fault.kind.name ++ "(code=" ++ fault.code.displayInside ++
    ", message_safe=" ++ fault.message.displayInside ++
    ", retryable=" ++ fault.retryable.display ++
    ", debug_id=" ++ (fault.debugIdOr fresh).displayInside ++ ")"

end ServiceFault

/-- Why a key derivation does not take its costs. -/
inductive CostFault where
  /-- A cost is not a number of 32 bits. -/
  | notAWord
  /-- A cost is too small or too large, or the memory too small for the lanes. -/
  | outOfBounds
  deriving DecidableEq, Repr

/-- The two uses of a signing key. -/
inductive KeyUse where
  | signing
  | verifying
  deriving DecidableEq, Repr

/-- The word for the half of a key pair that a use needs. -/
def KeyUse.name : KeyUse → String
  | signing => "private"
  | verifying => "public"

/-- Why a key file does not give a key, or a key no signature. -/
inductive KeyFlaw where
  | unreadable
  /-- The algorithm is not known. -/
  | unsupported
  | encrypted
  /-- The key is not an RSA key. -/
  | foreign
  /-- The key is too short for a signature. -/
  | tooShort
  deriving DecidableEq, Repr

/-- Why a request of the service fails. -/
inductive Fault where
  | service (fault : ServiceFault)
  /-- Access is refused with a status and a reason. -/
  | refused (status : Nat) (reason : String)
  | time (fault : TimeError)
  | costs (fault : CostFault)
  /-- A stored hash ends inside a base64 group. -/
  | unfinishedHash
  /-- The store failed in an unexpected way. -/
  | storeFailure
  /-- The shared key-value store cannot be reached. -/
  | disconnected
  /-- A text nests too deep to be read. -/
  | nestedTooDeep
  /-- The path of a key file is not a text. -/
  | noPath
  /-- The path of a key file is too long to be looked up. -/
  | overlongPath
  /-- A key file does not give the key for a use. -/
  | unusableKey (use : KeyUse) (flaw : KeyFlaw)
  /-- A value is of a kind that does not suit its use. -/
  | unsuitableValue
  /-- Items that are collections themselves cannot form a set. -/
  | unsettableItems
  /-- A row has too few columns. -/
  | shortRow
  deriving Repr

end AccessGate
