import AccessGate.LogLevel
import AccessGate.Settings.Basic
import AccessGate.Text.Template

/-!
# Logging

All log lines, those of other libraries included, go through one sink.  The sink shows the records
at or above its level.
-/

namespace AccessGate

/-- A call to another logging library. -/
structure LogCall where
  /-- The level as the caller gives it. -/
  level : Json
  template : String
  arguments : List Json := []

/-- A log record. -/
structure LogRecord where
  level : LogLevel
  message : String
  deriving DecidableEq, Repr

namespace Logging

/-- The first record of every log. -/
def greeting : LogRecord := ⟨.info, "Logging initialized with Loguru."⟩

/-- The record of a call.  The level has to be an integer, and a call without a positive one is
dropped. -/
def record (call : LogCall) : Except TemplateError (Option LogRecord) :=
  match call.level with
  | .int _ | .bool _ => do
      let severity ← Template.integer call.level
      if severity ≤ 0 then return none
      let message ← Template.fill call.template call.arguments
      return some ⟨.ofForeign severity.toNat, message⟩
  | _ => .error .wrongArgument

/-- The level of the sink: the given one, or that of the settings where it is missing, empty or
zero. -/
def threshold? (settings : Settings) (level : Json) : Option LogLevel :=
  match level with
  | .null | .text "" | .int 0 | .bool false => LogLevel.ofName? settings.logLevel
  | level => LogLevel.ofJson? level

/-- The lines that a sink shows of the given records. -/
def shown (threshold : LogLevel) (records : List LogRecord) : List String :=
  (records.filter fun record => threshold.severity ≤ record.level.severity).map fun record =>
    record.message ++ " \x7b\x7d"

end Logging

end AccessGate
