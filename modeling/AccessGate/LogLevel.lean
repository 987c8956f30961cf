import AccessGate.Json.Display

/-!
# Log levels

A level is a name with a severity.  Seven levels have names of their own; any other severity is
named by its number.
-/

namespace AccessGate

/-- How serious a log record is. -/
structure LogLevel where
  name : String
  severity : Nat
  deriving DecidableEq, Repr

namespace LogLevel

/-- Details of no interest in normal operation. -/
def trace : LogLevel := ⟨"TRACE", 5⟩

/-- Details for finding faults. -/
def debug : LogLevel := ⟨"DEBUG", 10⟩

/-- Normal operation. -/
def info : LogLevel := ⟨"INFO", 20⟩

def success : LogLevel := ⟨"SUCCESS", 25⟩

/-- Something to look at. -/
def warning : LogLevel := ⟨"WARNING", 30⟩

/-- A failure. -/
def error : LogLevel := ⟨"ERROR", 40⟩

/-- A failure that stops the service. -/
def critical : LogLevel := ⟨"CRITICAL", 50⟩

/-- The levels with names of their own. -/
def named : List LogLevel := [trace, debug, info, success, warning, error, critical]

def ofName? (name : String) : Option LogLevel :=
  named.find? fun level => level.name = name

/-- The level of a severity, named by its number. -/
def ofSeverity (severity : Nat) : LogLevel :=
  ⟨s!"Level {severity}", severity⟩

/-- The level of a record from another logging library, of whose levels five have names. -/
def ofForeign (severity : Nat) : LogLevel :=
  match [debug, info, warning, error, critical].find? fun level => level.severity = severity with
  | some level => level
  | none => ofSeverity severity

/-- The level that a value asks for: by name, or by a severity that is not negative. -/
def ofJson? : Json → Option LogLevel
  | .text name => ofName? name
  | .int severity => if 0 ≤ severity then some (ofSeverity severity.toNat) else none
  | .bool one => some (ofSeverity (if one then 1 else 0))
  | _ => none

end LogLevel

end AccessGate
