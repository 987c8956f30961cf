import AccessGate.Settings.Basic

/-!
# Telemetry

Telemetry is set up once, if the settings enable it.  Traces go to a collector where an address for
it is set, and to the console otherwise.  Requests for health and metrics are not traced.
-/

namespace AccessGate

/-- A set-up telemetry. -/
structure Telemetry where
  serviceName : String
  instanceName : String
  /-- The address of the collector, unless traces go to the console. -/
  collector : Option String
  deriving DecidableEq, Repr

namespace Telemetry

/-- The paths that are not traced. -/
def untracedPaths : List String := ["/health", "/metrics"]

/-- A text that is there and not empty. -/
def filled (text : Option String) : Option String :=
  text.filter fun text => !text.isEmpty

def ofSettings (settings : Settings) : Option Telemetry :=
  if settings.telemetryEnabled then
    some
      { serviceName := settings.serviceName
        instanceName := (filled settings.telemetryName).getD (settings.serviceName ++ "-instance")
        collector := filled settings.collectorEndpoint }
  else none

end Telemetry

end AccessGate
