import AccessGate.Json.Reader
import AccessGate.Settings.Basic
import AccessGate.Settings.Dotenv
import AccessGate.Settings.Environment
import AccessGate.Text.Lowercase
import AccessGate.Validation.Scalar

/-!
# Loading settings

A setting is taken from the given values, else from the environment, else from an environment
file.  Names in the environment and in the file are compared without regard to letter case.  There
a setting of several texts is written as JSON, and null leaves it unset; a text that is not JSON
fails even where the setting is then taken from elsewhere.  A single text stands for its parts
between commas.
-/

namespace AccessGate

/-- Why settings do not load. -/
inductive SettingsError where
  /-- A setting of several texts is not written as JSON. -/
  | undecodable
  /-- A setting of several texts nests too deep to be read. -/
  | tooDeep
  /-- The environment cannot be as it is given. -/
  | environment (fault : VariableError)
  | invalid (flaws : List Flaw)
  deriving DecidableEq, Repr

namespace Settings

/-- The parts of a text between commas, trimmed, without empty ones. -/
def parts (text : String) : List String :=
  ((Text.splitAt ',' text.toList).map fun part => String.ofList (Text.trimCharacters part)).filter
    fun part => !part.isEmpty

def validate (kind : SettingKind) (value : Json) : Validated Json :=
  match kind with
  | .text => (Validated.text value).map .text
  | .optionalText => (Validated.optionalText value).map .optionalText
  | .number => (Validated.number value).map .int
  | .flag => (Validated.flag value).map .bool
  | .texts =>
      match value with
      | .text value => .ok (.texts (parts value))
      | value => (Validated.texts value).map .texts

/-- The value that a setting is written as, unless it stays unset. -/
def written? (kind : SettingKind) (text : String) : Except SettingsError (Option Json) :=
  match kind with
  | .texts =>
      match Json.readUnmarked text with
      | .ok .null => .ok none
      | .ok value => .ok (some value)
      | .error .tooDeep => .error .tooDeep
      | .error _ => .error .undecodable
  | _ => .ok (some (.text text))

/-- The last text that is assigned to a name, without regard to letter case. -/
def assigned? (entries : List (String × Option String)) (name : String) : Option String :=
  (entries.foldl
    (fun found entry => if Text.lower entry.1 = Text.lower name then some entry.2 else found)
    none).join

/-- The values of the settings that texts assign. -/
def assigned (entries : List (String × Option String)) :
    Except SettingsError (List (String × Json)) := do
  let found ← (Settings.entries {}).mapM fun (name, kind, _) => do
    let value ← ((assigned? entries name).map (written? kind)).getD (.ok none)
    return value.map (name, ·)
  return found.filterMap id

/-- Loads the settings from given values, the environment and an environment file. -/
def load (given : List (String × Json)) (environment : List (String × String)) (file : String) :
    Except SettingsError Settings := do
  (Environment.check environment).mapError .environment
  let fromEnvironment ← assigned (environment.map fun (name, value) => (name, some value))
  let fromFile ← assigned (Dotenv.read environment file).entries
  let sources := given ++ fromEnvironment ++ fromFile
  let validated := (Settings.entries {}).filterMap fun (name, kind, _) =>
    (Json.fieldOf? name sources).map fun value =>
      (Validated.under (.field name) (validate kind value)).map fun value => (name, value)
  match Validated.all validated with
  | .ok values => return ({} : Settings).assignAll values
  | .error flaws => throw (.invalid flaws)

end Settings

end AccessGate
