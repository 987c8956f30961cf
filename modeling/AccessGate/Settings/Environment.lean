/-!
# The environment

The environment assigns texts to names.  Neither may hold a null character, and a name may be
neither empty nor hold an equals sign.
-/

namespace AccessGate

/-- Why a variable cannot be in the environment. -/
inductive VariableError where
  /-- The name or the text holds a character that it may not hold. -/
  | misspelled
  | nameless
  deriving DecidableEq, Repr

namespace Environment

/-- Whether a text holds a character. -/
def holds (text : String) (character : Char) : Bool :=
  text.toList.contains character

def checkVariable (name value : String) : Except VariableError Unit :=
  if holds name '=' || holds name '\x00' || holds value '\x00' then .error .misspelled
  else if name.isEmpty then .error .nameless
  else .ok ()

/-- Checks all variables of an environment in their order. -/
def check (environment : List (String × String)) : Except VariableError Unit :=
  environment.forM fun (name, value) => checkVariable name value

end Environment

end AccessGate
