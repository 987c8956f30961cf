import AccessGate.Text.Hexadecimal
import AccessGate.Text.Percent
import AccessGate.Text.Split

/-!
# Hosts

A request says which host it is meant for: a name or an address in brackets, and a port that may be
left out.
-/

namespace AccessGate

namespace Host

/-- Whether a list of characters is a name.  It may be an address of the fourth version too. -/
def isName : List Char → Bool
  | [] => true
  | '%' :: high :: low :: rest =>
      (Text.hexValue? high).isSome && (Text.hexValue? low).isSome && isName rest
  | character :: rest =>
      Text.isAscii character &&
        (character.isAlphanum || "-._~!$&'()*+,;=".toList.contains character) && isName rest

/-- Whether a list of characters is a decimal number of at most a bound. -/
def isNumberUpTo (bound : Nat) (digits : List Char) : Bool :=
  !digits.isEmpty && digits.all Char.isDigit &&
    decide (digits.foldl (fun value digit => 10 * value + (digit.toNat - 48)) 0 ≤ bound)

/-- Whether a list of characters is an address of the fourth version. -/
def isQuad (characters : List Char) : Bool :=
  let parts := Text.splitAt '.' characters
  parts.length = 4 && parts.all fun part =>
    isNumberUpTo 255 part && (part.length = 1 || part.head? ≠ some '0')

/-- The number of groups of which a piece of an address of the sixth version consists.  Its last
two groups may be written as an address of the fourth version. -/
def groupCount? (characters : List Char) : Option Nat :=
  if characters.isEmpty then some 0
  else
    let parts := Text.splitAt ':' characters
    let isGroup (part : List Char) : Bool :=
      1 ≤ part.length && part.length ≤ 4 && part.all fun digit => (Text.hexValue? digit).isSome
    if parts.all isGroup then some parts.length
    else if parts.dropLast.all isGroup && (parts.getLast?.any isQuad) then some (parts.length + 1)
    else none

/-- The pieces of a list of characters in front of its first double colon and behind it. -/
def atDoubleColon? : List Char → Option (List Char × List Char)
  | ':' :: ':' :: rest => some ([], rest)
  | character :: rest =>
      (atDoubleColon? rest).map fun (before, behind) => (character :: before, behind)
  | [] => none

/-- Whether a list of characters is an address of the sixth version.  A double colon stands for at
least one group. -/
def isGroups (characters : List Char) : Bool :=
  match atDoubleColon? characters with
  | none => groupCount? characters = some 8
  | some (before, behind) =>
      match groupCount? before, groupCount? behind with
      | some first, some second => !before.contains '.' && decide (first + second < 8)
      | _, _ => false

def isValid (host : String) : Bool :=
  let isPort (rest : List Char) : Bool :=
    match rest with
    | [] => true
    | ':' :: port => isNumberUpTo 65535 port
    | _ => false
  match host.toList with
  | '[' :: rest =>
      let inner := rest.takeWhile (· ≠ ']')
      match rest.drop inner.length with
      | ']' :: rest => isGroups inner && isPort rest
      | _ => false
  | characters =>
      let name := characters.takeWhile (· ≠ ':')
      !name.isEmpty && isName name && isPort (characters.drop name.length)

end Host

end AccessGate
