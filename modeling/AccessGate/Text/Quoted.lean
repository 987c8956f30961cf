import AccessGate.Text.Hexadecimal
import AccessGate.Text.Printable

/-!
# Quoted text

A text is shown between single quotes, or between double quotes when it holds single quotes and no
double ones.  The quote in use and the backslash are escaped; tab, line feed and carriage return
have short escapes; every other character that is not printable is written by its code point, with
the fewest of two, four or eight hexadecimal digits that can hold it.
-/

namespace AccessGate.Text

def quoteCharacter (quote character : Char) : List Char :=
  if character = quote || character = '\\' then ['\\', character]
  else if character = '\t' then ['\\', 't']
  else if character = '\n' then ['\\', 'n']
  else if character = '\r' then ['\\', 'r']
  else if isPrintable character then [character]
  else if character.toNat < 0x100 then '\\' :: 'x' :: hexDigits 2 character.toNat
  else if character.toNat < 0x10000 then '\\' :: 'u' :: hexDigits 4 character.toNat
  else '\\' :: 'U' :: hexDigits 8 character.toNat

def quoteFor (characters : List Char) : Char :=
  if characters.contains '\'' && !characters.contains '"' then '"' else '\''

def quoted (text : String) : String :=
  let quote := quoteFor text.toList
  String.ofList (quote :: (text.toList.flatMap (quoteCharacter quote) ++ [quote]))

end AccessGate.Text
