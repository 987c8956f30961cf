import AccessGate.Argon2.Derive
import AccessGate.Bytes.Base64
import AccessGate.Number.Shortest
import AccessGate.Text.Digit
import AccessGate.Text.Split

/-!
# Stored hashes

A secret is stored as `$argon2id$v=19$m=M,t=T,p=P$SALT$DIGEST`: the costs of the derivation, the
salt, and the derived digest in base64.  The reader is tolerant in three ways.  Costs may be
written in the decimal digits of any script, padding may be left out or be too long, and the last
of the three parts about costs, salt and digest may each end in a line feed.

A line feed is also where reading can fail altogether instead of finding the text malformed: behind
it padding is not recognised, so that the sextets may end inside a group.
-/

namespace AccessGate

/-- The parts of a stored hash. -/
structure StoredHash where
  costs : Argon2.Costs
  salt : Bytes
  digest : Bytes
  deriving DecidableEq, Repr

namespace StoredHash

/-- A base64 text ended inside a group. -/
inductive Unfinished where
  | unfinished
  deriving DecidableEq, Repr

/-- The greatest accepted memory cost, in kibibytes. -/
def greatestMemory : Nat := 4194304

/-- The greatest accepted number of passes. -/
def greatestPasses : Nat := 64

/-- The greatest accepted number of lanes. -/
def greatestLanes : Nat := 255

/-- The least number of bytes of a salt. -/
def leastSalt : Nat := 8

/-- The least number of bytes of a digest. -/
def leastDigest : Nat := 16

/-- Whether costs lie within the accepted bounds. -/
def acceptsCosts (costs : Argon2.Costs) : Bool :=
  1 ≤ costs.lanes && costs.lanes ≤ greatestLanes &&
    1 ≤ costs.passes && costs.passes ≤ greatestPasses &&
    8 * costs.lanes ≤ costs.memory && costs.memory ≤ greatestMemory

/-- A base64 part: characters of the alphabet, at most two padding characters, and possibly a line
feed. -/
def isPart (part : List Char) : Bool :=
  let body := part.takeWhile Base64.standard.contains
  !body.isEmpty &&
    [[], ['='], ['=', '='], ['\n'], ['=', '\n'], ['=', '=', '\n']].contains (part.drop body.length)

/-- A text without the padding at its end. -/
def dropPadding (part : List Char) : List Char :=
  (part.reverse.dropWhile (· = '=')).reverse

/-- The bytes of a base64 part, if it is well formed and its length can be completed. -/
def partBytes? (part : List Char) : Except Unfinished (Option Bytes) :=
  let stripped := dropPadding part
  if !isPart part || stripped.length % 4 = 1 then .ok none
  else
    match Base64.readLenient? Base64.standard (stripped ++ Base64.paddingFor stripped.length) with
    | some bytes => .ok (some bytes)
    | none => .error .unfinished

/-- Reads a cost: its letter, an equals sign, and digits up to a greatest number of them. -/
def cost? (letter : Char) (greatest : Nat) (text : List Char) : Option (Nat × List Char) :=
  match text with
  | first :: '=' :: rest =>
      let digits := rest.takeWhile Text.isDigit
      if first = letter && digits.length ≤ greatest then
        (Text.readDigits? digits).map fun value => (value, rest.drop digits.length)
      else none
  | _ => none

def comma? : List Char → Option (List Char)
  | ',' :: rest => some rest
  | _ => none

def costs? (text : List Char) : Option Argon2.Costs := do
  let (memory, rest) ← cost? 'm' 10 text
  let (passes, rest) ← cost? 't' 10 (← comma? rest)
  let (lanes, rest) ← cost? 'p' 3 (← comma? rest)
  if rest = [] ∨ rest = ['\n'] then some { memory, passes, lanes } else none

/-- Reads the parts of a stored hash, given the text between its separators. -/
def ofParts (costs salt digest : List Char) : Except Unfinished (Option StoredHash) :=
  match (costs? costs).filter acceptsCosts with
  | none => .ok none
  | some costs => do
      let salt ← partBytes? salt
      let digest ← partBytes? digest
      match salt, digest with
      | some salt, some digest =>
          if leastSalt ≤ salt.length && leastDigest ≤ digest.length then
            .ok (some { costs, salt, digest })
          else .ok none
      | _, _ => .ok none

/-- Reads a stored hash; a malformed text gives none. -/
def read (text : String) : Except Unfinished (Option StoredHash) :=
  match Text.splitAt '$' text.toList with
  | [before, algorithm, version, costs, salt, digest] =>
      if before = [] && algorithm = "argon2id".toList && version = "v=19".toList then
        ofParts costs salt digest
      else .ok none
  | _ => .ok none

/-- The text between the separators that tells the costs. -/
def costsText (costs : Argon2.Costs) : List Char :=
  'm' :: '=' :: Double.digitsOf costs.memory ++ ',' :: 't' :: '=' :: Double.digitsOf costs.passes ++
    ',' :: 'p' :: '=' :: Double.digitsOf costs.lanes

def characters (stored : StoredHash) : List Char :=
  "$argon2id$v=19$".toList ++ costsText stored.costs ++
    '$' :: Base64.paddedCharacters Base64.standard stored.salt ++
    '$' :: Base64.paddedCharacters Base64.standard stored.digest

/-- A stored hash as text, with complete padding. -/
def write (stored : StoredHash) : String :=
  String.ofList stored.characters

end StoredHash

end AccessGate
