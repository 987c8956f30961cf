import AccessGate.Key.Der

/-!
# Algorithms of keys

A key is stored together with the registered name of its algorithm, which parameters may follow.
Parameters that the algorithm does not take make the whole unreadable; an algorithm that is not
known may have any.
-/

namespace AccessGate

/-- The algorithms of keys, as far as their keys differ in form. -/
inductive KeyAlgorithm where
  | rsa
  /-- An elliptic curve with a registered name. -/
  | curve (name : Bytes)
  /-- An elliptic curve of which the equation is given, or nothing at all. -/
  | describedCurve
  /-- Keys that are bytes of a length. -/
  | bytes (length : Nat)
  /-- Public keys that are bytes of a length, and private keys that grow from a seed. -/
  | seeded (length seed : Nat)
  /-- Keys that are a single number. -/
  | number
  /-- Another algorithm. -/
  | other
  deriving DecidableEq, Repr

namespace KeyAlgorithm

open Der

/-- The name of RSA keys for any use. -/
def rsaName : Bytes := [0x2a, 0x86, 0x48, 0x86, 0xf7, 0x0d, 0x01, 0x01, 0x01]

/-- The name of RSA keys for signatures with salted padding. -/
def saltedName : Bytes := [0x2a, 0x86, 0x48, 0x86, 0xf7, 0x0d, 0x01, 0x01, 0x0a]

def curveName : Bytes := [0x2a, 0x86, 0x48, 0xce, 0x3d, 0x02, 0x01]

/-- The algorithms whose keys are a single number: their names, and how many numbers their
parameters have at least and at most. -/
def numberNames : List (Bytes × Nat × Nat) :=
  [([0x2a, 0x86, 0x48, 0xce, 0x38, 0x04, 0x01], 3, 3),
    ([0x2a, 0x86, 0x48, 0xce, 0x3e, 0x02, 0x01], 3, 4),
    ([0x2a, 0x86, 0x48, 0x86, 0xf7, 0x0d, 0x01, 0x03, 0x01], 2, 3)]

/-- The algorithms without parameters. -/
def plainNames : List (Bytes × KeyAlgorithm) :=
  [([0x2b, 0x65, 0x6e], bytes 32), ([0x2b, 0x65, 0x6f], bytes 56), ([0x2b, 0x65, 0x70], bytes 32),
    ([0x2b, 0x65, 0x71], bytes 57),
    ([0x60, 0x86, 0x48, 0x01, 0x65, 0x03, 0x04, 0x03, 0x11], seeded 1312 32),
    ([0x60, 0x86, 0x48, 0x01, 0x65, 0x03, 0x04, 0x03, 0x12], seeded 1952 32),
    ([0x60, 0x86, 0x48, 0x01, 0x65, 0x03, 0x04, 0x03, 0x13], seeded 2592 32),
    ([0x60, 0x86, 0x48, 0x01, 0x65, 0x03, 0x04, 0x04, 0x02], seeded 1184 64),
    ([0x60, 0x86, 0x48, 0x01, 0x65, 0x03, 0x04, 0x04, 0x03], seeded 1568 64)]

/-- Whether an element has the form of an algorithm with at most one parameter. -/
def isIdentifier (element : Element) : Bool :=
  match element.parts? with
  | some [name] | some [name, _] => name.name?.isSome
  | _ => false

/-- Whether an element may be a parameter of salted padding: a digest, a mask, the length of the
salt other than the usual one, or what follows the digest other than usual. -/
def isSaltedPart (part : Element) : Bool :=
  match single? part.content with
  | none => false
  | some content =>
      if part.tag = 0xa0 || part.tag = 0xa1 then isIdentifier content
      else if part.tag = 0xa2 then
        content.natural?.any fun length => length < Nat.pow 2 16 && length ≠ 20
      else content.natural?.any fun trailer => trailer < Nat.pow 2 8 && trailer ≠ 1

/-- Whether an element is the parameters of salted padding, of which each may be left out. -/
def isSalted (parameter : Element) : Bool :=
  match parameter.parts? with
  | none => false
  | some parts =>
      [0xa0, 0xa1, 0xa2, 0xa3].filter (fun tag => parts.any fun part => part.tag = tag) =
          parts.map Element.tag &&
        parts.all isSaltedPart

def ofCurve? (parameter : Element) : Option KeyAlgorithm :=
  if parameter.isNull || parameter.tag = sequenceTag then some describedCurve
  else parameter.name?.map curve

/-- Whether an element is a sequence of numbers, of which there are so many. -/
def isNumbers (least greatest : Nat) (parameter : Element) : Bool :=
  parameter.parts?.any fun parts =>
    least ≤ parts.length && parts.length ≤ greatest && parts.all fun part => part.natural?.isSome

def ofName? (name : Bytes) (parameter : Option Element) : Option KeyAlgorithm :=
  if name = rsaName then if parameter.all Element.isNull then some rsa else none
  else if name = saltedName then if parameter.all isSalted then some rsa else none
  else if name = curveName then parameter.bind ofCurve?
  else
    match plainNames.lookup name, numberNames.lookup name with
    | some algorithm, _ => if parameter.isNone then some algorithm else none
    | none, some (least, greatest) =>
        if parameter.any (isNumbers least greatest) then some number else none
    | none, none => some other

def read? (element : Element) : Option KeyAlgorithm := do
  match ← element.parts? with
  | [name] => ofName? (← name.name?) none
  | [name, parameter] => ofName? (← name.name?) (some parameter)
  | _ => none

end KeyAlgorithm

end AccessGate
