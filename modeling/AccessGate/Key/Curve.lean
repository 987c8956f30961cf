import AccessGate.Bytes.Words
import AccessGate.Number.Modular

/-!
# Elliptic curves

The points of a curve are the solutions of `y² = x³ + a·x + b` modulo a prime, and a point at
infinity.  Chords and tangents add points.  A secret number is paired with a multiple of a fixed
point, the generator.  A point is spelled with both coordinates or with the first one and whether
the second one is odd.
-/

namespace AccessGate

/-- A point of a curve other than the one at infinity. -/
structure CurvePoint where
  x : Nat
  y : Nat
  deriving DecidableEq, Repr

structure Curve where
  /-- The registered name. -/
  name : Bytes
  prime : Nat
  /-- The coefficient of `x`. -/
  linear : Nat
  /-- The constant coefficient. -/
  constant : Nat
  generator : CurvePoint
  /-- The number of points. -/
  order : Nat
  deriving DecidableEq, Repr

namespace Curve

/-- The number of bytes of a coordinate. -/
def width (curve : Curve) : Nat :=
  Bytes.width curve.prime

/-- What the square of the second coordinate has to be. -/
def square (curve : Curve) (x : Nat) : Nat :=
  (x * x * x + curve.linear * x + curve.constant) % curve.prime

/-- Adds points with a common line of the given slope, rise over run. -/
def meet (curve : Curve) (first second : CurvePoint) (rise run : Nat) : CurvePoint :=
  let slope := rise * Modular.inverse curve.prime run % curve.prime
  let x := (slope * slope + 2 * curve.prime - first.x - second.x) % curve.prime
  ⟨x, (slope * (first.x + curve.prime - x) + curve.prime - first.y) % curve.prime⟩

/-- Adds points, of which each may be at infinity. -/
def add (curve : Curve) : Option CurvePoint → Option CurvePoint → Option CurvePoint
  | none, point => point
  | point, none => point
  | some first, some second =>
      if first.x ≠ second.x then
        some (curve.meet first second (second.y + curve.prime - first.y)
          (second.x + curve.prime - first.x))
      else if (first.y + second.y) % curve.prime = 0 then none
      else some (curve.meet first second (3 * first.x * first.x + curve.linear) (2 * first.y))

/-- A multiple of a point, by repeated doubling. -/
def multiple (curve : Curve) (point : Option CurvePoint) (count : Nat) : Option CurvePoint :=
  if count = 0 then none
  else
    let rest := multiple curve (curve.add point point) (count / 2)
    if count % 2 = 1 then curve.add rest point else rest

/-- The spellings of a point: the first coordinate only, both, and both with a hint. -/
def spellings (curve : Curve) (point : CurvePoint) : List Bytes :=
  let x := Bytes.bigEndian curve.width point.x
  let y := Bytes.bigEndian curve.width point.y
  let sign := UInt8.ofNat (point.y % 2)
  [(2 + sign) :: x, 4 :: (x ++ y), (6 + sign) :: (x ++ y)]

def hasPoint (curve : Curve) : Bytes → Bool
  | [] => false
  | form :: rest =>
      let x := Bytes.toNat (rest.take curve.width)
      let y := Bytes.toNat (rest.drop curve.width)
      x < curve.prime &&
        if form = 2 || form = 3 then
          rest.length = curve.width &&
            Modular.power curve.prime (curve.square x) ((curve.prime - 1) / 2) = 1
        else
          y < curve.prime && y * y % curve.prime = curve.square x &&
            (curve.spellings ⟨x, y⟩).contains (form :: rest)

/-- Whether a secret number goes with the spelling of a point, where there is one. -/
def isPair (curve : Curve) (secret : Nat) (spelling : Option Bytes) : Bool :=
  0 < secret && secret < curve.order &&
    match spelling, curve.multiple (some curve.generator) secret with
    | some spelling, some point => (curve.spellings point).contains spelling
    | some _, none => false
    | none, point => point.isSome

end Curve

end AccessGate
