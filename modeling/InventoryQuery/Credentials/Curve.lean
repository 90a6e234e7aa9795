/-!
# Elliptic curves

The two curves over a prime field on which keys may lie, and whether a point is the given multiple
of a curve's base point. All curves here are of the form `y² = x³ - 3x + b`; a point is computed
with in the coordinates `(x / z², y / z³)`, so that nothing has to be inverted.
-/

namespace InventoryQuery.Credentials

/-- A curve: the prime of its field, its base point and the order of that point, the number of
bytes of a coordinate, and the bytes that name the curve among the algorithms of keys. -/
structure Curve where
  prime : Nat
  baseX : Nat
  baseY : Nat
  order : Nat
  size : Nat
  /-- The identifier of the curve. -/
  name : List UInt8
  deriving DecidableEq, Repr

namespace Curve

/-- The curve over a field of 256 bits. -/
def p256 : Curve where
  prime := 0xffffffff00000001000000000000000000000000ffffffffffffffffffffffff
  baseX := 0x6b17d1f2e12c4247f8bce6e563a440f277037d812deb33a0f4a13945d898c296
  baseY := 0x4fe342e2fe1a7f9b8ee7eb4a7c0f9e162bce33576b315ececbb6406837bf51f5
  order := 0xffffffff00000000ffffffffffffffffbce6faada7179e84f3b9cac2fc632551
  size := 32
  name := [0x06, 0x08, 0x2a, 0x86, 0x48, 0xce, 0x3d, 0x03, 0x01, 0x07]

/-- The curve over a field of 384 bits. -/
def p384 : Curve where
  prime := 0xfffffffffffffffffffffffffffffffffffffffffffffffffffffffffffffffeffffffff0000000000000000ffffffff
  baseX := 0xaa87ca22be8b05378eb1c71ef320ad746e1d3b628ba79b9859f741e082542a385502f25dbf55296c3a545e3872760ab7
  baseY := 0x3617de4a96262c6f5d9e98bf9292dc29f8f41dbd289a147ce9da3113b5f0b8c00a60b1ce1d7e819d7a431d7c90ea0e5f
  order := 0xffffffffffffffffffffffffffffffffffffffffffffffffc7634d81f4372ddf581a0db248b0a77aecec196accc52973
  size := 48
  name := [0x06, 0x05, 0x2b, 0x81, 0x04, 0x00, 0x22]

/-- A point in coordinates `(x / z², y / z³)`; the neutral point has `z = 0`. -/
structure Point where
  x : Int
  y : Int
  z : Int
  deriving DecidableEq, Repr

/-- The neutral point. -/
def Point.neutral : Point := ⟨1, 1, 0⟩

/-- The point with every coordinate reduced by the prime of the curve. -/
def reduce (curve : Curve) (x y z : Int) : Point :=
  ⟨x % curve.prime, y % curve.prime, z % curve.prime⟩

/-- The base point of a curve. -/
def base (curve : Curve) : Point := ⟨curve.baseX, curve.baseY, 1⟩

/-- The square of a number. -/
def square (n : Int) : Int := n * n

/-- The cube of a number. -/
def cube (n : Int) : Int := n * n * n

/-- Twice a point. -/
def double (curve : Curve) (p : Point) : Point :=
  let beta := p.x * square p.y
  let slope := 3 * (p.x - square p.z) * (p.x + square p.z) % curve.prime
  let x := square slope - 8 * beta
  reduce curve x (slope * (4 * beta - x) - 8 * square (square p.y)) (2 * p.y * p.z)

/-- The sum of two points. -/
def add (curve : Curve) (p q : Point) : Point :=
  if p.z = 0 then q
  else if q.z = 0 then p
  else
    let pX := p.x * square q.z % curve.prime
    let qX := q.x * square p.z % curve.prime
    let pY := p.y * cube q.z % curve.prime
    let qY := q.y * cube p.z % curve.prime
    if pX = qX then if pY = qY then double curve p else .neutral
    else
      let across := qX - pX
      let up := qY - pY
      let x := square up - cube across - 2 * pX * square across
      reduce curve x (up * (pX * square across - x) - pY * cube across) (across * p.z * q.z)

/-- A multiple of the base point, from the highest bit of the factor down. -/
def multiple (curve : Curve) (factor : Nat) : Point :=
  (List.range (8 * curve.size)).reverse.foldl
    (fun point bit =>
      let twice := double curve point
      if factor.testBit bit then add curve twice (base curve) else twice)
    .neutral

/-- Whether the point with the given coordinates is a multiple of the base point by a factor that
is smaller than its order. -/
def isMultiple (curve : Curve) (factor x y : Nat) : Bool :=
  let point := multiple curve factor
  0 < factor && factor < curve.order && x < curve.prime && y < curve.prime && point.z ≠ 0 &&
    x * square point.z % curve.prime = point.x && y * cube point.z % curve.prime = point.y

end Curve

end InventoryQuery.Credentials
