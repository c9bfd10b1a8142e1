import WebKeys.Arithmetic.Modular
import WebKeys.Curve

/-!
# Elliptic curves in short Weierstrass form

Points are pairs of coordinates below the prime `p` that satisfy y² = x³ + ax + b, and the point at
infinity. Coordinates that are not below `p` name no point: they are refused and never reduced.
-/

namespace WebKeys.Weierstrass

open Arithmetic

/-- An elliptic curve as primitives know it: by its name in SEC 2, and by its numbers. -/
structure Equation where
  secName : String
  p : Nat
  a : Nat
  b : Nat
  gx : Nat
  gy : Nat
  order : Nat

/-- A point; none is the one at infinity. -/
abbrev Point := Option (Nat × Nat)

namespace Equation

variable (c : Equation)

/-- Whether coordinates below the prime satisfy the equation. -/
def contains (x y : Nat) : Bool :=
  decide (x < c.p) && decide (y < c.p) &&
    decide (y * y % c.p = (x * x * x + c.a * x + c.b) % c.p)

/-- The third point of a line with this slope through two points, reflected in the axis. -/
def reflectedThird (slope : Nat) (P Q : Nat × Nat) : Nat × Nat :=
  let x := subMod c.p (slope * slope) ((P.1 + Q.1) % c.p)
  (x, subMod c.p (slope * subMod c.p P.1 x) P.2)

/-- The group law; the point at infinity is `none`. -/
def add : Point → Point → Point
  | none, Q => Q
  | P, none => P
  | some P, some Q =>
    if P.1 = Q.1 then
      if (P.2 + Q.2) % c.p = 0 then none
      else some (c.reflectedThird (divMod c.p (3 * P.1 * P.1 + c.a) (2 * P.2)) P Q)
    else
      some (c.reflectedThird (divMod c.p (subMod c.p Q.2 P.2) (subMod c.p Q.1 P.1)) P Q)

/-- The sum of `k` times a point, by doubling. -/
def times (k : Nat) (P : Point) : Point :=
  if _h : k = 0 then none
  else
    let rest := times (k / 2) (c.add P P)
    if k % 2 = 1 then c.add P rest else rest
termination_by k
decreasing_by omega

/-- The public point of a private scalar; a multiple of the order has none. -/
def publicPoint? (d : Nat) : Point := c.times d (some (c.gx, c.gy))

end Equation

/-! ## The curves in use -/

/-- The curve P-256 of FIPS 186. -/
def p256 : Equation where
  secName := "secp256r1"
  p := 1 <<< 256 - 1 <<< 224 + 1 <<< 192 + 1 <<< 96 - 1
  a := 1 <<< 256 - 1 <<< 224 + 1 <<< 192 + 1 <<< 96 - 1 - 3
  b := 0x5ac635d8aa3a93e7b3ebbd55769886bc651d06b0cc53b0f63bce3c3e27d2604b
  gx := 0x6b17d1f2e12c4247f8bce6e563a440f277037d812deb33a0f4a13945d898c296
  gy := 0x4fe342e2fe1a7f9b8ee7eb4a7c0f9e162bce33576b315ececbb6406837bf51f5
  order := 0xffffffff00000000ffffffffffffffffbce6faada7179e84f3b9cac2fc632551

/-- The curve P-384 of FIPS 186. -/
def p384 : Equation where
  secName := "secp384r1"
  p := 1 <<< 384 - 1 <<< 128 - 1 <<< 96 + 1 <<< 32 - 1
  a := 1 <<< 384 - 1 <<< 128 - 1 <<< 96 + 1 <<< 32 - 1 - 3
  b := 0xb3312fa7e23ee7e4988e056be3f82d19 <<< 256
    + 0x181d9c6efe8141120314088f5013875ac656398d8a2ed19d2a85c8edd3ec2aef
  gx := 0xaa87ca22be8b05378eb1c71ef320ad74 <<< 256
    + 0x6e1d3b628ba79b9859f741e082542a385502f25dbf55296c3a545e3872760ab7
  gy := 0x3617de4a96262c6f5d9e98bf9292dc29 <<< 256
    + 0xf8f41dbd289a147ce9da3113b5f0b8c00a60b1ce1d7e819d7a431d7c90ea0e5f
  order := 0xffffffffffffffffffffffffffffffff <<< 256
    + 0xffffffffffffffffc7634d81f4372ddf581a0db248b0a77aecec196accc52973

/-- The curve P-521 of FIPS 186. -/
def p521 : Equation where
  secName := "secp521r1"
  p := 1 <<< 521 - 1
  a := 1 <<< 521 - 1 - 3
  b := 0x51953eb9618e1c9a1f929a21a0b68540eea2da725b99b315f3b8b489918ef109e1 <<< 256
    + 0x56193951ec7e937b1652c0bd3bb1bf073573df883d2c34f1ef451fd46b503f00
  gx := 0xc6858e06b70404e9cd9e3ecb662395b4429c648139053fb521f828af606b4d3dba <<< 256
    + 0xa14b5e77efe75928fe1dc127a2ffa8de3348b3c1856a429bf97e7e31c2e5bd66
  gy :=
    (0x118 <<< 256 + 0x39296a789a3bc0045c8a5fb42c7d1bd998f54449579b446817afbd17273e662c) <<< 256
    + 0x97ee72995ef42640c550b9013fad0761353c7086a272c24088be94769fd16650
  order :=
    (0x1ff <<< 256 + 0xfffffffffffffffffffffffffffffffffffffffffffffffffffffffffffffffa) <<< 256
    + 0x51868783bf2f966b7fcc0148f709a5d03bb5c9b8899c47aebb6fb71e91386409

/-- The Koblitz curve secp256k1 of SEC 2. -/
def secp256k1 : Equation where
  secName := "secp256k1"
  p := 1 <<< 256 - 1 <<< 32 - 977
  a := 0
  b := 7
  gx := 0x79be667ef9dcbbac55a06295ce870b07029bfcdb2dce28d959f2815b16f81798
  gy := 0x483ada7726a3c4655da4fbfc0e1108a8fd17b448a68554199c47d08ffb10d4b8
  order := 0xfffffffffffffffffffffffffffffffebaaedce6af48a03bbfd25e8cd0364141

/-- The equation of an elliptic curve; curves of other families have none here. -/
def equation? : Curve → Option Equation
  | .p256 => some p256
  | .p384 => some p384
  | .p521 => some p521
  | .secp256k1 => some secp256k1
  | _ => none

/-- The name of an equation is the standard's name of its curve. -/
theorem secName_of_equation? {c : Curve} {e : Equation} (h : equation? c = some e) :
    c.secName? = some e.secName := by
  cases c <;> cases h <;> rfl

end WebKeys.Weierstrass
