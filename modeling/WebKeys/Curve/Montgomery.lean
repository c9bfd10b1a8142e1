import WebKeys.Curve.Edwards

/-!
# X25519 public keys

The ladder of RFC 7748 on the Montgomery curve over the field of 2²⁵⁵ − 19 elements, which needs
the first coordinate alone. A coordinate is kept as a fraction until the end.
-/

namespace WebKeys.Montgomery

open Arithmetic Edwards

/-- The first coordinate of a point as numerator and denominator. -/
abbrev Fraction := Nat × Nat

/-- From a point and its neighbour, their difference having the first coordinate `u`: the double of
the point, and the sum of the two. -/
def step (u : Nat) (P Q : Fraction) : Fraction × Fraction :=
  let a := P.1 + P.2
  let b := subMod p P.1 P.2
  let aa := a * a % p
  let bb := b * b % p
  let e := subMod p aa bb
  let da := subMod p Q.1 Q.2 * a % p
  let cb := (Q.1 + Q.2) * b % p
  let difference := subMod p da cb
  ((aa * bb % p, e * (aa + 121665 * e) % p),
   ((da + cb) * (da + cb) % p, u * (difference * difference % p) % p))

/-- The `k`-fold and the next multiple of the point `u`, by the binary digits of `k`. -/
def ladder (u k : Nat) : Fraction × Fraction :=
  if _h : k = 0 then ((1, 0), (u, 1))
  else
    let (P, Q) := ladder u (k / 2)
    if k % 2 = 1 then
      let (double, sum) := step u Q P
      (sum, double)
    else step u P Q
termination_by k
decreasing_by omega

/-- The public octets of a seed: the first coordinate of the multiple of nine, in little-endian
order. -/
def publicBytes (seed : Bytes) : Bytes :=
  let (x, z) := (ladder 9 (clampedScalar seed)).1
  (Bytes.ofNat 32 (divMod p x z)).reverse

end WebKeys.Montgomery
