import WebKeys.Arithmetic.Modular
import WebKeys.Bytes

/-!
# The group G2 of BLS12-381

Points over the quadratic extension of a prime field, y² = x³ + 4(1 + u) with u² = −1, and their
compressed form: 96 bytes, the imaginary part of x before the real one, with three flags on top.

* `decompress?` reads a compressed point and refuses every form but the canonical one.
* `inSubgroup` tells whether a point lies in the subgroup of prime order.
* `publicBytes` is the compressed public point of a private scalar.
-/

namespace WebKeys.Bls12381

open Arithmetic

/-- The prime of the base field. -/
def q : Nat :=
  0x1a0111ea397fe69a4b1ba7b6434bacd764774b84f38512bf6730d2a0f6b0f624 <<< 128
    + 0x1eabfffeb153ffffb9feffffffffaaab

/-- The order of the subgroup. -/
def order : Nat := 0x73eda753299d7d483339d80809a1d80553bda402fffe5bfeffffffff00000001

/-! ## The field of coordinates -/

/-- The number `re + im·u`. -/
structure Coordinate where
  re : Nat
  im : Nat
  deriving DecidableEq

namespace Coordinate

def zero : Coordinate := ⟨0, 0⟩

def one : Coordinate := ⟨1, 0⟩

def add (a b : Coordinate) : Coordinate := ⟨(a.re + b.re) % q, (a.im + b.im) % q⟩

def sub (a b : Coordinate) : Coordinate := ⟨subMod q a.re b.re, subMod q a.im b.im⟩

def neg (a : Coordinate) : Coordinate := sub zero a

def mul (a b : Coordinate) : Coordinate :=
  ⟨subMod q (a.re * b.re) (a.im * b.im % q), (a.re * b.im + a.im * b.re) % q⟩

/-- The reciprocal: the conjugate over the norm. -/
def inv (a : Coordinate) : Coordinate :=
  let norm := (a.re * a.re + a.im * a.im) % q
  ⟨divMod q a.re norm, divMod q (q - a.im) norm⟩

def pow (a : Coordinate) (e : Nat) : Coordinate :=
  if _h : e = 0 then one
  else
    let half := pow (mul a a) (e / 2)
    if e % 2 = 1 then mul half a else half
termination_by e
decreasing_by omega

/-- A square root, if there is one. The candidate is squared again, so an answer is right. -/
def sqrt? (a : Coordinate) : Option Coordinate :=
  let t := pow a ((q - 3) / 4)
  let candidate := mul t a
  let sign := mul t candidate
  let root :=
    if sign = ⟨q - 1, 0⟩ then mul ⟨0, 1⟩ candidate
    else mul (pow (add one sign) ((q - 1) / 2)) candidate
  if mul root root = a then some root else none

/-- Whether a number is the greater of itself and its negative: the imaginary part decides, or the
real part where that is zero. -/
def isUpper (a : Coordinate) : Bool :=
  if a.im = 0 then q ≤ 2 * a.re else q ≤ 2 * a.im

end Coordinate

/-! ## The group -/

open Coordinate

/-- A point; none is the one at infinity. -/
abbrev Point := Option (Coordinate × Coordinate)

/-- The third point on the line through two points, reflected. -/
def reflectedThird (slope : Coordinate) (P Q : Coordinate × Coordinate) : Coordinate × Coordinate :=
  let x := sub (mul slope slope) (Coordinate.add P.1 Q.1)
  (x, sub (mul slope (sub P.1 x)) P.2)

/-- The group law; the point at infinity is `none`. -/
def add : Point → Point → Point
  | none, Q => Q
  | P, none => P
  | some P, some Q =>
    if P.1 = Q.1 then
      if Coordinate.add P.2 Q.2 = zero then none
      else
        let slope := mul (mul ⟨3, 0⟩ (mul P.1 P.1)) (inv (Coordinate.add P.2 P.2))
        some (reflectedThird slope P Q)
    else some (reflectedThird (mul (sub Q.2 P.2) (inv (sub Q.1 P.1))) P Q)

def times (k : Nat) (P : Point) : Point :=
  if _h : k = 0 then none
  else
    let rest := times (k / 2) (add P P)
    if k % 2 = 1 then add P rest else rest
termination_by k
decreasing_by omega

/-- Whether the multiple by the order of the subgroup is the point at infinity. -/
def inSubgroup (P : Coordinate × Coordinate) : Bool := times order (some P) = none

/-- The right-hand side of the curve's equation. -/
def equation (x : Coordinate) : Coordinate := Coordinate.add (mul (mul x x) x) ⟨4, 4⟩

def generator : Coordinate × Coordinate :=
  (⟨0x24aa2b2f08f0a91260805272dc51051c6e47ad4fa403b02b4510b647ae3d177 <<< 128
      + 0x0bac0326a805bbefd48056c8c121bdb8,
    0x13e02b6052719f607dacd3a088274f65596bd0d09920b61ab5da61bbdc7f5049 <<< 128
      + 0x334cf11213945d57e5ac7d055d042b7e⟩,
   ⟨0xce5d527727d6e118cc9cdc6da2e351aadfd9baa8cbdd3a76d429a695160d12c <<< 128
      + 0x923ac9cc3baca289e193548608b82801,
    0x606c4a02ea734cc32acd2b02bc28b99cb3e287e85a763af267492ab572e99ab <<< 128
      + 0x3f370d275cec1da1aaa9075ff05f79be⟩)

/-! ## The compressed form -/

/-- Reads a canonical compressed point. -/
def decompress? (bs : Bytes) : Option Point :=
  let top := Bytes.toNat (bs.take 48)
  let re := Bytes.toNat (bs.drop 48)
  let im := top % (1 <<< 381)
  let upper := top >>> 381 % 2 = 1
  let infinite := top >>> 382 % 2 = 1
  if top >>> 383 ≠ 1 then none
  else if im = 0 ∧ re = 0 then
    if infinite ∧ ¬upper then some none else none
  else if infinite ∨ q ≤ im ∨ q ≤ re then none
  else
    let x : Coordinate := ⟨re, im⟩
    (sqrt? (equation x)).map fun y => some (x, if isUpper y = upper then y else neg y)

/-- The first coordinate with two marks in its top bits: that it is compressed, and which of the two
points is meant. -/
def compress (P : Coordinate × Coordinate) : Bytes :=
  let upper := if isUpper P.2 then 1 <<< 381 else 0
  Bytes.ofNat 48 (1 <<< 383 + upper + P.1.im) ++ Bytes.ofNat 48 P.1.re

/-- The compressed public point of a private scalar below the order; zero has none. -/
def publicBytes? (d : Nat) : Option Bytes := (times d (some generator)).map compress

end WebKeys.Bls12381
