import WebKeys.Arithmetic.Primality
import WebKeys.Curve.Bls12381
import WebKeys.Curve.Montgomery
import WebKeys.Curve.Weierstrass
import WebKeys.Failure
import WebKeys.Key

/-!
# Keys among cryptographic primitives

The primitives take no numbers on trust. `Key.accepted` is a key as they hold it once they have
checked it: an elliptic point lies on its curve, an octet key has the right length, the numbers of
an RSA key belong together. A private octet key has its public part derived anew, and a private RSA
key the numbers that were left out.

A `HeldKey` is a key that the primitives made themselves, on any curve they know; `HeldKey.toKey`
takes over those on a curve that keys are published on.
-/

namespace WebKeys

open Arithmetic

/-- The refusal of numbers that make no key. -/
def refuse {α : Type} : Result α := .error (.refused .numbers)

/-- The failure of a number that has no place where it should go. -/
def unrepresentable {α : Type} : Result α := .error .unrepresentable

/-! ## Elliptic curve keys -/

namespace EcKey

/-- Whether the point is on the curve, with both coordinates below the prime. -/
def onCurve (c : Weierstrass.Equation) (x y : Int) : Bool :=
  decide (0 ≤ x) && decide (0 ≤ y) && c.contains x.toNat y.toNat

/-- The curve on which a key is published that primitives hold on a curve of this name. -/
def curveNamed (secName : String) : Result Curve :=
  match Curve.ofSecName? secName with
  | some c => .ok c
  | none => .error (.ofReason (.foreignCurve secName))

/-- Names lead back to the curves that primitives were asked for. -/
theorem curveNamed_secName {c : Curve} {e : Weierstrass.Equation}
    (h : Weierstrass.equation? c = some e) : curveNamed e.secName = .ok c := by
  rw [curveNamed, Curve.ofSecName?_eq_some_iff.mpr (Weierstrass.secName_of_equation? h)]

theorem map_curveNamed {α : Type} {c : Curve} {e : Weierstrass.Equation}
    (h : Weierstrass.equation? c = some e) (f : Curve → α) :
    (curveNamed e.secName).map f = .ok (f c) := by
  rw [curveNamed_secName h, Except.map]

/-- An elliptic key as primitives hold it. They look at the point and at the range of the scalar;
whether the one is the multiple by the other is not asked here, as for pairs that belong together it
makes no difference. -/
def accepted (k : EcKey) : Result EcKey :=
  match Weierstrass.equation? k.curve with
  | none => .error (.ofReason (.notElliptic k.curve))
  | some c =>
    if onCurve c k.x k.y then
      match k.d with
      | none => (curveNamed c.secName).map fun named => { k with curve := named, form := none }
      | some d =>
        if d < 0 then unrepresentable
        else if d % (c.order : Int) = 0 then refuse
        else (curveNamed c.secName).map fun named => { k with curve := named, form := none }
    else refuse

/-- The key pair of a scalar, which must lie between zero and the order of the curve. -/
def ofScalar (curve : Curve) (d : Nat) : Result EcKey :=
  match Weierstrass.equation? curve with
  | none => .error (.ofReason (.notElliptic curve))
  | some c =>
    if d < c.order then
      match c.publicPoint? d with
      | some (x, y) => (curveNamed c.secName).map fun named =>
          { curve := named, x := x, y := y, d := some (d : Int) }
      | none => refuse
    else refuse

end EcKey

/-! ## Octet keys -/

namespace OkpKey

/-- The public octets of a seed: those of Ed25519 on its curve, of X25519 on every other. -/
def publicOf (c : Curve) (seed : Bytes) : Bytes :=
  if c = .ed25519 then Edwards.publicBytes seed else Montgomery.publicBytes seed

/-- The curve that the primitives take an octet key for. -/
def primitiveCurve (c : Curve) : Curve := if c = .ed25519 then .ed25519 else .x25519

/-- The key pair of a seed of 32 bytes. -/
def ofSeed (c : Curve) (seed : Bytes) : Result OkpKey :=
  if seed.length = 32 then
    .ok { curve := primitiveCurve c, x := publicOf c seed, d := some seed }
  else refuse

def accepted (k : OkpKey) : Result OkpKey :=
  match k.d with
  | some seed => ofSeed k.curve seed
  | none => if k.x.length = 32 then .ok { curve := primitiveCurve k.curve, x := k.x } else refuse

end OkpKey

/-! ## RSA keys -/

namespace RsaKey

/-- A modulus and an exponent that a public key may have. -/
def publicNumbersFit (n e : Int) : Bool :=
  decide (3 ≤ n) && decide (3 ≤ e) && decide (e < n) && decide (e % 2 = 1)

/-- Which moduli and exponents primitives take when they load a public key. They differ in this:
some look at the numbers as soon as they load them, others not before they are to hold a key of
them. -/
abbrev LoadCheck := Int → Int → Bool

/-- Whether a number is a prime other than 2. -/
def isOddPrime (p : Int) : Bool := decide (p % 2 = 1) && isPrime p.toNat

/-- A number reduced by one less than a prime, for numbers that are more than 1. -/
def reduced? (d p : Int) : Result Int := if d ≤ 1 ∨ p ≤ 1 then refuse else .ok (d % (p - 1))

/-- The reciprocal of the second prime by the first; zero, which fits no key, if there is none. -/
def coefficient? (p q : Int) : Result Int :=
  if p ≤ 1 ∨ q ≤ 1 then refuse else .ok ((inverse? q.toNat p.toNat).getD 0 : Nat)

/-- All the numbers of a private key. -/
structure Complete where
  n : Int
  e : Int
  d : Int
  p : Int
  q : Int
  dp : Int
  dq : Int
  qi : Int

namespace Complete

def toKey (k : Complete) : RsaKey :=
  ⟨k.n, k.e, some k.d, some k.p, some k.q, some k.dp, some k.dq, some k.qi⟩

def numbers (k : Complete) : List Int := [k.n, k.e, k.d, k.p, k.q, k.dp, k.dq, k.qi]

/-- Whether the numbers, none of them negative, are those of one key. -/
def consistent (k : Complete) : Bool :=
  publicNumbersFit k.n k.e && k.p * k.q == k.n && decide (k.d < k.n)
    && isOddPrime k.p && isOddPrime k.q
    && k.d * k.e % (k.p - 1) == 1 && k.d * k.e % (k.q - 1) == 1
    && k.dp == k.d % (k.p - 1) && k.dq == k.d % (k.q - 1)
    && decide (k.qi < k.p) && k.qi * k.q % k.p == 1

end Complete

/-- Takes the given value, or else the computed one. -/
def orCompute (given : Option Int) (computed : Result Int) : Result Int :=
  match given with
  | some n => .ok n
  | none => computed

/-- Fills in what a private key with both primes may leave out. -/
def complete (k : RsaKey) (d : Int) : Result Complete :=
  match k.p, k.q with
  | some p, some q => do
    let dp ← orCompute k.dp (reduced? d p)
    let dq ← orCompute k.dq (reduced? d q)
    let qi ← orCompute k.qi (coefficient? p q)
    .ok ⟨k.n, k.e, d, p, q, dp, dq, qi⟩
  | _, _ => .error (.refused .primesMissing)

def accepted (k : RsaKey) : Result RsaKey :=
  match k.d with
  | none =>
    if k.n < 0 ∨ k.e < 0 then unrepresentable
    else if publicNumbersFit k.n k.e then .ok k.publicPart
    else refuse
  | some d => do
    let whole ← k.complete d
    if whole.numbers.any (· < 0) then unrepresentable
    else if whole.consistent then .ok whole.toKey
    else refuse

end RsaKey

/-! ## Pairing keys -/

/-- The key pair of a private scalar. -/
def BlsKey.ofScalar (d : Int) : Result BlsKey :=
  if 0 < d ∧ d < Bls12381.order then
    match Bls12381.publicBytes? d.toNat with
    | some x => .ok { x := x, d := some d }
    | none => .error (.refused .scalarRange)
  else .error (.refused .scalarRange)

/-! ## All keys -/

/-- A key as the primitives hold it, once it has passed their checks; they know no pairing keys. -/
def Key.accepted : Key → Result Key
  | .ec k => k.accepted.map .ec
  | .okp k => k.accepted.map .okp
  | .rsa k => k.accepted.map .rsa
  | .bls _ => .error .formless

/-- A key that the primitives made. They know more curves than keys are published on. -/
inductive HeldKey
  /-- The key pair of a scalar on a curve by its SEC 2 name, or its public part alone. -/
  | ec (secName : String) (scalar : Nat) (keepsScalar : Bool)
  | okpPrivate (c : Curve) (seed : Bytes)
  | okpPublic (c : Curve) (octets : Bytes)
  | rsa (k : RsaKey)

namespace HeldKey

/-- The name by which error messages speak of it. -/
def typeName : HeldKey → String
  | ec _ _ true => "ECPrivateKey"
  | ec _ _ false => "ECPublicKey"
  | okpPrivate .ed25519 _ => "Ed25519PrivateKey"
  | okpPrivate _ _ => "X25519PrivateKey"
  | okpPublic .ed25519 _ => "Ed25519PublicKey"
  | okpPublic _ _ => "X25519PublicKey"
  | rsa k => if k.d.isSome then "RSAPrivateKey" else "RSAPublicKey"

/-- Takes over an elliptic key, if keys are published on its curve. -/
def toEcKey (secName : String) (scalar : Nat) (keepsScalar : Bool) : Result EcKey := do
  let c ← EcKey.curveNamed secName
  let k ← EcKey.ofScalar c scalar
  .ok (if keepsScalar then k else k.publicPart)

def toKey : HeldKey → Result Key
  | ec secName scalar keepsScalar => (toEcKey secName scalar keepsScalar).map .ec
  | okpPrivate c seed => (OkpKey.ofSeed c seed).map .okp
  | okpPublic c octets => .ok (.okp { curve := OkpKey.primitiveCurve c, x := octets })
  | rsa k => .ok (.rsa k)

end HeldKey

end WebKeys
