import WebKeys.Arithmetic.Modular
import WebKeys.Bytes.Sha512

/-!
# Ed25519 public keys

The key derivation of RFC 8032 on the twisted Edwards curve −x² + y² = 1 + dx²y² over the field of
2²⁵⁵ − 19 elements. The addition law has no exceptions, so one formula adds and doubles.
-/

namespace WebKeys.Edwards

open Arithmetic

def p : Nat := 1 <<< 255 - 19

/-- The curve constant −121665/121666. -/
def d : Nat := divMod p (p - 121665) 121666

abbrev Point := Nat × Nat

def base : Point :=
  (0x216936d3cd6e53fec0a4e231fdd6dc5c692cc7609525a7b2c9562d608f25d51a,
   0x6666666666666666666666666666666666666666666666666666666666666658)

/-- The group law, which needs no cases. -/
def add (P Q : Point) : Point :=
  let cross := d * (P.1 * Q.1 % p) % p * (P.2 * Q.2 % p) % p
  (divMod p (P.1 * Q.2 + P.2 * Q.1) (1 + cross),
   divMod p (P.2 * Q.2 + P.1 * Q.1) (subMod p 1 cross))

def times (k : Nat) (P : Point) : Point :=
  if _h : k = 0 then (0, 1)
  else
    let rest := times (k / 2) (add P P)
    if k % 2 = 1 then add P rest else rest
termination_by k
decreasing_by omega

/-- A scalar from 32 bytes, least significant first: a multiple of eight with its top bit at
position 254. Both key derivations on this field use it. -/
def clampedScalar (bs : Bytes) : Nat :=
  let n := Bytes.toNat bs.reverse
  1 <<< 254 + n % (1 <<< 254) / 8 * 8

/-- The second coordinate, least significant byte first, with the lowest bit of the first on top. -/
def encode (P : Point) : Bytes := (Bytes.ofNat 32 (P.2 + (P.1 % 2) <<< 255)).reverse

/-- The public octets of a seed: the encoding of the multiple by its clamped scalar. -/
def publicBytes (seed : Bytes) : Bytes :=
  encode (times (clampedScalar ((Sha512.digest seed).take 32)) base)

end WebKeys.Edwards
