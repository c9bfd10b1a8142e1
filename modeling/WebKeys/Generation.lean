import WebKeys.Entropy
import WebKeys.KeyType
import WebKeys.Primitives

/-!
# New key pairs

A key pair of every family, drawn from entropy.

* `Entropy.key` draws a pair for a key type; there is none for a symmetric type.
* The modulus of an RSA key has exactly the bits asked for: its primes have two leading ones each.
-/

namespace WebKeys.Entropy

open Arithmetic

/-! ## Scalars and seeds -/

/-- A new key pair on a curve, from a scalar that is drawn below its order. -/
def ecKey (c : Curve) (e : Entropy) : Result EcKey × Entropy :=
  match Weierstrass.equation? c with
  | none => (.error (.ofReason (.notElliptic c)), e)
  | some equation =>
    let (d, e) := e.below (equation.order - 1)
    (EcKey.ofScalar c (d + 1), e)

def okpKey (c : Curve) (e : Entropy) : Result OkpKey × Entropy :=
  let (seed, e) := e.bytes 32
  (OkpKey.ofSeed c seed, e)

def blsKey (e : Entropy) : Result BlsKey × Entropy :=
  let (d, e) := e.below (Bls12381.order - 1)
  (BlsKey.ofScalar (d + 1 : Nat), e)

/-! ## RSA keys -/

/-- The exponent of every new public key. -/
def publicExponent : Nat := 65537

/-- The sizes of a modulus that are offered: at least 1024 bits, in a 32-bit word. -/
def fewestRsaBits : Int := 1024

/-- Sizes in bits must fit 32 bits. -/
def sizeBound : Int := 0x100000000

/-- A prime with exactly so many bits, two leading ones among them. -/
def prime? (bits : Nat) (accept : Nat → Bool) (e : Entropy) : Option Nat × Entropy :=
  let (low, e) := e.below (1 <<< (bits - 2))
  let start := 3 <<< (bits - 2) + low
  let start := if start % 2 = 0 then start + 1 else start
  (primeFrom? (fun p => bitLength p == bits && accept p) (64 * bits) start, e)

/-- The key pair of two primes. -/
def rsaKeyOf (p q : Nat) : Option RsaKey := do
  let d ← inverse? publicExponent (Nat.lcm (p - 1) (q - 1))
  let qi ← inverse? q p
  return {
    n := (p * q : Nat)
    e := publicExponent
    d := some (d : Int)
    p := some (p : Int)
    q := some (q : Int)
    dp := some (d % (p - 1) : Nat)
    dq := some (d % (q - 1) : Nat)
    qi := some (qi : Int) }

/-- A new RSA key pair of a size in bits. The two primes are different and go along with the public
exponent. -/
def rsaKey (bits : Int) (e : Entropy) : Result RsaKey × Entropy :=
  if bits < fewestRsaBits then (refuse, e)
  else if sizeBound ≤ bits then (unrepresentable, e)
  else
    let usable := fun (p : Nat) => Nat.gcd (p - 1) publicExponent == 1
    let (p?, e) := prime? ((bits.toNat + 1) / 2) usable e
    let (q?, e) := prime? (bits.toNat / 2) (fun q => usable q && p? != some q) e
    match (do rsaKeyOf (← p?) (← q?)) with
    | some k => (.ok k, e)
    | none => (refuse, e)

/-! ## Keys by type -/

/-- A key pair for a key type; `rsaBits` is the size of the modulus, should it be an RSA key. -/
def key (rsaBits : Int) (t : KeyType) (e : Entropy) : Result Key × Entropy :=
  match t.family, t.curve? with
  | .ec, some c =>
    let (k, e) := e.ecKey c
    (k.map .ec, e)
  | .okp, some c =>
    let (k, e) := e.okpKey c
    (k.map .okp, e)
  | .bls, _ =>
    let (k, e) := e.blsKey
    (k.map .bls, e)
  | .rsa, _ =>
    let (k, e) := e.rsaKey rsaBits
    (k.map .rsa, e)
  | _, _ => (.error (.store (.nothingToExport t)), e)

end WebKeys.Entropy
