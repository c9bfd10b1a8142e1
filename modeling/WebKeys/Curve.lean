/-!
# Named curves

The curves that keys are published on, with the names, sizes and identifiers that standards give
them. A curve has one published name and may have others; `ofName?` knows them all, in the
spelling given and no other.
-/

namespace WebKeys

/-- What a key is made of, and so what can be done with it. -/
inductive Family
  | ec
  | okp
  | rsa
  | bls
  | symmetric
  deriving DecidableEq, Repr

def Family.name : Family → String
  | .ec => "EC"
  | .okp => "OKP"
  | .rsa => "RSA"
  | .bls => "BLS"
  | .symmetric => "SYMMETRIC"

/-- The curves that keys are published on. -/
inductive Curve
  | p256
  | p384
  | p521
  | secp256k1
  | ed25519
  | x25519
  | bls12381G2
  deriving DecidableEq, Repr

namespace Curve

def all : List Curve := [p256, p384, p521, secp256k1, ed25519, x25519, bls12381G2]

theorem mem_all (c : Curve) : c ∈ all := by cases c <;> simp [all]

/-- The name that a web key carries. -/
def name : Curve → String
  | p256 => "P-256"
  | p384 => "P-384"
  | p521 => "P-521"
  | secp256k1 => "secp256k1"
  | ed25519 => "Ed25519"
  | x25519 => "X25519"
  | bls12381G2 => "BLS12381_G2"

/-- Other names that are read for a curve, and never written. -/
def aliases : Curve → List String
  | p256 => ["secp256r1", "prime256v1"]
  | p384 => ["secp384r1"]
  | p521 => ["secp521r1"]
  | secp256k1 => ["SECP256K1"]
  | ed25519 => []
  | x25519 => []
  | bls12381G2 => ["BLS12381G2"]

def family : Curve → Family
  | p256 | p384 | p521 | secp256k1 => .ec
  | ed25519 | x25519 => .okp
  | bls12381G2 => .bls

/-- The group of web keys that a curve's keys belong to: a point with two coordinates, or with one
written whole as the points of pairing curves are, counts as `EC`. -/
def group (c : Curve) : String :=
  match c.family with
  | .okp => "OKP"
  | _ => "EC"

/-- The bytes of a coordinate, of a whole raw key, or of a compressed point. -/
def size : Curve → Nat
  | p256 | secp256k1 | ed25519 | x25519 => 32
  | p384 => 48
  | p521 => 66
  | bls12381G2 => 96

/-- The bytes of an uncompressed point; for a curve without such points, of a key. -/
def pointSize (c : Curve) : Nat := if c.family = .ec then 1 + 2 * c.size else c.size

/-- The object identifier of an elliptic curve in dotted form. -/
def objectId? : Curve → Option String
  | p256 => some "1.2.840.10045.3.1.7"
  | p384 => some "1.3.132.0.34"
  | p521 => some "1.3.132.0.35"
  | secp256k1 => some "1.3.132.0.10"
  | _ => none

/-- The name of an elliptic curve in SEC 2, which libraries of primitives go by. -/
def secName? : Curve → Option String
  | p256 => some "secp256r1"
  | p384 => some "secp384r1"
  | p521 => some "secp521r1"
  | secp256k1 => some "secp256k1"
  | _ => none

/-! ## Lookups -/

/-- The curve of a published name or of one of its aliases. -/
def ofName? (s : String) : Option Curve :=
  all.find? fun c => c.name = s || c.aliases.contains s

/-- The curve that a parameter of an algorithm names. -/
def ofObjectId? (s : String) : Option Curve := all.find? (·.objectId? = some s)

/-- The curve that primitives know by this name. -/
def ofSecName? (s : String) : Option Curve := all.find? (·.secName? = some s)

theorem ofName?_name (c : Curve) : ofName? c.name = some c := by cases c <;> decide +kernel

/-- The name of the standard belongs to one curve only. -/
theorem ofSecName?_eq_some_iff {s : String} {c : Curve} :
    ofSecName? s = some c ↔ c.secName? = some s := by
  constructor
  · intro h
    simpa using List.find?_some h
  · intro h
    cases c <;> simp [secName?] at h <;> subst h <;> decide +kernel

theorem ofObjectId?_eq_some_iff {s : String} {c : Curve} :
    ofObjectId? s = some c ↔ c.objectId? = some s := by
  constructor
  · intro h
    simpa using List.find?_some h
  · intro h
    cases c <;> simp [objectId?] at h <;> subst h <;> decide +kernel

end Curve

end WebKeys
