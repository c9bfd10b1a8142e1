import WebKeys.Curve

/-!
# Key types

A key store issues every key under a type, and the type alone says what the exported bytes mean: of
32 raw bytes nothing else tells which of two curves they are for. `tag` is the store's name of a
type, `layout` the way its public keys are written.
-/

namespace WebKeys

/-- How the bytes of an exported public key are arranged. -/
inductive Layout
  /-- `04`, then both coordinates in full width. -/
  | point
  /-- A DER SubjectPublicKeyInfo. -/
  | der
  /-- The key itself. -/
  | raw
  /-- JSON with the coordinates in base 64. -/
  | keyWrapJson
  /-- A compressed pairing curve point. -/
  | compressedG2
  /-- No public key at all. -/
  | absent
  deriving DecidableEq, Repr

def Layout.name : Layout → String
  | .point => "ieee-p1363"
  | .der => "der"
  | .raw => "raw"
  | .keyWrapJson => "kw-json"
  | .compressedG2 => "bls-g2"
  | .absent => "none"

/-- The registered key types. A type commits to a family, to a curve where there is one, and to the
layout of the public bytes. -/
inductive KeyType
  | aes128Gcm
  | aes256Gcm
  | aes256GcmNoPrefix
  | chaCha20Poly1305
  | xChaCha20Poly1305
  | hmacSha256Tag256
  | p256Der
  | p384Der
  | p521Der
  | secp256k1Der
  | p256Point
  | p384Point
  | p521Point
  | secp256k1Point
  | ed25519
  | x25519
  | p256KeyWrap
  | p384KeyWrap
  | p521KeyWrap
  | bls12381G2
  | rsaRs256
  | rsaPs256
  deriving DecidableEq, Repr

namespace KeyType

/-- Every key type, in the order of listings. -/
def all : List KeyType :=
  [aes128Gcm, aes256Gcm, aes256GcmNoPrefix, chaCha20Poly1305, xChaCha20Poly1305, hmacSha256Tag256,
   p256Der, p384Der, p521Der, secp256k1Der, p256Point, p384Point, p521Point, secp256k1Point,
   ed25519, x25519, p256KeyWrap, p384KeyWrap, p521KeyWrap, bls12381G2, rsaRs256, rsaPs256]

theorem mem_all (t : KeyType) : t ∈ all := by cases t <;> simp [all]

/-- The tag by which a key type is registered. -/
def tag : KeyType → String
  | aes128Gcm => "AES128GCM"
  | aes256Gcm => "AES256GCM"
  | aes256GcmNoPrefix => "AES256GCMNoPrefix"
  | chaCha20Poly1305 => "ChaCha20Poly1305"
  | xChaCha20Poly1305 => "XChaCha20Poly1305"
  | hmacSha256Tag256 => "HMACSHA256Tag256"
  | p256Der => "ECDSAP256DER"
  | p384Der => "ECDSAP384DER"
  | p521Der => "ECDSAP521DER"
  | secp256k1Der => "SECP256K1DER"
  | p256Point => "ECDSAP256IEEEP1363"
  | p384Point => "ECDSAP384IEEEP1363"
  | p521Point => "ECDSAP521IEEEP1363"
  | secp256k1Point => "SECP256K1IEEEP1363"
  | ed25519 => "ED25519"
  | x25519 => "X25519ECDHKW"
  | p256KeyWrap => "NISTP256ECDHKW"
  | p384KeyWrap => "NISTP384ECDHKW"
  | p521KeyWrap => "NISTP521ECDHKW"
  | bls12381G2 => "BLS12381G2"
  | rsaRs256 => "RSARS256"
  | rsaPs256 => "RSAPS256"

/-- The key type of a tag in exactly this spelling. -/
def ofTag? (s : String) : Option KeyType := all.find? (·.tag = s)

theorem ofTag?_tag (t : KeyType) : ofTag? t.tag = some t := by cases t <;> decide +kernel

/-- A key type is found under its own tag only. -/
theorem tag_of_ofTag? {s : String} {t : KeyType} (h : ofTag? s = some t) : t.tag = s := by
  simpa using List.find?_some h

def family : KeyType → Family
  | aes128Gcm | aes256Gcm | aes256GcmNoPrefix | chaCha20Poly1305 | xChaCha20Poly1305
  | hmacSha256Tag256 => .symmetric
  | p256Der | p384Der | p521Der | secp256k1Der | p256Point | p384Point | p521Point
  | secp256k1Point | p256KeyWrap | p384KeyWrap | p521KeyWrap => .ec
  | ed25519 | x25519 => .okp
  | bls12381G2 => .bls
  | rsaRs256 | rsaPs256 => .rsa

def layout : KeyType → Layout
  | aes128Gcm | aes256Gcm | aes256GcmNoPrefix | chaCha20Poly1305 | xChaCha20Poly1305
  | hmacSha256Tag256 => .absent
  | p256Der | p384Der | p521Der | secp256k1Der | rsaRs256 | rsaPs256 => .der
  | p256Point | p384Point | p521Point | secp256k1Point => .point
  | ed25519 | x25519 => .raw
  | p256KeyWrap | p384KeyWrap | p521KeyWrap => .keyWrapJson
  | bls12381G2 => .compressedG2

/-- The curve of a type's keys; RSA and symmetric keys have none. -/
def curve? : KeyType → Option Curve
  | p256Der | p256Point | p256KeyWrap => some .p256
  | p384Der | p384Point | p384KeyWrap => some .p384
  | p521Der | p521Point | p521KeyWrap => some .p521
  | secp256k1Der | secp256k1Point => some .secp256k1
  | ed25519 => some .ed25519
  | x25519 => some .x25519
  | bls12381G2 => some .bls12381G2
  | _ => none

/-- The group that web keys of this type are published in. -/
def group? (t : KeyType) : Option String :=
  match t.curve? with
  | some c => some c.group
  | none => if t.family = .rsa then some "RSA" else none

end KeyType

end WebKeys
