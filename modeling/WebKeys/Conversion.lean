import WebKeys.Candidate
import WebKeys.Log.Event
import WebKeys.PublicBytes
import WebKeys.WebKey.Parse

/-!
# Conversions

Between the bytes that a key store exports, keys, web keys and flat views. On the way from bytes
the key type is the authority; on the way from a key the key is.

* `decodeKey`, `decodeWebKey` read exported bytes; `encodeKey` writes them again.
* `wrapKey`, `wrapX25519` make web keys, `view` flattens them.

Every error of a conversion names the operation that failed, and the key type where there is one:
`inOperation` adds both to errors that come up without them.
-/

namespace WebKeys.Conversion

/-- The part of the program that the events of conversions come from. -/
def logger : String := "kmsjwk.core.jwk_adapter"

/-- An error that an operation finds by itself, with the key type. -/
def errorIn (op : Operation) (t : KeyType) (reason : Reason) : Failure :=
  .conversion { ConversionError.ofReason reason (some op) with keyType := some t.tag }

/-- Names the operation and the key type in an error that does not name an operation yet. -/
def inOperation {α : Type} (op : Operation) (t : KeyType) : Result α → Result α
  | .error (.conversion e) =>
    if e.operation.isSome then .error (.conversion e)
    else .error (.conversion ⟨e.reason, some op, some t.tag, some (.conversion e.kind)⟩)
  | r => r

/-- The key type of a tag, if its keys have a public part. -/
def lookup (op : Operation) (tag : String) : Result KeyType :=
  match KeyType.ofTag? tag with
  | none =>
    .error (.conversion
      { ConversionError.ofReason (.unknownTag tag) (some op) with keyType := some tag })
  | some t =>
    if t.family = .symmetric then .error (errorIn op t (.withoutPublicKey t)) else .ok t

/-! ## From bytes -/

/-- The key that bytes are read as under a type, if there are any. -/
def keyOfBytes (bs : Option Bytes) (t : KeyType)
    (takes : RsaKey.LoadCheck := RsaKey.publicNumbersFit) : Result Key :=
  match bs with
  | none => .error (errorIn .decodeKey t .noBytes)
  | some bs => inOperation .decodeKey t (Key.ofPublicBytes t bs takes)

/-- Reads the exported bytes of a public key. -/
def decodeKey (bs : Option Bytes) (tag : String)
    (takes : RsaKey.LoadCheck := RsaKey.publicNumbersFit) : Traced Key :=
  .timed logger Operation.decodeKey.name
    (.ofResult ((lookup .decodeKey tag).bind fun t => keyOfBytes bs t takes))

/-- The label that the key type commits to. -/
def labelOf (t : KeyType) : Option String × Option String := (t.group?, t.curve?.map (·.name))

/-- Reads the exported bytes of a public key into a web key. -/
def decodeWebKey (bs : Option Bytes) (tag : String) (kid : Option String := none)
    (takes : RsaKey.LoadCheck := RsaKey.publicNumbersFit) : Traced WebKey :=
  .timed logger Operation.decodeWebKey.name <|
    (Traced.ofResult (lookup .decodeWebKey tag)).andThen fun t =>
      (decodeKey bs t.tag takes).andThen fun k =>
        .ofResult (WebKey.create k (labelOf t) kid none none)

/-! ## From keys -/

/-- Reports a key of a foreign curve as one that no web key can be made of. -/
def whileCreating {α : Type} : Result α → Result α
  | .error (.conversion e) =>
    .error (.conversion ⟨.whileCreating e.reason, some .createWebKey, none,
      some (.conversion e.kind)⟩)
  | r => r

/-- The web key of whatever was handed in, if a key can be taken from it. -/
def webKeyOf (c : Candidate) (kid use alg : Option String) : Result WebKey :=
  match c with
  | .absent => .error (.ofReason .noKey (some .createWebKey))
  | c => do
    match ← whileCreating c.toKey? with
    | some k => WebKey.ofKey k kid use alg
    | none => throw (.ofReason (.notCreatable c.typeName) (some .createWebKey))

/-- Makes a web key of a key, under the key's own label. -/
def wrapKey (c : Candidate) (kid use alg : Option String := none) : Traced WebKey :=
  .timed logger Operation.wrapKey.name (.ofResult (webKeyOf c kid use alg))

/-- Makes a web key of exactly 32 raw bytes. -/
def wrapX25519 (bs : Option Bytes) (kid : Option String := none) : Result WebKey :=
  match OkpKey.ofRaw .x25519 bs with
  | .ok k => WebKey.ofKey (.okp k) kid
  | .error (.conversion e) =>
    .error (.conversion ⟨.whileCreatingX25519 e.reason, some .createWebKey, none,
      some (.conversion e.kind)⟩)
  | .error e => .error e

/-! ## Flat views -/

/-- A number in the fewest bytes, none for zero. -/
def shortest (n : Int) : Result Bytes :=
  match Bytes.ofInt? (Bytes.width n.natAbs) n with
  | some bs => .ok bs
  | none => .error .unrepresentable

/-- The view of the public part. -/
def viewOf (k : WebKey) : Result PublicView :=
  match k.key.publicPart with
  | .ec key => do return { (← key.toView) with kid := k.kid }
  | .okp key =>
    .ok { kid := k.kid, x := some key.x, curve := some key.curve.name, group := some "OKP" }
  | .bls key =>
    .ok { kid := k.kid, x := some key.x, curve := some Curve.bls12381G2.name, group := some "EC" }
  | .rsa key => do
    let n ← shortest key.n
    let e ← shortest key.e
    return { kid := k.kid, n := some n, e := some e, group := some "RSA" }

/-- The view of a web key or of its document; nothing else has one. -/
def viewOfCandidate : Candidate → Result PublicView
  | .absent => .error (.ofReason .noWebKey (some .viewWebKey))
  | .document ms => (WebKey.ofJson (.object ms)).bind viewOf
  | .webKey k => viewOf k
  | c => .error (.ofReason (.notWebKey c.typeName) (some .viewWebKey))

/-- Flattens a web key, or the document of one. -/
def view (c : Candidate) : Traced PublicView :=
  .timed logger Operation.viewWebKey.name (.ofResult (viewOfCandidate c))

/-! ## To bytes -/

/-- The key to write: that of a web key, or the one handed in. -/
def keyToEncode (t : KeyType) : Candidate → Result Key
  | .absent => .error (errorIn .encodeKey t .noKeyToEncode)
  | .webKey k => .ok k.key
  | c => do
    match ← c.toKey? with
    | some k => return k
    | none => throw (errorIn .encodeKey t (.notAKey c.typeName))

/-- Finds the key type and the key, and writes the public part. -/
def bytesOf (preferred : Result DerForm) (c : Candidate) (tag : String) : Result Bytes := do
  let t ← lookup .encodeKey tag
  let k ← keyToEncode t c
  inOperation .encodeKey t (k.publicPart.toPublicBytes preferred t)

/-- Writes the public part of a key as the bytes that a store exports for the key type. -/
def encodeKey (preferred : Result DerForm) (c : Candidate) (tag : String) : Traced Bytes :=
  .timed logger Operation.encodeKey.name (.ofResult (bytesOf preferred c tag))

/-- Whether `encodeKey` has to ask which form is preferred. -/
def asksPreference (c : Candidate) (tag : String) : Bool :=
  match lookup .encodeKey tag with
  | .error _ => false
  | .ok t =>
    match keyToEncode t c with
    | .ok k => k.asksPreference t
    | .error _ => false

end WebKeys.Conversion
