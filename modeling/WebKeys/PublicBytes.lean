import WebKeys.Layout.EcDer
import WebKeys.Layout.KeyWrap
import WebKeys.Layout.Raw
import WebKeys.Layout.RsaDer

/-!
# Public keys by key type

A key type commits to a layout, and with it to a family and mostly to a curve. `Key.ofPublicBytes`
reads the bytes of a type and `Key.toPublicBytes` writes them; the latter refuses a key of another
family or curve before anything else.

The form of a secp256k1 key in DER may be left to a preference. `Key.asksPreference` tells exactly
when writing a key depends on it.
-/

namespace WebKeys.Key

/-- Reads the public bytes of a key of this type; `takes` is the check of primitives that load an
RSA key. -/
def ofPublicBytes (t : KeyType) (bs : Bytes)
    (takes : RsaKey.LoadCheck := RsaKey.publicNumbersFit) : Result Key :=
  match t.layout, t.curve? with
  | .point, some c => (EcKey.ofPoint c bs).map ec
  | .der, some c => (EcKey.ofDer c bs).map ec
  | .der, none => (RsaKey.ofDer bs takes).map rsa
  | .keyWrapJson, some c => (EcKey.ofKeyWrapJson c bs).map ec
  | .raw, some c => (OkpKey.ofRaw c bs).map okp
  | .compressedG2, _ => (BlsKey.ofCompressed bs).map bls
  | _, _ => .error (.ofReason (.unknownTag t.tag))

/-- Why a key cannot be written as one of this type, if it cannot. -/
def mismatch? (t : KeyType) (k : Key) : Option Reason :=
  if t.layout = .absent then some (.unknownTag t.tag)
  else if k.family ≠ t.family then some (.otherFamily k.family t)
  else match t.curve? with
    | none => none
    | some c => if k.curve? = some c then none else some (.otherCurve (k.curve?.map (·.name)) c)

/-- Writes a key in a layout that its family has. -/
def inLayout (preferred : Result DerForm) (layout : Layout) : Key → Result Bytes
  | ec k =>
    match layout with
    | .point => k.toPoint
    | .der => k.toDer preferred
    | _ => k.toKeyWrapJson.map fun s => Utf8.encode s.toList
  | okp k => .ok k.x
  | bls k => .ok k.x
  | rsa k => k.toDer

/-- Writes a key under a type, once family and curve are found to be those of the type. -/
def toPublicBytes (preferred : Result DerForm) (t : KeyType) (k : Key) : Result Bytes :=
  match mismatch? t k with
  | some reason => .error (.ofReason reason)
  | none => k.inLayout preferred t.layout

/-! ## The preferred form -/

/-- Whether writing a key under a type depends on the preferred form. -/
def asksPreference (t : KeyType) : Key → Bool
  | ec k => t = .secp256k1Der && k.asksForm
  | _ => false

end WebKeys.Key
