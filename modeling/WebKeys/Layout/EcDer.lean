import WebKeys.Der.PublicKeyInfo
import WebKeys.Layout.Point
import WebKeys.Primitives

/-!
# Elliptic curve keys in DER

The algorithm identifier of RFC 5480 names the curve, and a key is read only as one of the curve it
names. A secp256k1 key has a second form, with the placeholder `2.0` for an algorithm and no
parameters; its point must then have the right length. The form that was read stays with the key,
and writing the key uses it again.
-/

namespace WebKeys.EcKey

/-- The algorithm of elliptic keys, which names the curve in its parameters. -/
def ecAlgorithm : String := "1.2.840.10045.2.1"

/-- An identifier that is registered to nothing. -/
def placeholderAlgorithm : String := "2.0"

/-! ## Reading -/

/-- The first elliptic curve whose points have this many bytes. -/
def ellipticOfPointSize? (size : Nat) : Option Curve :=
  Curve.all.find? fun c => c.family = .ec && c.pointSize = size

/-- The form of a key information, if what it says about its curve fits `c`. -/
def formOf (c : Curve) (info : PublicKeyInfo) : Except Reason DerForm :=
  if info.algorithm = placeholderAlgorithm ∧ c = .secp256k1 then
    if info.publicKey.length = c.pointSize then .ok .legacy
    else match ellipticOfPointSize? info.publicKey.length with
      | some other => .error (.pointOfOther c other)
      | none => .ok .legacy
  else if info.algorithm = ecAlgorithm then
    match info.parameters with
    | none => .error .curveParameterMissing
    | some oid =>
      match Curve.ofObjectId? oid with
      | none => .error (.foreignObjectId oid)
      | some named =>
        if named = c then .ok .registered else .error (.otherCurve (some named.name) c)
  else .error (.ecAlgorithm info.algorithm)

/-- Reads a key of a curve; only on secp256k1 does the key remember the form. -/
def ofDer (c : Curve) (bs : Bytes) : Result EcKey := do
  let info ← (PublicKeyInfo.parse bs).mapError ObjectId.Unreadable.failure
  let form ← (formOf c info).mapError Failure.ofReason
  let k ← ofPoint c info.publicKey
  return if c = .secp256k1 then { k with form := some form } else k

/-! ## Writing -/

/-- The algorithm and the parameters of a form. -/
def identifierOf (c : Curve) : DerForm → Except Refusal (String × Option String)
  | .legacy => .ok (placeholderAlgorithm, none)
  | .registered => .ok (ecAlgorithm, c.objectId?)
  | .unknown name => .error (.derForm name)

/-- Writes the point as it is in the given form, whatever the curve. -/
def toForm (form : DerForm) (k : EcKey) : Result Bytes := do
  let (algorithm, parameters) ← (identifierOf k.curve form).mapError .refused
  let point ← k.toPoint
  (PublicKeyInfo.encode ⟨algorithm, parameters, point⟩).mapError .refused

/-- The form that a key remembers; a form without a name is none. -/
def remembered? (k : EcKey) : Option DerForm := k.form.filter (· ≠ .unknown "")

/-- Writes the point in the given form, or that in which it was read, or the preferred one. -/
def marshal (preferred : Result DerForm) (form : Option DerForm) (k : EcKey) : Result Bytes := do
  match form.or k.remembered? with
  | some form => k.toForm form
  | none => k.toForm (← preferred)

/-- Whether writing a key depends on the preferred form. -/
def asksForm (k : EcKey) : Bool := k.curve = .secp256k1 && k.remembered?.isNone

/-- A secp256k1 key is written as it is. One on another curve is checked first, and it must not be
private. -/
def toDer (preferred : Result DerForm) (k : EcKey) : Result Bytes :=
  if k.curve = .secp256k1 then k.marshal preferred none
  else do
    let k ← k.accepted
    if k.d.isSome then throw .formless
    k.toForm .registered

end WebKeys.EcKey
