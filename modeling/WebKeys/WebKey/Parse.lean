import WebKeys.Layout.Raw
import WebKeys.Primitives
import WebKeys.WebKey
import WebKeys.WebKey.Document

/-!
# Reading web keys

The group decides what a document holds, and for all groups but `RSA` the curve does the rest. A
private part is read only to be checked: what is kept is the key pair derived from it, and its
public part must be the one in the document.
-/

namespace WebKeys.WebKey

/-- A failure to read a document. -/
def parseFailure (reason : Reason) : Failure := .ofReason reason (some .parseWebKey)

/-! ## Members -/

/-- The bytes of a text, or a failure that names the member. -/
def decodeMember (name text : String) : Result Bytes :=
  match Base64.decodeUnpadded .link text.toList with
  | .ok bs => .ok bs
  | .error fault => .error (parseFailure (.memberText name fault))

/-- The bytes of a member that must be there and not empty. -/
def required (name : String) (value : Option String) : Result Bytes :=
  match value with
  | none => .error (parseFailure (.memberMissing name))
  | some text =>
    if text.isEmpty then .error (parseFailure (.memberMissing name)) else decodeMember name text

/-- The number of a member, if it is there; no bytes are zero. -/
def optionalNumber (name : String) (value : Option String) : Result (Option Int) :=
  match value with
  | none => .ok none
  | some text => do return some (Bytes.toNat (← decodeMember name text) : Int)

/-- Reports what the primitives refuse as a fault of the document. -/
def reportRefusal {α : Type} (report : Refusal → Reason) : Result α → Result α
  | .error (.refused why) => .error (parseFailure (report why))
  | r => r

/-! ## Keys on curves -/

def blsKey (doc : Document) : Result Key := do
  let k ← BlsKey.ofCompressed (some (← required "x" doc.x))
  match ← optionalNumber "d" doc.d with
  | none => return .bls k
  | some d =>
    let pair ← BlsKey.ofScalar d
    if pair.x = k.x then return .bls pair else throw (parseFailure .privateMismatch)

def okpKey (c : Curve) (doc : Document) : Result Key := do
  let k ← OkpKey.ofRaw c (some (← required "x" doc.x))
  match doc.d with
  | none => return .okp k
  | some text =>
    let pair ← OkpKey.ofSeed c (← decodeMember "d" text)
    if pair.x = k.x then return .okp pair else throw (parseFailure .privateMismatch)

/-- Reads an elliptic key. Coordinates that are too short are filled up. -/
def ecKey (c : Curve) (doc : Document) : Result Key := do
  let x ← required "x" doc.x
  let y ← required "y" doc.y
  if c.size < x.length ∨ c.size < y.length then throw (parseFailure (.coordinateWidth c))
  let k ← EcKey.ofPoint c (4 :: (Bytes.padLeft c.size x ++ Bytes.padLeft c.size y))
  match ← optionalNumber "d" doc.d with
  | none => return .ec k
  | some d =>
    let pair ← EcKey.ofScalar c d.toNat
    if (pair.x, pair.y) = (k.x, k.y) then return .ec pair
    else throw (parseFailure .privateMismatch)

/-- Reads a key of the curve that the document names under its group. -/
def curveKey (doc : Document) : Result Key :=
  match doc.crv.bind Curve.ofName? with
  | none => .error (parseFailure (.unknownCurve doc.crv doc.kty))
  | some c =>
    if c.group ≠ doc.kty then .error (parseFailure (.unknownCurve doc.crv doc.kty))
    else reportRefusal .privateRefused
      (match c.family with
        | .bls => blsKey doc
        | .okp => okpKey c doc
        | _ => ecKey c doc)

/-! ## RSA keys -/

/-- The numbers of an RSA key. Without a private exponent the other private numbers are passed
over. -/
def rsaNumbers (doc : Document) : Result RsaKey := do
  let n : Int := Bytes.toNat (← required "n" doc.n)
  let e : Int := Bytes.toNat (← required "e" doc.e)
  match ← optionalNumber "d" doc.d with
  | none => return { n := n, e := e }
  | some d =>
    let p ← optionalNumber "p" doc.p
    let q ← optionalNumber "q" doc.q
    let dp ← optionalNumber "dp" doc.dp
    let dq ← optionalNumber "dq" doc.dq
    let qi ← optionalNumber "qi" doc.qi
    return ⟨n, e, some d, p, q, dp, dq, qi⟩

def rsaKey (doc : Document) : Result Key := do
  let k ← rsaNumbers doc
  return .rsa (← reportRefusal .rsaRefused k.accepted)

/-! ## Documents -/

/-- Reads the key of a document, in the way of its group. -/
def keyOf (doc : Document) : Result Key :=
  if doc.kty = "RSA" then rsaKey doc
  else if doc.kty = "EC" ∨ doc.kty = "OKP" then curveKey doc
  else .error (parseFailure (.unknownGroup doc.kty))

/-- Reads a document, under the label of the key that is in it. -/
def ofDocument (doc : Document) : Result WebKey := do
  ofKey (← keyOf doc) doc.kid doc.use doc.alg

/-- Reads a document, its faults being those of an encoding. -/
def ofChecked : Except (List FieldFault) Document → Result WebKey
  | .ok doc => ofDocument doc
  | .error faults => .error (parseFailure (.document faults))

def ofJson (v : Json) : Result WebKey := ofChecked (Document.ofJson v)

def ofJsonText (bs : Bytes) : Result WebKey := ofChecked (Document.ofJsonText bs)

end WebKeys.WebKey
