import WebKeys.Bytes.Base64
import WebKeys.KeyType
import WebKeys.Text.Quoted

/-!
# Failures

Every way in which an operation on keys can fail, by its cause.

* A `ConversionError` has a `Reason`, the operation that failed, and the key type involved where it
  is known. Its kind follows from the reason; its message is the reason after the operation.
* A `Refusal` comes from below: numbers that make no key, a text that is not base 64, a document
  without the wanted members. It is the cause of a conversion error, or stands alone.
* A `Failure` is either of them, or one of the few faults of a call that neither describes.
-/

namespace WebKeys

/-! ## Faults of documents -/

/-- What is wrong with a member of a document, or with the whole of it. -/
inductive FaultKind
  | missing
  | notText
  | tooShort
  | notBytes
  | badValue
  | notJson
  | notObject
  | notListed
  | notBool
  | wrongTypeForBool
  | notInteger
  | wrongTypeForInteger
  | fractional
  | notFinite
  | tooLong
  deriving DecidableEq

def FaultKind.name : FaultKind → String
  | missing => "missing"
  | notText => "string_type"
  | tooShort => "string_too_short"
  | notBytes => "bytes_type"
  | badValue => "value_error"
  | notJson => "json_invalid"
  | notObject => "model_type"
  | notListed => "literal_error"
  | notBool => "bool_parsing"
  | wrongTypeForBool => "bool_type"
  | notInteger => "int_parsing"
  | wrongTypeForInteger => "int_type"
  | fractional => "int_from_float"
  | notFinite => "finite_number"
  | tooLong => "int_parsing_size"

/-- A fault of the named member; the document as a whole goes by the empty name. -/
structure FieldFault where
  field : String
  kind : FaultKind
  deriving DecidableEq

/-! ## Refusals -/

/-- What is refused without the name of an operation, and mostly without a word to the caller. -/
inductive Refusal
  /-- Numbers that are not those of a key. -/
  | numbers
  | text (fault : Base64.Fault)
  | document (faults : List FieldFault)
  /-- A private scalar of the pairing curve outside 1 … order − 1. -/
  | scalarRange
  /-- A private RSA key without its two primes. -/
  | primesMissing
  /-- An arc that is no number, or one with too many digits. -/
  | arc
  | objectId (text : String)
  /-- Digits of a negative number, which have no end. This stands for a call that never returns. -/
  | endless
  | derForm (name : String)
  /-- A file name with a null character in it, which no file can have. -/
  | fileName
  deriving DecidableEq

namespace Refusal

def faultsText : List FieldFault → String
  | [] => ""
  | [f] => f.field ++ "=" ++ f.kind.name
  | f :: rest => f.field ++ "=" ++ f.kind.name ++ ", " ++ faultsText rest

def message : Refusal → String
  | numbers => "the numbers do not make a key"
  | text .notAscii => "the text is not ASCII"
  | text .malformed => "the text is not base 64"
  | document faults => "the document is refused: " ++ faultsText faults
  | scalarRange => "BLS private scalar out of range"
  | primesMissing => "RSA private key requires p and q"
  | arc => "an arc is not a number of at most 4300 digits"
  | objectId s => "invalid object identifier: " ++ s
  | endless => "the digits have no end"
  | derForm s => "Unknown secp256k1 OID mode: " ++ s
  | fileName => "a file name has a null character"

end Refusal

/-! ## Conversion errors -/

/-- What is wrong with a DER text. -/
inductive DerFault
  | truncated
  | highTag
  | indefiniteLength
  | leadingZeroLength
  | longLength
  | wrongTag
  | truncatedObjectId
  | paddedObjectId
  | trailingAfterKey
  | trailingInKey
  | trailingInAlgorithm
  | badBitString
  deriving DecidableEq

def DerFault.message : DerFault → String
  | truncated => "asn1: syntax error: data truncated"
  | highTag => "asn1: structure error: high-tag-number form not supported"
  | indefiniteLength => "asn1: syntax error: indefinite length found (not DER)"
  | leadingZeroLength => "asn1: structure error: superfluous leading zeros in length"
  | longLength => "asn1: structure error: non-minimal length"
  | wrongTag => "asn1: structure error: tags don't match"
  | truncatedObjectId => "asn1: syntax error: truncated object identifier"
  | paddedObjectId => "asn1: syntax error: non-minimal object identifier"
  | trailingAfterKey => "asn1: trailing data after public key"
  | trailingInKey => "asn1: trailing data inside public key info"
  | trailingInAlgorithm => "asn1: trailing data inside algorithm identifier"
  | badBitString => "asn1: structure error: invalid public key bit string"

/-- The six kinds of conversion errors. -/
inductive ErrorKind
  /-- A key type that is not registered, or has no conversion for the operation. -/
  | unsupportedKeyType
  /-- Bytes that are not in the layout that the key type claims. -/
  | invalidEncoding
  /-- A length other than that of a key of fixed width. -/
  | invalidKeySize
  /-- A key of another curve or family than the key type asks for. -/
  | curveMismatch
  /-- A key that cannot be put together. -/
  | keyCreation
  /-- Nothing where a key or its bytes are needed. -/
  | emptyInput
  deriving DecidableEq

def ErrorKind.name : ErrorKind → String
  | unsupportedKeyType => "UnsupportedKeyTypeError"
  | invalidEncoding => "InvalidEncodingError"
  | invalidKeySize => "InvalidKeySizeError"
  | curveMismatch => "CurveMismatchError"
  | keyCreation => "KeyCreationError"
  | emptyInput => "EmptyInputError"

/-- Why a conversion failed. -/
inductive Reason
  | unknownTag (tag : String)
  | withoutPublicKey (t : KeyType)
  | notElliptic (c : Curve)
  | foreignCurve (name : String)
  | notOctets (what : String)
  | unknownGroup (group : String)
  | unknownCurve (curve : Option String) (group : String)
  | notWebKey (what : String)
  | notAKey (what : String)
  | der (fault : DerFault)
  | pointLength (c : Curve) (length : Nat)
  | compressedPoint
  | badPoint (c : Curve)
  | curveParameterMissing
  | rsaDer (fault : DerFault)
  | rsaAlgorithm
  | rsaNumbers
  | badG2Point
  | outsideSubgroup
  | document (faults : List FieldFault)
  | keyWrapGroup (group : String)
  | keyWrapIncomplete
  | keyWrapWidth (c : Curve)
  | memberText (member : String) (fault : Base64.Fault)
  | memberMissing (member : String)
  | privateMismatch
  | coordinateWidth (c : Curve)
  | privateRefused (why : Refusal)
  | rsaRefused (why : Refusal)
  | keySize (c : Curve) (length : Nat)
  | g2Size
  | pointOfOther (c other : Curve)
  | foreignObjectId (oid : String)
  | otherCurve (found : Option String) (c : Curve)
  | ecAlgorithm (oid : String)
  | otherFamily (family : Family) (t : KeyType)
  | notCreatable (what : String)
  | labelMismatch (group curve : Option String) (family : Family)
  | noKey
  | whileCreating (why : Reason)
  | whileCreatingX25519 (why : Reason)
  | noBytes
  | noWebKey
  | noKeyToEncode

/-- The word for a name that may be absent. -/
def orNone (name : Option String) : String := name.getD "None"

namespace Reason

def kind : Reason → ErrorKind
  | unknownTag _ | withoutPublicKey _ | notElliptic _ | foreignCurve _ | notOctets _
  | unknownGroup _ | unknownCurve .. | notWebKey _ | notAKey _ => .unsupportedKeyType
  | der _ | pointLength .. | compressedPoint | badPoint _ | curveParameterMissing | rsaDer _
  | rsaAlgorithm | rsaNumbers | badG2Point | outsideSubgroup | document _ | keyWrapGroup _
  | keyWrapIncomplete | keyWrapWidth _ | memberText .. | memberMissing _ | privateMismatch
  | coordinateWidth _ | privateRefused _ | rsaRefused _ => .invalidEncoding
  | keySize .. | g2Size => .invalidKeySize
  | pointOfOther .. | foreignObjectId _ | otherCurve .. | ecAlgorithm _ | otherFamily .. =>
    .curveMismatch
  | notCreatable _ | labelMismatch .. | noKey | whileCreating _ | whileCreatingX25519 _ =>
    .keyCreation
  | noBytes | noWebKey | noKeyToEncode => .emptyInput

/-- The refusal that a reason ends in. -/
def refusal? : Reason → Option Refusal
  | badPoint _ | rsaNumbers | badG2Point => some .numbers
  | document faults => some (.document faults)
  | memberText _ fault => some (.text fault)
  | privateRefused why | rsaRefused why => some why
  | _ => none

def message : Reason → String
  | unknownTag tag => s!"invalid key type: {tag}"
  | withoutPublicKey t => s!"invalid key type: {t.tag} has no public key"
  | notElliptic c => s!"{c.name} is not an elliptic curve"
  | foreignCurve name => s!"unsupported EC curve: {name}"
  | notOctets what => s!"not an octet key pair: {what}"
  | unknownGroup group => s!"unsupported kty {Text.quoted group}"
  | unknownCurve curve group =>
    let crv := (curve.map Text.quoted).getD "None"
    s!"unsupported crv {crv} for kty {Text.quoted group}"
  | notWebKey what => s!"unsupported jwk key type {what}"
  | notAKey what | notCreatable what => s!"unsupported key type {what}"
  | der fault => fault.message
  | pointLength c length =>
    s!"invalid {c.name} point length: {length} bytes, expected {c.pointSize}"
  | compressedPoint => "point is not in uncompressed form"
  | badPoint c => s!"invalid {c.name} point: {Refusal.numbers.message}"
  | curveParameterMissing => "EC key is missing its namedCurve parameter"
  | rsaDer fault => s!"rsa: invalid public key: {fault.message}"
  | rsaAlgorithm => "rsa: invalid public key"
  | rsaNumbers => s!"rsa: invalid public key: {Refusal.numbers.message}"
  | badG2Point => s!"invalid BLS12-381 G2 point: {Refusal.numbers.message}"
  | outsideSubgroup => "invalid BLS12-381 G2 point: not in the G2 subgroup"
  | document faults => (Refusal.document faults).message
  | keyWrapGroup group => s!"kw public key type must be EC, got {group}"
  | keyWrapIncomplete => "kw public key is missing coordinates"
  | keyWrapWidth c => s!"kw public key coordinates exceed {c.name} field width"
  | memberText member fault =>
    s!"member {Text.quoted member} is not base64url: {(Refusal.text fault).message}"
  | memberMissing member => s!"missing member {Text.quoted member}"
  | privateMismatch => "private key does not match public key"
  | coordinateWidth c => s!"coordinates exceed {c.name} field width"
  | privateRefused why => why.message
  | rsaRefused why => s!"rsa: invalid key: {why.message}"
  | keySize c length => s!"invalid {c.name} key size: {length} bytes, expected {c.size}"
  | g2Size => "invalid size of public key"
  | pointOfOther c other => s!"key is not {c.name}: point length matches {other.name}"
  | foreignObjectId oid => s!"unsupported named curve: {oid}"
  | otherCurve found c => s!"key is {orNone found}, expected {c.name}"
  | ecAlgorithm oid => s!"invalid EC key: algorithm {oid}"
  | otherFamily family t => s!"{family.name} key cannot be encoded as {t.tag}"
  | labelMismatch group curve family =>
    s!"kty/crv {orNone group}/{orNone curve} do not match {family.name} key"
  | noKey | noKeyToEncode => "key is empty"
  | whileCreating why => why.message
  | whileCreatingX25519 why => s!"marshalX25519: {why.message}"
  | noBytes => "public key bytes are empty"
  | noWebKey => "jwk is empty"

end Reason

/-- The operations that name themselves in their errors and in the log. -/
inductive Operation
  | decodeKey
  | decodeWebKey
  | wrapKey
  | viewWebKey
  | encodeKey
  | createWebKey
  | parseWebKey
  deriving DecidableEq

/-- The name under which an operation is reported and logged. -/
def Operation.name : Operation → String
  | decodeKey => "pub_key_bytes_to_key"
  | decodeWebKey => "pub_key_bytes_to_jwk"
  | wrapKey => "jwk_from_key"
  | viewWebKey => "public_key_from_jwk"
  | encodeKey => "pub_key_to_bytes"
  | createWebKey => "create JWK"
  | parseWebKey => "parse JWK"

/-- What an error was raised from. -/
inductive Cause
  | refusal (r : Refusal)
  | conversion (kind : ErrorKind)

/-- An error that conversions report; the operation and the key type are added on the way out. -/
structure ConversionError where
  reason : Reason
  operation : Option Operation := none
  /-- The tag of the key type, which need not be a registered one. -/
  keyType : Option String := none
  cause : Option Cause := none

namespace ConversionError

def kind (e : ConversionError) : ErrorKind := e.reason.kind

def message (e : ConversionError) : String :=
  match e.operation with
  | some op => op.name ++ ": " ++ e.reason.message
  | none => e.reason.message

/-- An error as it first comes up, its cause being the refusal that its reason ends in. -/
def ofReason (reason : Reason) (operation : Option Operation := none) : ConversionError where
  reason := reason
  operation := operation
  cause :=
    match reason with
    | .rsaDer _ => some (.conversion .invalidEncoding)
    | _ => reason.refusal?.map .refusal

end ConversionError

/-! ## All failures -/

/-- What a store of keys reports. -/
inductive StoreFault
  | unknownStore (name : String) (known : List String)
  | nothingToExport (t : KeyType)
  | keyNotFound (id : String)
  /-- A fault of a store outside this library, by its kind and text. -/
  | reported (kind text : String)

/-- All the ways in which an operation can fail. -/
inductive Failure
  | conversion (e : ConversionError)
  | refused (r : Refusal)
  /-- A number that is negative or too wide for its place. -/
  | unrepresentable
  /-- A key in a form that it does not have: a private key where only public ones are written, or a
  pairing key among primitives that know no pairings. -/
  | formless
  | store (fault : StoreFault)
  /-- Arguments that do not fit the call, or the template they are to be put into. -/
  | badCall
  /-- A template with a placeholder that is cut off or of no known kind. -/
  | badTemplate
  /-- A template that names an argument which is not there. -/
  | noSuchName (name : String)
  /-- An attribute for a record that has one of this name. -/
  | attributeTaken (name : String)
  | unknownLevel (name : String)

/-- What an operation comes to: an answer, or the way in which it failed. -/
abbrev Result := Except Failure

namespace Failure

def ofReason (reason : Reason) (operation : Option Operation := none) : Failure :=
  conversion (.ofReason reason operation)

/-- The kind of a failure by the name it has in the log. -/
def kindName : Failure → String
  | conversion e => e.kind.name
  | refused (.document _) => "ValidationError"
  | refused _ => "ValueError"
  | unrepresentable => "OverflowError"
  | formless | unknownLevel _ => "AttributeError"
  | store (.keyNotFound _) => "KeyNotFoundError"
  | store (.reported kind _) => kind
  | store _ => "BackendError"
  | badCall => "TypeError"
  | badTemplate => "ValueError"
  | noSuchName _ | attributeTaken _ => "KeyError"

def message : Failure → String
  | conversion e => e.message
  | refused r => r.message
  | unrepresentable => "a number does not fit its width"
  | formless => "the key has no such form"
  | store (.unknownStore name known) =>
    let names := String.intercalate ", " known
    s!"Unknown key manager backend: {name}. Available backends: {names}"
  | store (.nothingToExport t) => s!"Key type {t.tag} has no public key to export"
  | store (.keyNotFound id) => s!"Key not found: {id}"
  | store (.reported _ text) => text
  | badCall => "the arguments do not fit"
  | badTemplate => "a placeholder is not complete or not known"
  | noSuchName name => s!"no argument is called {name}"
  | attributeTaken name => s!"a record has an attribute called {name} of its own"
  | unknownLevel name => s!"no log level is called {name}"

/-- The key type that a failure involves, where it is known. -/
def keyType? : Failure → Option String
  | conversion e => e.keyType
  | _ => none

end Failure

end WebKeys
