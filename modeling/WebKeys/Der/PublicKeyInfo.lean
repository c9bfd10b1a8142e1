import WebKeys.Der.Element
import WebKeys.Der.ObjectId

/-!
# Public key information

The SubjectPublicKeyInfo of RFC 5280: an algorithm identifier with optional parameters, and the key
in a bit string of whole bytes. Nothing may follow it, and nothing inside it may be left over.
-/

namespace WebKeys

/-- What the information says: the algorithm in dotted form, and the key as the bytes of its bit
string. -/
structure PublicKeyInfo where
  algorithm : String
  /-- The parameters, where they are an object identifier. -/
  parameters : Option String
  publicKey : Bytes
  deriving DecidableEq

namespace PublicKeyInfo

open ObjectId (Unreadable)

/-- Reads a part whose faults are those of DER alone. -/
def part {α : Type} (r : Except DerFault α) : Except Unreadable α := r.mapError .der

/-- The parameters after an algorithm: none, or one element of any kind. -/
def parseParameters (bs : Bytes) : Except Unreadable (Option String) :=
  if bs.isEmpty then .ok none
  else do
    let (element, rest) ← part (Der.read bs)
    let parameters ←
      if element.tag = Der.objectIdTag then (ObjectId.decode element.value).map some
      else pure none
    if rest.isEmpty then pure parameters else throw (.der .trailingInAlgorithm)

/-- The contents of the algorithm identifier and of the bit string. -/
def frames (bs : Bytes) : Except DerFault (Bytes × Bytes) := do
  let (body, after) ← Der.expect Der.sequenceTag bs
  if ¬after.isEmpty then throw .trailingAfterKey
  let (identifier, rest) ← Der.expect Der.sequenceTag body
  let (bits, rest) ← Der.expect Der.bitStringTag rest
  if ¬rest.isEmpty then throw .trailingInKey
  return (identifier, bits)

/-- Reads an information strictly. The bit string must have no unused bits. -/
def parse (bs : Bytes) : Except Unreadable PublicKeyInfo := do
  let (identifier, bits) ← part (frames bs)
  let (oid, rest) ← part (Der.expect Der.objectIdTag identifier)
  let algorithm ← ObjectId.decode oid
  let parameters ← parseParameters rest
  match bits with
  | 0 :: publicKey => return ⟨algorithm, parameters, publicKey⟩
  | _ => throw (.der .badBitString)

/-- Writes an information, with parameters only where they are an object identifier. -/
def encode (info : PublicKeyInfo) : Except Refusal Bytes := do
  let algorithm ← ObjectId.encode info.algorithm
  let parameters ←
    match info.parameters with
    | some oid => (ObjectId.encode oid).map (Der.encode Der.objectIdTag)
    | none => pure []
  return Der.encode Der.sequenceTag
    (Der.encode Der.sequenceTag (Der.encode Der.objectIdTag algorithm ++ parameters)
      ++ Der.encode Der.bitStringTag (0 :: info.publicKey))

end PublicKeyInfo

end WebKeys
