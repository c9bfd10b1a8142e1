import WebKeys.Der.PublicKeyInfo
import WebKeys.Primitives

/-!
# RSA keys in DER

The key is a sequence of modulus and exponent, both positive and in the fewest bytes. The algorithm
has no parameters or the null element, and nothing is left over anywhere. Whether the two numbers
can make up a key is for the primitives that load them, and for those that hold the key when it is
written.
-/

namespace WebKeys.RsaKey

def algorithm : String := "1.2.840.113549.1.1.1"

/-- The null element, which is what parameters are written as. -/
def nullElement : Bytes := Der.encode Der.nullTag []

/-! ## Reading -/

/-- The number of a positive integer in the fewest bytes. -/
def positive? (e : Der.Element) : Option Nat :=
  if e.tag ≠ Der.integerTag then none
  else match e.value with
    | [] => none
    | [0] => none
    | 0 :: b :: rest => if 128 ≤ b then some (Bytes.toNat (b :: rest)) else none
    | b :: rest => if b < 128 then some (Bytes.toNat (b :: rest)) else none

/-- The number at the front, and what follows it. -/
def positiveFrom? (bs : Bytes) : Option (Nat × Bytes) := do
  let (element, rest) ← (Der.read bs).toOption
  let n ← positive? element
  return (n, rest)

/-- Modulus and exponent, with nothing behind them, inside or outside. -/
def numbersFrom? (bs : Bytes) : Option (Nat × Nat) := do
  let (body, after) ← (Der.expect Der.sequenceTag bs).toOption
  let (n, rest) ← positiveFrom? body
  let (e, rest) ← positiveFrom? rest
  if after.isEmpty && rest.isEmpty then some (n, e) else none

/-- Whether the algorithm of a key information has no parameters, or the null element. -/
def plainParameters (bs : Bytes) : Bool :=
  match PublicKeyInfo.frames bs with
  | .error _ => false
  | .ok (identifier, _) =>
    match Der.read identifier with
    | .ok (_, rest) => rest = [] || rest = nullElement
    | .error _ => false

/-- A fault of the surrounding information, reported as one of the key. -/
def unreadable : ObjectId.Unreadable → Failure
  | .der fault => .ofReason (.rsaDer fault)
  | .longArc => .refused .arc

/-- Reads a key with primitives that load the numbers that `takes` says: unless another check is
given, those that make up a public key. -/
def ofDer (bs : Bytes) (takes : LoadCheck := publicNumbersFit) : Result RsaKey := do
  let info ← (PublicKeyInfo.parse bs).mapError unreadable
  if info.algorithm ≠ algorithm then throw (.ofReason .rsaAlgorithm)
  match numbersFrom? info.publicKey with
  | some (n, e) =>
    if plainParameters bs && takes n e then return { n := n, e := e }
    else throw (.ofReason .rsaNumbers)
  | none => throw (.ofReason .rsaNumbers)

/-! ## Writing -/

/-- A positive integer in the fewest bytes; a leading zero keeps the sign. -/
def integerElement (n : Nat) : Bytes :=
  let bs := Bytes.ofNat (Bytes.width n) n
  Der.encode Der.integerTag (if 128 ≤ bs.headD 0 then 0 :: bs else bs)

/-- The information of a modulus and an exponent. -/
def informationOf (identifier : Bytes) (n e : Nat) : Bytes :=
  Der.encode Der.sequenceTag
    (Der.encode Der.sequenceTag (Der.encode Der.objectIdTag identifier ++ nullElement)
      ++ Der.encode Der.bitStringTag
        (0 :: Der.encode Der.sequenceTag (integerElement n ++ integerElement e)))

/-- Writes the public part, once its numbers have been checked. -/
def toDer (k : RsaKey) : Result Bytes := do
  let k ← k.publicPart.accepted
  let identifier ← (ObjectId.encode algorithm).mapError .refused
  return informationOf identifier k.n.toNat k.e.toNat

end WebKeys.RsaKey
