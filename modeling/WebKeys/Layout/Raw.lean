import WebKeys.Curve.Bls12381
import WebKeys.Failure
import WebKeys.Key

/-!
# Keys that stand for themselves

Octet keys and compressed pairing points are exported as they are. Reading checks the length of an
octet key and no more; a pairing point is also decompressed, and must lie in the subgroup.
-/

namespace WebKeys

/-- No bytes at all count as none. -/
def OkpKey.ofRaw (c : Curve) (bs : Option Bytes) : Result OkpKey :=
  let octets := bs.getD []
  if octets.length = c.size then .ok { curve := c, x := octets }
  else .error (.ofReason (.keySize c octets.length))

/-- Reads a pairing key, whose point must be in the subgroup and must not be its zero. -/
def BlsKey.ofCompressed (bs : Option Bytes) : Result BlsKey :=
  let octets := bs.getD []
  if octets.length ≠ Curve.bls12381G2.size then .error (.ofReason .g2Size)
  else match Bls12381.decompress? octets with
    | none => .error (.ofReason .badG2Point)
    | some none => .error (.ofReason .outsideSubgroup)
    | some (some P) =>
      if Bls12381.inSubgroup P then .ok { x := octets }
      else .error (.ofReason .outsideSubgroup)

end WebKeys
