import WebKeys.Primitives

/-!
# Uncompressed points

A point as the byte `04` and both coordinates in the full width of the field. Reading takes no
other length, no other first byte, and no point that is not on the curve.
-/

namespace WebKeys.EcKey

/-- A number in the width of a coordinate. -/
def coordinate (c : Curve) (n : Int) : Result Bytes :=
  match Bytes.ofInt? c.size n with
  | some bs => .ok bs
  | none => .error .unrepresentable

/-- The point in full, under the mark 4. -/
def toPoint (k : EcKey) : Result Bytes := do
  let x ← coordinate k.curve k.x
  let y ← coordinate k.curve k.y
  return 4 :: (x ++ y)

/-- The key at the point with these coordinates. -/
def ofCoordinates (c : Curve) (x y : Bytes) : Result EcKey :=
  match Weierstrass.equation? c with
  | none => .error (.ofReason (.notElliptic c))
  | some e =>
    if e.contains (Bytes.toNat x) (Bytes.toNat y) then
      (curveNamed e.secName).map fun named =>
        { curve := named, x := Bytes.toNat x, y := Bytes.toNat y }
    else .error (.ofReason (.badPoint c))

/-- Reads a point in full; compressed ones are refused. -/
def ofPoint (c : Curve) (bs : Bytes) : Result EcKey :=
  if bs.length ≠ c.pointSize then .error (.ofReason (.pointLength c bs.length))
  else match bs with
    | 4 :: xy => ofCoordinates c (xy.take c.size) (xy.drop c.size)
    | _ => .error (.ofReason .compressedPoint)

end WebKeys.EcKey
