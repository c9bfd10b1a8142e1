import WebKeys.Layout.Point
import WebKeys.View

/-!
# Key wrapping keys in JSON

The flat view of a key on an elliptic curve. Reading takes the curve by any of its names and
coordinates with leading zero bytes left out; writing uses the published name and full width.
-/

namespace WebKeys.EcKey

/-- A coordinate filled up to full width; one that is wider is refused. -/
def widened? (c : Curve) (bs : Bytes) : Option Bytes :=
  if bs.length ≤ c.size then some (Bytes.padLeft c.size bs) else none

/-- Reads a key of a curve from a view, which may leave out the group but not the curve. -/
def ofView (c : Curve) (v : PublicView) : Result EcKey :=
  if v.group.any (· ≠ "EC") then .error (.ofReason (.keyWrapGroup (v.group.getD "")))
  else if v.curve.bind Curve.ofName? ≠ some c then
    .error (.ofReason (.otherCurve v.curve c))
  else
    let x := v.x.getD []
    let y := v.y.getD []
    if x.isEmpty || y.isEmpty then .error (.ofReason .keyWrapIncomplete)
    else match widened? c x, widened? c y with
      | some x, some y => ofPoint c (4 :: (x ++ y))
      | _, _ => .error (.ofReason (.keyWrapWidth c))

/-- Reads a key of a curve from the JSON text of a view. -/
def ofKeyWrapJson (c : Curve) (bs : Bytes) : Result EcKey :=
  match PublicView.ofJsonText bs with
  | .ok v => ofView c v
  | .error faults => .error (.ofReason (.document faults))

/-- The view of a key, with its coordinates in full width. -/
def toView (k : EcKey) : Result PublicView := do
  let x ← coordinate k.curve k.x
  let y ← coordinate k.curve k.y
  return { x := some x, y := some y, curve := some k.curve.name, group := some "EC" }

def toKeyWrapJson (k : EcKey) : Result String := do
  return (← k.toView).toJson

end WebKeys.EcKey
