import WebKeys.Layout.KeyWrap
import WebKeys.Proofs.Base64
import WebKeys.Proofs.JsonGrammar
import WebKeys.Proofs.Members
import WebKeys.Proofs.Point

/-!
# Flat views survive their JSON

* `PublicView.ofJsonText_toJson`: every view is read back as it was, whichever of its members are
  set.
* `EcKey.ofKeyWrapJson_toKeyWrapJson`: so is a key that is exchanged as its view. A view with the
  label of a curve is read by its coordinates, if they have the bytes of such
  (`EcKey.ofView_eq_ofCoordinates`).
-/

namespace WebKeys

open Outcome

namespace PublicView

open Json

theorem decode_bytesText (bs : Bytes) : Base64.decode .standard (bytesText bs).toList = .ok bs := by
  rw [bytesText, String.toList_ofList, Base64.decode_encodePadded]

variable {ms : Members} {name : String} {value : Option Bytes}

theorem bytesFault?_eq_none
    (h : Members.get? ms name = (value.map bytesText).map .string) :
    bytesFault? ms name = none := by
  rw [bytesFault?, h]
  cases value with
  | none => rfl
  | some bs => simp [decode_bytesText]

theorem bytesMember?_eq
    (h : Members.get? ms name = (value.map bytesText).map .string) :
    bytesMember? ms name = value := by
  rw [bytesMember?, textMember?_eq h]
  cases value with
  | none => rfl
  | some bs => simp [decode_bytesText, Except.toOption]

/-- The members of a view, set or not. -/
def fields (v : PublicView) : List (String × Option String) :=
  [("kid", v.kid), ("x", v.x.map bytesText), ("y", v.y.map bytesText), ("n", v.n.map bytesText),
   ("e", v.e.map bytesText), ("curve", v.curve), ("type", v.group)]

theorem members_eq_present (v : PublicView) : v.members = present v.fields := rfl

theorem ofMembers_of_holds {v : PublicView} (h : Holds ms v.fields) : ofMembers ms = .ok v := by
  have hget (name : String) (value : Option String) (hm : (name, value) ∈ v.fields) :
      Members.get? ms name = value.map .string := h (name, value) hm
  have hkid := hget "kid" v.kid (by simp [fields])
  have hx := hget "x" (v.x.map bytesText) (by simp [fields])
  have hy := hget "y" (v.y.map bytesText) (by simp [fields])
  have hn := hget "n" (v.n.map bytesText) (by simp [fields])
  have he := hget "e" (v.e.map bytesText) (by simp [fields])
  have hcurve := hget "curve" v.curve (by simp [fields])
  have hgroup := hget "type" v.group (by simp [fields])
  have hfaults : faults ms = [] := by
    simp [faults, textFault?_eq_none hkid, textFault?_eq_none hcurve, textFault?_eq_none hgroup,
      bytesFault?_eq_none hx, bytesFault?_eq_none hy, bytesFault?_eq_none hn,
      bytesFault?_eq_none he]
  rw [ofMembers, hfaults, if_pos List.isEmpty_nil, textMember?_eq hkid, textMember?_eq hcurve,
    textMember?_eq hgroup, bytesMember?_eq hx, bytesMember?_eq hy, bytesMember?_eq hn,
    bytesMember?_eq he]

/-- The text is that of an object with the members of the view, in whatever way it is laid out and
escaped. -/
def WrittenIn (v : PublicView) (bs : Bytes) : Prop :=
  ∃ ms, readBytes? bs = some (.object ms) ∧ Holds ms v.fields

theorem writtenIn_toJson (v : PublicView) : v.WrittenIn (Utf8.encode v.toJson.toList) := by
  refine ⟨texts v.members, ?_, holds_present (by simp)⟩
  rw [toJson, String.toList_ofList, readBytes?_compactTexts]

theorem WrittenIn.ofJsonText {v : PublicView} {bs : Bytes} (h : v.WrittenIn bs) :
    ofJsonText bs = .ok v := by
  obtain ⟨ms, hms, hholds⟩ := h
  rw [PublicView.ofJsonText, documentText, hms]
  exact ofMembers_of_holds hholds

theorem ofJsonText_toJson (v : PublicView) : ofJsonText (Utf8.encode v.toJson.toList) = .ok v :=
  v.writtenIn_toJson.ofJsonText

end PublicView

namespace EcKey

theorem toView_eq_ok {k : EcKey} (h : k.PointOnCurve) :
    k.toView = .ok {
      x := some (Bytes.ofNat k.curve.size k.x.toNat)
      y := some (Bytes.ofNat k.curve.size k.y.toNat)
      curve := some k.curve.name
      group := some "EC" } := by
  obtain ⟨⟨hx0, hx⟩, hy0, hy⟩ := h.range
  rw [toView, coordinate_eq_ok hx0 hx, coordinate_eq_ok hy0 hy]
  rfl

/-- The bytes that a coordinate may be spelled in: one at least, and no more than fill the field. -/
def FieldBytes (c : Curve) (bs : Bytes) : Prop := bs ≠ [] ∧ bs.length ≤ c.size

theorem fieldBytes_ofNat (c : Curve) (n : Nat) : FieldBytes c (Bytes.ofNat c.size n) := by
  refine ⟨fun hnil => ?_, Nat.le_of_eq (Bytes.length_ofNat _ _)⟩
  have hlength := Bytes.length_ofNat c.size n
  rw [hnil] at hlength
  exact (size_pos c).ne hlength

/-- A view with the label of the curve is read by its coordinates, if they have the bytes of
such. -/
theorem ofView_eq_ofCoordinates {c : Curve} {v : PublicView} {x y : Bytes} (hc : c.family = .ec)
    (hgroup : ¬v.group.any (· ≠ "EC") = true) (hcurve : v.curve.bind Curve.ofName? = some c)
    (hvx : v.x = some x) (hvy : v.y = some y) (hx : FieldBytes c x) (hy : FieldBytes c y) :
    ofView c v = ofCoordinates c x y := by
  have hnil : ¬(x.isEmpty || y.isEmpty) = true := by simp [hx.1, hy.1]
  rw [ofView, if_neg hgroup, if_neg (not_not.mpr hcurve), hvx, hvy]
  dsimp only [Option.getD_some]
  rw [if_neg hnil, widened?, widened?, if_pos hx.2, if_pos hy.2]
  exact ofPoint_padLeft hc hx.2 hy.2

/-- The view of a point is read as the point, whatever its identifier. -/
theorem ofView_of_pointOnCurve {k : EcKey} (h : k.PointOnCurve) (kid : Option String) :
    ofView k.curve {
      kid := kid
      x := some (Bytes.ofNat k.curve.size k.x.toNat)
      y := some (Bytes.ofNat k.curve.size k.y.toNat)
      curve := some k.curve.name
      group := some "EC" } = .ok k.bare := by
  obtain ⟨⟨hx0, hx⟩, hy0, hy⟩ := h.range
  refine Eq.trans (ofView_eq_ofCoordinates h.family (by simp) k.curve.ofName?_name rfl rfl
    (fieldBytes_ofNat _ _) (fieldBytes_ofNat _ _)) ?_
  apply ofCoordinates_of_pointOnCurve h
  · rw [Bytes.toNat_ofNat_toNat hx0 hx]
  · rw [Bytes.toNat_ofNat_toNat hy0 hy]

theorem ofKeyWrapJson_toKeyWrapJson {k : EcKey} (h : k.PointOnCurve) :
    ∃ text, k.toKeyWrapJson = .ok text ∧
      ofKeyWrapJson k.curve (Utf8.encode text.toList) = .ok k.bare := by
  refine ⟨_, by rw [toKeyWrapJson, toView_eq_ok h]; rfl, ?_⟩
  rw [ofKeyWrapJson, PublicView.ofJsonText_toJson]
  exact ofView_of_pointOnCurve h none

end EcKey

end WebKeys
