import WebKeys.Proofs.DocumentFailures
import WebKeys.Proofs.PublicView

/-!
# Coordinates in fewer bytes than the field is wide

The coordinates of a point are exchanged as bytes, in flat views and in documents, and leading zero
bytes may be left out. The two readers are written apart from each other: one looks for missing
coordinates in a view of bytes, the other for missing or empty texts in a document. Both fill the
bytes up to the width of the field and then read a point, and they differ in nothing (`Reads`):
bytes are taken if there are one or more of them, no more than the field is wide, and if the point
lies on the curve (`EcKey.Spelled`).

* `coordinates_agree`: a view and a document with the same bytes are read as the same key, or both
  are refused for their encoding.
* `EcKey.narrow_coordinates`: the coordinates of a point are read in every width, except that zero
  cannot be left out altogether, and the key is written in full width whatever it was read from.
-/

namespace WebKeys

open Outcome Json

namespace EcKey

variable {c : Curve} {x y : Bytes}

/-! ## Bytes of two coordinates -/

/-- The key with the coordinates that the bytes spell, on its curve or off it. -/
def spelled (c : Curve) (x y : Bytes) : EcKey :=
  { curve := c, x := (Bytes.toNat x : Int), y := (Bytes.toNat y : Int) }

/-- The bytes spell a point of the curve. -/
structure Spelled (c : Curve) (x y : Bytes) : Prop where
  xFits : FieldBytes c x
  yFits : FieldBytes c y
  point : (spelled c x y).PointOnCurve

theorem spelled_eq {k : EcKey} (hx : (Bytes.toNat x : Int) = k.x)
    (hy : (Bytes.toNat y : Int) = k.y) : spelled k.curve x y = k.bare := by
  rw [spelled, hx, hy, bare]

theorem ofCoordinates_spelled (h : (spelled c x y).PointOnCurve) :
    ofCoordinates c x y = .ok (spelled c x y) := ofCoordinates_of_pointOnCurve h rfl rfl

theorem failsWith_ofCoordinates (hc : c.family = .ec) (h : ¬(spelled c x y).PointOnCurve) :
    FailsWith .invalidEncoding (ofCoordinates c x y) := by
  obtain ⟨e, he⟩ := exists_equation? hc
  rw [ofCoordinates, he]
  dsimp only
  split
  · next hcontains => exact absurd ⟨e, he, by simpa [onCurve, spelled] using hcontains⟩ h
  · exact ⟨_, rfl, rfl⟩

/-! ## Readers -/

/-- What becomes of the bytes of two coordinates: the key of the point that they spell, or an error
of encoding if they spell none. -/
structure Reads (c : Curve) (x y : Bytes) (r : Result Key) : Prop where
  accepts : Spelled c x y → r = .ok (.ec (spelled c x y))
  refuses : ¬Spelled c x y → FailsWith .invalidEncoding r

theorem Reads.eq_ok_iff {r : Result Key} {k : Key} (h : Reads c x y r) :
    r = .ok k ↔ Spelled c x y ∧ k = .ec (spelled c x y) := by
  by_cases hspelled : Spelled c x y
  · rw [h.accepts hspelled, Except.ok.injEq, eq_comm]
    exact (and_iff_right hspelled).symm
  · obtain ⟨e, he, -⟩ := h.refuses hspelled
    rw [he]
    exact iff_of_false (by rintro ⟨⟩) fun hand => hspelled hand.1

/-- A reader may refuse what is too short or too long in its own way, as long as it reads the rest
by the point. -/
theorem Reads.of {r : Result Key} (hc : c.family = .ec)
    (hempty : x = [] ∨ y = [] → FailsWith .invalidEncoding r)
    (hwide : x ≠ [] → y ≠ [] → c.size < x.length ∨ c.size < y.length →
      FailsWith .invalidEncoding r)
    (hread : FieldBytes c x → FieldBytes c y → r = (ofCoordinates c x y).map .ec) :
    Reads c x y r where
  accepts h := by
    rw [hread h.xFits h.yFits, ofCoordinates_spelled h.point, Except.map]
  refuses h := by
    -- The cases in the order of both readers: missing, too wide, and then the point.
    by_cases hnil : x = [] ∨ y = []
    · exact hempty hnil
    obtain ⟨hx, hy⟩ := not_or.mp hnil
    by_cases hwidth : c.size < x.length ∨ c.size < y.length
    · exact hwide hx hy hwidth
    have hfields : FieldBytes c x ∧ FieldBytes c y := ⟨⟨hx, by omega⟩, hy, by omega⟩
    have hoff : ¬(spelled c x y).PointOnCurve := fun hpoint => h ⟨hfields.1, hfields.2, hpoint⟩
    rw [hread hfields.1 hfields.2, failsWith_map]
    exact failsWith_ofCoordinates hc hoff

/-! ### Views -/

theorem reads_ofView {v : PublicView} (hc : c.family = .ec)
    (hgroup : v.group = none ∨ v.group = some "EC") (hcurve : v.curve.bind Curve.ofName? = some c)
    (hvx : v.x = some x) (hvy : v.y = some y) : Reads c x y ((ofView c v).map .ec) := by
  have hlabel : ¬v.group.any (· ≠ "EC") = true := by
    obtain h | h := hgroup <;> rw [h] <;> decide
  refine .of hc (fun hempty => ?_) (fun hx hy hwide => ?_) fun hx hy => ?_
  · have hnil : (x.isEmpty || y.isEmpty) = true := by simpa using hempty
    rw [ofView, if_neg hlabel, if_neg (not_not.mpr hcurve), hvx, hvy]
    dsimp only [Option.getD_some]
    rw [if_pos hnil]
    exact ⟨_, rfl, rfl⟩
  · have hnil : ¬(x.isEmpty || y.isEmpty) = true := by simp [hx, hy]
    rw [ofView, if_neg hlabel, if_neg (not_not.mpr hcurve), hvx, hvy]
    dsimp only [Option.getD_some]
    rw [if_neg hnil, widened?, widened?]
    by_cases hfits : x.length ≤ c.size
    · have hnot : ¬y.length ≤ c.size := by omega
      rw [if_pos hfits, if_neg hnot]
      exact ⟨_, rfl, rfl⟩
    · rw [if_neg hfits]
      exact ⟨_, rfl, rfl⟩
  · rw [ofView_eq_ofCoordinates hc hlabel hcurve hvx hvy hx hy]

/-! ### Documents -/

theorem failsWith_required_nil (name : String) :
    FailsWith .invalidEncoding (WebKey.required name (some (WebKey.bytesText []))) :=
  ⟨_, rfl, rfl⟩

theorem reads_ecKey {doc : Document} (hc : c.family = .ec) (hx : doc.x = some (WebKey.bytesText x))
    (hy : doc.y = some (WebKey.bytesText y)) (hd : doc.d = none) :
    Reads c x y (WebKey.ecKey c doc) := by
  unfold WebKey.ecKey
  rw [hx, hy, hd]
  refine .of hc (fun hempty => ?_) (fun hx hy hwide => ?_) fun hx hy => ?_
  · by_cases hnil : x = []
    · rw [hnil]
      exact (failsWith_required_nil "x").bind _
    · rw [WebKey.required_bytesText "x" hnil, ok_bind, hempty.resolve_left hnil]
      exact (failsWith_required_nil "y").bind _
  · rw [WebKey.required_bytesText "x" hx, ok_bind, WebKey.required_bytesText "y" hy, ok_bind,
      if_pos hwide]
    exact ⟨_, rfl, rfl⟩
  · obtain ⟨hxne, hxsize⟩ := hx
    obtain ⟨hyne, hysize⟩ := hy
    rw [WebKey.required_bytesText "x" hxne, ok_bind, WebKey.required_bytesText "y" hyne, ok_bind,
      if_neg (by omega), ofPoint_padLeft hc hxsize hysize]
    cases ofCoordinates c x y <;> rfl

theorem Reads.reportRefusal {r : Result Key} (h : Reads c x y r) (report : Refusal → Reason) :
    Reads c x y (WebKey.reportRefusal report r) where
  accepts hspelled := by
    rw [h.accepts hspelled]
    rfl
  refuses hnot := by
    obtain ⟨e, he, hkind⟩ := h.refuses hnot
    rw [he]
    exact ⟨e, rfl, hkind⟩

theorem reads_keyOf {doc : Document} (hc : c.family = .ec) (hcurve : doc.OnCurve c)
    (hx : doc.x = some (WebKey.bytesText x)) (hy : doc.y = some (WebKey.bytesText y))
    (hd : doc.d = none) : Reads c x y (WebKey.keyOf doc) := by
  rw [WebKey.keyOf_of_curve hcurve.2 hcurve.1, hc]
  exact (reads_ecKey hc hx hy hd).reportRefusal _

end EcKey

/-! ## Both forms -/

/-- The view with two coordinates, under a name of their curve. -/
def PublicView.coordinates (name : String) (group : Option String) (x y : Bytes) : PublicView :=
  { x := some x, y := some y, curve := some name, group := group }

/-- The document with two coordinates, under a name of their curve. -/
def Document.coordinates (name : String) (x y : Bytes) : Document :=
  { Document.labelled ("EC", some name) none none none with
    x := some (WebKey.bytesText x)
    y := some (WebKey.bytesText y) }

section Forms

variable {c : Curve} {name : String}

theorem EcKey.reads_ofKeyWrapJson {group : Option String} {x y text : Bytes} (hc : c.family = .ec)
    (hname : Curve.ofName? name = some c) (hgroup : group = none ∨ group = some "EC")
    (htext : (PublicView.coordinates name group x y).WrittenIn text) :
    Reads c x y ((ofKeyWrapJson c text).map .ec) := by
  rw [ofKeyWrapJson, htext.ofJsonText]
  exact reads_ofView hc hgroup hname rfl rfl

theorem Document.onCurve_coordinates {x y : Bytes} (hc : c.family = .ec)
    (hname : Curve.ofName? name = some c) : (Document.coordinates name x y).OnCurve c := by
  refine ⟨hname, ?_⟩
  rw [Curve.group, hc]
  rfl

/-- The view of two coordinates and the document of the same coordinates, under any name of the
curve, in any text and among any other members: a key is read from one exactly if it is read from
the other, it is the key of the point that the bytes spell, and bytes that spell none are refused
for their encoding in both forms. -/
theorem coordinates_agree (hc : c.family = .ec) (hname : Curve.ofName? name = some c)
    (x y : Bytes) {text : Bytes} {ms : Members}
    (htext : (PublicView.coordinates name (some "EC") x y).WrittenIn text)
    (hms : Holds ms (Document.coordinates name x y).fields) :
    (∀ k, EcKey.ofKeyWrapJson c text = .ok k ↔
      ∃ w, WebKey.ofJson (.object ms) = .ok w ∧ w.key = .ec k) ∧
    (EcKey.Spelled c x y → EcKey.ofKeyWrapJson c text = .ok (EcKey.spelled c x y)) ∧
    (¬EcKey.Spelled c x y → FailsWith .invalidEncoding (EcKey.ofKeyWrapJson c text) ∧
      FailsWith .invalidEncoding (WebKey.ofJson (.object ms))) := by
  have hview := EcKey.reads_ofKeyWrapJson hc hname (Or.inr rfl) htext
  have hkey : EcKey.Reads c x y (WebKey.keyOf (Document.coordinates name x y)) :=
    EcKey.reads_keyOf hc (Document.onCurve_coordinates hc hname) rfl rfl rfl
  have hread : WebKey.ofJson (.object ms) = WebKey.ofDocument (Document.coordinates name x y) := by
    have hkty : (Document.coordinates name x y).kty.isEmpty = false :=
      show "EC".isEmpty = false by decide +kernel
    rw [WebKey.ofJson_object, Document.ofMembers_of_holds hkty hms]
    rfl
  refine ⟨fun k => ?_, fun h => ?_, fun h => ⟨?_, ?_⟩⟩
  · calc EcKey.ofKeyWrapJson c text = .ok k
      _ ↔ (EcKey.ofKeyWrapJson c text).map Key.ec = .ok (.ec k) := by simp [map_eq_ok]
      _ ↔ WebKey.keyOf (Document.coordinates name x y) = .ok (.ec k) := by
        rw [hview.eq_ok_iff, hkey.eq_ok_iff]
      _ ↔ ∃ w, WebKey.ofJson (.object ms) = .ok w ∧ w.key = .ec k := by
        rw [hread, WebKey.exists_ofDocument_eq_ok]
  · simpa [map_eq_ok] using hview.accepts h
  · exact (failsWith_map _).mp (hview.refuses h)
  · rw [hread]
    exact (hkey.refuses h).bind _

/-- The base point of P-256 is read from both forms, and the coordinates 1 and 1, which are those of
no point, are refused in both. -/
theorem p256_coordinates_agree :
    let x := Bytes.ofNat 32 Weierstrass.p256.gx
    let y := Bytes.ofNat 32 Weierstrass.p256.gy
    let view (x y : Bytes) : Bytes :=
      Utf8.encode (PublicView.coordinates "secp256r1" (some "EC") x y).toJson.toList
    let members (x y : Bytes) : Members := texts (Document.coordinates "secp256r1" x y).members
    EcKey.ofKeyWrapJson .p256 (view x y) = .ok (EcKey.spelled .p256 x y) ∧
      (∃ w, WebKey.ofJson (.object (members x y)) = .ok w ∧ w.key = .ec (EcKey.spelled .p256 x y)) ∧
      FailsWith .invalidEncoding (EcKey.ofKeyWrapJson .p256 (view [1] [1])) ∧
      FailsWith .invalidEncoding (WebKey.ofJson (.object (members [1] [1]))) := by
  intro x y view members
  have hname : Curve.ofName? "secp256r1" = some .p256 := by decide +kernel
  have hview (x y : Bytes) : (PublicView.coordinates "secp256r1" (some "EC") x y).WrittenIn
      (view x y) := PublicView.writtenIn_toJson _
  have hmembers (x y : Bytes) :
      Holds (members x y) (Document.coordinates "secp256r1" x y).fields :=
    holds_present (by simp [Document.fields])
  have hpoint : EcKey.Spelled .p256 x y :=
    ⟨⟨by decide +kernel, by decide +kernel⟩, ⟨by decide +kernel, by decide +kernel⟩,
      _, rfl, by decide +kernel⟩
  have hoff : ¬EcKey.Spelled .p256 [1] [1] := by
    rintro ⟨-, -, e, he, hpoint⟩
    cases he
    revert hpoint
    decide +kernel
  obtain ⟨hsame, hread, -⟩ := coordinates_agree rfl hname x y (hview x y) (hmembers x y)
  obtain ⟨-, -, hrefused⟩ := coordinates_agree rfl hname [1] [1] (hview [1] [1]) (hmembers [1] [1])
  exact ⟨hread hpoint, (hsame _).mp (hread hpoint), hrefused hoff⟩

namespace EcKey

/-- The coordinates of a point, each in as many bytes as one likes: the key is read from those that
are not wider than the field, unless a coordinate is zero and spelled in no bytes at all. All other
bytes are refused for their encoding, and whatever is read is written as the same text. -/
theorem narrow_coordinates {k : EcKey} (hk : k.PointOnCurve)
    (hname : Curve.ofName? name = some k.curve) {group : Option String}
    (hgroup : group = none ∨ group = some "EC") :
    ∃ written, k.toKeyWrapJson = .ok written ∧ ∀ x y text : Bytes,
      (Bytes.toNat x : Int) = k.x → (Bytes.toNat y : Int) = k.y →
      (PublicView.coordinates name group x y).WrittenIn text →
      (ofKeyWrapJson k.curve text = .ok k.bare ↔
        FieldBytes k.curve x ∧ FieldBytes k.curve y) ∧
      (¬(FieldBytes k.curve x ∧ FieldBytes k.curve y) →
        FailsWith .invalidEncoding (ofKeyWrapJson k.curve text)) ∧
      ∀ k', ofKeyWrapJson k.curve text = .ok k' → k'.toKeyWrapJson = .ok written := by
  obtain ⟨written, hwritten, -⟩ := ofKeyWrapJson_toKeyWrapJson hk
  refine ⟨written, hwritten, fun x y text hx hy htext => ?_⟩
  have hreads := reads_ofKeyWrapJson hk.family hname hgroup htext
  have hspelled : Spelled k.curve x y ↔ FieldBytes k.curve x ∧ FieldBytes k.curve y := by
    refine ⟨fun h => ⟨h.xFits, h.yFits⟩, fun h => ⟨h.1, h.2, ?_⟩⟩
    rw [spelled_eq hx hy]
    exact hk
  have hok (k' : EcKey) : ofKeyWrapJson k.curve text = .ok k' ↔
      (FieldBytes k.curve x ∧ FieldBytes k.curve y) ∧ k' = k.bare := by
    have hmap := hreads.eq_ok_iff (k := .ec k')
    rw [hspelled, spelled_eq hx hy] at hmap
    simpa [map_eq_ok] using hmap
  refine ⟨by simp [hok], fun h => ?_, fun k' hk' => ?_⟩
  · exact (failsWith_map _).mp (hreads.refuses (hspelled.not.mpr h))
  · rw [((hok k').mp hk').2, ← hwritten]
    rfl

/-- The first coordinate of the base point of P-521 starts with a zero byte, and is read without it,
under another name of the curve and without a group. -/
theorem p521_base_point_narrow :
    let k : EcKey := { curve := .p521, x := Weierstrass.p521.gx, y := Weierstrass.p521.gy }
    let x := Bytes.ofNat 65 Weierstrass.p521.gx
    let y := Bytes.ofNat 66 Weierstrass.p521.gy
    ofKeyWrapJson .p521
      (Utf8.encode (PublicView.coordinates "secp521r1" none x y).toJson.toList) = .ok k := by
  intro k x y
  have hpoint : k.PointOnCurve := ⟨_, rfl, by decide +kernel⟩
  have hname : Curve.ofName? "secp521r1" = some k.curve := by decide +kernel
  obtain ⟨written, -, hread⟩ := narrow_coordinates hpoint hname (Or.inl rfl)
  obtain ⟨hiff, -⟩ := hread x y _ (by decide +kernel) (by decide +kernel)
    (PublicView.writtenIn_toJson _)
  exact hiff.mpr ⟨⟨by decide +kernel, by decide +kernel⟩, by decide +kernel, by decide +kernel⟩

/-- P-256 has a point whose first coordinate is zero. The fewest bytes of zero are none, and a
coordinate in no bytes is taken for a missing one. -/
theorem p256_zero_coordinate_refused :
    let y : Nat := 0x66485c780e2f83d72433bd5d84a06bb6541c2af31dae871728bf856a174f93f4
    let k : EcKey := { curve := .p256, x := 0, y := y }
    let view := PublicView.coordinates "P-256" (some "EC") (Bytes.ofNat (Bytes.width 0) 0)
      (Bytes.ofNat (Bytes.width y) y)
    k.PointOnCurve ∧ FailsWith .invalidEncoding
      (ofKeyWrapJson .p256 (Utf8.encode view.toJson.toList)) := by
  intro y k view
  refine ⟨⟨_, rfl, by decide +kernel⟩, ?_⟩
  rw [ofKeyWrapJson, PublicView.ofJsonText_toJson]
  exact ⟨_, rfl, rfl⟩

end EcKey

end Forms

end WebKeys
