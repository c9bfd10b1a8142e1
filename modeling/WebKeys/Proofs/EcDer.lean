import WebKeys.Layout.EcDer
import WebKeys.Proofs.KeyInformation
import WebKeys.Proofs.Point

/-!
# Elliptic curve keys in DER

* `ofDer_eq_ok_iff` lists what is read: information of the right form, around a point of the curve.
* `ofDer_toForm`: a point on its curve is written in either form, and read back in that form.
* `toDer_of_ofDer`: on a curve with a single form, the bytes that were read are the bytes written.
-/

namespace WebKeys.EcKey

open Outcome PublicKeyInfo

/-! ## Forms -/

/-- The algorithm identifier of elliptic curve keys. -/
def ecIdentifier : Bytes := [0x2A, 0x86, 0x48, 0xCE, 0x3D, 0x02, 0x01]

theorem decode_ecIdentifier : ObjectId.decode ecIdentifier = .ok ecAlgorithm := rfl

theorem decode_placeholder : ObjectId.decode [0x50] = .ok placeholderAlgorithm := rfl

/-- The identifier of an elliptic curve in bytes. -/
theorem exists_curveIdentifier {c : Curve} (hc : c.family = .ec) :
    ∃ value oid, value.length ≤ 8 ∧ ObjectId.decode value = .ok oid ∧ c.objectId? = some oid := by
  cases c with
  | p256 => exact ⟨[0x2A, 0x86, 0x48, 0xCE, 0x3D, 0x03, 0x01, 0x07], _, by decide, rfl, rfl⟩
  | p384 => exact ⟨[0x2B, 0x81, 0x04, 0x00, 0x22], _, by decide, rfl, rfl⟩
  | p521 => exact ⟨[0x2B, 0x81, 0x04, 0x00, 0x23], _, by decide, rfl, rfl⟩
  | secp256k1 => exact ⟨[0x2B, 0x81, 0x04, 0x00, 0x0A], _, by decide, rfl, rfl⟩
  | ed25519 | x25519 | bls12381G2 => cases hc

theorem formOf_registered {c : Curve} {oid : String} (hoid : c.objectId? = some oid)
    (point : Bytes) : formOf c ⟨ecAlgorithm, some oid, point⟩ = .ok .registered := by
  have hplaceholder : ¬(ecAlgorithm = placeholderAlgorithm ∧ c = .secp256k1) :=
    fun h => absurd h.1 (by decide)
  rw [formOf, if_neg hplaceholder, if_pos rfl]
  dsimp only
  rw [Curve.ofObjectId?_eq_some_iff.mpr hoid]
  dsimp only
  rw [if_pos rfl]

theorem formOf_legacy {point : Bytes} (hlen : point.length = Curve.secp256k1.pointSize) :
    formOf .secp256k1 ⟨placeholderAlgorithm, none, point⟩ = .ok .legacy := by
  rw [formOf, if_pos ⟨rfl, rfl⟩, if_pos hlen]

/-- The form of an information, by what it says: a placeholder for secp256k1, whatever the
parameters, or the identifier of the curve. -/
inductive HasForm (c : Curve) (info : PublicKeyInfo) : DerForm → Prop
  | legacy (hcurve : c = .secp256k1) (halgorithm : info.algorithm = placeholderAlgorithm) :
      HasForm c info .legacy
  | registered {oid : String} (hoid : c.objectId? = some oid)
      (halgorithm : info.algorithm = ecAlgorithm) (hparameters : info.parameters = some oid) :
      HasForm c info .registered

/-- The form recognised is one the key information has. -/
theorem hasForm_of_formOf {c : Curve} {info : PublicKeyInfo} {form : DerForm}
    (h : formOf c info = .ok form) : HasForm c info form := by
  unfold formOf at h
  split at h
  · next hand =>
    have hform : form = .legacy := by
      split at h
      · exact (Except.ok.inj h).symm
      · split at h
        · cases h
        · exact (Except.ok.inj h).symm
    exact hform ▸ .legacy hand.2 hand.1
  · split at h
    · next halgorithm =>
      split at h
      · cases h
      · next oid hparameters =>
        split at h
        · cases h
        · next named hnamed =>
          split at h
          · next heq =>
            subst heq
            cases h
            exact .registered (Curve.ofObjectId?_eq_some_iff.mp hnamed) halgorithm hparameters
          · cases h
    · cases h

/-- The base point of secp256k1 in full, for runs on fixed bytes. -/
def basePoint : Bytes :=
  4 :: (Bytes.ofNat 32 Weierstrass.secp256k1.gx ++ Bytes.ofNat 32 Weierstrass.secp256k1.gy)

/-! ## Reading -/

/-- A key with the memory of its form, where its curve has more than one. -/
def remembering (form : DerForm) (k : EcKey) : EcKey :=
  if k.curve = .secp256k1 then { k with form := some form } else k

theorem ofDer_eq_ok_iff {c : Curve} {bs : Bytes} {k : EcKey} :
    ofDer c bs = .ok k ↔ ∃ info form k', parse bs = .ok info ∧ formOf c info = .ok form ∧
      ofPoint c info.publicKey = .ok k' ∧ k = k'.remembering form := by
  constructor
  · intro h
    obtain ⟨info, hinfo, hforms⟩ := bind_eq_ok.mp h
    obtain ⟨form, hform, hpoint⟩ := bind_eq_ok.mp hforms
    obtain ⟨k', hk', hdone⟩ := bind_eq_ok.mp hpoint
    obtain ⟨rfl, -⟩ := toPoint_of_ofPoint hk'
    exact ⟨info, form, k', mapError_eq_ok.mp hinfo, mapError_eq_ok.mp hform, hk',
      (Except.ok.inj hdone).symm⟩
  · rintro ⟨info, form, k', hinfo, hform, hk', rfl⟩
    obtain ⟨rfl, -⟩ := toPoint_of_ofPoint hk'
    rw [ofDer, mapError_eq_ok.mpr hinfo, ok_bind, mapError_eq_ok.mpr hform, ok_bind, hk', ok_bind]
    rfl

/-! ## Writing and reading back -/

theorem toForm_eq_ok {k : EcKey} {form : DerForm} {algorithm : String}
    {parameters : Option String} {point : Bytes}
    (hform : identifierOf k.curve form = .ok (algorithm, parameters))
    (hpoint : k.toPoint = .ok point) :
    k.toForm form = (PublicKeyInfo.encode ⟨algorithm, parameters, point⟩).mapError .refused := by
  rw [toForm, hform, hpoint]
  rfl

/-- What is written in a form is read back in that form, if reading recognises the identifier. -/
theorem ofDer_of_identifier {k : EcKey} {form : DerForm} {algorithm : String}
    {parameters : Option String} {oid rest : Bytes} (h : k.PointOnCurve)
    (hidentifier : identifierOf k.curve form = .ok (algorithm, parameters))
    (hoid : ObjectId.decode oid = .ok algorithm) (hrest : WrittenParameters parameters rest)
    (hlen : oid.length + rest.length ≤ 50)
    (hform : ∀ point : Bytes, point.length = k.curve.pointSize →
      formOf k.curve ⟨algorithm, parameters, point⟩ = .ok form) :
    ∃ bs, k.toForm form = .ok bs ∧ ofDer k.curve bs = .ok (k.bare.remembering form) := by
  obtain ⟨point, hpoint, hsize, hread⟩ := ofPoint_toPoint h
  have hshort : k.curve.pointSize ≤ 133 := by cases k.curve <;> decide
  have hbound : oid.length + rest.length + point.length + 19 < Der.lengthBound := by
    have : 1000 < Der.lengthBound := by decide
    omega
  obtain ⟨bs, hbs, hparse⟩ := parse_of_encode (show
    ObjectId.decode oid = .ok (PublicKeyInfo.mk algorithm parameters point).algorithm from hoid)
    hrest hbound
  refine ⟨bs, ?_, ?_⟩
  · rw [toForm_eq_ok hidentifier hpoint, hbs]
    rfl
  · exact ofDer_eq_ok_iff.mpr ⟨_, form, k.bare, hparse, hform point hsize, hread, rfl⟩

/-- A point on its curve is written in every form that fits it, and read back with that form
remembered. -/
theorem ofDer_toForm {k : EcKey} {form : DerForm} (h : k.PointOnCurve)
    (hform : form = .registered ∨ form = .legacy ∧ k.curve = .secp256k1) :
    ∃ bs, k.toForm form = .ok bs ∧ ofDer k.curve bs = .ok (k.bare.remembering form) := by
  rcases hform with rfl | ⟨rfl, hcurve⟩
  · obtain ⟨value, oid, hvalue, hdecode, hoid⟩ := exists_curveIdentifier h.family
    have hlen := Der.length_encode_le Der.objectIdTag value
      (Nat.lt_of_le_of_lt hvalue (by decide))
    refine ofDer_of_identifier h ?_ decode_ecIdentifier (.objectId hdecode) ?_ fun point _ =>
      formOf_registered hoid point
    · rw [identifierOf, hoid]
    · have : ecIdentifier.length = 7 := rfl
      omega
  · refine ofDer_of_identifier h rfl decode_placeholder .absent (by decide) fun point hpoint => ?_
    rw [hcurve] at hpoint ⊢
    exact formOf_legacy hpoint

/-! ## The form that is written -/

/-- A public key on its curve passes the check before it is written. -/
theorem toDer_eq_registered {k : EcKey} (h : k.PointOnCurve) (hd : k.d = none)
    (hc : k.curve ≠ .secp256k1) (preferred : Result DerForm) :
    k.toDer preferred = k.toForm .registered := by
  obtain ⟨e, he, hpoint⟩ := h
  rw [toDer, if_neg hc, accepted, he]
  dsimp only
  rw [if_pos hpoint, hd]
  dsimp only
  rw [map_curveNamed he, ok_bind, if_neg (by simp)]
  simp only [← hd]
  rfl

/-- On a curve with a single form nothing is remembered but the point. -/
theorem pointOnCurve_of_ofDer {c : Curve} {bs : Bytes} {k : EcKey} (hc : c ≠ .secp256k1)
    (h : ofDer c bs = .ok k) : k.curve = c ∧ k.bare = k ∧ k.PointOnCurve := by
  obtain ⟨info, form, k', -, -, hk', rfl⟩ := ofDer_eq_ok_iff.mp h
  obtain ⟨hcurve, hbare, hpoint, -⟩ := toPoint_of_ofPoint hk'
  rw [remembering, if_neg (hcurve ▸ hc)]
  exact ⟨hcurve, hbare, hpoint⟩

/-- The form that a secp256k1 key is written in: its own if it has one, or else the preferred. -/
theorem toDer_eq_toForm {k : EcKey} {form : DerForm} {preferred : Result DerForm}
    (hc : k.curve = .secp256k1)
    (hform : k.form = some form ∧ form ≠ .unknown "" ∨ k.form = none ∧ preferred = .ok form) :
    k.toDer preferred = k.toForm form := by
  rcases hform with ⟨hform, hname⟩ | ⟨hform, rfl⟩
  · have hremembered : k.remembered? = some form := by
      rw [remembered?, hform, Option.filter_some, if_pos (by simpa using hname)]
    rw [toDer, if_pos hc, marshal, Option.none_or, hremembered]
  · have hremembered : k.remembered? = none := by rw [remembered?, hform, Option.filter_none]
    rw [toDer, if_pos hc, marshal, Option.none_or, hremembered]
    rfl

/-! ## Read, then written -/

/-- A key that was read is written in the form it was read in, whatever form is preferred. -/
theorem toDer_eq_toForm_of_ofDer {c : Curve} {bs : Bytes} {k : EcKey} (h : ofDer c bs = .ok k) :
    ∃ info form, parse bs = .ok info ∧ HasForm c info form ∧ k.curve = c ∧
      k.toPoint = .ok info.publicKey ∧ ∀ preferred, k.toDer preferred = k.toForm form := by
  obtain ⟨info, form, k', hinfo, hform, hk', rfl⟩ := ofDer_eq_ok_iff.mp h
  obtain ⟨rfl, hbare, hpoint, hbytes⟩ := toPoint_of_ofPoint hk'
  have hhas := hasForm_of_formOf hform
  refine ⟨info, form, hinfo, hhas, ?_⟩
  by_cases hc : k'.curve = .secp256k1
  · rw [remembering, if_pos hc]
    refine ⟨rfl, hbytes, fun preferred => toDer_eq_toForm hc (Or.inl ⟨rfl, ?_⟩)⟩
    cases hhas <;> decide
  · have hd : k'.d = none := by rw [← hbare]; rfl
    rw [remembering, if_neg hc]
    refine ⟨rfl, hbytes, fun preferred => ?_⟩
    cases hhas with
    | legacy hcurve => exact absurd hcurve hc
    | registered => exact toDer_eq_registered hpoint hd hc preferred

/-- No private part is read. -/
theorem publicPart_of_ofDer {c : Curve} {bs : Bytes} {k : EcKey} (h : ofDer c bs = .ok k) :
    k.publicPart = k := by
  obtain ⟨info, form, k', -, -, hk', rfl⟩ := ofDer_eq_ok_iff.mp h
  obtain ⟨-, hbare, -⟩ := toPoint_of_ofPoint hk'
  rw [← hbare, remembering]
  split <;> rfl

/-- In the registered form the bytes that were read are written again. -/
theorem toForm_registered {c : Curve} {bs : Bytes} {k : EcKey} {info : PublicKeyInfo}
    (hinfo : parse bs = .ok info) (hform : HasForm c info .registered) (hcurve : k.curve = c)
    (hpoint : k.toPoint = .ok info.publicKey) : k.toForm .registered = .ok bs := by
  cases hform with
  | @registered oid hoid halgorithm hparameters =>
    have hidentifier :
        identifierOf k.curve .registered = .ok (info.algorithm, info.parameters) := by
      rw [identifierOf, hcurve, hoid, halgorithm, hparameters]
    have hsome : info.parameters ≠ none := by
      rw [hparameters]
      exact Option.some_ne_none oid
    rw [toForm_eq_ok hidentifier hpoint]
    exact mapError_eq_ok.mpr (encode_of_parse hinfo hsome)

theorem toDer_of_ofDer {c : Curve} {bs : Bytes} {k : EcKey} (hc : c ≠ .secp256k1)
    (h : ofDer c bs = .ok k) (preferred : Result DerForm) : k.toDer preferred = .ok bs := by
  obtain ⟨info, form, hinfo, hform, hcurve, hpoint, htoDer⟩ := toDer_eq_toForm_of_ofDer h
  have hregistered : form = .registered := by
    cases hform with
    | legacy hsecp => exact absurd hsecp hc
    | registered => rfl
  subst hregistered
  rw [htoDer preferred, toForm_registered hinfo hform hcurve hpoint]

end WebKeys.EcKey
