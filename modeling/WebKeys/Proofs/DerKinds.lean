import WebKeys.Proofs.EcDer
import WebKeys.Proofs.RsaDer

/-!
# No DER is a key of two kinds

The algorithm identifier, and for an elliptic curve key the identifier of its curve, tell the
readers of DER apart. A key information is read under one curve at most, and by the reader of RSA
keys only if under none (`der_names_one_kind`). A curve that is not named is reported as a mismatch
whatever stands in the bit string, since the names are compared before the point is read.
-/

namespace WebKeys

open Outcome PublicKeyInfo

/-- The operation fails with a conversion error of this kind. -/
def FailsWith {α : Type} (kind : ErrorKind) (r : Result α) : Prop :=
  ∃ e : ConversionError, r = .error (.conversion e) ∧ e.kind = kind

theorem failsWith_ofReason {α : Type} (reason : Reason) :
    FailsWith reason.kind (.error (.ofReason reason) : Result α) := ⟨_, rfl, rfl⟩

/-! ## Readers that are not named -/

namespace EcKey

theorem ofDer_of_formOf_error {c : Curve} {bs : Bytes} {info : PublicKeyInfo} {reason : Reason}
    (hinfo : parse bs = .ok info) (h : formOf c info = .error reason) :
    ofDer c bs = .error (.ofReason reason) := by
  rw [ofDer, mapError_eq_ok.mpr hinfo, ok_bind, h]
  rfl

theorem ecAlgorithm_ne_placeholder : ecAlgorithm ≠ placeholderAlgorithm := by decide

/-- An information that names another curve. -/
theorem formOf_of_otherCurve {c c' : Curve} {info : PublicKeyInfo} {oid : String}
    (halgorithm : info.algorithm = ecAlgorithm) (hparameters : info.parameters = some oid)
    (hoid : c'.objectId? = some oid) (hne : c' ≠ c) :
    formOf c info = .error (.otherCurve (some c'.name) c) := by
  have hplaceholder : ¬(info.algorithm = placeholderAlgorithm ∧ c = .secp256k1) := by
    rintro ⟨heq, -⟩
    exact ecAlgorithm_ne_placeholder (halgorithm.symm.trans heq)
  rw [formOf, if_neg hplaceholder, if_pos halgorithm, hparameters]
  dsimp only
  rw [Curve.ofObjectId?_eq_some_iff.mpr hoid]
  exact if_neg hne

/-- An information of another algorithm, or with the placeholder that is not for this curve. -/
theorem formOf_of_otherAlgorithm {c : Curve} {info : PublicKeyInfo}
    (halgorithm : info.algorithm ≠ ecAlgorithm)
    (hplaceholder : info.algorithm = placeholderAlgorithm → c ≠ .secp256k1) :
    formOf c info = .error (.ecAlgorithm info.algorithm) := by
  rw [formOf, if_neg fun hand => hplaceholder hand.1 hand.2, if_neg halgorithm]

/-- Key information of one curve is refused under every other as a mismatch of curves. -/
theorem mismatch_of_hasForm {c c' : Curve} {bs : Bytes} {info : PublicKeyInfo} {form : DerForm}
    (hinfo : parse bs = .ok info) (h : HasForm c' info form) (hne : c' ≠ c) :
    FailsWith .curveMismatch (ofDer c bs) := by
  cases h with
  | legacy hcurve halgorithm =>
    have hother : info.algorithm ≠ ecAlgorithm := by
      rw [halgorithm]
      exact ecAlgorithm_ne_placeholder.symm
    rw [ofDer_of_formOf_error hinfo (formOf_of_otherAlgorithm hother fun _ heq =>
      hne (hcurve.trans heq.symm))]
    exact failsWith_ofReason (.ecAlgorithm _)
  | registered hoid halgorithm hparameters =>
    rw [ofDer_of_formOf_error hinfo (formOf_of_otherCurve halgorithm hparameters hoid hne)]
    exact failsWith_ofReason (.otherCurve _ _)

end EcKey

namespace RsaKey

theorem algorithm_ne_ec : algorithm ≠ EcKey.ecAlgorithm := by decide

theorem algorithm_ne_placeholder : algorithm ≠ EcKey.placeholderAlgorithm := by decide

theorem exists_information_of_ofDer {bs : Bytes} {k : RsaKey} (h : ofDer bs = .ok k) :
    ∃ info, parse bs = .ok info ∧ info.algorithm = algorithm := by
  obtain ⟨n, e, rest, hstrict, -⟩ := ofDer_eq_ok_iff.mp h
  exact ⟨_, parse_eq_ok_iff.mpr ⟨_, _, hstrict⟩, rfl⟩

theorem invalid_of_otherAlgorithm {bs : Bytes} {info : PublicKeyInfo} (hinfo : parse bs = .ok info)
    (h : info.algorithm ≠ algorithm) : FailsWith .invalidEncoding (ofDer bs) := by
  rw [ofDer, hinfo]
  simp only [Except.mapError, ok_bind, if_pos h, throw_eq_error, error_bind]
  exact failsWith_ofReason .rsaAlgorithm

end RsaKey

/-! ## One kind at most -/

/-- What is read as a key of a curve is a mismatch for every other curve, and no RSA key; what is
read as an RSA key is a mismatch for every curve. An information that names a curve is a mismatch
for all others, with any bytes in place of the point. -/
theorem der_names_one_kind (bs : Bytes) :
    (∀ c k, EcKey.ofDer c bs = .ok k →
      (∀ c', c' ≠ c → FailsWith .curveMismatch (EcKey.ofDer c' bs)) ∧
      FailsWith .invalidEncoding (RsaKey.ofDer bs)) ∧
    (∀ k, RsaKey.ofDer bs = .ok k → ∀ c, FailsWith .curveMismatch (EcKey.ofDer c bs)) ∧
    ∀ c, c.family = .ec → ∀ point : Bytes, point.length < 2 ^ 31 →
      ∃ oid bs', c.objectId? = some oid ∧
        PublicKeyInfo.encode ⟨EcKey.ecAlgorithm, some oid, point⟩ = .ok bs' ∧
        ∀ c', c' ≠ c → FailsWith .curveMismatch (EcKey.ofDer c' bs') := by
  refine ⟨fun c k h => ?_, fun k h c => ?_, fun c hc point hpoint => ?_⟩
  · obtain ⟨info, form, -, hinfo, hform, -⟩ := EcKey.ofDer_eq_ok_iff.mp h
    have hhas := EcKey.hasForm_of_formOf hform
    refine ⟨fun c' hne => EcKey.mismatch_of_hasForm hinfo hhas hne.symm,
      RsaKey.invalid_of_otherAlgorithm hinfo ?_⟩
    cases hhas with
    | legacy _ halgorithm => exact halgorithm ▸ RsaKey.algorithm_ne_placeholder.symm
    | registered _ halgorithm => exact halgorithm ▸ RsaKey.algorithm_ne_ec.symm
  · obtain ⟨info, hinfo, halgorithm⟩ := RsaKey.exists_information_of_ofDer h
    rw [EcKey.ofDer_of_formOf_error hinfo (EcKey.formOf_of_otherAlgorithm
      (halgorithm ▸ RsaKey.algorithm_ne_ec) fun heq =>
        absurd (halgorithm.symm.trans heq) RsaKey.algorithm_ne_placeholder)]
    exact failsWith_ofReason (.ecAlgorithm _)
  · obtain ⟨value, oid, hlen, hdecode, hoid⟩ := EcKey.exists_curveIdentifier hc
    have hbound : Der.lengthBound = 2 ^ 32 := by decide
    have hvalue := Der.length_encode_le Der.objectIdTag value (by omega)
    have hec : EcKey.ecIdentifier.length = 7 := rfl
    obtain ⟨bs', hencode, hparse⟩ := @parse_of_encode ⟨EcKey.ecAlgorithm, some oid, point⟩ _ _
      EcKey.decode_ecIdentifier (.objectId hdecode) (by dsimp only; omega)
    exact ⟨oid, bs', hoid, hencode, fun c' hne =>
      EcKey.mismatch_of_hasForm hparse (.registered hoid rfl rfl) hne.symm⟩

/-- The base point of secp256k1 with the placeholder for an algorithm, an RSA key of two small
numbers, and an information that names P-256 around a byte that is no point. -/
theorem small_information_names_one_kind :
    (FailsWith .curveMismatch (EcKey.ofDer .p256
        (framed (Der.encode Der.objectIdTag [0x50]) (0 :: EcKey.basePoint))) ∧
      FailsWith .invalidEncoding (RsaKey.ofDer
        (framed (Der.encode Der.objectIdTag [0x50]) (0 :: EcKey.basePoint)))) ∧
    FailsWith .curveMismatch (EcKey.ofDer .secp256k1
      (RsaKey.informationOf RsaKey.rsaIdentifier 5 3)) ∧
    ∃ oid bs, Curve.p256.objectId? = some oid ∧
      PublicKeyInfo.encode ⟨EcKey.ecAlgorithm, some oid, [4]⟩ = .ok bs ∧
      FailsWith .curveMismatch (EcKey.ofDer .p384 bs) := by
  obtain ⟨hec, -, hnamed⟩ :=
    der_names_one_kind (framed (Der.encode Der.objectIdTag [0x50]) (0 :: EcKey.basePoint))
  obtain ⟨hothers, hrsa⟩ := hec .secp256k1 _ rfl
  obtain ⟨oid, bs, hoid, hencode, hmismatch⟩ := hnamed .p256 rfl [4] (by decide)
  exact ⟨⟨hothers .p256 (by decide), hrsa⟩,
    (der_names_one_kind (RsaKey.informationOf RsaKey.rsaIdentifier 5 3)).2.1 _
      (RsaKey.ofDer_informationOf (by decide) (by decide) (by decide) (by decide)) .secp256k1,
    oid, bs, hoid, hencode, hmismatch .p384 (by decide)⟩

end WebKeys
