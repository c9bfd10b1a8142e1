import WebKeys.Conversion
import WebKeys.Proofs.Publication

/-!
# Conversions are inverse

* `decodeKey_encodeKey`: a key of a type's family and curve is written and read back, and every
  other key is refused for its curve.
* `encodeKey_decodeKey`: under a type with one spelling, what was read is written again byte for
  byte, as a key, as a web key, and as a web key that went through JSON.
-/

namespace WebKeys.Conversion

open Outcome Key

variable {t : KeyType}

/-! ## Steps of a conversion -/

theorem lookup_tag (op : Operation) (ht : t.family ≠ .symmetric) : lookup op t.tag = .ok t := by
  rw [lookup, KeyType.ofTag?_tag]
  exact if_neg ht

theorem inOperation_eq_ok {α : Type} {op : Operation} {r : Result α} {a : α} :
    inOperation op t r = .ok a ↔ r = .ok a := by
  unfold inOperation
  split
  · split <;> simp
  · rfl

theorem result_decodeKey {takes : RsaKey.LoadCheck} (ht : t.family ≠ .symmetric) (bs : Bytes) :
    (decodeKey (some bs) t.tag takes).result =
      inOperation .decodeKey t (ofPublicBytes t bs takes) := by
  rw [decodeKey, Traced.result_timed, lookup_tag _ ht]
  rfl

theorem result_encodeKey (ht : t.family ≠ .symmetric) {c : Candidate} {k : Key}
    (hk : keyToEncode t c = .ok k) (preferred : Result DerForm) :
    (encodeKey preferred c t.tag).result =
      inOperation .encodeKey t (k.publicPart.toPublicBytes preferred t) := by
  rw [encodeKey, Traced.result_timed, bytesOf, lookup_tag _ ht, Traced.ofResult, ok_bind, hk,
    ok_bind]

theorem keyToEncode_key (k : Key) : keyToEncode t (.key k) = .ok k := rfl

theorem keyToEncode_webKey (w : WebKey) : keyToEncode t (.webKey w) = .ok w.key := rfl

/-! ## Written, then read -/

/-- A sound key is written under every type of its family and curve, and what is read from those
bytes is its public part. Under any other type it is refused for its curve, sound or not. -/
theorem decodeKey_encodeKey {k : Key} {form : DerForm} (ht : t.family ≠ .symmetric)
    (hform : form = .legacy ∨ form = .registered) :
    (Fits t k → k.Sound → ∃ bs, (encodeKey (.ok form) (.key k) t.tag).result = .ok bs ∧
      ∃ k', (decodeKey (some bs) t.tag).result = .ok k' ∧ k'.same k.publicPart = true) ∧
    (¬Fits t k → ∃ e, (encodeKey (.ok form) (.key k) t.tag).result = .error (.conversion e) ∧
      e.kind = .curveMismatch) := by
  rw [result_encodeKey ht (keyToEncode_key k)]
  constructor
  · intro hfits hsound
    obtain ⟨bs, k', hbs, hread, hsame⟩ := ofPublicBytes_toPublicBytes ht hfits hsound hform
    refine ⟨bs, inOperation_eq_ok.mpr hbs, k', ?_, hsame⟩
    rw [result_decodeKey ht]
    exact inOperation_eq_ok.mpr hread
  · intro hnot
    have hpublic : ¬Fits t k.publicPart := by simpa [Fits] using hnot
    obtain ⟨hfits, -⟩ | ⟨-, reason, hreason, hkind⟩ := mismatch?_cases ht k.publicPart
    · exact absurd hfits hpublic
    · rw [toPublicBytes, hreason]
      exact ⟨_, rfl, hkind⟩

/-- The base point of secp256k1 with its scalar, under a type of its curve and one of another. -/
theorem secp256k1_base_point_read_back :
    (∃ bs, (encodeKey (.ok .registered) (.key (.ec ⟨.secp256k1, Weierstrass.secp256k1.gx,
        Weierstrass.secp256k1.gy, some 1, none⟩)) "SECP256K1DER").result = .ok bs ∧
      ∃ k', (decodeKey (some bs) "SECP256K1DER").result = .ok k' ∧ k'.same (.ec ⟨.secp256k1,
        Weierstrass.secp256k1.gx, Weierstrass.secp256k1.gy, none, none⟩) = true) ∧
    ∃ e, (encodeKey (.ok .registered) (.key (.ec ⟨.secp256k1, Weierstrass.secp256k1.gx,
        Weierstrass.secp256k1.gy, some 1, none⟩)) "ECDSAP256DER").result = .error (.conversion e) ∧
      e.kind = .curveMismatch :=
  ⟨(decodeKey_encodeKey (t := .secp256k1Der) (by decide) (Or.inr rfl)).1 ⟨rfl, rfl⟩
      ⟨⟨_, rfl, by decide +kernel⟩, Or.inl rfl⟩,
    (decodeKey_encodeKey (t := .p256Der) (by decide) (Or.inr rfl)).2 fun h => by cases h.2⟩

/-! ## Read, then written -/

theorem labelOf_eq {k : Key} (ht : t.family ≠ .symmetric) (h : Fits t k) :
    labelOf t = (some k.label.1, k.label.2) := by
  obtain ⟨-, hcurve⟩ := h
  rw [labelOf, KeyType.group?, Key.label, hcurve]
  cases hc : t.curve? with
  | none =>
    rw [if_pos ((family_of_curve?_none hc).resolve_right ht)]
    rfl
  | some c => rfl

theorem result_decodeWebKey {takes : RsaKey.LoadCheck} {k : Key} {bs : Bytes}
    (ht : t.family ≠ .symmetric) (hread : ofPublicBytes t bs takes = .ok k) (h : Fits t k)
    (kid : Option String) : (decodeWebKey (some bs) t.tag kid takes).result =
      .ok ⟨k, k.label.1, k.label.2, kid, none, none⟩ := by
  have hkey : (decodeKey (some bs) t.tag takes).result = .ok k := by
    rw [result_decodeKey ht]
    exact inOperation_eq_ok.mpr hread
  rw [decodeWebKey, Traced.result_timed, Traced.result_andThen, lookup_tag _ ht]
  show (Traced.andThen _ _).result = _
  rw [Traced.result_andThen, hkey]
  show WebKey.create k (labelOf t) kid none none = _
  rw [WebKey.create, labelOf_eq ht h, if_pos rfl]

theorem result_wrapKey (k : Key) (kid use alg : Option String) :
    (wrapKey (.key k) kid use alg).result = .ok ⟨k, k.label.1, k.label.2, kid, use, alg⟩ :=
  WebKey.ofKey_eq_ok k kid use alg

theorem family_of_oneSpelling (h : OneSpelling t) : t.family ≠ .symmetric := by
  rw [Ne, ← layout_eq_absent_iff]
  rcases h with h | h | h | ⟨h, -⟩ <;> rw [h] <;> decide

/-- Under a type with one spelling, the bytes that a key was read from are those that it is written
as: by itself, under any label that goes along, and after its web key has gone through JSON. -/
theorem encodeKey_decodeKey {bs : Bytes} {k : Key} (ht : OneSpelling t)
    (h : (decodeKey (some bs) t.tag).result = .ok k) (preferred : Result DerForm) :
    (encodeKey preferred (.key k) t.tag).result = .ok bs ∧
    (∀ kid use alg, ∃ w, (wrapKey (.key k) kid use alg).result = .ok w ∧
      (encodeKey preferred (.webKey w) t.tag).result = .ok bs) ∧
    ∀ kid, ∃ w, (decodeWebKey (some bs) t.tag kid).result = .ok w ∧
      (encodeKey preferred (.webKey w) t.tag).result = .ok bs ∧
      ∃ text w', w.toJson = .ok text ∧ WebKey.ofJsonText (Utf8.encode text.toList) = .ok w' ∧
        (encodeKey preferred (.webKey w') t.tag).result = .ok bs := by
  have hfamily := family_of_oneSpelling ht
  rw [result_decodeKey hfamily] at h
  have hread := inOperation_eq_ok.mp h
  have hfrom := readFrom_of_ofPublicBytes ht hread
  have hbytes : inOperation .encodeKey t (k.publicPart.toPublicBytes preferred t) = .ok bs :=
    inOperation_eq_ok.mpr (hfrom.toPublicBytes preferred)
  have hwebKey (w : WebKey) (hw : w.key = k) :
      (encodeKey preferred (.webKey w) t.tag).result = .ok bs := by
    rw [result_encodeKey hfamily (keyToEncode_webKey w), hw]
    exact hbytes
  refine ⟨?_, fun kid use alg => ⟨_, result_wrapKey k kid use alg, hwebKey _ rfl⟩, fun kid => ?_⟩
  · rw [result_encodeKey hfamily (keyToEncode_key k)]
    exact hbytes
  · have hsettled : WebKey.Settled ⟨k, k.label.1, k.label.2, kid, none, none⟩ :=
      ⟨hfrom.settled, rfl, rfl⟩
    obtain ⟨text, htext, hagain⟩ := hsettled.ofJsonText_toJson
    exact ⟨_, result_decodeWebKey hfamily hread hfrom.fits kid, hwebKey _ rfl, text, _, htext,
      hagain, hwebKey _ rfl⟩

/-- The base point of P-256 in DER. -/
theorem p256_base_point_written_back :
    (encodeKey (.ok .legacy) (.key (.ec ⟨.p256, Weierstrass.p256.gx, Weierstrass.p256.gy, none,
      none⟩)) "ECDSAP256DER").result = .ok ([0x30, 0x59, 0x30, 0x13, 0x06, 0x07, 0x2A, 0x86, 0x48,
      0xCE, 0x3D, 0x02, 0x01, 0x06, 0x08, 0x2A, 0x86, 0x48, 0xCE, 0x3D, 0x03, 0x01, 0x07, 0x03,
      0x42, 0x00, 0x04] ++ Bytes.ofNat 32 Weierstrass.p256.gx ++ Bytes.ofNat 32 Weierstrass.p256.gy) :=
  (encodeKey_decodeKey (t := .p256Der) (Or.inr (Or.inr (Or.inr ⟨rfl, rfl, by decide⟩))) rfl
    (.ok .legacy)).1

end WebKeys.Conversion
