import WebKeys.PublicBytes
import WebKeys.Proofs.EcDer
import WebKeys.Proofs.PublicView
import WebKeys.Proofs.RsaDer

/-!
# Public keys are read as written and written as read

* `mismatch?_cases`: a key type takes exactly the keys of its family and curve.
* `ofPublicBytes_toPublicBytes`: a key whose public part is sound is written under its type, and
  read back up to the form of its DER.
* `ReadFrom.toPublicBytes`: under a type with one spelling for each key, what was read is written
  again byte for byte.
-/

namespace WebKeys.Key

open Outcome

/-! ## Key types -/

/-- The key is of the family and on the curve of the type. -/
def Fits (t : KeyType) (k : Key) : Prop := k.family = t.family ∧ k.curve? = t.curve?

theorem layout_eq_absent_iff {t : KeyType} : t.layout = .absent ↔ t.family = .symmetric := by
  cases t <;> decide

theorem layout_of_ec {t : KeyType} (h : t.family = .ec) :
    t.layout = .point ∨ t.layout = .der ∨ t.layout = .keyWrapJson := by
  cases t <;> simp_all [KeyType.family, KeyType.layout]

theorem layout_of_okp {t : KeyType} (h : t.family = .okp) : t.layout = .raw := by
  cases t <;> simp_all [KeyType.family, KeyType.layout]

theorem layout_of_bls {t : KeyType} (h : t.family = .bls) : t.layout = .compressedG2 := by
  cases t <;> simp_all [KeyType.family, KeyType.layout]

theorem layout_of_rsa {t : KeyType} (h : t.family = .rsa) : t.layout = .der := by
  cases t <;> simp_all [KeyType.family, KeyType.layout]

theorem family_of_curve?_none {t : KeyType} (h : t.curve? = none) :
    t.family = .rsa ∨ t.family = .symmetric := by
  cases t <;> simp_all [KeyType.family, KeyType.curve?]

theorem curve?_of_rsa {k : Key} (h : k.family = .rsa) : k.curve? = none := by
  cases k <;> simp_all [family, curve?]

@[simp] theorem family_publicPart (k : Key) : k.publicPart.family = k.family := by
  cases k <;> rfl

@[simp] theorem curve?_publicPart (k : Key) : k.publicPart.curve? = k.curve? := by
  cases k <;> rfl

/-- A key type takes the keys of its family and curve, and refuses all others for their curve. -/
theorem mismatch?_cases {t : KeyType} (ht : t.family ≠ .symmetric) (k : Key) :
    (Fits t k ∧ mismatch? t k = none) ∨
      (¬Fits t k ∧ ∃ reason, mismatch? t k = some reason ∧ reason.kind = .curveMismatch) := by
  have hlayout : t.layout ≠ .absent := fun h => ht (layout_eq_absent_iff.mp h)
  unfold mismatch?
  rw [if_neg hlayout]
  by_cases hfamily : k.family = t.family
  · rw [if_neg (not_not.mpr hfamily)]
    cases hcurve : t.curve? with
    | none =>
      have hrsa : t.family = .rsa := (family_of_curve?_none hcurve).resolve_right ht
      exact Or.inl ⟨⟨hfamily, by rw [curve?_of_rsa (hfamily.trans hrsa), hcurve]⟩, rfl⟩
    | some c =>
      by_cases hk : k.curve? = some c
      · exact Or.inl ⟨⟨hfamily, hk.trans hcurve.symm⟩, if_pos hk⟩
      · exact Or.inr ⟨fun h => hk (h.2.trans hcurve), _, if_neg hk, rfl⟩
  · exact Or.inr ⟨fun h => hfamily h.1, _, if_pos hfamily, rfl⟩

theorem toPublicBytes_of_fits {t : KeyType} (ht : t.family ≠ .symmetric) {k : Key} (h : Fits t k)
    (preferred : Result DerForm) : k.toPublicBytes preferred t = k.inLayout preferred t.layout := by
  obtain ⟨-, hnone⟩ | ⟨hnot, -⟩ := mismatch?_cases ht k
  · rw [toPublicBytes, hnone]
  · exact absurd h hnot

/-! ## Written, then read -/

/-- The public part of a key is one that its type's reader takes. -/
def Sound : Key → Prop
  | .ec k => k.PointOnCurve ∧ (k.form = none ∨ k.form = some .legacy ∨ k.form = some .registered)
  | .okp k => k.x.length = 32
  | .bls k => ∃ k', BlsKey.ofCompressed (some k.x) = .ok k'
  | .rsa k => 3 ≤ k.n ∧ 3 ≤ k.e ∧ k.e < k.n ∧ k.e % 2 = 1 ∧ Bytes.width k.n.toNat < 2 ^ 30

theorem same_remembering (k : EcKey) (form : DerForm) :
    (Key.ec (k.bare.remembering form)).same (.ec k.publicPart) = true := by
  unfold EcKey.remembering
  split <;> simp [same, withoutForm, EcKey.bare, EcKey.publicPart]

theorem same_bare (k : EcKey) : (Key.ec k.bare).same (.ec k.publicPart) = true := by
  simp [same, withoutForm, EcKey.bare, EcKey.publicPart]

theorem ofDer_toDer_publicPart {k : EcKey} {form : DerForm} (h : (Key.ec k).Sound)
    (hform : form = .legacy ∨ form = .registered) :
    ∃ bs form', k.publicPart.toDer (.ok form) = .ok bs ∧
      EcKey.ofDer k.curve bs = .ok (k.bare.remembering form') := by
  obtain ⟨hpoint, hforms⟩ := h
  by_cases hc : k.curve = .secp256k1
  · obtain ⟨form', hform', hknown⟩ : ∃ form', (k.form = some form' ∧ form' ≠ .unknown "" ∨
        k.form = none ∧ (.ok form : Result DerForm) = .ok form') ∧
        (form' = .legacy ∨ form' = .registered) := by
      rcases hforms with hnone | hlegacy | hregistered
      · exact ⟨form, Or.inr ⟨hnone, rfl⟩, hform⟩
      · exact ⟨.legacy, Or.inl ⟨hlegacy, by decide⟩, Or.inl rfl⟩
      · exact ⟨.registered, Or.inl ⟨hregistered, by decide⟩, Or.inr rfl⟩
    have hreadable : form' = .registered ∨ form' = .legacy ∧ k.publicPart.curve = .secp256k1 :=
      hknown.elim (fun hlegacy => Or.inr ⟨hlegacy, hc⟩) Or.inl
    obtain ⟨bs, hbs, hread⟩ := EcKey.ofDer_toForm (k := k.publicPart) hpoint hreadable
    exact ⟨bs, form', (EcKey.toDer_eq_toForm (k := k.publicPart) hc hform').trans hbs, hread⟩
  · obtain ⟨bs, hbs, hread⟩ := EcKey.ofDer_toForm (k := k.publicPart) hpoint (Or.inl rfl)
    exact ⟨bs, .registered,
      (EcKey.toDer_eq_registered (k := k.publicPart) hpoint rfl hc _).trans hbs, hread⟩

theorem ofRaw_of_length {c : Curve} {x : Bytes} (hc : c.family = .okp) (h : x.length = 32) :
    OkpKey.ofRaw c (some x) = .ok { curve := c, x := x } := by
  have hsize : c.size = 32 := by cases c <;> simp_all [Curve.family, Curve.size]
  rw [OkpKey.ofRaw, Option.getD_some, if_pos (h.trans hsize.symm)]

theorem ofCompressed_eq_ok {x : Bytes} {k : BlsKey} (h : BlsKey.ofCompressed (some x) = .ok k) :
    k = { x := x } := by
  unfold BlsKey.ofCompressed at h
  rw [Option.getD_some] at h
  dsimp only at h
  repeat' split at h
  all_goals cases h
  rfl

theorem curve_family {t : KeyType} {c : Curve} (h : t.curve? = some c) : c.family = t.family := by
  cases t <;> simp_all [KeyType.curve?, KeyType.family] <;> subst h <;> rfl

/-- Every sound key that fits its type is written, and read back as its public part. -/
theorem ofPublicBytes_toPublicBytes {t : KeyType} {k : Key} {form : DerForm}
    (ht : t.family ≠ .symmetric) (hfits : Fits t k) (hsound : k.Sound)
    (hform : form = .legacy ∨ form = .registered) :
    ∃ bs k', k.publicPart.toPublicBytes (.ok form) t = .ok bs ∧ ofPublicBytes t bs = .ok k' ∧
      k'.same k.publicPart = true := by
  have hpublic : Fits t k.publicPart := by simpa [Fits] using hfits
  rw [toPublicBytes_of_fits ht hpublic]
  obtain ⟨hfamily, hcurve⟩ := hfits
  cases k with
  | ec k =>
    have hc : t.curve? = some k.curve := hcurve.symm
    unfold ofPublicBytes
    rcases layout_of_ec hfamily.symm with hlayout | hlayout | hlayout <;> rw [hlayout, hc]
    · obtain ⟨bs, hbs, -, hread⟩ := EcKey.ofPoint_toPoint (k := k.publicPart) hsound.1
      exact ⟨bs, .ec k.bare, hbs, map_eq_ok.mpr ⟨_, hread, rfl⟩, same_bare k⟩
    · obtain ⟨bs, form', hbs, hread⟩ := ofDer_toDer_publicPart hsound hform
      exact ⟨bs, _, hbs, map_eq_ok.mpr ⟨_, hread, rfl⟩, same_remembering k form'⟩
    · obtain ⟨text, htext, hread⟩ := EcKey.ofKeyWrapJson_toKeyWrapJson (k := k.publicPart) hsound.1
      exact ⟨_, .ec k.bare, map_eq_ok.mpr ⟨text, htext, rfl⟩, map_eq_ok.mpr ⟨_, hread, rfl⟩,
        same_bare k⟩
  | okp k =>
    have hc : t.curve? = some k.curve := hcurve.symm
    have hokp : k.curve.family = .okp := (curve_family hc).trans hfamily.symm
    unfold ofPublicBytes
    rw [layout_of_okp hfamily.symm, hc]
    exact ⟨k.x, _, rfl, map_eq_ok.mpr ⟨_, ofRaw_of_length hokp hsound, rfl⟩, by
      simp [same, withoutForm, publicPart, OkpKey.publicPart]⟩
  | bls k =>
    obtain ⟨k', hk'⟩ := hsound
    unfold ofPublicBytes
    rw [layout_of_bls hfamily.symm]
    refine ⟨k.x, _, rfl, map_eq_ok.mpr ⟨_, hk', rfl⟩, ?_⟩
    rw [ofCompressed_eq_ok hk']
    simp [same, withoutForm, publicPart, BlsKey.publicPart]
  | rsa k =>
    obtain ⟨hn, he, hlt, hodd, hsize⟩ := hsound
    have hfit : RsaKey.publicNumbersFit k.n k.e = true :=
      RsaKey.publicNumbersFit_iff.mpr ⟨hn, he, hlt, hodd⟩
    have hc : t.curve? = none := hcurve.symm
    obtain ⟨bs, hbs, hread⟩ := RsaKey.ofDer_toDer (k := k.publicPart) hfit hsize
    unfold ofPublicBytes
    rw [layout_of_rsa hfamily.symm, hc]
    exact ⟨bs, _, hbs, map_eq_ok.mpr ⟨_, hread, rfl⟩, by simp [same, publicPart, RsaKey.publicPart]⟩

/-! ## Read, then written -/

/-- The type has one spelling for each key: nothing that its reader takes is dropped. -/
def OneSpelling (t : KeyType) : Prop :=
  t.layout = .point ∨ t.layout = .raw ∨ t.layout = .compressedG2 ∨
    (t.layout = .der ∧ t.family = .ec ∧ t.curve? ≠ some .secp256k1)

theorem exists_curve?_of_ec {t : KeyType} (h : t.family = .ec) : ∃ c, t.curve? = some c := by
  cases t <;> simp_all [KeyType.family, KeyType.curve?]

theorem family_of_point {t : KeyType} (h : t.layout = .point) : t.family = .ec := by
  cases t <;> simp_all [KeyType.family, KeyType.layout]

theorem family_of_raw {t : KeyType} (h : t.layout = .raw) :
    t.family = .okp ∧ ∃ c, t.curve? = some c := by
  cases t <;> simp_all [KeyType.family, KeyType.layout, KeyType.curve?]

theorem family_of_compressedG2 {t : KeyType} (h : t.layout = .compressedG2) :
    t.family = .bls ∧ t.curve? = some .bls12381G2 := by
  cases t <;> simp_all [KeyType.family, KeyType.layout, KeyType.curve?]

/-- What a key is that was read from these bytes under a type with one spelling. -/
inductive ReadFrom (t : KeyType) (bs : Bytes) : Key → Prop
  | ec {k : EcKey} (hfamily : t.family = .ec) (hcurve : t.curve? = some k.curve)
      (hbare : k.bare = k) (hpoint : k.PointOnCurve)
      (hbytes : ∀ preferred, (Key.ec k).inLayout preferred t.layout = .ok bs) :
      ReadFrom t bs (.ec k)
  | okp {c : Curve} (hfamily : t.family = .okp) (hcurve : t.curve? = some c)
      (hsize : bs.length = c.size) : ReadFrom t bs (.okp { curve := c, x := bs })
  | bls (hfamily : t.family = .bls) (hcurve : t.curve? = some .bls12381G2)
      (hpoint : BlsKey.ofCompressed (some bs) = .ok { x := bs }) : ReadFrom t bs (.bls { x := bs })

/-- In a layout with one spelling, the bytes say all that is read from them. -/
theorem readFrom_of_ofPublicBytes {t : KeyType} {bs : Bytes} {k : Key} (ht : OneSpelling t)
    (h : ofPublicBytes t bs = .ok k) : ReadFrom t bs k := by
  unfold ofPublicBytes at h
  rcases ht with hlayout | hlayout | hlayout | ⟨hlayout, hfamily, hcurve⟩
  · have hfamily := family_of_point hlayout
    obtain ⟨c, hc⟩ := exists_curve?_of_ec hfamily
    rw [hlayout, hc] at h
    obtain ⟨k, hk, rfl⟩ := map_eq_ok.mp h
    obtain ⟨rfl, hbare, hpoint, hbytes⟩ := EcKey.toPoint_of_ofPoint hk
    refine .ec hfamily hc hbare hpoint fun preferred => ?_
    rw [hlayout]
    exact hbytes
  · obtain ⟨hfamily, c, hc⟩ := family_of_raw hlayout
    rw [hlayout, hc] at h
    obtain ⟨k, hk, rfl⟩ := map_eq_ok.mp h
    rw [OkpKey.ofRaw, Option.getD_some] at hk
    split at hk
    · next hsize =>
      cases hk
      exact .okp hfamily hc hsize
    · cases hk
  · obtain ⟨hfamily, hc⟩ := family_of_compressedG2 hlayout
    rw [hlayout] at h
    obtain ⟨k, hk, rfl⟩ := map_eq_ok.mp h
    cases ofCompressed_eq_ok hk
    exact .bls hfamily hc hk
  · obtain ⟨c, hc⟩ := exists_curve?_of_ec hfamily
    rw [hlayout, hc] at h
    obtain ⟨k, hk, rfl⟩ := map_eq_ok.mp h
    have hsecp : c ≠ .secp256k1 := fun heq => hcurve (heq ▸ hc)
    obtain ⟨rfl, hbare, hpoint⟩ := EcKey.pointOnCurve_of_ofDer hsecp hk
    refine .ec hfamily hc hbare hpoint fun preferred => ?_
    rw [hlayout]
    exact EcKey.toDer_of_ofDer hsecp hk preferred

namespace ReadFrom

variable {t : KeyType} {bs : Bytes} {k : Key}

theorem family_ne (h : ReadFrom t bs k) : t.family ≠ .symmetric := by
  cases h with
  | ec hfamily => rw [hfamily]; decide
  | okp hfamily => rw [hfamily]; decide
  | bls hfamily => rw [hfamily]; decide

theorem fits (h : ReadFrom t bs k) : Fits t k := by
  cases h with
  | ec hfamily hcurve => exact ⟨hfamily.symm, hcurve.symm⟩
  | okp hfamily hcurve => exact ⟨hfamily.symm, hcurve.symm⟩
  | bls hfamily hcurve => exact ⟨hfamily.symm, hcurve.symm⟩

theorem publicPart_eq (h : ReadFrom t bs k) : k.publicPart = k := by
  cases h with
  | ec _ _ hbare =>
    rw [← hbare]
    rfl
  | okp => rfl
  | bls => rfl

/-- The key is written as the bytes it was read from. -/
theorem toPublicBytes (h : ReadFrom t bs k) (preferred : Result DerForm) :
    k.publicPart.toPublicBytes preferred t = .ok bs := by
  rw [h.publicPart_eq, toPublicBytes_of_fits h.family_ne h.fits]
  cases h with
  | ec _ _ _ _ hbytes => exact hbytes preferred
  | okp => rfl
  | bls => rfl

end ReadFrom

end WebKeys.Key
