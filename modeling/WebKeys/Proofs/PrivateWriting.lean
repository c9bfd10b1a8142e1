import WebKeys.Proofs.PublicBytes

/-!
# What becomes of the private part when a key is written

Exported bytes are bytes of a public key, and a private key should be written as its public part is.
Points, JSON and raw keys do not look at the private part, RSA keys drop it first, and the DER of
secp256k1 is put together from the point alone. The DER of the other elliptic curves is left to the
primitives: a key with a scalar is a private key to them, and private keys have no such form.

* `EcKey.HeldAsPrivate`: a private key that the primitives hold as one.
* `EcKey.toDer_publicPart`, `EcKey.onlyPublicWritten_toDer`: the DER of every other key is that of
  its public part, and such a key has none.
* `Key.public_part_written`: this is the only difference that a private part makes, for any key,
  layout and key type.
-/

namespace WebKeys

open Outcome

/-- A key fails to be written, and not with a conversion error, while its public part is written. -/
structure OnlyPublicWritten (whole part : Result Bytes) : Prop where
  whole : ∃ f, whole = .error f ∧ ∀ e, f ≠ .conversion e
  part : ∃ bs, part = .ok bs

theorem OnlyPublicWritten.ne {whole part : Result Bytes} (h : OnlyPublicWritten whole part) :
    whole ≠ part := by
  obtain ⟨⟨f, hwhole, -⟩, bs, hpart⟩ := h
  rw [hwhole, hpart]
  rintro ⟨⟩

/-- A key and its public part are written alike, failures included, exactly if the key is not held
as a private one; and if it is, only its public part is written. -/
structure WrittenAlike (held : Prop) (whole part : Result Bytes) : Prop where
  same : whole = part ↔ ¬held
  onlyPublic : held → OnlyPublicWritten whole part

theorem writtenAlike_of {held : Prop} {whole part : Result Bytes} (hsame : ¬held → whole = part)
    (honly : held → OnlyPublicWritten whole part) : WrittenAlike held whole part where
  same := ⟨fun h hheld => (honly hheld).ne h, hsame⟩
  onlyPublic := honly

/-! ## Elliptic curve keys in DER -/

namespace EcKey

variable {k : EcKey} {preferred : Result DerForm}

theorem publicPart_eq (h : k.d = none) : k.publicPart = k := by
  cases k
  cases h
  rfl

/-- A private key at a point of its curve, the DER of which is left to the primitives. -/
structure HeldAsPrivate (k : EcKey) : Prop where
  curve : k.curve ≠ .secp256k1
  point : k.PointOnCurve
  isPrivate : k.d.isSome = true

/-- Off its curve a key is refused with its private part as without it. -/
theorem accepted_publicPart (h : ¬k.PointOnCurve) : k.accepted = k.publicPart.accepted := by
  unfold accepted publicPart
  dsimp only
  split
  · rfl
  · next e he =>
    have hoff : ¬onCurve e k.x k.y = true := fun hon => h ⟨e, he, hon⟩
    rw [if_neg hoff, if_neg hoff]

/-- A key that is not held as private is written as its public part. -/
theorem toDer_publicPart (h : ¬k.HeldAsPrivate) :
    k.toDer preferred = k.publicPart.toDer preferred := by
  by_cases hc : k.curve = .secp256k1
  · have hpublic : k.publicPart.curve = .secp256k1 := hc
    rw [toDer, toDer, if_pos hc, if_pos hpublic]
    rfl
  · cases hd : k.d with
    | none => rw [publicPart_eq hd]
    | some d =>
      have hprivate : k.d.isSome = true := by rw [hd]; rfl
      have hoff : ¬k.PointOnCurve := fun hpoint => h ⟨hc, hpoint, hprivate⟩
      have hpublic : k.publicPart.curve ≠ .secp256k1 := hc
      rw [toDer, toDer, if_neg hc, if_neg hpublic, accepted_publicPart hoff]

/-- The scalar is checked before the primitives find that they hold a private key. -/
theorem toDer_of_heldAsPrivate {e : Weierstrass.Equation} {d : Int} (h : k.HeldAsPrivate)
    (he : Weierstrass.equation? k.curve = some e) (hd : k.d = some d) :
    k.toDer preferred = .error (if d < 0 then .unrepresentable
      else if d % (e.order : Int) = 0 then .refused .numbers else .formless) := by
  obtain ⟨e', he', hpoint⟩ := h.point
  cases he.symm.trans he'
  rw [toDer, if_neg h.curve, accepted, he]
  dsimp only
  rw [if_pos hpoint, hd]
  dsimp only
  rw [map_curveNamed he]
  split
  · rfl
  · split <;> rfl

/-- With a sound scalar it is the form that is missing. -/
theorem toDer_eq_formless {e : Weierstrass.Equation} {d : Int} (h : k.HeldAsPrivate)
    (he : Weierstrass.equation? k.curve = some e) (hd : k.d = some d) (hpos : 0 < d)
    (hlt : d < e.order) : k.toDer preferred = .error .formless := by
  have hrest : ¬d % (e.order : Int) = 0 := by
    rw [Int.emod_eq_of_lt (by omega) hlt]
    omega
  rw [toDer_of_heldAsPrivate h he hd, if_neg (by omega), if_neg hrest]

theorem onlyPublicWritten_toDer (h : k.HeldAsPrivate) :
    OnlyPublicWritten (k.toDer preferred) (k.publicPart.toDer preferred) := by
  obtain ⟨e, he, -⟩ := h.point
  obtain ⟨d, hd⟩ := Option.isSome_iff_exists.mp h.isPrivate
  have hpublic : k.publicPart.PointOnCurve := h.point
  obtain ⟨bs, hbs, -⟩ := ofDer_toForm hpublic (Or.inl rfl)
  refine ⟨⟨_, toDer_of_heldAsPrivate h he hd, ?_⟩, bs, ?_⟩
  · intro error
    split
    · rintro ⟨⟩
    · split <;> rintro ⟨⟩
  · rw [toDer_eq_registered hpublic rfl h.curve, hbs]

theorem writtenAlike_toDer :
    WrittenAlike k.HeldAsPrivate (k.toDer preferred) (k.publicPart.toDer preferred) :=
  writtenAlike_of toDer_publicPart onlyPublicWritten_toDer

end EcKey

/-! ## All keys -/

namespace Key

variable {k : Key} {preferred : Result DerForm}

/-- The primitives would have to write the key, and hold it as a private one. -/
def HeldAsPrivate (layout : Layout) (k : Key) : Prop :=
  layout = .der ∧ ∃ key : EcKey, k = .ec key ∧ key.HeldAsPrivate

theorem writtenAlike_inLayout (layout : Layout) : WrittenAlike (k.HeldAsPrivate layout)
    (k.inLayout preferred layout) (k.publicPart.inLayout preferred layout) := by
  refine writtenAlike_of (fun h => ?_) ?_
  · cases k with
    | ec key =>
      cases layout with
      | der => exact EcKey.toDer_publicPart fun hkey => h ⟨rfl, key, rfl, hkey⟩
      | _ => rfl
    | okp key => rfl
    | bls key => rfl
    | rsa key => rfl
  · rintro ⟨rfl, key, rfl, hkey⟩
    exact EcKey.onlyPublicWritten_toDer hkey

theorem mismatch?_publicPart (t : KeyType) (k : Key) :
    mismatch? t k.publicPart = mismatch? t k := by
  rw [mismatch?, mismatch?, family_publicPart, curve?_publicPart]

theorem fits_of_mismatch? {t : KeyType} (h : mismatch? t k = none) : Fits t k := by
  by_cases ht : t.family = .symmetric
  · rw [mismatch?, if_pos (layout_eq_absent_iff.mpr ht)] at h
    cases h
  · obtain ⟨hfits, -⟩ | ⟨-, reason, hreason, -⟩ := mismatch?_cases ht k
    · exact hfits
    · rw [h] at hreason
      cases hreason

/-- Public bytes are those of the public part, except where the key is held as private. -/
theorem writtenAlike_toPublicBytes (t : KeyType) :
    WrittenAlike (Fits t k ∧ k.HeldAsPrivate t.layout) (k.toPublicBytes preferred t)
      (k.publicPart.toPublicBytes preferred t) := by
  have hlayout : WrittenAlike (k.HeldAsPrivate t.layout) (k.inLayout preferred t.layout)
      (k.publicPart.inLayout preferred t.layout) := writtenAlike_inLayout t.layout
  refine writtenAlike_of (fun h => ?_) ?_
  · rw [toPublicBytes, toPublicBytes, mismatch?_publicPart]
    cases hmismatch : mismatch? t k with
    | some reason => rfl
    | none => exact hlayout.same.mpr fun hheld => h ⟨fits_of_mismatch? hmismatch, hheld⟩
  · rintro ⟨hfits, hheld⟩
    have ht : t.family ≠ .symmetric := by
      rw [Ne, ← layout_eq_absent_iff, hheld.1]
      decide
    have hpublic : Fits t k.publicPart := by simpa [Fits] using hfits
    rw [toPublicBytes_of_fits ht hfits, toPublicBytes_of_fits ht hpublic]
    exact hlayout.onlyPublic hheld

/-- What is written of a key is what is written of its public part, bytes or failure, in every
layout and under every key type and whatever the numbers of the key are, with one exception: the DER
of a private key on an elliptic curve other than secp256k1. There is none, although there is one of
the public part, and the failure is no conversion error; for a scalar between zero and the order it
is that of a form which the key does not have. -/
theorem public_part_written (preferred : Result DerForm) :
    (∀ key : EcKey, WrittenAlike key.HeldAsPrivate (key.toDer preferred)
      (key.publicPart.toDer preferred)) ∧
    (∀ (k : Key) (layout : Layout), WrittenAlike (k.HeldAsPrivate layout)
      (k.inLayout preferred layout) (k.publicPart.inLayout preferred layout)) ∧
    (∀ (k : Key) (t : KeyType), WrittenAlike (Fits t k ∧ k.HeldAsPrivate t.layout)
      (k.toPublicBytes preferred t) (k.publicPart.toPublicBytes preferred t)) ∧
    ∀ (key : EcKey) (e : Weierstrass.Equation) (d : Int), key.HeldAsPrivate →
      Weierstrass.equation? key.curve = some e → key.d = some d → 0 < d → d < e.order →
      key.toDer preferred = .error .formless := by
  refine ⟨fun key => EcKey.writtenAlike_toDer, fun k layout => writtenAlike_inLayout layout,
    fun k t => writtenAlike_toPublicBytes t, ?_⟩
  intro key e d hheld he hd hpos hlt
  exact EcKey.toDer_eq_formless hheld he hd hpos hlt

/-- The base points of secp256k1 and of P-256 with the scalar 1: the former is written in DER as its
public part is, the latter has no DER. -/
theorem base_points_with_scalar :
    let k : EcKey := ⟨.secp256k1, Weierstrass.secp256k1.gx, Weierstrass.secp256k1.gy, some 1, none⟩
    let k' : EcKey := ⟨.p256, Weierstrass.p256.gx, Weierstrass.p256.gy, some 1, none⟩
    k.toDer (.ok .legacy) = k.publicPart.toDer (.ok .legacy) ∧
      k'.toDer (.ok .legacy) = .error .formless := by
  intro k k'
  obtain ⟨hder, -, -, hformless⟩ := public_part_written (.ok .legacy)
  have hheld : k'.HeldAsPrivate := ⟨by decide, ⟨_, rfl, by decide +kernel⟩, rfl⟩
  exact ⟨(hder k).same.mpr fun h => h.curve rfl,
    hformless k' _ 1 hheld rfl rfl (by decide) (by decide)⟩

/-- Under its key type the base point of P-256 is written without the scalar 1, and not with it. -/
theorem p256_private_key_not_written :
    let k : Key := .ec ⟨.p256, Weierstrass.p256.gx, Weierstrass.p256.gy, some 1, none⟩
    k.toPublicBytes (.ok .legacy) .p256Der = .error .formless ∧
      k.toPublicBytes (.ok .legacy) .p256Der ≠
        k.publicPart.toPublicBytes (.ok .legacy) .p256Der := by
  intro k
  have hheld : EcKey.HeldAsPrivate
      ⟨.p256, Weierstrass.p256.gx, Weierstrass.p256.gy, some 1, none⟩ :=
    ⟨by decide, ⟨_, rfl, by decide +kernel⟩, rfl⟩
  have hfits : Fits .p256Der k := ⟨rfl, rfl⟩
  refine ⟨?_, ((writtenAlike_toPublicBytes .p256Der).onlyPublic ⟨hfits, rfl, _, rfl, hheld⟩).ne⟩
  rw [toPublicBytes_of_fits (by decide) hfits]
  exact EcKey.toDer_eq_formless hheld rfl rfl (by decide) (by decide)

end Key

end WebKeys
