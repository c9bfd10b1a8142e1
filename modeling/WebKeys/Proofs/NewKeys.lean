import WebKeys.Store
import WebKeys.Proofs.PrivatePart
import WebKeys.Proofs.Conversion

/-!
# New key pairs fit their types

A key pair that is drawn for a key type is private, of the family and on the curve of the type, and
remembers no form (`Entropy.New`). So all that decides whether its public part can be exported is
whether it is sound, and for a secp256k1 key in DER whether there is a preferred form.

* `new_of_key`: what is drawn is new; for a symmetric type nothing is drawn.
* `sound_of_key`: raw keys and RSA keys are sound as well, the latter by the size of their primes.
* `exists_publicBytes`: a sound key of the type is exported as bytes that are read as its public
  part.
-/

namespace WebKeys

open Outcome

attribute [local instance (2000)] instPowNat

theorem Arithmetic.accept_of_primeFrom? {accept : Nat → Bool} {fuel n p : Nat}
    (h : primeFrom? accept fuel n = some p) : accept p = true := by
  induction fuel generalizing n with
  | zero => cases h
  | succ fuel ih =>
    unfold primeFrom? at h
    split at h
    · next hn =>
      cases h
      exact (Bool.and_eq_true_iff.mp hn).2
    · exact ih h

namespace Entropy

open Key

/-! ## RSA keys -/

theorem bitLength_of_prime? {bits p : Nat} {accept : Nat → Bool} {e : Entropy}
    (h : (e.prime? bits accept).1 = some p) : bitLength p = bits := by
  have haccept := Arithmetic.accept_of_primeFrom? h
  exact beq_iff_eq.mp (Bool.and_eq_true_iff.mp haccept).1

theorem bitLength_mul_le (m n : Nat) : bitLength (m * n) ≤ bitLength m + bitLength n := by
  unfold bitLength
  by_cases hm : m = 0
  · simp [hm]
  · by_cases hn : n = 0
    · simp [hn]
    · rw [if_neg (Nat.mul_ne_zero hm hn), if_neg hm, if_neg hn]
      have hlt : m * n < 2 ^ (Nat.log2 m + 1 + (Nat.log2 n + 1)) := by
        rw [Nat.pow_add]
        exact Nat.mul_lt_mul_of_lt_of_lt Nat.lt_log2_self Nat.lt_log2_self
      exact Nat.succ_le_of_lt ((Nat.log2_lt (Nat.mul_ne_zero hm hn)).mpr hlt)

theorem two_pow_le_of_bitLength {n bits : Nat} (h : bitLength n = bits + 1) : 2 ^ bits ≤ n := by
  unfold bitLength at h
  split at h
  · cases h
  · next hn =>
    cases h
    exact Nat.log2_self_le hn


/-- The primes of a new RSA key share the bits that were asked for. -/
theorem primes_of_rsaKey {bits : Int} {e : Entropy} {k : RsaKey} (h : (e.rsaKey bits).1 = .ok k) :
    1024 ≤ bits.toNat ∧ bits.toNat < 2 ^ 32 ∧ k.d.isSome = true ∧ k.e = 65537 ∧
      ∃ p q : Nat, k.n = (p * q : Nat) ∧ bitLength p = (bits.toNat + 1) / 2 ∧
        bitLength q = bits.toNat / 2 := by
  unfold rsaKey at h
  split at h
  · cases h
  · next hfewest =>
    split at h
    · cases h
    · next hbound =>
      dsimp only at h
      split at h
      · next hpair =>
        cases h
        obtain ⟨p, hp, hpair⟩ := Option.bind_eq_some_iff.mp hpair
        obtain ⟨q, hq, hpair⟩ := Option.bind_eq_some_iff.mp hpair
        obtain ⟨d, -, hpair⟩ := Option.bind_eq_some_iff.mp hpair
        obtain ⟨qi, -, hpair⟩ := Option.bind_eq_some_iff.mp hpair
        cases hpair
        have hlow : (1024 : Int) ≤ bits := Int.not_lt.mp hfewest
        have hhigh : bits < (0x100000000 : Int) := Int.not_le.mp hbound
        exact ⟨by omega, by omega, rfl, rfl, p, q, rfl, bitLength_of_prime? hp,
          bitLength_of_prime? hq⟩
      · cases h

/-- A new RSA key is sound. -/
theorem sound_of_rsaKey {bits : Int} {e : Entropy} {k : RsaKey} (h : (e.rsaKey bits).1 = .ok k) :
    (Key.rsa k).Sound := by
  obtain ⟨hlow, hhigh, -, he, p, q, hn, hp, hq⟩ := primes_of_rsaKey h
  have hlarge {r : Nat} (hr : 512 ≤ bitLength r) : 2 ^ 17 ≤ r := by
    obtain ⟨b, hb⟩ := Nat.exists_eq_add_of_le hr
    refine Nat.le_trans ?_ (@two_pow_le_of_bitLength r (511 + b) (by omega))
    exact Nat.pow_le_pow_right (by decide) (by omega)
  have hproduct : 2 ^ 17 * 2 ^ 17 ≤ p * q :=
    Nat.mul_le_mul (hlarge (by omega)) (hlarge (by omega))
  have hwidth : Bytes.width (p * q) < 2 ^ 30 := by
    have hbits := bitLength_mul_le p q
    unfold Bytes.width
    omega
  show 3 ≤ k.n ∧ 3 ≤ k.e ∧ k.e < k.n ∧ k.e % 2 = 1 ∧ Bytes.width k.n.toNat < 2 ^ 30
  rw [hn, he, Int.toNat_natCast]
  exact ⟨by omega, by decide, by omega, by decide, hwidth⟩

/-! ## All families -/

theorem sound_of_okpKey {c : Curve} {e : Entropy} {k : OkpKey} (h : (e.okpKey c).1 = .ok k) :
    (Key.okp k).Sound := by
  unfold okpKey at h
  dsimp only at h
  unfold OkpKey.ofSeed at h
  split at h
  · cases h
    show (OkpKey.publicOf c _).length = 32
    unfold OkpKey.publicOf
    split
    · exact (List.length_reverse ..).trans (Bytes.length_ofNat _ _)
    · exact (List.length_reverse ..).trans (Bytes.length_ofNat _ _)
  · cases h

/-- There are always enough bytes for a raw key. -/
theorem exists_okpKey (c : Curve) (e : Entropy) : ∃ k, (e.okpKey c).1 = .ok k := by
  have hblock (position : Nat) : (e.block position).length = 64 := by
    simp [block, Sha512.digest, Sha512.State.bytes]
  have hlen : (e.bytes 32).1.length = 32 := by
    simp [bytes, blockSize, hblock]
  unfold okpKey
  dsimp only
  rw [OkpKey.ofSeed, if_pos hlen]
  exact ⟨_, rfl⟩

/-- What a key pair is that was made for a key type. -/
structure New (t : KeyType) (k : Key) : Prop where
  fits : Fits t k
  isPrivate : k.isPrivate = true
  formless : k.withoutForm = k

theorem New.family_ne {t : KeyType} {k : Key} (h : New t k) : t.family ≠ .symmetric := by
  rw [← h.fits.1]
  cases k <;> simp [Key.family]

theorem new_of_ecKey {c : Curve} {e : Entropy} {k : EcKey} {t : KeyType} (ht : t.family = .ec)
    (hc : t.curve? = some c) (h : (e.ecKey c).1 = .ok k) : New t (.ec k) := by
  unfold ecKey at h
  split at h
  · cases h
  · obtain ⟨rfl, hd, hform, -⟩ := EcKey.ofScalar_eq_ok h
    refine ⟨⟨ht.symm, hc.symm⟩, ?_, ?_⟩
    · show k.d.isSome = true
      rw [hd]
      rfl
    · show Key.ec { k with form := none } = .ec k
      rw [← hform]

theorem new_of_okpKey {c : Curve} {e : Entropy} {k : OkpKey} {t : KeyType} (ht : t.family = .okp)
    (hc : t.curve? = some c) (h : (e.okpKey c).1 = .ok k) : New t (.okp k) := by
  have hfamily : c.family = .okp := (curve_family hc).trans ht
  unfold okpKey at h
  dsimp only at h
  obtain ⟨rfl, hd⟩ := OkpKey.ofSeed_eq_ok hfamily h
  refine ⟨⟨ht.symm, hc.symm⟩, ?_, rfl⟩
  show k.d.isSome = true
  rw [hd]
  rfl

theorem new_of_blsKey {e : Entropy} {k : BlsKey} {t : KeyType} (ht : t.family = .bls)
    (h : e.blsKey.1 = .ok k) : New t (.bls k) := by
  have hc := (family_of_compressedG2 (layout_of_bls ht)).2
  unfold blsKey at h
  dsimp only at h
  obtain ⟨hd, -⟩ := BlsKey.ofScalar_eq_ok h
  refine ⟨⟨ht.symm, hc.symm⟩, ?_, rfl⟩
  show k.d.isSome = true
  rw [hd]
  rfl

theorem curve?_of_rsaType {t : KeyType} (h : t.family = .rsa) : t.curve? = none := by
  cases t <;> simp_all [KeyType.family, KeyType.curve?]

theorem new_of_rsaKey {bits : Int} {e : Entropy} {k : RsaKey} {t : KeyType} (ht : t.family = .rsa)
    (h : (e.rsaKey bits).1 = .ok k) : New t (.rsa k) :=
  ⟨⟨ht.symm, (curve?_of_rsaType ht).symm⟩, (primes_of_rsaKey h).2.2.1, rfl⟩

/-- A key pair that is drawn is one for the type. -/
theorem new_of_key {bits : Int} {t : KeyType} {e : Entropy} {k : Key}
    (h : (e.key bits t).1 = .ok k) : New t k := by
  unfold key at h
  split at h <;> dsimp only at h
  · next c ht hc =>
    obtain ⟨k, hk, rfl⟩ := map_eq_ok.mp h
    exact new_of_ecKey ht hc hk
  · next c ht hc =>
    obtain ⟨k, hk, rfl⟩ := map_eq_ok.mp h
    exact new_of_okpKey ht hc hk
  · next ht =>
    obtain ⟨k, hk, rfl⟩ := map_eq_ok.mp h
    exact new_of_blsKey ht hk
  · next ht =>
    obtain ⟨k, hk, rfl⟩ := map_eq_ok.mp h
    exact new_of_rsaKey ht hk
  · cases h

/-- Raw keys and RSA keys are sound as they are drawn. For a key on a curve that takes that the
multiple of the base point is a point. -/
theorem sound_of_key {bits : Int} {t : KeyType} {e : Entropy} {k : Key}
    (h : (e.key bits t).1 = .ok k) (hpoint : t.family = .ec ∨ t.family = .bls → k.Sound) :
    k.Sound := by
  unfold key at h
  split at h <;> dsimp only at h
  · next ht _ => exact hpoint (Or.inl ht)
  · obtain ⟨k, hk, rfl⟩ := map_eq_ok.mp h
    exact sound_of_okpKey hk
  · next ht => exact hpoint (Or.inr ht)
  · obtain ⟨k, hk, rfl⟩ := map_eq_ok.mp h
    exact sound_of_rsaKey hk
  · cases h

/-- A key pair of a raw type is always drawn. -/
theorem exists_key_of_okp {t : KeyType} (ht : t.family = .okp) (bits : Int) (e : Entropy) :
    ∃ k, (e.key bits t).1 = .ok k := by
  obtain ⟨c, hc⟩ := (family_of_raw (layout_of_okp ht)).2
  obtain ⟨k, hk⟩ := exists_okpKey c e
  unfold key
  rw [ht, hc]
  dsimp only
  rw [hk]
  exact ⟨_, rfl⟩

theorem key_of_symmetric {t : KeyType} (ht : t.family = .symmetric) (bits : Int) (e : Entropy) :
    (e.key bits t).1 = .error (.store (.nothingToExport t)) := by
  unfold key
  rw [ht]

end Entropy

/-! ## Exporting -/

/-- The forms that settings can prefer. -/
def DerForm.Known (form : DerForm) : Prop := form = .legacy ∨ form = .registered

/-- The bytes are read under the type as the public part of the key. -/
def Key.ReadAs (t : KeyType) (bs : Bytes) (k : Key) : Prop :=
  ∃ k', (Conversion.decodeKey (some bs) t.tag).result = .ok k' ∧ k'.same k.publicPart = true

namespace LocalStore

open Key

theorem exists_publicBytes {t : KeyType} {k : Key} {form : DerForm} (ht : t.family ≠ .symmetric)
    (hfits : Fits t k) (hsound : k.Sound) (hform : form.Known) :
    ∃ bs, publicBytes (.ok form) t k = .ok bs ∧ ReadAs t bs k := by
  obtain ⟨bs, k', hbs, hread, hsame⟩ := ofPublicBytes_toPublicBytes ht hfits hsound hform
  refine ⟨bs, hbs, k', ?_, hsame⟩
  rw [Conversion.result_decodeKey ht]
  exact Conversion.inOperation_eq_ok.mpr hread

/-- Without a preferred form, a new secp256k1 key is not exported in DER. -/
theorem publicBytes_of_error {k : Key} (h : Entropy.New .secp256k1Der k) (f : Failure) :
    publicBytes (.error f) .secp256k1Der k = .error f := by
  obtain ⟨hfits, -, hformless⟩ := h
  have hpublic : Fits .secp256k1Der k.publicPart := by simpa [Fits] using hfits
  rw [publicBytes, toPublicBytes_of_fits (by decide) hpublic]
  obtain ⟨hfamily, hcurve⟩ := hfits
  cases k with
  | ec k =>
    have hc : k.curve = .secp256k1 := Option.some.inj hcurve
    have hform : k.form = none := by
      have hec : ({ k with form := none } : EcKey) = k := Key.ec.inj hformless
      rw [← hec]
    show k.publicPart.toDer (.error f) = _
    have hpublicCurve : k.publicPart.curve = .secp256k1 := hc
    have hremembered : k.publicPart.remembered? = none := by
      show k.form.filter _ = none
      rw [hform]
      rfl
    rw [EcKey.toDer, if_pos hpublicCurve, EcKey.marshal, hremembered]
    rfl
  | _ => cases hfamily

end LocalStore

end WebKeys
