import WebKeys.Proofs.Publication

/-!
# Private parts belong to their public parts

The private part in a document is never taken over as it stands. On a curve it derives a key pair,
and the pair is kept if its public part is the one in the document; the numbers of an RSA key are
checked against each other. So reading a document on a curve falls into two steps, the document
without its private members and the key pair over it (`keyOf_eq_bind`), and an accepted RSA key
keeps its public numbers whatever else there is (`RsaKey.isPair_of_accepted`).

* `Key.PairOf bs`: the key is the pair of the private part that the bytes spell.
* `private_part_belongs`: a document with a private part is read as the pair of that part, over the
  public part that it is read as without its private members. Where the two do not fit, there is an
  error of encoding.
-/

namespace WebKeys

open Outcome

/-! ## Key pairs -/

/-- The key has all the numbers of a pair with this private exponent, and they belong together. -/
def RsaKey.IsPair (d : Int) (k : RsaKey) : Prop :=
  ∃ p q dp dq qi, k = ⟨k.n, k.e, some d, some p, some q, some dp, some dq, some qi⟩ ∧
    1 < p ∧ 1 < q ∧ p * q = k.n ∧ d * k.e % (p - 1) = 1 ∧ d * k.e % (q - 1) = 1 ∧
    dp = d % (p - 1) ∧ dq = d % (q - 1) ∧ q * qi % p = 1

/-- The key is the pair of the private part that the bytes spell, which is a scalar, a seed, or the
private exponent of an RSA key. -/
def Key.PairOf (bs : Bytes) : Key → Prop
  | .ec k => k.d = some (Bytes.toNat bs : Int) ∧ k.form = none ∧
      ∃ e, Weierstrass.equation? k.curve = some e ∧ Bytes.toNat bs < e.order ∧
        ∃ x y : Nat, e.publicPoint? (Bytes.toNat bs) = some (x, y) ∧ k.x = x ∧ k.y = y
  | .okp k => k.d = some bs ∧ k.curve.family = .okp ∧ bs.length = 32 ∧
      k.x = OkpKey.publicOf k.curve bs
  | .bls k => k.d = some (Bytes.toNat bs : Int) ∧ 0 < Bytes.toNat bs ∧
      Bytes.toNat bs < Bls12381.order ∧ Bls12381.publicBytes? (Bytes.toNat bs) = some k.x
  | .rsa k => k.IsPair (Bytes.toNat bs : Int)

namespace RsaKey

theorem one_lt_of_isOddPrime {p : Int} (h : isOddPrime p = true) : 1 < p := by
  simp only [isOddPrime, Bool.and_eq_true] at h
  obtain ⟨-, hprime⟩ := h
  unfold Arithmetic.isPrime at hprime
  by_cases hsmall : p.toNat < 2
  · rw [if_pos hsmall] at hprime
    cases hprime
  · omega

theorem Complete.isPair_toKey {whole : Complete} (h : whole.consistent = true) :
    whole.toKey.IsPair whole.d := by
  simp only [consistent, Bool.and_eq_true, beq_iff_eq, decide_eq_true_eq] at h
  obtain ⟨⟨⟨⟨⟨⟨⟨⟨⟨⟨-, hn⟩, -⟩, hp⟩, hq⟩, hdep⟩, hdeq⟩, hdp⟩, hdq⟩, -⟩, hqi⟩ := h
  refine ⟨whole.p, whole.q, whole.dp, whole.dq, whole.qi, rfl, one_lt_of_isOddPrime hp,
    one_lt_of_isOddPrime hq, hn, hdep, hdeq, hdp, hdq, ?_⟩
  rw [Int.mul_comm]
  exact hqi

theorem eq_of_orCompute {given : Option Int} {computed : Result Int} {n n' : Int}
    (h : orCompute given computed = .ok n) (hn : given = some n') : n = n' := by
  subst hn
  cases h
  rfl

theorem complete_eq_ok {k : RsaKey} {d : Int} {whole : Complete} (h : k.complete d = .ok whole) :
    whole.n = k.n ∧ whole.e = k.e ∧ whole.d = d := by
  unfold complete at h
  split at h
  · obtain ⟨dp, -, h⟩ := bind_eq_ok.mp h
    obtain ⟨dq, -, h⟩ := bind_eq_ok.mp h
    obtain ⟨qi, -, h⟩ := bind_eq_ok.mp h
    cases h
    exact ⟨rfl, rfl, rfl⟩
  · cases h

/-- A private key is accepted as a pair with its exponent over its public numbers. -/
theorem isPair_of_accepted {k k' : RsaKey} {d : Int} (hd : k.d = some d)
    (h : k.accepted = .ok k') : k'.IsPair d ∧ k'.publicPart = k.publicPart := by
  unfold accepted at h
  rw [hd] at h
  obtain ⟨whole, hwhole, hchecks⟩ := bind_eq_ok.mp h
  obtain ⟨hn, he, rfl⟩ := complete_eq_ok hwhole
  split at hchecks
  · cases hchecks
  · split at hchecks
    · next hconsistent =>
      cases hchecks
      refine ⟨Complete.isPair_toKey hconsistent, ?_⟩
      rw [publicPart, publicPart, ← hn, ← he]
      rfl
    · cases hchecks

end RsaKey

/-! ## Deriving a pair on a curve -/

/-- A scalar makes the pair of its public point, if it is below the order of the curve. -/
theorem EcKey.ofScalar_eq_ok_iff {c : Curve} {d : Nat} {k : EcKey} :
    ofScalar c d = .ok k ↔ k.curve = c ∧ k.d = some (d : Int) ∧ k.form = none ∧
      ∃ e, Weierstrass.equation? c = some e ∧ d < e.order ∧
        ∃ x y : Nat, e.publicPoint? d = some (x, y) ∧ k.x = x ∧ k.y = y := by
  constructor
  · intro h
    unfold ofScalar at h
    split at h
    · cases h
    · next e he =>
      split at h
      · next hlt =>
        split at h
        · next x y hpoint =>
          rw [map_curveNamed he] at h
          cases h
          exact ⟨rfl, rfl, rfl, e, he, hlt, x, y, hpoint, rfl, rfl⟩
        · cases h
      · cases h
  · rintro ⟨hc, hd, hform, e, he, hlt, x, y, hpoint, hx, hy⟩
    cases k
    subst hc hd hform hx hy
    simp [ofScalar, he, hlt, hpoint, map_curveNamed he]

/-- A seed of 32 bytes makes the pair of its public bytes. -/
theorem OkpKey.ofSeed_eq_ok_iff {c : Curve} {seed : Bytes} {k : OkpKey} (hc : c.family = .okp) :
    ofSeed c seed = .ok k ↔
      k.curve = c ∧ k.d = some seed ∧ seed.length = 32 ∧ k.x = publicOf c seed := by
  unfold ofSeed
  rw [primitiveCurve_eq hc]
  constructor
  · intro h
    split at h
    · next hlen =>
      cases h
      exact ⟨rfl, rfl, hlen, rfl⟩
    · cases h
  · rintro ⟨hcurve, hd, hlen, hx⟩
    obtain ⟨curve, x, d⟩ := k
    dsimp only at hcurve hd hx
    subst hcurve hd
    rw [if_pos hlen, hx]

/-- A nonzero scalar below the order makes the pair of its public bytes. -/
theorem BlsKey.ofScalar_eq_ok_iff {d : Nat} {k : BlsKey} :
    ofScalar d = .ok k ↔ k.d = some (d : Int) ∧ 0 < d ∧ d < Bls12381.order ∧
      Bls12381.publicBytes? d = some k.x := by
  unfold ofScalar
  rw [Int.toNat_natCast]
  constructor
  · intro h
    split at h
    · next hrange =>
      split at h
      · next x hx =>
        cases h
        exact ⟨rfl, by omega, by omega, hx⟩
      · cases h
    · cases h
  · rintro ⟨hd, hpos, hlt, hx⟩
    cases k
    subst hd
    rw [if_pos ⟨by omega, by omega⟩, hx]

theorem Curve.eq_bls12381G2 {c : Curve} (h : c.family = .bls) : c = .bls12381G2 := by
  cases c <;> first | rfl | cases h

namespace WebKey

/-- The key pair that a private part derives on a curve. -/
def derivedPair (c : Curve) (bs : Bytes) : Result Key :=
  match c.family with
  | .bls => (BlsKey.ofScalar (Bytes.toNat bs)).map .bls
  | .okp => (OkpKey.ofSeed c bs).map .okp
  | _ => (EcKey.ofScalar c (Bytes.toNat bs)).map .ec

/-- The pair derived from private bytes is the one key that belongs to them. -/
theorem derivedPair_eq_ok_iff {c : Curve} {bs : Bytes} {k : Key} :
    derivedPair c bs = .ok k ↔ k.PairOf bs ∧ k.curve? = some c := by
  unfold derivedPair
  constructor
  · intro h
    split at h
    · next hc =>
      obtain ⟨k, hk, rfl⟩ := map_eq_ok.mp h
      exact ⟨BlsKey.ofScalar_eq_ok_iff.mp hk, congrArg some (Curve.eq_bls12381G2 hc).symm⟩
    · next hc =>
      obtain ⟨k, hk, rfl⟩ := map_eq_ok.mp h
      obtain ⟨rfl, hd, hlen, hx⟩ := (OkpKey.ofSeed_eq_ok_iff hc).mp hk
      exact ⟨⟨hd, hc, hlen, hx⟩, rfl⟩
    · obtain ⟨k, hk, rfl⟩ := map_eq_ok.mp h
      obtain ⟨rfl, hpair⟩ := EcKey.ofScalar_eq_ok_iff.mp hk
      exact ⟨hpair, rfl⟩
  · rintro ⟨hpair, hcurve⟩
    cases k with
    | ec k =>
      cases hcurve
      obtain ⟨-, -, e, he, -⟩ := id hpair
      rw [EcKey.family_of_equation? he]
      exact map_eq_ok.mpr ⟨k, EcKey.ofScalar_eq_ok_iff.mpr ⟨rfl, hpair⟩, rfl⟩
    | okp k =>
      cases hcurve
      obtain ⟨hd, hc, hlen, hx⟩ := hpair
      rw [hc]
      exact map_eq_ok.mpr ⟨k, (OkpKey.ofSeed_eq_ok_iff hc).mpr ⟨rfl, hd, hlen, hx⟩, rfl⟩
    | bls k =>
      cases hcurve
      exact map_eq_ok.mpr ⟨k, BlsKey.ofScalar_eq_ok_iff.mpr hpair, rfl⟩
    | rsa k => cases hcurve

/-! ## Two steps -/

end WebKey

/-- The document without the members that hold a private part. -/
def Document.withoutPrivate (doc : Document) : Document :=
  { doc with d := none, p := none, q := none, dp := none, dq := none, qi := none }

namespace WebKey

/-- Puts the pair of a private part, if there is one, over the public key that it is the pair of. -/
def withPair (c : Curve) (d : Option String) (k : Key) : Result Key :=
  match d with
  | none => .ok k
  | some text => do
    let pair ← derivedPair c (← decodeMember "d" text)
    if pair.publicPart = k then return pair else throw (parseFailure .privateMismatch)

theorem ecPair_eq {k : EcKey} (hc : k.curve.family = .ec) (hbare : k.bare = k)
    (d : Option String) :
    (do
      match ← optionalNumber "d" d with
      | none => return Key.ec k
      | some d =>
        let pair ← EcKey.ofScalar k.curve d.toNat
        if (pair.x, pair.y) = (k.x, k.y) then return .ec pair
        else throw (parseFailure .privateMismatch)) = withPair k.curve d (.ec k) := by
  cases d with
  | none => rfl
  | some text =>
    cases hbs : decodeMember "d" text with
    | error f => simp [optionalNumber, withPair, hbs]
    | ok bs =>
      cases hpair : EcKey.ofScalar k.curve (Bytes.toNat bs) with
      | error f => simp [optionalNumber, withPair, hbs, derivedPair, hc, hpair, Except.map]
      | ok pair =>
        obtain ⟨hcurve, -, hform, -⟩ := EcKey.ofScalar_eq_ok hpair
        have hsame : (Key.ec pair).publicPart = .ec k ↔ (pair.x, pair.y) = (k.x, k.y) := by
          rw [← hbare]
          simp [Key.publicPart, EcKey.publicPart, EcKey.bare, hcurve, hform]
        simp [optionalNumber, withPair, hbs, derivedPair, hc, hpair, Except.map, hsame]

theorem okpPair_eq {k : OkpKey} (hc : k.curve.family = .okp) (hd : k.d = none)
    (d : Option String) :
    (match d with
      | none => Except.ok (Key.okp k)
      | some text => do
        let pair ← OkpKey.ofSeed k.curve (← decodeMember "d" text)
        if pair.x = k.x then return .okp pair else throw (parseFailure .privateMismatch)) =
      withPair k.curve d (.okp k) := by
  cases d with
  | none => rfl
  | some text =>
    cases hbs : decodeMember "d" text with
    | error f => simp [withPair, hbs]
    | ok bs =>
      cases hpair : OkpKey.ofSeed k.curve bs with
      | error f => simp [withPair, hbs, derivedPair, hc, hpair, Except.map]
      | ok pair =>
        obtain ⟨hcurve, -⟩ := OkpKey.ofSeed_eq_ok hc hpair
        have hsame : (Key.okp pair).publicPart = .okp k ↔ pair.x = k.x := by
          rw [← OkpKey.publicPart_eq hd]
          simp [Key.publicPart, OkpKey.publicPart, hcurve]
        simp [withPair, hbs, derivedPair, hc, hpair, Except.map, hsame]

theorem blsPair_eq {k : BlsKey} (hd : k.d = none) (d : Option String) :
    (do
      match ← optionalNumber "d" d with
      | none => return Key.bls k
      | some d =>
        let pair ← BlsKey.ofScalar d
        if pair.x = k.x then return .bls pair else throw (parseFailure .privateMismatch)) =
      withPair .bls12381G2 d (.bls k) := by
  have hc : Curve.bls12381G2.family = .bls := rfl
  cases d with
  | none => rfl
  | some text =>
    cases hbs : decodeMember "d" text with
    | error f => simp [optionalNumber, withPair, hbs]
    | ok bs =>
      cases hpair : BlsKey.ofScalar (Bytes.toNat bs : Int) with
      | error f => simp [optionalNumber, withPair, hbs, derivedPair, hc, hpair, Except.map]
      | ok pair =>
        have hsame : (Key.bls pair).publicPart = .bls k ↔ pair.x = k.x := by
          rw [← BlsKey.publicPart_eq hd]
          simp [Key.publicPart, BlsKey.publicPart]
        simp [optionalNumber, withPair, hbs, derivedPair, hc, hpair, Except.map, hsame]

theorem ecKey_eq_bind {c : Curve} (hc : c.family = .ec) (doc : Document) :
    ecKey c doc = ecKey c doc.withoutPrivate >>= withPair c doc.d := by
  unfold ecKey Document.withoutPrivate
  dsimp only
  cases required "x" doc.x with
  | error f => rfl
  | ok x =>
    cases required "y" doc.y with
    | error f => rfl
    | ok y =>
      rw [ok_bind, ok_bind, ok_bind, ok_bind]
      by_cases hwidth : c.size < x.length ∨ c.size < y.length
      · rw [if_pos hwidth, if_pos hwidth]
        rfl
      · rw [if_neg hwidth, if_neg hwidth]
        cases hk : EcKey.ofPoint c (4 :: (Bytes.padLeft c.size x ++ Bytes.padLeft c.size y)) with
        | error f => rfl
        | ok k =>
          obtain ⟨rfl, hbare, -⟩ := EcKey.toPoint_of_ofPoint hk
          exact ecPair_eq hc hbare doc.d

theorem okpKey_eq_bind {c : Curve} (hc : c.family = .okp) (doc : Document) :
    okpKey c doc = okpKey c doc.withoutPrivate >>= withPair c doc.d := by
  unfold okpKey Document.withoutPrivate
  dsimp only
  cases required "x" doc.x with
  | error f => rfl
  | ok x =>
    cases hk : OkpKey.ofRaw c (some x) with
    | error f =>
      rw [ok_bind, ok_bind, hk]
      rfl
    | ok k =>
      cases OkpKey.ofRaw_eq_ok hk
      rw [ok_bind, ok_bind, hk]
      exact okpPair_eq (k := { curve := c, x := x }) hc rfl doc.d

theorem blsKey_eq_bind (doc : Document) :
    blsKey doc = blsKey doc.withoutPrivate >>= withPair .bls12381G2 doc.d := by
  unfold blsKey Document.withoutPrivate
  dsimp only
  cases required "x" doc.x with
  | error f => rfl
  | ok x =>
    cases hk : BlsKey.ofCompressed (some x) with
    | error f =>
      rw [ok_bind, ok_bind, hk]
      rfl
    | ok k =>
      cases Key.ofCompressed_eq_ok hk
      rw [ok_bind, ok_bind, hk]
      exact blsPair_eq (k := { x := x }) rfl doc.d

theorem reportRefusal_bind {α β : Type} (report : Refusal → Reason) (r : Result α)
    (f : α → Result β) : reportRefusal report (r >>= f) =
      reportRefusal report r >>= fun a => reportRefusal report (f a) := by
  cases r with
  | ok a => rfl
  | error e => cases e <;> rfl

/-- Reading a document on a curve is reading it without its private members, and then putting the
pair of the private part over the public key. -/
theorem keyOf_eq_bind {doc : Document} {c : Curve} (hgroup : doc.kty ≠ "RSA")
    (hc : doc.crv.bind Curve.ofName? = some c) : keyOf doc =
      keyOf doc.withoutPrivate >>= fun k =>
        reportRefusal .privateRefused (withPair c doc.d k) := by
  have hparts : (match c.family with
      | .bls => blsKey doc
      | .okp => okpKey c doc
      | _ => ecKey c doc) = (match c.family with
      | .bls => blsKey doc.withoutPrivate
      | .okp => okpKey c doc.withoutPrivate
      | _ => ecKey c doc.withoutPrivate) >>= withPair c doc.d := by
    cases c with
    | bls12381G2 => exact blsKey_eq_bind doc
    | ed25519 => exact okpKey_eq_bind rfl doc
    | x25519 => exact okpKey_eq_bind rfl doc
    | _ => exact ecKey_eq_bind rfl doc
  have hkty : doc.withoutPrivate.kty = doc.kty := rfl
  have hcrv : doc.withoutPrivate.crv = doc.crv := rfl
  unfold keyOf
  rw [if_neg hgroup, hkty, if_neg hgroup]
  by_cases hknown : doc.kty = "EC" ∨ doc.kty = "OKP"
  · rw [if_pos hknown, if_pos hknown, curveKey, curveKey, hcrv, hc, hkty]
    dsimp only
    by_cases hfits : c.group ≠ doc.kty
    · rw [if_pos hfits, if_pos hfits]
      rfl
    · rw [if_neg hfits, if_neg hfits, ← reportRefusal_bind]
      exact congrArg (reportRefusal .privateRefused) hparts
  · rw [if_neg hknown, if_neg hknown]
    rfl

/-! ## What a document is read as -/

theorem decodeMember_eq_ok {name text : String} {bs : Bytes} :
    decodeMember name text = .ok bs ↔ Base64.decodeUnpadded .link text.toList = .ok bs := by
  unfold decodeMember
  split <;> simp_all

theorem withPair_eq_ok {c : Curve} {text : String} {k k' : Key}
    (h : withPair c (some text) k = .ok k') :
    ∃ bs, Base64.decodeUnpadded .link text.toList = .ok bs ∧ k'.PairOf bs ∧ k'.publicPart = k := by
  obtain ⟨bs, hbs, h⟩ := bind_eq_ok.mp h
  obtain ⟨pair, hpair, h⟩ := bind_eq_ok.mp h
  split at h
  · next hsame =>
    cases h
    exact ⟨bs, decodeMember_eq_ok.mp hbs, (derivedPair_eq_ok_iff.mp hpair).1, hsame⟩
  · cases h

theorem withPair_of_mismatch {c : Curve} {text : String} {bs : Bytes} {k pair : Key}
    (hbs : Base64.decodeUnpadded .link text.toList = .ok bs) (hpair : pair.PairOf bs)
    (hc : pair.curve? = some c) (hne : pair.publicPart ≠ k) :
    withPair c (some text) k = .error (parseFailure .privateMismatch) := by
  unfold withPair
  dsimp only
  rw [decodeMember_eq_ok.mpr hbs, ok_bind, derivedPair_eq_ok_iff.mpr ⟨hpair, hc⟩, ok_bind,
    if_neg hne]
  rfl

theorem rsaNumbers_eq_ok {doc : Document} {k : RsaKey} (h : rsaNumbers doc = .ok k) :
    rsaNumbers doc.withoutPrivate = .ok k.publicPart ∧ ∀ text, doc.d = some text →
      ∃ bs, Base64.decodeUnpadded .link text.toList = .ok bs ∧
        k.d = some (Bytes.toNat bs : Int) := by
  obtain ⟨n, hn, h⟩ := bind_eq_ok.mp h
  obtain ⟨e, he, h⟩ := bind_eq_ok.mp h
  obtain ⟨d, hd, h⟩ := bind_eq_ok.mp h
  have hpublic : rsaNumbers doc.withoutPrivate =
      .ok ⟨Bytes.toNat n, Bytes.toNat e, none, none, none, none, none, none⟩ := by
    unfold rsaNumbers Document.withoutPrivate
    dsimp only
    rw [hn, ok_bind, he]
    rfl
  cases d with
  | none =>
    cases h
    refine ⟨hpublic, fun text htext => ?_⟩
    rw [htext] at hd
    obtain ⟨bs, -, hd⟩ := bind_eq_ok.mp hd
    cases hd
  | some d =>
    obtain ⟨p, -, h⟩ := bind_eq_ok.mp h
    obtain ⟨q, -, h⟩ := bind_eq_ok.mp h
    obtain ⟨dp, -, h⟩ := bind_eq_ok.mp h
    obtain ⟨dq, -, h⟩ := bind_eq_ok.mp h
    obtain ⟨qi, -, h⟩ := bind_eq_ok.mp h
    cases h
    refine ⟨hpublic, fun text htext => ?_⟩
    rw [htext] at hd
    obtain ⟨bs, hbs, hd⟩ := bind_eq_ok.mp hd
    cases hd
    exact ⟨bs, decodeMember_eq_ok.mp hbs, rfl⟩

/-- A document with a private part is read as the pair of that part, over the public key that it is
read as without its private members. -/
theorem pairOf_of_keyOf {doc : Document} {k : Key} {text : String} (hd : doc.d = some text)
    (h : keyOf doc = .ok k) : ∃ bs, Base64.decodeUnpadded .link text.toList = .ok bs ∧
      k.PairOf bs ∧ keyOf doc.withoutPrivate = .ok k.publicPart := by
  by_cases hgroup : doc.kty = "RSA"
  · rw [keyOf, if_pos hgroup] at h
    obtain ⟨numbers, hnumbers, h⟩ := bind_eq_ok.mp h
    obtain ⟨k, hk, h⟩ := bind_eq_ok.mp h
    cases h
    have haccepted := reportRefusal_eq_ok.mp hk
    obtain ⟨hpublic, hprivate⟩ := rsaNumbers_eq_ok hnumbers
    obtain ⟨bs, hbs, hd⟩ := hprivate text hd
    obtain ⟨hpair, hsame⟩ := RsaKey.isPair_of_accepted hd haccepted
    refine ⟨bs, hbs, hpair, ?_⟩
    have hkty : doc.withoutPrivate.kty = doc.kty := rfl
    rw [keyOf, hkty, if_pos hgroup, rsaKey, hpublic, ok_bind, ← hsame,
      RsaKey.publicPart_accepted (RsaKey.accepted_cases haccepted).1]
    rfl
  · obtain ⟨c, hc⟩ : ∃ c, doc.crv.bind Curve.ofName? = some c := by
      rw [keyOf, if_neg hgroup] at h
      split at h
      · unfold curveKey at h
        split at h
        · cases h
        · next c hc => exact ⟨c, hc⟩
      · cases h
    rw [keyOf_eq_bind hgroup hc, hd] at h
    obtain ⟨k₀, hk₀, h⟩ := bind_eq_ok.mp h
    obtain ⟨bs, hbs, hpair, rfl⟩ := withPair_eq_ok (reportRefusal_eq_ok.mp h)
    exact ⟨bs, hbs, hpair, hk₀⟩

/-- A public key that is read on a curve is on the curve that the document names. -/
theorem curve?_of_keyOf {doc : Document} {k : Key} {c : Curve}
    (h : keyOf doc.withoutPrivate = .ok k) (hc : k.curve? = some c) :
    doc.kty ≠ "RSA" ∧ doc.crv.bind Curve.ofName? = some c := by
  unfold keyOf at h
  split at h
  · obtain ⟨numbers, -, h⟩ := bind_eq_ok.mp h
    obtain ⟨k, -, h⟩ := bind_eq_ok.mp h
    cases h
    cases hc
  · next hgroup =>
    refine ⟨hgroup, ?_⟩
    split at h
    · unfold curveKey at h
      split at h
      · cases h
      · next c' hc' =>
        refine Eq.trans hc' ?_
        rw [← hc]
        split at h
        · cases h
        · have hkey := reportRefusal_eq_ok.mp h
          split at hkey
          · next hfamily =>
            obtain ⟨x, -, hkey⟩ := bind_eq_ok.mp hkey
            obtain ⟨k, -, hkey⟩ := bind_eq_ok.mp hkey
            cases hkey
            exact congrArg some (Curve.eq_bls12381G2 hfamily)
          · obtain ⟨x, -, hkey⟩ := bind_eq_ok.mp hkey
            obtain ⟨k, hk, hkey⟩ := bind_eq_ok.mp hkey
            cases OkpKey.ofRaw_eq_ok hk
            cases hkey
            rfl
          · obtain ⟨x, -, hkey⟩ := bind_eq_ok.mp hkey
            obtain ⟨y, -, hkey⟩ := bind_eq_ok.mp hkey
            obtain ⟨-, hkey⟩ := guard_eq_ok.mp hkey
            obtain ⟨k, hk, hkey⟩ := bind_eq_ok.mp hkey
            cases hkey
            obtain ⟨rfl, -⟩ := EcKey.toPoint_of_ofPoint hk
            rfl
    · cases h

/-- A private part whose pair has another public part is refused. -/
theorem keyOf_of_mismatch {doc : Document} {k pair : Key} {c : Curve} {text : String} {bs : Bytes}
    (hd : doc.d = some text) (hbs : Base64.decodeUnpadded .link text.toList = .ok bs)
    (h : keyOf doc.withoutPrivate = .ok k) (hc : k.curve? = some c) (hpair : pair.PairOf bs)
    (hpairc : pair.curve? = some c) (hne : pair.publicPart ≠ k) :
    keyOf doc = .error (parseFailure .privateMismatch) := by
  obtain ⟨hgroup, hcrv⟩ := curve?_of_keyOf h hc
  rw [keyOf_eq_bind hgroup hcrv, h, ok_bind, hd, withPair_of_mismatch hbs hpair hpairc hne]
  rfl

end WebKey

/-! ## Members -/

/-- The names of the members that hold a private part. -/
def Document.privateNames : List String := ["d", "p", "q", "dp", "dq", "qi"]

/-- The members of a document without those that hold a private part. -/
def Members.withoutPrivate (ms : Members) : Members :=
  ms.filter fun m => decide (m.1 ∉ Document.privateNames)

theorem Members.get?_withoutPrivate (ms : Members) (name : String) :
    get? ms.withoutPrivate name =
      if name ∈ Document.privateNames then none else get? ms name := by
  refine (get?_filter ms (fun n => decide (n ∉ Document.privateNames)) name).trans ?_
  by_cases hname : name ∈ Document.privateNames <;> simp [hname]

namespace Document

open Json

theorem textMember?_withoutPrivate (ms : Members) (name : String) :
    textMember? ms.withoutPrivate name =
      if name ∈ privateNames then none else textMember? ms name := by
  rw [textMember?, textMember?, Members.get?_withoutPrivate]
  by_cases hname : name ∈ privateNames
  · rw [if_pos hname, if_pos hname]
  · rw [if_neg hname, if_neg hname]

theorem textFault?_withoutPrivate (ms : Members) (name : String) :
    textFault? ms.withoutPrivate name =
      if name ∈ privateNames then none else textFault? ms name := by
  rw [textFault?, textFault?, Members.get?_withoutPrivate]
  by_cases hname : name ∈ privateNames
  · rw [if_pos hname, if_pos hname]
  · rw [if_neg hname, if_neg hname]

/-- Leaving out the private members leaves out the private fields of the document and nothing else.
-/
theorem ofMembers_withoutPrivate {ms : Members} {doc : Document} (h : ofMembers ms = .ok doc) :
    ofMembers ms.withoutPrivate = .ok doc.withoutPrivate := by
  unfold ofMembers at h ⊢
  split at h
  · next hnone =>
    cases h
    have hkty : requiredTextFault? ms.withoutPrivate "kty" = requiredTextFault? ms "kty" := by
      rw [requiredTextFault?, requiredTextFault?, Members.get?_withoutPrivate,
        if_neg (by decide +kernel)]
    rw [List.isEmpty_iff, faults, List.append_eq_nil_iff, List.filterMap_eq_nil_iff] at hnone
    have hfaults : faults ms.withoutPrivate = [] := by
      rw [faults, hkty, List.append_eq_nil_iff, List.filterMap_eq_nil_iff]
      refine ⟨hnone.1, fun name hname => ?_⟩
      rw [textFault?_withoutPrivate]
      split
      · rfl
      · exact hnone.2 name hname
    rw [hfaults, if_pos List.isEmpty_nil]
    simp [textMember?_withoutPrivate, withoutPrivate, privateNames]
  · cases h

end Document

/-! ## Private parts -/

namespace WebKey

theorem text_of_ofMembers {ms : Members} {doc : Document} {v : Json}
    (h : Document.ofMembers ms = .ok doc) (hd : Members.get? ms "d" = some v) (hv : v ≠ .null) :
    ∃ text, v = .string text ∧ doc.d = some text := by
  unfold Document.ofMembers at h
  split at h
  · next hnone =>
    cases h
    rw [List.isEmpty_iff, Document.faults, List.append_eq_nil_iff,
      List.filterMap_eq_nil_iff] at hnone
    have hfault := hnone.2 "d" (by simp [Document.optionalNames])
    rw [Json.textFault?, hd] at hfault
    dsimp only [Json.textMember?]
    rw [hd]
    cases v with
    | string text => exact ⟨text, rfl, rfl⟩
    | null => exact absurd rfl hv
    | _ => cases hfault
  · cases h

theorem ofJson_object (ms : Members) : ofJson (.object ms) = ofChecked (Document.ofMembers ms) :=
  rfl

theorem ofDocument_eq_ok {doc : Document} {w : WebKey} (h : ofDocument doc = .ok w) :
    keyOf doc = .ok w.key ∧ w = ⟨w.key, w.key.label.1, w.key.label.2, doc.kid, doc.use, doc.alg⟩ := by
  obtain ⟨k, hk, hw⟩ := bind_eq_ok.mp h
  rw [ofKey_eq_ok] at hw
  cases hw
  exact ⟨hk, rfl⟩

theorem ofDocument_of_keyOf {doc : Document} {k : Key} (h : keyOf doc = .ok k) :
    ofDocument doc = .ok ⟨k, k.label.1, k.label.2, doc.kid, doc.use, doc.alg⟩ := by
  rw [ofDocument, h, ok_bind, ofKey_eq_ok]

/-- The key of a web key is the one that is read from its document. -/
theorem exists_ofDocument_eq_ok {doc : Document} {k : Key} :
    (∃ w, ofDocument doc = .ok w ∧ w.key = k) ↔ keyOf doc = .ok k := by
  constructor
  · rintro ⟨w, hw, rfl⟩
    exact (ofDocument_eq_ok hw).1
  · exact fun h => ⟨_, ofDocument_of_keyOf h, rfl⟩

/-- A document with a private part is read as the pair of that part, and without its private members
as the public part of the pair. Where it is read without them, and the private part is that of a
pair on the same curve with another public part, the document is refused for its encoding. -/
theorem private_part_belongs {ms : Members} {v : Json} (hd : Members.get? ms "d" = some v)
    (hv : v ≠ .null) :
    (∀ w, ofJson (.object ms) = .ok w → ∃ text bs, v = .string text ∧
      Base64.decodeUnpadded .link text.toList = .ok bs ∧ w.key.PairOf bs ∧
      ofJson (.object ms.withoutPrivate) = .ok w.publicPart) ∧
    ∀ (w : WebKey) (text : String) (bs : Bytes) (c : Curve) (pair : Key), v = .string text →
      Base64.decodeUnpadded .link text.toList = .ok bs →
      ofJson (.object ms.withoutPrivate) = .ok w → w.key.curve? = some c → pair.PairOf bs →
      pair.curve? = some c → pair.publicPart ≠ w.key →
      ∃ e, ofJson (.object ms) = .error (.conversion e) ∧ e.kind = .invalidEncoding := by
  simp only [ofJson_object]
  cases hdoc : Document.ofMembers ms with
  | error faults =>
    constructor
    · intro w h
      cases h
    · intros
      exact ⟨_, rfl, rfl⟩
  | ok doc =>
    obtain ⟨text, rfl, htext⟩ := text_of_ofMembers hdoc hd hv
    rw [Document.ofMembers_withoutPrivate hdoc]
    constructor
    · intro w h
      obtain ⟨hk, hw⟩ := ofDocument_eq_ok h
      obtain ⟨bs, hbs, hpair, hpublic⟩ := pairOf_of_keyOf htext hk
      refine ⟨text, bs, rfl, hbs, hpair, ?_⟩
      rw [hw, ofChecked, ofDocument_of_keyOf hpublic, Key.label_publicPart]
      rfl
    · rintro w _ bs c pair ⟨⟩ hbs h hc hpair hpairc hne
      obtain ⟨hk, -⟩ := ofDocument_eq_ok h
      have hmismatch := keyOf_of_mismatch htext hbs hk hc hpair hpairc hne
      rw [ofChecked, ofDocument, hmismatch]
      exact ⟨_, rfl, rfl⟩

/-- An RSA key without its derived numbers, and the base point of P-256, mirrored, with the scalar
1: the one is read in full, the other refused. -/
theorem private_part_of_other_point :
    (∃ w bs, ofJson (.object [("kty", .string "RSA"), ("n", .string "Nw"), ("e", .string "Aw"),
        ("d", .string "Gw"), ("p", .string "Cw"), ("q", .string "BQ")]) = .ok w ∧
      w.key.PairOf bs ∧ bs = [27]) ∧
    ∃ e, ofJson (.object [("kty", .string "EC"), ("crv", .string "P-256"),
        ("x", .string "axfR8uEsQkf4vOblY6RA8ncDfYEt6zOg9KE5RdiYwpY"),
        ("y", .string "sBy9HAHlgGVxGBS1g_Bh6dQxzKmUzqExNEm_l8hArgo"), ("d", .string "AQ")]) =
        .error (.conversion e) ∧ e.kind = .invalidEncoding := by
  constructor
  · have hread : ofJson (.object [("kty", .string "RSA"), ("n", .string "Nw"),
        ("e", .string "Aw"), ("d", .string "Gw"), ("p", .string "Cw"), ("q", .string "BQ")]) =
        .ok ⟨.rsa ⟨55, 3, some 27, some 11, some 5, some 7, some 3, some 9⟩, "RSA", none, none,
          none, none⟩ := by cbv
    obtain ⟨text, bs, htext, hbs, hpair, -⟩ :=
      (private_part_belongs (v := .string "Gw") rfl (by simp)).1 _ hread
    cases htext
    have h27 : Base64.decodeUnpadded .link "Gw".toList = .ok [27] := by rfl
    rw [h27] at hbs
    cases hbs
    exact ⟨_, _, hread, hpair, rfl⟩
  · have hpoint : Weierstrass.p256.publicPoint? 1 =
        some (Weierstrass.p256.gx, Weierstrass.p256.gy) := by
      simp [Weierstrass.Equation.publicPoint?, Weierstrass.Equation.times, Weierstrass.Equation.add]
    refine (private_part_belongs (v := .string "AQ") rfl (by simp)).2
      ⟨.ec ⟨.p256, Weierstrass.p256.gx, Weierstrass.p256.p - Weierstrass.p256.gy, none, none⟩, "EC",
        some "P-256", none, none, none⟩ "AQ" [1] .p256
      (.ec ⟨.p256, Weierstrass.p256.gx, Weierstrass.p256.gy, some 1, none⟩) rfl rfl rfl rfl
      ⟨rfl, rfl, _, rfl, by decide +kernel, _, _, hpoint, rfl, rfl⟩ rfl ?_
    decide +kernel

end WebKey

end WebKeys
