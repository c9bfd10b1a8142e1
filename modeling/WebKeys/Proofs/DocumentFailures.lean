import WebKeys.Proofs.DerKinds
import WebKeys.Proofs.UnsignedErrors

/-!
# How reading a document fails

A document can be wrong in its schema, in its label, in the length of its public part, in the text
of a member and in its numbers, and each of these is found at another depth. Whatever is found, the
failure is a conversion error of one of three kinds:

* a label that names no group, or no curve of its group, is not supported (`keyOf_of_unnamed`);
* an octet key or a pairing point of a wrong length is reported by its length
  (`keyOf_of_wrongLength`);
* everything else is an error of encoding (`failsOnly_keyOf`). What the primitives refuse is
  reported as one (`failsOnly_reportRefusal`), and they never meet a number that they cannot
  represent, since documents spell natural numbers (`RsaKey.Natural`).

`WebKey.reading_failures` puts this together for objects and for texts.
-/

namespace WebKeys

open Outcome

/-! ## Failures of a sort -/

/-- An error of encoding. -/
def Failure.OfEncoding (f : Failure) : Prop :=
  ∃ e, f = .conversion e ∧ e.kind = .invalidEncoding

/-- A refusal of the primitives, or an error of encoding already. -/
def Failure.Reportable (f : Failure) : Prop := f.OfEncoding ∨ ∃ why, f = .refused why

/-- The operation may fail, but in no other way. -/
def FailsOnly {α : Type} (sort : Failure → Prop) (r : Result α) : Prop :=
  ∀ f, r = .error f → sort f

section Steps

variable {α β : Type} {sort : Failure → Prop}

theorem failsOnly_ok (a : α) : FailsOnly sort (.ok a : Result α) := by
  rintro f ⟨⟩

theorem failsOnly_ofReason {reason : Reason} (h : reason.kind = .invalidEncoding)
    (op : Option Operation) :
    FailsOnly Failure.OfEncoding (.error (.ofReason reason op) : Result α) := by
  rintro _ ⟨⟩
  exact ⟨_, rfl, h⟩

theorem failsOnly_refused (why : Refusal) :
    FailsOnly Failure.Reportable (.error (.refused why) : Result α) := by
  rintro _ ⟨⟩
  exact Or.inr ⟨why, rfl⟩

theorem FailsOnly.reportable {r : Result α} (h : FailsOnly Failure.OfEncoding r) :
    FailsOnly Failure.Reportable r :=
  fun f hf => Or.inl (h f hf)

theorem FailsOnly.bind {r : Result α} {f : α → Result β} (h : FailsOnly sort r)
    (hf : ∀ a, r = .ok a → FailsOnly sort (f a)) : FailsOnly sort (r >>= f) := by
  intro failure hfailure
  obtain hr | ⟨a, ha, hfa⟩ := bind_eq_error.mp hfailure
  · exact h failure hr
  · exact hf a ha failure hfa

theorem FailsOnly.kind_eq {r : Result α} {kind : ErrorKind} (h : FailsOnly Failure.OfEncoding r)
    (hkind : FailsWith kind r) : kind = .invalidEncoding := by
  obtain ⟨e, he, rfl⟩ := hkind
  obtain ⟨e', heq, he'⟩ := h _ he
  cases heq
  exact he'

theorem FailsOnly.map {r : Result α} (h : FailsOnly sort r) (f : α → β) :
    FailsOnly sort (r.map f) :=
  fun failure hfailure => h failure (map_eq_error.mp hfailure)

/-- A result has one kind of error at most. -/
theorem FailsWith.unique {r : Result α} {kind kind' : ErrorKind} (h : FailsWith kind r)
    (h' : FailsWith kind' r) : kind = kind' := by
  obtain ⟨e, he, rfl⟩ := h
  obtain ⟨e', he', rfl⟩ := h'
  cases he.symm.trans he'
  rfl

theorem FailsWith.bind {r : Result α} {kind : ErrorKind} (h : FailsWith kind r)
    (f : α → Result β) : FailsWith kind (r >>= f) := by
  obtain ⟨e, rfl, hkind⟩ := h
  exact ⟨e, rfl, hkind⟩

theorem failsWith_map {r : Result α} {kind : ErrorKind} (f : α → β) :
    FailsWith kind (r.map f) ↔ FailsWith kind r :=
  exists_congr fun _ => and_congr_left fun _ => map_eq_error

/-- What may be reported is, and then is an error of encoding. -/
theorem failsOnly_reportRefusal {report : Refusal → Reason} {r : Result α}
    (hreport : ∀ why, (report why).kind = .invalidEncoding)
    (h : FailsOnly Failure.Reportable r) :
    FailsOnly Failure.OfEncoding (WebKey.reportRefusal report r) := by
  intro f hf
  unfold WebKey.reportRefusal at hf
  split at hf
  · next why =>
    cases hf
    exact ⟨_, rfl, hreport why⟩
  · next hother =>
    obtain hencoding | ⟨why, rfl⟩ := h f hf
    · exact hencoding
    · exact absurd hf (hother why)

end Steps

/-! ## The primitives -/

theorem EcKey.failsOnly_ofScalar {c : Curve} (hc : c.family = .ec) (d : Nat) :
    FailsOnly Failure.Reportable (ofScalar c d) := by
  obtain ⟨e, he⟩ := exists_equation? hc
  unfold ofScalar
  rw [he]
  dsimp only
  repeat' split
  · rw [map_curveNamed he]
    exact failsOnly_ok _
  · exact failsOnly_refused _
  · exact failsOnly_refused _

theorem OkpKey.failsOnly_ofSeed (c : Curve) (seed : Bytes) :
    FailsOnly Failure.Reportable (ofSeed c seed) := by
  unfold ofSeed
  split
  · exact failsOnly_ok _
  · exact failsOnly_refused _

theorem BlsKey.failsOnly_ofScalar (d : Int) : FailsOnly Failure.Reportable (ofScalar d) := by
  unfold ofScalar
  repeat' split
  · exact failsOnly_ok _
  · exact failsOnly_refused _
  · exact failsOnly_refused _

/-! ## RSA keys of natural numbers -/

namespace RsaKey

/-- The numbers of the key, as far as it has them, are not negative. -/
structure Natural (k : RsaKey) : Prop where
  n : 0 ≤ k.n
  e : 0 ≤ k.e
  others : ∀ value ∈ [k.d, k.p, k.q, k.dp, k.dq, k.qi], ∀ m, value = some m → 0 ≤ m

theorem nonneg_of_orCompute {given : Option Int} {computed : Result Int} {m : Int}
    (hgiven : ∀ m, given = some m → 0 ≤ m) (hcomputed : ∀ m, computed = .ok m → 0 ≤ m)
    (h : orCompute given computed = .ok m) : 0 ≤ m := by
  cases given with
  | none => exact hcomputed m h
  | some m' =>
    cases h
    exact hgiven m rfl

theorem nonneg_of_reduced? {d p m : Int} (h : reduced? d p = .ok m) : 0 ≤ m := by
  unfold reduced? at h
  split at h
  · cases h
  · cases h
    exact Int.emod_nonneg d (by omega)

theorem nonneg_of_coefficient? {p q m : Int} (h : coefficient? p q = .ok m) : 0 ≤ m := by
  unfold coefficient? at h
  split at h
  · cases h
  · cases h
    exact Int.natCast_nonneg _

/-- What is filled in is not negative if what is given is not. -/
theorem Natural.complete {k : RsaKey} {d : Int} {whole : Complete} (h : k.Natural)
    (hd : k.d = some d) (hwhole : k.complete d = .ok whole) : ∀ m ∈ whole.numbers, 0 ≤ m := by
  unfold RsaKey.complete at hwhole
  split at hwhole
  · next p q hp hq =>
    obtain ⟨dp, hdp, hwhole⟩ := bind_eq_ok.mp hwhole
    obtain ⟨dq, hdq, hwhole⟩ := bind_eq_ok.mp hwhole
    obtain ⟨qi, hqi, hwhole⟩ := bind_eq_ok.mp hwhole
    cases hwhole
    have hd0 := h.others k.d (by simp) d hd
    have hp0 := h.others k.p (by simp) p hp
    have hq0 := h.others k.q (by simp) q hq
    have hdp0 := nonneg_of_orCompute (h.others k.dp (by simp)) (fun _ => nonneg_of_reduced?) hdp
    have hdq0 := nonneg_of_orCompute (h.others k.dq (by simp)) (fun _ => nonneg_of_reduced?) hdq
    have hqi0 :=
      nonneg_of_orCompute (h.others k.qi (by simp)) (fun _ => nonneg_of_coefficient?) hqi
    simp [Complete.numbers, h.n, h.e, hd0, hp0, hq0, hdp0, hdq0, hqi0]
  · cases hwhole

/-- Deriving the numbers of a private RSA key fails with a reportable error only. -/
theorem failsOnly_complete (k : RsaKey) (d : Int) :
    FailsOnly Failure.Reportable (k.complete d) := by
  have hcompute {given : Option Int} {computed : Result Int}
      (h : FailsOnly Failure.Reportable computed) :
      FailsOnly Failure.Reportable (orCompute given computed) := by
    cases given with
    | none => exact h
    | some m => exact failsOnly_ok m
  have hreduced (d p : Int) : FailsOnly Failure.Reportable (reduced? d p) := by
    unfold reduced?
    split
    · exact failsOnly_refused _
    · exact failsOnly_ok _
  have hcoefficient (p q : Int) : FailsOnly Failure.Reportable (coefficient? p q) := by
    unfold coefficient?
    split
    · exact failsOnly_refused _
    · exact failsOnly_ok _
  unfold complete
  split
  · exact (hcompute (hreduced _ _)).bind fun dp _ => (hcompute (hreduced _ _)).bind fun dq _ =>
      (hcompute (hcoefficient _ _)).bind fun qi _ => failsOnly_ok _
  · exact failsOnly_refused _

theorem Natural.failsOnly_accepted {k : RsaKey} (h : k.Natural) :
    FailsOnly Failure.Reportable k.accepted := by
  unfold accepted
  split
  · have hnonneg : ¬(k.n < 0 ∨ k.e < 0) := by
      have hn := h.n
      have he := h.e
      omega
    rw [if_neg hnonneg]
    split
    · exact failsOnly_ok _
    · exact failsOnly_refused _
  · next d hd =>
    refine (k.failsOnly_complete d).bind fun whole hwhole => ?_
    have hnonneg : ¬(whole.numbers.any (· < 0)) = true := by
      simpa using h.complete hd hwhole
    rw [if_neg hnonneg]
    split
    · exact failsOnly_ok _
    · exact failsOnly_refused _

end RsaKey

/-! ## Documents -/

namespace Document

/-- The label names no group of keys, or no curve of its group. -/
def Unnamed (doc : Document) : Prop := doc.kty ≠ "RSA" ∧ ∀ c, ¬doc.OnCurve c

/-- The label names a curve whose keys stand for themselves, and the public part spells bytes of
another number. -/
def WrongLength (doc : Document) : Prop :=
  ∃ c, doc.OnCurve c ∧ c.family ≠ .ec ∧
    ∃ x, WebKey.required "x" doc.x = .ok x ∧ x.length ≠ c.size

end Document

namespace WebKey

variable {doc : Document}

theorem keyOf_of_unnamed (h : doc.Unnamed) : FailsWith .unsupportedKeyType (keyOf doc) := by
  rw [keyOf, if_neg h.1]
  split
  · unfold curveKey
    split
    · exact ⟨_, rfl, rfl⟩
    · next c hc =>
      rw [if_pos fun hgroup => h.2 c ⟨hc, hgroup⟩]
      exact ⟨_, rfl, rfl⟩
  · exact ⟨_, rfl, rfl⟩

/-- The length is found before anything else but the text of the public part. -/
theorem keyOf_of_wrongLength (h : doc.WrongLength) : FailsWith .invalidKeySize (keyOf doc) := by
  obtain ⟨c, hcurve, hfamily, x, hx, hlength⟩ := h
  rw [keyOf_of_curve hcurve.2 hcurve.1]
  split
  · next hbls =>
    cases Curve.eq_bls12381G2 hbls
    have hread : BlsKey.ofCompressed (some x) = .error (.ofReason .g2Size) := if_pos hlength
    rw [blsKey, hx, ok_bind, hread]
    exact ⟨_, rfl, rfl⟩
  · have hread : OkpKey.ofRaw c (some x) = .error (.ofReason (.keySize c x.length)) :=
      if_neg hlength
    rw [okpKey, hx, ok_bind, hread]
    exact ⟨_, rfl, rfl⟩
  · next hbls hokp => exact absurd (Curve.family_eq_ec hbls hokp) hfamily

/-! ### Everything else -/

theorem failsOnly_decodeMember (name text : String) :
    FailsOnly Failure.OfEncoding (decodeMember name text) := by
  unfold decodeMember
  split
  · exact failsOnly_ok _
  · exact failsOnly_ofReason rfl _

theorem failsOnly_required (name : String) (value : Option String) :
    FailsOnly Failure.OfEncoding (required name value) := by
  unfold required
  repeat' split
  · exact failsOnly_ofReason rfl _
  · exact failsOnly_ofReason rfl _
  · exact failsOnly_decodeMember _ _

theorem failsOnly_optionalNumber (name : String) (value : Option String) :
    FailsOnly Failure.OfEncoding (optionalNumber name value) := by
  unfold optionalNumber
  split
  · exact failsOnly_ok _
  · exact (failsOnly_decodeMember _ _).bind fun bs _ => failsOnly_ok _

theorem failsOnly_derivedPair (c : Curve) (bs : Bytes) :
    FailsOnly Failure.Reportable (derivedPair c bs) := by
  unfold derivedPair
  split
  · exact (BlsKey.failsOnly_ofScalar _).map _
  · exact (OkpKey.failsOnly_ofSeed c bs).map _
  · next hbls hokp => exact (EcKey.failsOnly_ofScalar (Curve.family_eq_ec hbls hokp) _).map _

theorem failsOnly_withPair (c : Curve) (d : Option String) (k : Key) :
    FailsOnly Failure.Reportable (withPair c d k) := by
  unfold withPair
  split
  · exact failsOnly_ok _
  · refine (failsOnly_decodeMember _ _).reportable.bind fun bs _ =>
      (failsOnly_derivedPair c bs).bind fun pair _ => ?_
    split
    · exact failsOnly_ok _
    · exact (failsOnly_ofReason rfl _).reportable

/-- Reading an EC document fails with a reportable error only. -/
theorem failsOnly_ecKey {c : Curve} (hc : c.family = .ec) (doc : Document) :
    FailsOnly Failure.Reportable (ecKey c doc) := by
  rw [ecKey_eq_bind hc]
  refine FailsOnly.bind ?_ fun k _ => failsOnly_withPair c doc.d k
  refine (failsOnly_required _ _).reportable.bind fun x _ =>
    (failsOnly_required _ _).reportable.bind fun y _ => ?_
  split
  · exact (failsOnly_ofReason rfl _).reportable
  · next hwidth =>
    obtain ⟨hx, hy⟩ : x.length ≤ c.size ∧ y.length ≤ c.size := by omega
    refine FailsOnly.bind ?_ fun k _ => failsOnly_ok _
    rw [EcKey.ofPoint_padLeft hc hx hy, EcKey.ofCoordinates]
    obtain ⟨e, he⟩ := EcKey.exists_equation? hc
    rw [he]
    dsimp only
    split
    · rw [EcKey.map_curveNamed he]
      exact failsOnly_ok _
    · exact (failsOnly_ofReason rfl _).reportable

theorem failsOnly_okpKey {c : Curve} (hc : c.family = .okp)
    (hlength : ∀ x, required "x" doc.x = .ok x → x.length = c.size) :
    FailsOnly Failure.Reportable (okpKey c doc) := by
  rw [okpKey_eq_bind hc]
  refine FailsOnly.bind ?_ fun k _ => failsOnly_withPair c doc.d k
  refine (failsOnly_required _ _).reportable.bind fun x hx => ?_
  have hread : OkpKey.ofRaw c (some x) = .ok { curve := c, x := x } := if_pos (hlength x hx)
  rw [hread]
  exact failsOnly_ok _

theorem failsOnly_blsKey
    (hlength : ∀ x, required "x" doc.x = .ok x → x.length = Curve.bls12381G2.size) :
    FailsOnly Failure.Reportable (blsKey doc) := by
  rw [blsKey_eq_bind]
  refine FailsOnly.bind ?_ fun k _ => failsOnly_withPair .bls12381G2 doc.d k
  refine (failsOnly_required _ _).reportable.bind fun x hx =>
    FailsOnly.bind ?_ fun k _ => failsOnly_ok _
  unfold BlsKey.ofCompressed
  dsimp only [Option.getD_some]
  rw [if_neg (not_not.mpr (hlength x hx))]
  repeat' split
  · exact (failsOnly_ofReason rfl _).reportable
  · exact (failsOnly_ofReason rfl _).reportable
  · exact failsOnly_ok _
  · exact (failsOnly_ofReason rfl _).reportable

theorem nonneg_of_optionalNumber {name : String} {value : Option String} {number : Option Int}
    (h : optionalNumber name value = .ok number) : ∀ m, number = some m → 0 ≤ m := by
  cases value with
  | none =>
    cases h
    rintro m ⟨⟩
  | some text =>
    obtain ⟨bs, -, h⟩ := bind_eq_ok.mp h
    cases h
    rintro m ⟨⟩
    exact Int.natCast_nonneg _

/-- A document spells natural numbers. -/
theorem natural_of_rsaNumbers {k : RsaKey} (h : rsaNumbers doc = .ok k) : k.Natural := by
  obtain ⟨n, -, h⟩ := bind_eq_ok.mp h
  obtain ⟨e, -, h⟩ := bind_eq_ok.mp h
  obtain ⟨d, hd, h⟩ := bind_eq_ok.mp h
  have hn := Int.natCast_nonneg (Bytes.toNat n)
  have he := Int.natCast_nonneg (Bytes.toNat e)
  cases d with
  | none =>
    cases h
    exact ⟨hn, he, by simp⟩
  | some d =>
    obtain ⟨p, hp, h⟩ := bind_eq_ok.mp h
    obtain ⟨q, hq, h⟩ := bind_eq_ok.mp h
    obtain ⟨dp, hdp, h⟩ := bind_eq_ok.mp h
    obtain ⟨dq, hdq, h⟩ := bind_eq_ok.mp h
    obtain ⟨qi, hqi, h⟩ := bind_eq_ok.mp h
    cases h
    refine ⟨hn, he, ?_⟩
    simp only [List.forall_mem_cons]
    exact ⟨nonneg_of_optionalNumber hd, nonneg_of_optionalNumber hp, nonneg_of_optionalNumber hq,
      nonneg_of_optionalNumber hdp, nonneg_of_optionalNumber hdq, nonneg_of_optionalNumber hqi,
      by simp⟩

theorem failsOnly_rsaNumbers (doc : Document) : FailsOnly Failure.OfEncoding (rsaNumbers doc) := by
  refine (failsOnly_required _ _).bind fun n _ => (failsOnly_required _ _).bind fun e _ =>
    (failsOnly_optionalNumber _ _).bind fun d _ => ?_
  cases d with
  | none => exact failsOnly_ok _
  | some d =>
    exact (failsOnly_optionalNumber _ _).bind fun p _ =>
      (failsOnly_optionalNumber _ _).bind fun q _ =>
      (failsOnly_optionalNumber _ _).bind fun dp _ =>
      (failsOnly_optionalNumber _ _).bind fun dq _ =>
      (failsOnly_optionalNumber _ _).bind fun qi _ => failsOnly_ok _

theorem failsOnly_rsaKey (doc : Document) : FailsOnly Failure.OfEncoding (rsaKey doc) := by
  refine (failsOnly_rsaNumbers doc).bind fun k hk => FailsOnly.bind ?_ fun k' _ => failsOnly_ok _
  exact failsOnly_reportRefusal (fun _ => rfl) (natural_of_rsaNumbers hk).failsOnly_accepted

/-- Under a label that is known, and with a public part of the right length where there is one, only
the encoding can be wrong. -/
theorem failsOnly_keyOf (hnamed : ¬doc.Unnamed) (hlength : ¬doc.WrongLength) :
    FailsOnly Failure.OfEncoding (keyOf doc) := by
  by_cases hrsa : doc.kty = "RSA"
  · rw [keyOf, if_pos hrsa]
    exact failsOnly_rsaKey doc
  · obtain ⟨c, hcurve⟩ : ∃ c, doc.OnCurve c := by
      by_contra hnone
      exact hnamed ⟨hrsa, fun c hc => hnone ⟨c, hc⟩⟩
    have hsize (hfamily : c.family ≠ .ec) (x : Bytes) (hx : required "x" doc.x = .ok x) :
        x.length = c.size := by
      by_contra hne
      exact hlength ⟨c, hcurve, hfamily, x, hx, hne⟩
    rw [keyOf_of_curve hcurve.2 hcurve.1]
    refine failsOnly_reportRefusal (fun _ => rfl) ?_
    cases c with
    | bls12381G2 => exact failsOnly_blsKey (hsize (by decide))
    | ed25519 => exact failsOnly_okpKey rfl (hsize (by decide))
    | x25519 => exact failsOnly_okpKey rfl (hsize (by decide))
    | _ => exact failsOnly_ecKey rfl doc

/-! ### Objects and texts -/

/-- How a web key is read from what may be a document. If that fails then with a conversion error
of one of three kinds. For two of them this says when it is the one; the third is left for all other
failures. -/
structure FailsByKind (checked : Except (List FieldFault) Document) (r : Result WebKey) : Prop where
  kinds : ∀ f, r = .error f → ∃ e, f = .conversion e ∧
    (e.kind = .invalidEncoding ∨ e.kind = .unsupportedKeyType ∨ e.kind = .invalidKeySize)
  unsupported : FailsWith .unsupportedKeyType r ↔ ∃ doc, checked = .ok doc ∧ doc.Unnamed
  size : FailsWith .invalidKeySize r ↔ ∃ doc, checked = .ok doc ∧ doc.WrongLength

theorem FailsByKind.of {checked : Except (List FieldFault) Document} {r : Result WebKey}
    (hunnamed : ∀ doc, checked = .ok doc → doc.Unnamed → FailsWith .unsupportedKeyType r)
    (hlength : ∀ doc, checked = .ok doc → doc.WrongLength → FailsWith .invalidKeySize r)
    (hrest : (∀ doc, checked = .ok doc → ¬doc.Unnamed ∧ ¬doc.WrongLength) →
      FailsOnly Failure.OfEncoding r) : FailsByKind checked r := by
  have hcases : (∃ doc, checked = .ok doc ∧ doc.Unnamed) ∨
      (∃ doc, checked = .ok doc ∧ doc.WrongLength) ∨ FailsOnly Failure.OfEncoding r := by
    by_cases hall : ∀ doc, checked = .ok doc → ¬doc.Unnamed ∧ ¬doc.WrongLength
    · exact Or.inr (Or.inr (hrest hall))
    · push Not at hall
      obtain ⟨doc, hdoc, hwrong⟩ := hall
      by_cases hname : doc.Unnamed
      · exact Or.inl ⟨doc, hdoc, hname⟩
      · exact Or.inr (Or.inl ⟨doc, hdoc, hwrong hname⟩)
  -- An error has one kind, so the three ways to fail exclude each other.
  refine ⟨fun f hf => ?_, ⟨fun h => ?_, ?_⟩, ⟨fun h => ?_, ?_⟩⟩
  · obtain ⟨doc, hdoc, hname⟩ | ⟨doc, hdoc, hsize⟩ | hencoding := hcases
    · obtain ⟨e, he, hkind⟩ := hunnamed doc hdoc hname
      cases he.symm.trans hf
      exact ⟨e, rfl, Or.inr (Or.inl hkind)⟩
    · obtain ⟨e, he, hkind⟩ := hlength doc hdoc hsize
      cases he.symm.trans hf
      exact ⟨e, rfl, Or.inr (Or.inr hkind)⟩
    · obtain ⟨e, he, hkind⟩ := hencoding f hf
      exact ⟨e, he, Or.inl hkind⟩
  · obtain hname | ⟨doc, hdoc, hsize⟩ | hencoding := hcases
    · exact hname
    · exact absurd (h.unique (hlength doc hdoc hsize)) (by decide)
    · exact absurd (hencoding.kind_eq h) (by decide)
  · rintro ⟨doc, hdoc, hname⟩
    exact hunnamed doc hdoc hname
  · obtain ⟨doc, hdoc, hname⟩ | hsize | hencoding := hcases
    · exact absurd (h.unique (hunnamed doc hdoc hname)) (by decide)
    · exact hsize
    · exact absurd (hencoding.kind_eq h) (by decide)
  · rintro ⟨doc, hdoc, hsize⟩
    exact hlength doc hdoc hsize

theorem ofDocument_eq_error {f : Failure} :
    ofDocument doc = .error f ↔ keyOf doc = .error f := by
  rw [ofDocument]
  cases keyOf doc with
  | error f' => simp
  | ok k =>
    rw [ok_bind, ofKey_eq_ok]
    exact iff_of_false (by rintro ⟨⟩) (by rintro ⟨⟩)

/-- A checked document is refused by kind: for its names, for a wrong length, or as an encoding. -/
theorem failsByKind_ofChecked (checked : Except (List FieldFault) Document) :
    FailsByKind checked (ofChecked checked) := by
  cases checked with
  | error faults =>
    refine .of (by rintro doc ⟨⟩) (by rintro doc ⟨⟩) fun _ => ?_
    exact failsOnly_ofReason rfl _
  | ok doc =>
    have hsame {kind : ErrorKind} (h : FailsWith kind (keyOf doc)) :
        FailsWith kind (ofDocument doc) := by
      obtain ⟨e, he, hkind⟩ := h
      exact ⟨e, ofDocument_eq_error.mpr he, hkind⟩
    refine .of ?_ ?_ fun hnone => ?_
    · rintro _ ⟨⟩ h
      exact hsame (keyOf_of_unnamed h)
    · rintro _ ⟨⟩ h
      exact hsame (keyOf_of_wrongLength h)
    · obtain ⟨hnamed, hlength⟩ := hnone doc rfl
      exact fun f hf => failsOnly_keyOf hnamed hlength f (ofDocument_eq_error.mp hf)

/-- Every JSON value and every text either is read as a web key or fails in one of three kinds: as
not supported exactly if the label of a document names nothing known, for its size exactly if an
octet key or a pairing point has another length than those of its curve, and otherwise for its
encoding. -/
theorem reading_failures (v : Json) (bs : Bytes) :
    FailsByKind (Document.ofJson v) (ofJson v) ∧
      FailsByKind (Document.ofJsonText bs) (ofJsonText bs) :=
  ⟨failsByKind_ofChecked _, failsByKind_ofChecked _⟩

/-- X25519 is a curve of another group than `EC`, and its keys are not of one byte. -/
example :
    FailsWith .unsupportedKeyType (ofJson (.object
      [("kty", .string "EC"), ("crv", .string "X25519"), ("x", .string "AA")])) ∧
    FailsWith .invalidKeySize (ofJson (.object
      [("kty", .string "OKP"), ("crv", .string "X25519"), ("x", .string "AA")])) :=
  ⟨⟨_, rfl, rfl⟩, ⟨_, rfl, rfl⟩⟩

end WebKey

end WebKeys
