import WebKeys.Proofs.Labels
import WebKeys.Proofs.PrivatePart

/-!
# Errors that name no operation

The layouts and the boundary to the primitives report errors without the name of an operation; it is
for their callers to add it. Reading a document adds it to whatever it finds wrong by itself, and to
what the primitives refuse, but not to what a layout reports.

* `Raises sort r`: the result is a conversion error of a sort. A chain of steps raises what one of
  its steps raises (`raises_bind`), so each operation gets its condition from those of its steps.
* `Candidate.raises_toKey?`: keys are taken over from the primitives without an operation.
* `Document.LayoutRefuses`, `unsigned_keyOf`: the documents that are refused without an operation.
-/

namespace WebKeys

open Outcome

/-! ## Errors of a sort -/

/-- An error that names no operation. -/
def ConversionError.Unsigned (e : ConversionError) : Prop := e.operation = none

open ConversionError (Unsigned)

/-- The result is a conversion error of this sort. -/
def Raises {α : Type} (sort : ConversionError → Prop) (r : Result α) : Prop :=
  ∃ e, r = .error (.conversion e) ∧ sort e

section Steps

variable {α β : Type} {sort : ConversionError → Prop}

@[simp] theorem raises_ok (a : α) : ¬Raises sort (.ok a : Result α) := by
  rintro ⟨e, he, -⟩
  cases he

theorem raises_conversion (e : ConversionError) :
    Raises sort (.error (.conversion e) : Result α) ↔ sort e := by
  constructor
  · rintro ⟨e', he', h⟩
    cases he'
    exact h
  · exact fun h => ⟨e, rfl, h⟩

@[simp] theorem raises_refused (why : Refusal) :
    ¬Raises sort (.error (.refused why) : Result α) := by
  rintro ⟨e, he, -⟩
  cases he

@[simp] theorem raises_unrepresentable : ¬Raises sort (.error .unrepresentable : Result α) := by
  rintro ⟨e, he, -⟩
  cases he

@[simp] theorem raises_formless : ¬Raises sort (.error .formless : Result α) := by
  rintro ⟨e, he, -⟩
  cases he

@[simp] theorem raises_ofReason_none (reason : Reason) :
    Raises Unsigned (.error (.ofReason reason) : Result α) :=
  (raises_conversion _).mpr rfl

@[simp] theorem raises_ofReason_some (reason : Reason) (op : Operation) :
    ¬Raises Unsigned (.error (.ofReason reason (some op)) : Result α) := by
  rw [Failure.ofReason, raises_conversion]
  rintro ⟨⟩

@[simp] theorem raises_parseFailure (reason : Reason) :
    ¬Raises Unsigned (.error (WebKey.parseFailure reason) : Result α) :=
  raises_ofReason_some reason .parseWebKey

/-- A chain of steps raises an error that its first or its second step raises. -/
theorem raises_bind {r : Result α} {f : α → Result β} :
    Raises sort (r >>= f) ↔ Raises sort r ∨ ∃ a, r = .ok a ∧ Raises sort (f a) := by
  cases r with
  | ok a => simp
  | error f =>
    constructor
    · rintro ⟨e, he, hsort⟩
      cases he
      exact Or.inl ⟨e, rfl, hsort⟩
    · rintro (⟨e, he, hsort⟩ | ⟨a, ha, -⟩)
      · cases he
        exact ⟨e, rfl, hsort⟩
      · cases ha

@[simp] theorem raises_map {r : Result α} {f : α → β} : Raises sort (r.map f) ↔ Raises sort r := by
  simp only [Raises, map_eq_error]

@[simp] theorem raises_mapError_refused {r : Except Refusal α} :
    ¬Raises sort (r.mapError .refused) := by
  rintro ⟨e, he, -⟩
  obtain ⟨why, -, hwhy⟩ := mapError_eq_error.mp he
  cases hwhy

/-- A report names the operation in what it reports, and leaves conversion errors as they are. -/
theorem raises_reportRefusal {report : Refusal → Reason} {r : Result α} :
    Raises Unsigned (WebKey.reportRefusal report r) ↔ Raises Unsigned r := by
  unfold WebKey.reportRefusal
  split
  · simp
  · rfl

end Steps

/-! ## Keys of the primitives -/

section Primitives

variable {sort : ConversionError → Prop}

/-- A curve is an elliptic one if it is neither of octet keys nor for pairings. -/
theorem Curve.family_eq_ec {c : Curve} (hbls : c.family ≠ .bls) (hokp : c.family ≠ .okp) :
    c.family = .ec := by
  cases c <;> first | rfl | exact absurd rfl hbls | exact absurd rfl hokp

theorem EcKey.exists_equation? {c : Curve} (hc : c.family = .ec) :
    ∃ e, Weierstrass.equation? c = some e := by
  cases c <;> first | exact ⟨_, rfl⟩ | cases hc

theorem EcKey.raises_ofScalar {c : Curve} (hc : c.family = .ec) (d : Nat) :
    ¬Raises sort (ofScalar c d) := by
  obtain ⟨e, he⟩ := exists_equation? hc
  unfold ofScalar
  rw [he]
  dsimp only
  repeat' split
  all_goals simp [refuse, map_curveNamed he]

theorem OkpKey.raises_ofSeed (c : Curve) (seed : Bytes) : ¬Raises sort (ofSeed c seed) := by
  unfold ofSeed
  split <;> simp [refuse]

theorem BlsKey.raises_ofScalar (d : Int) : ¬Raises sort (ofScalar d) := by
  unfold ofScalar
  repeat' split
  all_goals simp

theorem RsaKey.raises_complete (k : RsaKey) (d : Int) : ¬Raises sort (k.complete d) := by
  have hcompute {given : Option Int} {computed : Result Int} (h : ¬Raises sort computed) :
      ¬Raises sort (orCompute given computed) := by
    cases given with
    | none => exact h
    | some n => exact raises_ok n
  have hreduced (d p : Int) : ¬Raises sort (reduced? d p) := by
    unfold reduced?
    split <;> simp [refuse]
  have hcoefficient (p q : Int) : ¬Raises sort (coefficient? p q) := by
    unfold coefficient?
    split <;> simp [refuse]
  unfold complete
  split
  · simp [raises_bind, hcompute, hreduced, hcoefficient]
  · exact raises_refused _

theorem RsaKey.raises_accepted (k : RsaKey) : ¬Raises sort k.accepted := by
  unfold accepted
  split
  · repeat' split
    all_goals simp [refuse, unrepresentable]
  · rw [raises_bind, not_or]
    refine ⟨k.raises_complete _, ?_⟩
    rintro ⟨whole, -, h⟩
    revert h
    repeat' split
    all_goals simp [refuse, unrepresentable]

/-- The candidate is a held key on this curve, on which keys are not published. -/
inductive Candidate.OnForeignCurve (secName : String) : Candidate → Prop
  | held (scalar : Nat) (keepsScalar : Bool) (h : Curve.ofSecName? secName = none) :
      OnForeignCurve secName (.held (.ec secName scalar keepsScalar))

/-- A foreign curve is the only reason not to take a key over that is a conversion error, and no
operation is named in it. -/
theorem Candidate.raises_toKey? {c : Candidate} : Raises sort c.toKey? ↔
    ∃ secName, c.OnForeignCurve secName ∧ sort (.ofReason (.foreignCurve secName)) := by
  have hother {r : Result (Option Key)} (hr : ¬Raises sort r)
      (hc : ∀ secName, ¬c.OnForeignCurve secName) : Raises sort r ↔
        ∃ secName, c.OnForeignCurve secName ∧ sort (.ofReason (.foreignCurve secName)) :=
    iff_of_false hr fun ⟨secName, h, _⟩ => hc secName h
  cases c with
  | held k =>
    cases k with
    | ec secName scalar keepsScalar =>
      cases hname : Curve.ofSecName? secName with
      | none =>
        simp only [toKey?, HeldKey.toKey, HeldKey.toEcKey, EcKey.curveNamed, hname, raises_map,
          error_bind, Failure.ofReason, raises_conversion]
        constructor
        · exact fun h => ⟨secName, .held scalar keepsScalar hname, h⟩
        · rintro ⟨_, ⟨_, _, _⟩, h⟩
          exact h
      | some c =>
        have hc : c.family = .ec := by
          have hsec := Curve.ofSecName?_eq_some_iff.mp hname
          cases c <;> first | rfl | cases hsec
        refine hother ?_ ?_
        · simp [Candidate.toKey?, HeldKey.toKey, HeldKey.toEcKey, EcKey.curveNamed, hname,
            raises_bind, EcKey.raises_ofScalar hc]
        · rintro _ ⟨_, _, h⟩
          rw [hname] at h
          cases h
    | okpPrivate c seed =>
      refine hother ?_ (by rintro _ ⟨⟩)
      simp [Candidate.toKey?, HeldKey.toKey, OkpKey.raises_ofSeed]
    | okpPublic c octets => exact hother (raises_ok _) (by rintro _ ⟨⟩)
    | rsa k => exact hother (raises_ok _) (by rintro _ ⟨⟩)
  | _ => exact hother (raises_ok _) (by rintro _ ⟨⟩)

end Primitives

/-! ## Documents -/

/-- The document names this curve, under the group of the curve. -/
def Document.OnCurve (doc : Document) (c : Curve) : Prop :=
  doc.crv.bind Curve.ofName? = some c ∧ c.group = doc.kty

/-- The members of the public part are there and spell bytes, but not those of a key on the curve:
octets of another number, no point of the pairing subgroup, coordinates that fit the field and are
off the curve. -/
inductive Document.LayoutRefuses (doc : Document) : Curve → Prop
  | octets {c : Curve} {x : Bytes} (hc : c.family = .okp)
      (hx : WebKey.required "x" doc.x = .ok x) (hsize : x.length ≠ c.size) : LayoutRefuses doc c
  | pairing {x : Bytes} (hx : WebKey.required "x" doc.x = .ok x)
      (hpoint : ¬∃ P, x.length = Curve.bls12381G2.size ∧
        Bls12381.decompress? x = some (some P) ∧ Bls12381.inSubgroup P = true) :
      LayoutRefuses doc .bls12381G2
  | coordinates {c : Curve} {e : Weierstrass.Equation} {x y : Bytes}
      (he : Weierstrass.equation? c = some e) (hx : WebKey.required "x" doc.x = .ok x)
      (hy : WebKey.required "y" doc.y = .ok y) (hwidth : x.length ≤ c.size ∧ y.length ≤ c.size)
      (hoff : e.contains (Bytes.toNat x) (Bytes.toNat y) = false) : LayoutRefuses doc c

theorem OkpKey.unsigned_ofRaw {c : Curve} {x : Bytes} :
    Raises Unsigned (ofRaw c (some x)) ↔ x.length ≠ c.size := by
  unfold ofRaw
  dsimp only [Option.getD_some]
  split <;> simp_all

theorem BlsKey.unsigned_ofCompressed {x : Bytes} :
    Raises Unsigned (ofCompressed (some x)) ↔ ¬∃ P, x.length = Curve.bls12381G2.size ∧
      Bls12381.decompress? x = some (some P) ∧ Bls12381.inSubgroup P = true := by
  unfold ofCompressed
  dsimp only [Option.getD_some]
  repeat' split
  all_goals simp_all

theorem EcKey.unsigned_ofPoint {c : Curve} {e : Weierstrass.Equation} {x y : Bytes}
    (he : Weierstrass.equation? c = some e) (hx : x.length ≤ c.size) (hy : y.length ≤ c.size) :
    Raises Unsigned (ofPoint c (4 :: (Bytes.padLeft c.size x ++ Bytes.padLeft c.size y))) ↔
      e.contains (Bytes.toNat x) (Bytes.toNat y) = false := by
  rw [ofPoint_padLeft (family_of_equation? he) hx hy, ofCoordinates, he]
  dsimp only
  rw [map_curveNamed he]
  split <;> simp_all

namespace WebKey

theorem unsigned_decodeMember (name text : String) :
    ¬Raises Unsigned (decodeMember name text) := by
  unfold decodeMember
  split
  · exact raises_ok _
  · exact raises_parseFailure _

theorem unsigned_required (name : String) (value : Option String) :
    ¬Raises Unsigned (required name value) := by
  unfold required
  repeat' split
  · exact raises_parseFailure _
  · exact raises_parseFailure _
  · exact unsigned_decodeMember _ _

theorem unsigned_optionalNumber (name : String) (value : Option String) :
    ¬Raises Unsigned (optionalNumber name value) := by
  unfold optionalNumber
  split
  · exact raises_ok _
  · simp [raises_bind, unsigned_decodeMember]

theorem unsigned_derivedPair (c : Curve) (bs : Bytes) : ¬Raises Unsigned (derivedPair c bs) := by
  unfold derivedPair
  split
  · simp [raises_map, BlsKey.raises_ofScalar]
  · simp [raises_map, OkpKey.raises_ofSeed]
  · next hbls hokp =>
    simp [raises_map, EcKey.raises_ofScalar (Curve.family_eq_ec hbls hokp)]

/-- A private part is never refused without the operation. -/
theorem unsigned_withPair (c : Curve) (d : Option String) (k : Key) :
    ¬Raises Unsigned (withPair c d k) := by
  unfold withPair
  split
  · exact raises_ok _
  · simp only [raises_bind, unsigned_decodeMember, unsigned_derivedPair, false_or, not_exists,
      not_and]
    rintro bs - pair -
    split
    · exact raises_ok _
    · exact raises_parseFailure _

/-- Reading an EC document fails without a name exactly when the layout refuses a coordinate. -/
theorem unsigned_ecKey {c : Curve} (hc : c.family = .ec) (doc : Document) :
    Raises Unsigned (ecKey c doc) ↔ doc.LayoutRefuses c := by
  obtain ⟨e, he⟩ := EcKey.exists_equation? hc
  rw [ecKey_eq_bind hc, raises_bind]
  simp only [unsigned_withPair, and_false, exists_false, or_false]
  have hread : Raises Unsigned (ecKey c doc.withoutPrivate) ↔
      ∃ x, required "x" doc.x = .ok x ∧ ∃ y, required "y" doc.y = .ok y ∧
        (x.length ≤ c.size ∧ y.length ≤ c.size) ∧
        e.contains (Bytes.toNat x) (Bytes.toNat y) = false := by
    unfold ecKey Document.withoutPrivate
    simp only [raises_bind, unsigned_required, false_or]
    refine exists_congr fun x => and_congr_right fun _ => exists_congr fun y =>
      and_congr_right fun _ => ?_
    by_cases hwidth : c.size < x.length ∨ c.size < y.length
    · rw [if_pos hwidth]
      have hnot : ¬(x.length ≤ c.size ∧ y.length ≤ c.size) := by omega
      simp [hnot]
    · rw [if_neg hwidth]
      obtain ⟨hx, hy⟩ : x.length ≤ c.size ∧ y.length ≤ c.size := by omega
      simp [raises_bind, EcKey.unsigned_ofPoint he hx hy, optionalNumber, hx, hy]
  rw [hread]
  constructor
  · rintro ⟨x, hx, y, hy, hwidth, hoff⟩
    exact .coordinates he hx hy hwidth hoff
  · intro h
    cases h with
    | octets hokp => rw [hc] at hokp; cases hokp
    | pairing => cases hc
    | coordinates he' hx hy hwidth hoff =>
      cases he.symm.trans he'
      exact ⟨_, hx, _, hy, hwidth, hoff⟩

theorem unsigned_okpKey {c : Curve} (hc : c.family = .okp) (doc : Document) :
    Raises Unsigned (okpKey c doc) ↔ doc.LayoutRefuses c := by
  rw [okpKey_eq_bind hc, raises_bind]
  simp only [unsigned_withPair, and_false, exists_false, or_false]
  have hread : Raises Unsigned (okpKey c doc.withoutPrivate) ↔
      ∃ x, required "x" doc.x = .ok x ∧ x.length ≠ c.size := by
    unfold okpKey Document.withoutPrivate
    simp [raises_bind, unsigned_required, OkpKey.unsigned_ofRaw]
  rw [hread]
  constructor
  · rintro ⟨x, hx, hsize⟩
    exact .octets hc hx hsize
  · intro h
    cases h with
    | octets _ hx hsize => exact ⟨_, hx, hsize⟩
    | pairing => cases hc
    | coordinates he =>
      rw [EcKey.family_of_equation? he] at hc
      cases hc

theorem unsigned_blsKey (doc : Document) :
    Raises Unsigned (blsKey doc) ↔ doc.LayoutRefuses .bls12381G2 := by
  rw [blsKey_eq_bind, raises_bind]
  simp only [unsigned_withPair, and_false, exists_false, or_false]
  have hread : Raises Unsigned (blsKey doc.withoutPrivate) ↔
      ∃ x, required "x" doc.x = .ok x ∧ Raises Unsigned (BlsKey.ofCompressed (some x)) := by
    unfold blsKey Document.withoutPrivate
    simp [raises_bind, unsigned_required, optionalNumber]
  rw [hread]
  constructor
  · rintro ⟨x, hx, hpoint⟩
    exact .pairing hx (BlsKey.unsigned_ofCompressed.mp hpoint)
  · intro h
    cases h with
    | octets hc => cases hc
    | pairing hx hpoint => exact ⟨_, hx, BlsKey.unsigned_ofCompressed.mpr hpoint⟩
    | coordinates he => cases he

theorem unsigned_rsaKey (doc : Document) : ¬Raises Unsigned (rsaKey doc) := by
  have hnumbers : ¬Raises Unsigned (rsaNumbers doc) := by
    unfold rsaNumbers
    simp only [raises_bind, unsigned_required, unsigned_optionalNumber, false_or, not_exists,
      not_and]
    rintro n - e - d -
    split
    · exact raises_ok _
    · simp [raises_bind, unsigned_optionalNumber]
  simp [rsaKey, raises_bind, hnumbers, raises_reportRefusal, RsaKey.raises_accepted]

/-- The key of a document is refused without an operation exactly where a layout refuses its public
part. -/
theorem unsigned_keyOf {doc : Document} :
    Raises Unsigned (keyOf doc) ↔ ∃ c, doc.OnCurve c ∧ doc.LayoutRefuses c := by
  have hcurve : Raises Unsigned (curveKey doc) ↔ ∃ c, doc.OnCurve c ∧ doc.LayoutRefuses c := by
    unfold curveKey Document.OnCurve
    cases doc.crv.bind Curve.ofName? with
    | none => simp [raises_parseFailure]
    | some c =>
      by_cases hkty : c.group = doc.kty
      · dsimp only
        rw [if_neg (not_not.mpr hkty), raises_reportRefusal]
        calc
          _ ↔ doc.LayoutRefuses c := by
            cases c with
            | bls12381G2 => exact unsigned_blsKey doc
            | ed25519 => exact unsigned_okpKey rfl doc
            | x25519 => exact unsigned_okpKey rfl doc
            | _ => exact unsigned_ecKey rfl doc
          _ ↔ ∃ c', (some c = some c' ∧ c'.group = doc.kty) ∧ doc.LayoutRefuses c' := by
            refine ⟨fun h => ⟨c, ⟨rfl, hkty⟩, h⟩, ?_⟩
            rintro ⟨c', ⟨hc', -⟩, h⟩
            cases hc'
            exact h
      · simp [hkty, raises_parseFailure]
  unfold keyOf
  split
  · next hrsa =>
    refine iff_of_false (unsigned_rsaKey doc) ?_
    rintro ⟨c, ⟨-, hkty⟩, -⟩
    exact c.group_ne_rsa (hkty.trans hrsa)
  · split
    · exact hcurve
    · next hunknown =>
      refine iff_of_false (raises_parseFailure _) ?_
      rintro ⟨c, ⟨-, hkty⟩, -⟩
      exact hunknown (hkty ▸ c.group_cases)

end WebKey

end WebKeys
