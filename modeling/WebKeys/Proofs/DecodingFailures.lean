import WebKeys.Proofs.Conversion
import WebKeys.Proofs.LongArc

/-!
# How decoding fails

Every reader of a layout fails with a reason and names neither operation nor key type
(`Failure.OfReading`), with one exception: DER with an arc that is too long to write. The conversion
adds both names to the former and lets the latter through, so `decoding_failures` is exact: that is
the only input for which decoding fails with anything but a conversion error that names both.
-/

namespace WebKeys

open Outcome

/-- A conversion error as it first comes up, without the names of an operation and a key type. -/
def Failure.Bare (f : Failure) : Prop := ∃ reason, f = .ofReason reason

/-- Such an error as a reader reports it, which is never one of putting a key together. -/
def Failure.OfReading (f : Failure) : Prop :=
  ∃ reason, f = .ofReason reason ∧ reason.kind ≠ .keyCreation

theorem Failure.OfReading.bare {f : Failure} (h : f.OfReading) : f.Bare := by
  obtain ⟨reason, rfl, -⟩ := h
  exact ⟨reason, rfl⟩

/-- A conversion error that names an operation, and the key type by this tag. -/
def Failure.Named (tag : String) (f : Failure) : Prop :=
  ∃ e, f = .conversion e ∧ e.operation.isSome ∧ e.keyType = some tag

/-! ## Readers of a layout -/

/-- However a layout reports the faults of DER, the other failure is a long arc. -/
theorem PublicKeyInfo.failure_of_parse {report : ObjectId.Unreadable → Failure} {bs : Bytes}
    {f : Failure} (hreport : ∀ fault, (report (.der fault)).OfReading)
    (h : (parse bs).mapError report = .error f) : f.OfReading ∨ HasLongArc bs := by
  obtain ⟨fault, hfault, rfl⟩ := mapError_eq_error.mp h
  cases fault with
  | der fault => exact Or.inl (hreport fault)
  | longArc => exact Or.inr (parse_eq_longArc.mp hfault)

namespace EcKey

theorem ofReading_of_ofCoordinates {c : Curve} {x y : Bytes} {f : Failure}
    (h : ofCoordinates c x y = .error f) : f.OfReading := by
  unfold ofCoordinates at h
  split at h
  · cases h
    exact ⟨_, rfl, by rintro ⟨⟩⟩
  · next e he =>
    split at h
    · rw [map_curveNamed he] at h
      cases h
    · cases h
      exact ⟨_, rfl, by rintro ⟨⟩⟩

theorem ofReading_of_ofPoint {c : Curve} {bs : Bytes} {f : Failure} (h : ofPoint c bs = .error f) :
    f.OfReading := by
  unfold ofPoint at h
  split at h
  · cases h
    exact ⟨_, rfl, by rintro ⟨⟩⟩
  · split at h
    · exact ofReading_of_ofCoordinates h
    · cases h
      exact ⟨_, rfl, by rintro ⟨⟩⟩

theorem ofReading_of_ofView {c : Curve} {v : PublicView} {f : Failure} (h : ofView c v = .error f) :
    f.OfReading := by
  unfold ofView at h
  dsimp only at h
  repeat' split at h
  all_goals first | exact ofReading_of_ofPoint h | (cases h; exact ⟨_, rfl, by rintro ⟨⟩⟩)

theorem ofReading_of_ofKeyWrapJson {c : Curve} {bs : Bytes} {f : Failure}
    (h : ofKeyWrapJson c bs = .error f) : f.OfReading := by
  unfold ofKeyWrapJson at h
  split at h
  · exact ofReading_of_ofView h
  · cases h
    exact ⟨_, rfl, by rintro ⟨⟩⟩

theorem exists_ofPoint_of_ofKeyWrapJson {c : Curve} {bs : Bytes} {k : EcKey}
    (h : ofKeyWrapJson c bs = .ok k) : ∃ point, ofPoint c point = .ok k := by
  unfold ofKeyWrapJson at h
  split at h
  · unfold ofView at h
    dsimp only at h
    repeat' split at h
    all_goals first | exact ⟨_, h⟩ | cases h
  · cases h

theorem curve_of_ofDer {c : Curve} {bs : Bytes} {k : EcKey} (h : ofDer c bs = .ok k) :
    k.curve = c ∧ c.family = .ec := by
  obtain ⟨info, form, k', -, -, hk', rfl⟩ := ofDer_eq_ok_iff.mp h
  obtain ⟨rfl, -, hpoint, -⟩ := toPoint_of_ofPoint hk'
  refine ⟨?_, hpoint.family⟩
  unfold remembering
  split <;> rfl

theorem kind_of_formOf {c : Curve} {info : PublicKeyInfo} {reason : Reason}
    (h : formOf c info = .error reason) : reason.kind ≠ .keyCreation := by
  unfold formOf at h
  repeat' split at h
  all_goals cases h
  all_goals rintro ⟨⟩

theorem ofDer_of_longArc {c : Curve} {bs : Bytes} (h : PublicKeyInfo.HasLongArc bs) :
    ofDer c bs = .error (.refused .arc) := by
  rw [ofDer, PublicKeyInfo.parse_eq_longArc.mpr h]
  rfl

theorem failure_of_ofDer {c : Curve} {bs : Bytes} {f : Failure} (h : ofDer c bs = .error f) :
    f.OfReading ∨ PublicKeyInfo.HasLongArc bs := by
  obtain hparse | ⟨info, -, hforms⟩ := bind_eq_error.mp h
  · exact PublicKeyInfo.failure_of_parse (fun fault => ⟨_, rfl, by rintro ⟨⟩⟩) hparse
  obtain hform | ⟨form, -, hpoint⟩ := bind_eq_error.mp hforms
  · obtain ⟨reason, hreason, rfl⟩ := mapError_eq_error.mp hform
    exact Or.inl ⟨reason, rfl, kind_of_formOf hreason⟩
  obtain hk | ⟨k, -, hdone⟩ := bind_eq_error.mp hpoint
  · exact Or.inl (ofReading_of_ofPoint hk)
  · cases hdone

end EcKey

namespace RsaKey

theorem ofDer_of_longArc {bs : Bytes} (h : PublicKeyInfo.HasLongArc bs) :
    ofDer bs = .error (.refused .arc) := by
  rw [ofDer, PublicKeyInfo.parse_eq_longArc.mpr h]
  rfl

theorem failure_of_ofDer {bs : Bytes} {f : Failure} (h : ofDer bs = .error f) :
    f.OfReading ∨ PublicKeyInfo.HasLongArc bs := by
  obtain hparse | ⟨info, -, hkey⟩ := bind_eq_error.mp h
  · exact PublicKeyInfo.failure_of_parse (fun fault => ⟨_, rfl, by rintro ⟨⟩⟩) hparse
  · refine Or.inl ?_
    repeat' split at hkey
    all_goals cases hkey
    all_goals exact ⟨_, rfl, by rintro ⟨⟩⟩

end RsaKey

theorem OkpKey.ofReading_of_ofRaw {c : Curve} {bs : Option Bytes} {f : Failure}
    (h : ofRaw c bs = .error f) : f.OfReading := by
  unfold ofRaw at h
  dsimp only at h
  split at h
  all_goals cases h
  exact ⟨_, rfl, by rintro ⟨⟩⟩

theorem BlsKey.ofReading_of_ofCompressed {bs : Option Bytes} {f : Failure}
    (h : ofCompressed bs = .error f) : f.OfReading := by
  unfold ofCompressed at h
  dsimp only at h
  repeat' split at h
  all_goals cases h
  all_goals exact ⟨_, rfl, by rintro ⟨⟩⟩

/-! ## Key types -/

namespace Key

theorem ofPublicBytes_of_longArc {t : KeyType} {bs : Bytes} (ht : t.layout = .der)
    (h : PublicKeyInfo.HasLongArc bs) : ofPublicBytes t bs = .error (.refused .arc) := by
  unfold ofPublicBytes
  rw [ht]
  cases t.curve? with
  | none => exact map_eq_error.mpr (RsaKey.ofDer_of_longArc h)
  | some c => exact map_eq_error.mpr (EcKey.ofDer_of_longArc h)

/-- Public bytes are refused with an error of reading, or for an arc too long to be printed. -/
theorem failure_of_ofPublicBytes {t : KeyType} {bs : Bytes} {f : Failure}
    (h : ofPublicBytes t bs = .error f) :
    f.OfReading ∨ t.layout = .der ∧ PublicKeyInfo.HasLongArc bs := by
  unfold ofPublicBytes at h
  split at h
  · exact Or.inl (EcKey.ofReading_of_ofPoint (map_eq_error.mp h))
  · next hlayout _ => exact (EcKey.failure_of_ofDer (map_eq_error.mp h)).imp_right (⟨hlayout, ·⟩)
  · next hlayout _ => exact (RsaKey.failure_of_ofDer (map_eq_error.mp h)).imp_right (⟨hlayout, ·⟩)
  · exact Or.inl (EcKey.ofReading_of_ofKeyWrapJson (map_eq_error.mp h))
  · exact Or.inl (OkpKey.ofReading_of_ofRaw (map_eq_error.mp h))
  · exact Or.inl (BlsKey.ofReading_of_ofCompressed (map_eq_error.mp h))
  · cases h
    exact Or.inl ⟨_, rfl, by rintro ⟨⟩⟩

/-- A key that was read under a type is of the type's family and on its curve. -/
theorem fits_of_ofPublicBytes {t : KeyType} {takes : RsaKey.LoadCheck} {bs : Bytes} {k : Key}
    (h : ofPublicBytes t bs takes = .ok k) : Fits t k := by
  have hec {k : EcKey} {c : Curve} (ht : t.curve? = some c) (hcurve : k.curve = c)
      (hc : c.family = .ec) : Fits t (.ec k) :=
    ⟨hc.symm.trans (curve_family ht), (congrArg some hcurve).trans ht.symm⟩
  unfold ofPublicBytes at h
  split at h
  · next c _ hcurve =>
    obtain ⟨k, hk, rfl⟩ := map_eq_ok.mp h
    obtain ⟨hkc, -, hpoint, -⟩ := EcKey.toPoint_of_ofPoint hk
    exact hec hcurve hkc (hkc ▸ hpoint.family)
  · next c _ hcurve =>
    obtain ⟨k, hk, rfl⟩ := map_eq_ok.mp h
    obtain ⟨hkc, hfamily⟩ := EcKey.curve_of_ofDer hk
    exact hec hcurve hkc hfamily
  · next hlayout hcurve =>
    obtain ⟨k, -, rfl⟩ := map_eq_ok.mp h
    have hfamily : t.family = .rsa := by
      refine (family_of_curve?_none hcurve).resolve_right fun hsymmetric => ?_
      rw [layout_eq_absent_iff.mpr hsymmetric] at hlayout
      cases hlayout
    exact ⟨hfamily.symm, hcurve.symm⟩
  · next c _ hcurve =>
    obtain ⟨k, hk, rfl⟩ := map_eq_ok.mp h
    obtain ⟨bs', hpoint⟩ := EcKey.exists_ofPoint_of_ofKeyWrapJson hk
    obtain ⟨hkc, -, hpoint, -⟩ := EcKey.toPoint_of_ofPoint hpoint
    exact hec hcurve hkc (hkc ▸ hpoint.family)
  · next c hlayout hcurve =>
    obtain ⟨k, hk, rfl⟩ := map_eq_ok.mp h
    cases OkpKey.ofRaw_eq_ok hk
    exact ⟨(family_of_raw hlayout).1.symm, hcurve.symm⟩
  · next hlayout =>
    obtain ⟨k, -, rfl⟩ := map_eq_ok.mp h
    obtain ⟨hfamily, hcurve⟩ := family_of_compressedG2 hlayout
    exact ⟨hfamily.symm, hcurve.symm⟩
  · cases h

end Key

namespace Conversion

open Key

attribute [local instance (2000)] instPowNat

variable {tag : String}

/-- The bytes are DER with an arc that is too long to write, and the tag is that of a DER type. -/
def LongArcUnder (tag : String) (bs : Option Bytes) : Prop :=
  ∃ t data, KeyType.ofTag? tag = some t ∧ t.layout = .der ∧ bs = some data ∧
    PublicKeyInfo.HasLongArc data

theorem named_of_lookup {op : Operation} {f : Failure} (h : lookup op tag = .error f) :
    f.Named tag := by
  unfold lookup at h
  split at h
  · cases h
    exact ⟨_, rfl, rfl, rfl⟩
  · next t ht =>
    split at h
    · cases h
      exact ⟨_, rfl, rfl, congrArg some (KeyType.tag_of_ofTag? ht)⟩
    · cases h

theorem ofTag?_of_lookup {op : Operation} {t : KeyType} (h : lookup op tag = .ok t) :
    KeyType.ofTag? tag = some t ∧ t.family ≠ .symmetric := by
  unfold lookup at h
  split at h
  · cases h
  · next t' ht =>
    split at h
    · cases h
    · next hfamily =>
      cases h
      exact ⟨ht, hfamily⟩

theorem named_of_inOperation {α : Type} {op : Operation} {t : KeyType} {f f' : Failure}
    (hf : f.Bare) (h : inOperation op t (.error f : Result α) = .error f') : f'.Named t.tag := by
  obtain ⟨reason, rfl⟩ := hf
  cases h
  exact ⟨_, rfl, rfl, rfl⟩

theorem error_of_inOperation {α : Type} {op : Operation} {t : KeyType} {r : Result α}
    {f' : Failure} (h : inOperation op t r = .error f') : ∃ f, r = .error f := by
  cases r with
  | ok a => cases h
  | error f => exact ⟨f, rfl⟩

/-! ## Exactly when an unnamed failure comes through -/

/-- Reading a key fails with an error that names the key type, or for an arc too long to be printed.
-/
theorem failure_of_decodeKey {bs : Option Bytes} {f : Failure}
    (h : (decodeKey bs tag).result = .error f) : f.Named tag ∨ LongArcUnder tag bs := by
  rw [decodeKey, Traced.result_timed] at h
  obtain hlookup | ⟨t, hlookup, hkey⟩ := bind_eq_error.mp h
  · exact Or.inl (named_of_lookup hlookup)
  obtain ⟨ht, -⟩ := ofTag?_of_lookup hlookup
  have htag := KeyType.tag_of_ofTag? ht
  cases bs with
  | none =>
    cases hkey
    exact Or.inl ⟨_, rfl, rfl, congrArg some htag⟩
  | some data =>
    obtain ⟨f', hf'⟩ := error_of_inOperation hkey
    obtain hreading | ⟨hlayout, hlong⟩ := failure_of_ofPublicBytes hf'
    · rw [keyOfBytes, hf'] at hkey
      exact Or.inl (htag ▸ named_of_inOperation hreading.bare hkey)
    · exact Or.inr ⟨t, data, ht, hlayout, rfl, hlong⟩

theorem lookup_of_layout_der {op : Operation} {t : KeyType} (ht : KeyType.ofTag? tag = some t)
    (hlayout : t.layout = .der) : lookup op tag = .ok t := by
  have hfamily : t.family ≠ .symmetric := by
    rw [Ne, ← layout_eq_absent_iff, hlayout]
    decide
  rw [← KeyType.tag_of_ofTag? ht, lookup_tag op hfamily]

theorem decodeKey_of_longArc {bs : Option Bytes} (h : LongArcUnder tag bs) :
    (decodeKey bs tag).result = .error (.refused .arc) := by
  obtain ⟨t, data, ht, hlayout, rfl, hlong⟩ := h
  rw [decodeKey, Traced.result_timed, lookup_of_layout_der ht hlayout]
  show inOperation _ _ (ofPublicBytes t data) = _
  rw [ofPublicBytes_of_longArc hlayout hlong]
  rfl

/-- Reading a web key fails as reading a key does. -/
theorem failure_of_decodeWebKey {bs : Option Bytes} {kid : Option String} {f : Failure}
    (h : (decodeWebKey bs tag kid).result = .error f) : f.Named tag ∨ LongArcUnder tag bs := by
  rw [decodeWebKey, Traced.result_timed, Traced.result_andThen] at h
  obtain hlookup | ⟨t, hlookup, hwebKey⟩ := bind_eq_error.mp h
  · exact Or.inl (named_of_lookup hlookup)
  obtain ⟨ht, hfamily⟩ := ofTag?_of_lookup hlookup
  have htag := KeyType.tag_of_ofTag? ht
  rw [Traced.result_andThen] at hwebKey
  obtain hkey | ⟨k, hkey, hcreate⟩ := bind_eq_error.mp hwebKey
  · rw [htag] at hkey
    exact failure_of_decodeKey hkey
  · cases bs with
    | none =>
      rw [decodeKey, Traced.result_timed, lookup_tag _ hfamily] at hkey
      cases hkey
    | some data =>
      -- The key fits its type, so the label of the type is that of the key.
      rw [result_decodeKey hfamily] at hkey
      have hfits := fits_of_ofPublicBytes (inOperation_eq_ok.mp hkey)
      rw [Traced.ofResult, WebKey.create, labelOf_eq hfamily hfits, if_pos rfl] at hcreate
      cases hcreate

theorem decodeWebKey_of_longArc {bs : Option Bytes} (h : LongArcUnder tag bs)
    (kid : Option String) : (decodeWebKey bs tag kid).result = .error (.refused .arc) := by
  have hkey := decodeKey_of_longArc h
  obtain ⟨t, data, ht, hlayout, rfl, hlong⟩ := h
  rw [decodeWebKey, Traced.result_timed, Traced.result_andThen, lookup_of_layout_der ht hlayout]
  show (Traced.andThen _ _).result = _
  rw [Traced.result_andThen, KeyType.tag_of_ofTag? ht, hkey]
  rfl

/-- Decoding fails with a conversion error that names the operation and the key type, for all bytes
and all tags but one kind: under a DER type, DER with an arc that is too long to write fails without
either name, always and in both operations. -/
theorem decoding_failures (bs : Option Bytes) (tag : String) (kid : Option String) :
    (¬LongArcUnder tag bs → (∀ f, (decodeKey bs tag).result = .error f → f.Named tag) ∧
      ∀ f, (decodeWebKey bs tag kid).result = .error f → f.Named tag) ∧
    (LongArcUnder tag bs → (decodeKey bs tag).result = .error (.refused .arc) ∧
      (decodeWebKey bs tag kid).result = .error (.refused .arc)) := by
  constructor
  · intro hnot
    exact ⟨fun f h => (failure_of_decodeKey h).resolve_right hnot,
      fun f h => (failure_of_decodeWebKey h).resolve_right hnot⟩
  · intro hlong
    exact ⟨decodeKey_of_longArc hlong, decodeWebKey_of_longArc hlong kid⟩

/-- The arc 10 ^ 4300 is the smallest that is too long. As the second arc of an algorithm it makes
decoding fail without a name. -/
theorem smallest_long_arc_unnamed : ∃ f,
    (decodeKey (some (PublicKeyInfo.framed (Der.encode Der.objectIdTag
      (ObjectId.base128 (10 ^ Text.longestNumeral + 80))) [0])) "ECDSAP256DER").result = .error f ∧
    ¬f.Named "ECDSAP256DER" := by
  have hdigits : (10 ^ Text.longestNumeral + 80) / 128 < 128 ^ 2040 := by decide +kernel
  have hlong := PublicKeyInfo.hasLongArc_base128 (Nat.le_refl _) hdigits (by decide)
  refine ⟨.refused .arc, decodeKey_of_longArc ⟨.p256Der, _, rfl, rfl, rfl, hlong⟩, ?_⟩
  rintro ⟨e, he, -⟩
  cases he

end Conversion

end WebKeys
