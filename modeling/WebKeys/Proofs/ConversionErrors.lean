import WebKeys.Proofs.UnsignedErrors
import WebKeys.Session

/-!
# Which conversion errors name an operation

Decoding and writing name the operation around the layouts, and making a web key does so around a
key that is taken over. Two gaps are left: a document is read by a layout that nothing is put
around, and before writing and labelling a held key is taken over where nothing watches yet.

* `Call`: a call of an operation, `Call.Unnamed` one that falls into a gap.
* `Call.unsigned_ending`: those calls, and no others, fail without the name of an operation.
* `conversion_errors`: whatever is called, the error names the operation and the tag, or the call is
  one of these.
-/

namespace WebKeys

open Outcome

open ConversionError (Unsigned)

/-! ## Writing -/

section Writing

variable {sort : ConversionError → Prop} {preferred : Result DerForm}

namespace EcKey

theorem raises_coordinate (c : Curve) (n : Int) : ¬Raises sort (coordinate c n) := by
  unfold coordinate
  split <;> simp

theorem raises_toPoint (k : EcKey) : ¬Raises sort k.toPoint := by
  simp [toPoint, raises_bind, raises_coordinate]

theorem raises_toView (k : EcKey) : ¬Raises sort k.toView := by
  simp [toView, raises_bind, raises_coordinate]

theorem raises_toForm (form : DerForm) (k : EcKey) : ¬Raises sort (k.toForm form) := by
  simp [toForm, raises_bind, raises_toPoint]

theorem raises_curveNamed (hsort : ∀ reason, ¬sort (.ofReason reason)) (secName : String) :
    ¬Raises sort (curveNamed secName) := by
  unfold curveNamed
  split <;> simp [Failure.ofReason, raises_conversion, hsort]

theorem raises_toDer (hpreferred : ¬Raises sort preferred)
    (hsort : ∀ reason, ¬sort (.ofReason reason)) (k : EcKey) :
    ¬Raises sort (k.toDer preferred) := by
  have haccepted : ¬Raises sort k.accepted := by
    unfold accepted
    repeat' split
    all_goals simp [refuse, unrepresentable, Failure.ofReason, raises_conversion, hsort, raises_map,
      raises_curveNamed hsort]
  unfold toDer
  split
  · unfold marshal
    split
    · exact raises_toForm _ _
    · simp [raises_bind, hpreferred, raises_toForm]
  · simp only [raises_bind, haccepted, false_or, not_exists, not_and]
    rintro k -
    split
    · simp
    · exact raises_toForm _ _

end EcKey

/-- Writing in a layout reports conversion errors as they first come up. -/
theorem Key.raises_toPublicBytes (hpreferred : ¬Raises sort preferred)
    (hsort : ∀ reason, ¬sort (.ofReason reason)) (t : KeyType) (k : Key) :
    ¬Raises sort (k.toPublicBytes preferred t) := by
  have hlayout : ¬Raises sort (k.inLayout preferred t.layout) := by
    cases k with
    | ec k =>
      have hjson : ¬Raises sort (k.toKeyWrapJson.map fun s => Utf8.encode s.toList) := by
        simp [EcKey.toKeyWrapJson, raises_bind, k.raises_toView]
      cases t.layout with
      | point => exact k.raises_toPoint
      | der => exact k.raises_toDer hpreferred hsort
      | _ => exact hjson
    | okp k => exact raises_ok _
    | bls k => exact raises_ok _
    | rsa k => simp [inLayout, RsaKey.toDer, raises_bind, RsaKey.raises_accepted]
  unfold toPublicBytes
  split
  · rw [Failure.ofReason, raises_conversion]
    exact hsort _
  · exact hlayout

/-- The preferred form is refused as a document is, never as a key. -/
theorem Session.raises_preferred (asks : Bool) (s : Session) :
    ¬Raises sort (s.preferred asks).1 := by
  unfold preferred
  split
  · simp only [raises_map]
    unfold consult
    split
    · simp
    · dsimp only
      split <;> simp
  · simp

end Writing

namespace Conversion

/-! ## Calls -/

/-- A call of an operation that reads, makes, flattens or writes keys. -/
inductive Call
  | decodeKey (bs : Option Bytes) (tag : String)
  | decodeWebKey (bs : Option Bytes) (tag : String) (kid : Option String)
  | encodeKey (c : Candidate) (tag : String)
  | wrapKey (c : Candidate) (kid use alg : Option String)
  | wrapX25519 (bs : Option Bytes) (kid : Option String)
  | view (c : Candidate)
  | labelKey (c : Candidate) (label : Option String × Option String) (kid use alg : Option String)
  | readJson (v : Json)
  | readText (bs : Bytes)

namespace Call

/-- How a call ends in a session, whatever it gives. -/
def ending (s : Session) : Call → Result Unit
  | decodeKey bs tag => (Conversion.decodeKey bs tag).result.map fun _ => ()
  | decodeWebKey bs tag kid => (Conversion.decodeWebKey bs tag kid).result.map fun _ => ()
  | encodeKey c tag => (s.encodeKey c tag).1.result.map fun _ => ()
  | wrapKey c kid use alg => (Conversion.wrapKey c kid use alg).result.map fun _ => ()
  | wrapX25519 bs kid => (Conversion.wrapX25519 bs kid).map fun _ => ()
  | view c => (Conversion.view c).result.map fun _ => ()
  | labelKey c label kid use alg => (c.toWebKey label kid use alg).map fun _ => ()
  | readJson v => (WebKey.ofJson v).map fun _ => ()
  | readText bs => (WebKey.ofJsonText bs).map fun _ => ()

/-- The tag of the key type that is asked for. -/
def tag? : Call → Option String
  | decodeKey _ tag | decodeWebKey _ tag _ | encodeKey _ tag => some tag
  | _ => none

/-- The calls that fail without the name of an operation: a held key on a foreign curve is to be
written or labelled, or a document is read whose public part a layout refuses. -/
inductive Unnamed : Call → Prop
  | encodeKey {c : Candidate} {tag secName : String} {t : KeyType}
      (ht : KeyType.ofTag? tag = some t) (hpublic : t.family ≠ .symmetric)
      (hc : c.OnForeignCurve secName) : Unnamed (.encodeKey c tag)
  | labelKey {c : Candidate} {secName : String} (hc : c.OnForeignCurve secName)
      (label : Option String × Option String) (kid use alg : Option String) :
      Unnamed (.labelKey c label kid use alg)
  | view {ms : Members} {doc : Document} {c : Curve} (hdoc : Document.ofMembers ms = .ok doc)
      (hcurve : doc.OnCurve c) (h : doc.LayoutRefuses c) : Unnamed (.view (.document ms))
  | readJson {v : Json} {doc : Document} {c : Curve} (hdoc : Document.ofJson v = .ok doc)
      (hcurve : doc.OnCurve c) (h : doc.LayoutRefuses c) : Unnamed (.readJson v)
  | readText {bs : Bytes} {doc : Document} {c : Curve} (hdoc : Document.ofJsonText bs = .ok doc)
      (hcurve : doc.OnCurve c) (h : doc.LayoutRefuses c) : Unnamed (.readText bs)

end Call

/-! ## Operations with a key type -/

variable {tag : String} {sort : ConversionError → Prop}

/-- What a conversion adds to the errors that come up in it. -/
theorem raises_inOperation {α : Type} {op : Operation} {t : KeyType} {r : Result α}
    (hr : ¬Raises (¬·.Unsigned) r) (h : Raises sort (inOperation op t r)) :
    ∃ e, sort e ∧ e.operation = some op ∧ e.keyType = some t.tag := by
  obtain ⟨e', he', hsort⟩ := h
  unfold inOperation at he'
  split at he'
  · next e =>
    have hunsigned : e.operation = none := by
      by_contra hsigned
      exact hr ⟨e, rfl, hsigned⟩
    rw [hunsigned] at he'
    cases he'
    exact ⟨_, hsort, rfl, rfl⟩
  · next hother =>
    exact absurd he' (hother e')

/-- Every conversion error of writing names the operation and the tag, or is that of a foreign
curve. -/
theorem raises_bytesOf {preferred : Result DerForm} (hpreferred : ¬Raises (¬·.Unsigned) preferred)
    {c : Candidate} : Raises sort (bytesOf preferred c tag) →
      (∃ e, sort e ∧ (Failure.conversion e).Named tag) ∨
      ∃ t secName, lookup .encodeKey tag = .ok t ∧ c.OnForeignCurve secName ∧
        sort (.ofReason (.foreignCurve secName)) := by
  have hnamed {e : ConversionError} {t : KeyType} {op : Operation} (ht : t.tag = tag)
      (hsort : sort e) (hop : e.operation = some op) (htype : e.keyType = some t.tag) :
      ∃ e, sort e ∧ (Failure.conversion e).Named tag :=
    ⟨e, hsort, e, rfl, by rw [hop]; rfl, htype.trans (congrArg some ht)⟩
  intro h
  obtain ⟨e, he, hsort⟩ | ⟨t, ht, h⟩ := raises_bind.mp h
  · exact Or.inl ⟨e, hsort, named_of_lookup he⟩
  have htag := KeyType.tag_of_ofTag? (ofTag?_of_lookup ht).1
  obtain hkey | ⟨k, -, h⟩ := raises_bind.mp h
  · unfold keyToEncode at hkey
    split at hkey
    · exact Or.inl (hnamed htag ((raises_conversion _).mp hkey) rfl rfl)
    · exact absurd hkey (raises_ok _)
    · obtain hheld | ⟨k?, -, hkey⟩ := raises_bind.mp hkey
      · obtain ⟨secName, hc, hsort⟩ := Candidate.raises_toKey?.mp hheld
        exact Or.inr ⟨t, secName, ht, hc, hsort⟩
      · split at hkey
        · exact absurd hkey (raises_ok _)
        · exact Or.inl (hnamed htag ((raises_conversion _).mp hkey) rfl rfl)
  · have hwriting := k.publicPart.raises_toPublicBytes hpreferred
      (fun _ hsigned => hsigned rfl) t
    obtain ⟨e, hsort, hop, htype⟩ := raises_inOperation hwriting h
    exact Or.inl (hnamed htag hsort hop htype)

/-! ## Operations without a key type -/

theorem raises_create (k : Key) (label : Option String × Option String)
    (kid use alg : Option String) : ¬Raises Unsigned (WebKey.create k label kid use alg) := by
  unfold WebKey.create
  split <;> simp

theorem raises_ofChecked {r : Except (List FieldFault) Document} :
    Raises Unsigned (WebKey.ofChecked r) ↔
      ∃ doc c, r = .ok doc ∧ doc.OnCurve c ∧ doc.LayoutRefuses c := by
  cases r with
  | error faults => simp [WebKey.ofChecked]
  | ok doc =>
    simp [WebKey.ofChecked, WebKey.ofDocument, raises_bind, WebKey.unsigned_keyOf,
      WebKey.ofKey_eq_ok]

/-- Making a web key of a candidate always names the operation that failed. -/
theorem raises_webKeyOf (c : Candidate) (kid use alg : Option String) :
    ¬Raises Unsigned (webKeyOf c kid use alg) := by
  have hcreating {α : Type} (r : Result α) : ¬Raises Unsigned (whileCreating r) := by
    unfold whileCreating
    split
    · rw [raises_conversion]
      rintro ⟨⟩
    · next hother =>
      rintro ⟨e, he, -⟩
      exact hother e he
  unfold webKeyOf
  split
  · simp
  · simp only [raises_bind, hcreating, false_or, not_exists, not_and]
    rintro k? -
    split
    · exact raises_create _ _ _ _ _
    · simp

theorem raises_wrapX25519 (bs : Option Bytes) (kid : Option String) :
    ¬Raises Unsigned (wrapX25519 bs kid) := by
  unfold wrapX25519
  split
  · exact raises_create _ _ _ _ _
  · rw [raises_conversion]
    rintro ⟨⟩
  · next f hother _ =>
    rintro ⟨e, he, -⟩
    cases he
    exact hother e rfl

theorem raises_viewOf (w : WebKey) : ¬Raises sort (viewOf w) := by
  have hshortest (n : Int) : ¬Raises sort (shortest n) := by
    unfold shortest
    split <;> simp
  unfold viewOf
  split
  · simp [raises_bind, EcKey.raises_toView]
  · exact raises_ok _
  · exact raises_ok _
  · simp [raises_bind, hshortest]

theorem raises_viewOfCandidate {c : Candidate} : Raises Unsigned (viewOfCandidate c) ↔
    ∃ ms, c = .document ms ∧
      ∃ doc c, Document.ofMembers ms = .ok doc ∧ doc.OnCurve c ∧ doc.LayoutRefuses c := by
  cases c with
  | document ms =>
    show Raises Unsigned (WebKey.ofJson (.object ms) >>= viewOf) ↔ _
    simp [raises_bind, raises_viewOf, WebKey.ofJson_object, raises_ofChecked]
  | webKey w => simp [viewOfCandidate, raises_viewOf]
  | _ => simp [viewOfCandidate]

/-! ## All calls -/

theorem named_of_decoding {α : Type} {bs : Option Bytes} {r : Result α}
    (hfailure : ∀ f, r = .error f → f.Named tag ∨ LongArcUnder tag bs)
    (hlong : LongArcUnder tag bs → r = .error (.refused .arc)) (h : Raises sort r) :
    ∃ e, sort e ∧ (Failure.conversion e).Named tag := by
  obtain ⟨e, he, hsort⟩ := h
  obtain hnamed | harc := hfailure _ he
  · exact ⟨e, hsort, hnamed⟩
  · cases he.symm.trans (hlong harc)

theorem named_of_decodeKey {bs : Option Bytes} (h : Raises sort (decodeKey bs tag).result) :
    ∃ e, sort e ∧ (Failure.conversion e).Named tag :=
  named_of_decoding (fun _ => failure_of_decodeKey) decodeKey_of_longArc h

theorem named_of_decodeWebKey {bs : Option Bytes} {kid : Option String}
    (h : Raises sort (decodeWebKey bs tag kid).result) :
    ∃ e, sort e ∧ (Failure.conversion e).Named tag :=
  named_of_decoding (fun _ => failure_of_decodeWebKey) (decodeWebKey_of_longArc · kid) h

theorem not_unsigned_of_named {e : ConversionError} (h : (Failure.conversion e).Named tag) :
    ¬e.Unsigned := by
  obtain ⟨_, he, hop, -⟩ := h
  cases he
  intro hunsigned
  rw [hunsigned] at hop
  cases hop

/-- Making a web key under a given label fails without naming an operation only for a key on a
foreign curve. -/
theorem raises_toWebKey {c : Candidate} {label : Option String × Option String}
    {kid use alg : Option String} : Raises Unsigned (c.toWebKey label kid use alg) ↔
      ∃ secName, c.OnForeignCurve secName := by
  have hunsigned (secName : String) :
      (ConversionError.ofReason (.foreignCurve secName)).Unsigned := rfl
  unfold Candidate.toWebKey
  rw [raises_bind, Candidate.raises_toKey?]
  simp only [hunsigned, and_true, or_iff_left_iff_imp]
  rintro ⟨k?, -, h⟩
  cases k? with
  | some k => exact absurd h (raises_create _ _ _ _ _)
  | none => exact absurd h (raises_ofReason_some _ _)

theorem Call.raises_encodeKey {c : Candidate} (s : Session)
    (h : Raises sort (s.encodeKey c tag).1.result) :
    (∃ e, sort e ∧ (Failure.conversion e).Named tag) ∨
      ∃ t secName, lookup .encodeKey tag = .ok t ∧ c.OnForeignCurve secName ∧
        sort (.ofReason (.foreignCurve secName)) :=
  raises_bytesOf (Session.raises_preferred _ s) h

theorem Call.encodeKey_of_foreign {c : Candidate} {secName : String} {t : KeyType} (s : Session)
    (ht : lookup .encodeKey tag = .ok t) (hc : c.OnForeignCurve secName) :
    Raises Unsigned (s.encodeKey c tag).1.result := by
  obtain ⟨scalar, keepsScalar, hname⟩ := hc
  have hkey : (Candidate.held (.ec secName scalar keepsScalar)).toKey? =
      .error (.ofReason (.foreignCurve secName)) := by
    simp [Candidate.toKey?, HeldKey.toKey, HeldKey.toEcKey, EcKey.curveNamed, hname, Except.map]
  show Raises Unsigned (bytesOf _ _ tag)
  rw [bytesOf, ht, ok_bind, keyToEncode]
  · rw [hkey]
    exact raises_ofReason_none _
  · rintro ⟨⟩
  · rintro w ⟨⟩

/-- Exactly these calls fail without the name of an operation. -/
theorem Call.unsigned_ending (s : Session) {call : Call} :
    Raises Unsigned (call.ending s) ↔ call.Unnamed := by
  cases call with
  | decodeKey bs tag =>
    simp only [ending, raises_map]
    constructor
    · intro h
      obtain ⟨e, hunsigned, hnamed⟩ := named_of_decodeKey h
      exact absurd hunsigned (not_unsigned_of_named hnamed)
    · rintro ⟨⟩
  | decodeWebKey bs tag kid =>
    simp only [ending, raises_map]
    constructor
    · intro h
      obtain ⟨e, hunsigned, hnamed⟩ := named_of_decodeWebKey h
      exact absurd hunsigned (not_unsigned_of_named hnamed)
    · rintro ⟨⟩
  | encodeKey c tag =>
    simp only [ending, raises_map]
    constructor
    · intro h
      obtain ⟨e, hunsigned, hnamed⟩ | ⟨t, secName, ht, hc, -⟩ := raises_encodeKey s h
      · exact absurd hunsigned (not_unsigned_of_named hnamed)
      · obtain ⟨htag, hpublic⟩ := ofTag?_of_lookup ht
        exact .encodeKey htag hpublic hc
    · intro h
      cases h with
      | encodeKey htag hpublic hc =>
        rw [← KeyType.tag_of_ofTag? htag]
        exact encodeKey_of_foreign s (lookup_tag _ hpublic) hc
  | wrapKey c kid use alg =>
    simp only [ending, raises_map]
    exact iff_of_false (raises_webKeyOf c kid use alg) (by rintro ⟨⟩)
  | wrapX25519 bs kid =>
    simp only [ending, raises_map]
    exact iff_of_false (raises_wrapX25519 bs kid) (by rintro ⟨⟩)
  | view c =>
    simp only [ending, raises_map]
    show Raises Unsigned (viewOfCandidate c) ↔ _
    rw [raises_viewOfCandidate]
    constructor
    · rintro ⟨ms, rfl, doc, c, hdoc, hcurve, h⟩
      exact .view hdoc hcurve h
    · intro h
      cases h with
      | view hdoc hcurve h => exact ⟨_, rfl, _, _, hdoc, hcurve, h⟩
  | labelKey c label kid use alg =>
    simp only [ending, raises_map]
    rw [raises_toWebKey]
    constructor
    · rintro ⟨secName, hc⟩
      exact .labelKey hc label kid use alg
    · intro h
      cases h with
      | labelKey hc => exact ⟨_, hc⟩
  | readJson v =>
    simp only [ending, raises_map]
    rw [WebKey.ofJson, raises_ofChecked]
    constructor
    · rintro ⟨doc, c, hdoc, hcurve, h⟩
      exact .readJson hdoc hcurve h
    · intro h
      cases h with
      | readJson hdoc hcurve h => exact ⟨_, _, hdoc, hcurve, h⟩
  | readText bs =>
    simp only [ending, raises_map]
    rw [WebKey.ofJsonText, raises_ofChecked]
    constructor
    · rintro ⟨doc, c, hdoc, hcurve, h⟩
      exact .readText hdoc hcurve h
    · intro h
      cases h with
      | readText hdoc hcurve h => exact ⟨_, _, hdoc, hcurve, h⟩

/-- Where an operation with a key type names the operation, it names the tag too. -/
theorem Call.keyType_of_signed (s : Session) {call : Call} {e : ConversionError} {tag : String}
    (he : call.ending s = .error (.conversion e)) (hsigned : ¬e.Unsigned)
    (htag : call.tag? = some tag) : e.keyType = some tag := by
  have hraises : Raises (· = e) (call.ending s) := ⟨e, he, rfl⟩
  have hnamed : (Failure.conversion e).Named tag := by
    cases call with
    | decodeKey bs tag' =>
      cases htag
      simp only [ending, raises_map] at hraises
      obtain ⟨_, rfl, h⟩ := named_of_decodeKey hraises
      exact h
    | decodeWebKey bs tag' kid =>
      cases htag
      simp only [ending, raises_map] at hraises
      obtain ⟨_, rfl, h⟩ := named_of_decodeWebKey hraises
      exact h
    | encodeKey c tag' =>
      cases htag
      simp only [ending, raises_map] at hraises
      obtain ⟨_, rfl, h⟩ | ⟨_, _, -, -, rfl⟩ := raises_encodeKey s hraises
      · exact h
      · exact absurd rfl hsigned
    | _ => cases htag
  obtain ⟨_, he', -, htype⟩ := hnamed
  cases he'
  exact htype

/-- The conversion error of a call names the operation, first of all in its message, and also the
tag where the call has one; unless a held key on a foreign curve is written or labelled, or a
document is read whose public part a layout refuses. Those calls all fail with an error that names
none. -/
theorem conversion_errors (s : Session) (call : Call) :
    (¬call.Unnamed → ∀ e, call.ending s = .error (.conversion e) →
      (∃ op, e.operation = some op ∧ e.message = op.name ++ ": " ++ e.reason.message) ∧
        ∀ tag, call.tag? = some tag → e.keyType = some tag) ∧
    (call.Unnamed → ∃ e, call.ending s = .error (.conversion e) ∧ e.operation = none) := by
  constructor
  · intro hnot e he
    have hsigned : ¬e.Unsigned := fun h => hnot ((Call.unsigned_ending s).mp ⟨e, he, h⟩)
    refine ⟨?_, fun tag htag => Call.keyType_of_signed s he hsigned htag⟩
    obtain ⟨op, hop⟩ := Option.ne_none_iff_exists'.mp hsigned
    exact ⟨op, hop, by rw [ConversionError.message, hop]⟩
  · exact (Call.unsigned_ending s).mpr

/-- One byte under a curve whose keys have 32: the error has the reason alone. -/
theorem short_member_unnamed : ∃ e, WebKey.ofJson (.object [("kty", .string "OKP"),
      ("crv", .string "Ed25519"), ("x", .string "AA")]) = .error (.conversion e) ∧
    e.operation = none ∧ e.message = "invalid Ed25519 key size: 1 bytes, expected 32" :=
  ⟨_, rfl, rfl, rfl⟩

end Conversion

end WebKeys
