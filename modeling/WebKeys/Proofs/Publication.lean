import WebKeys.Proofs.Document
import WebKeys.Proofs.SettledKey

/-!
# Published keys are read as they are

`Key.document` is the document that a settled key is published as. Its members are those that are
written (`members_eq_document`), and what is read from it is the key itself, with its private part
if that was published (`keyOf_document`).
-/

namespace WebKeys

open Outcome Json

/-! ## Numbers as texts -/

namespace WebKey

theorem decode_bytesText (bs : Bytes) :
    Base64.decodeUnpadded .link (bytesText bs).toList = .ok bs := by
  rw [bytesText, String.toList_ofList, Base64.decodeUnpadded_encode]

theorem decodeMember_bytesText (name : String) (bs : Bytes) :
    decodeMember name (bytesText bs) = .ok bs := by
  rw [decodeMember, decode_bytesText]

theorem required_bytesText (name : String) {bs : Bytes} (h : bs ≠ []) :
    required name (some (bytesText bs)) = .ok bs := by
  have hne : (bytesText bs).isEmpty = false := by
    rw [Bool.eq_false_iff, Ne, String.isEmpty_iff]
    intro heq
    have hnil := congrArg String.toList heq
    rw [bytesText, String.toList_ofList] at hnil
    exact Base64.encode_ne_nil h hnil
  rw [required, hne, if_neg (by decide), decodeMember_bytesText]

theorem optionalNumber_bytesText (name : String) (bs : Bytes) :
    optionalNumber name (some (bytesText bs)) = .ok (some (Bytes.toNat bs : Int)) := by
  rw [optionalNumber, decodeMember_bytesText]
  rfl

/-- A number in a fixed width, as it stands in a document. -/
def fixedNumber (width : Nat) (n : Int) : String := bytesText (Bytes.ofNat width n.toNat)

/-- A number in the fewest bytes, as it stands in a document. -/
def minimalNumber (n : Int) : String := fixedNumber (max 1 (Bytes.width n.natAbs)) n

theorem fixedText_eq_ok {width : Nat} {n : Int} (h0 : 0 ≤ n) (h : n < 256 ^ width) :
    fixedText width n = .ok (fixedNumber width n) := by
  rw [fixedText, Bytes.ofInt?_eq_some.mpr ⟨⟨h0, h⟩, rfl⟩]
  rfl

theorem minimalText_eq_ok {n : Int} (h : 0 ≤ n) : minimalText n = .ok (minimalNumber n) := by
  obtain ⟨m, rfl⟩ := Int.eq_ofNat_of_zero_le h
  rw [minimalText, Bytes.minimal?_natCast]
  rfl

theorem optionalNumber_fixedNumber (name : String) {width : Nat} {n : Int} (h0 : 0 ≤ n)
    (h : n < 256 ^ width) : optionalNumber name (some (fixedNumber width n)) = .ok (some n) := by
  rw [fixedNumber, optionalNumber_bytesText, Bytes.toNat_ofNat_toNat h0 h]

/-- A number in the fewest bytes is the number that was written. -/
theorem toNat_minimalBytes {n : Int} (h : 0 ≤ n) :
    (Bytes.toNat (Bytes.ofNat (max 1 (Bytes.width n.natAbs)) n.toNat) : Int) = n := by
  obtain ⟨m, rfl⟩ := Int.eq_ofNat_of_zero_le h
  exact congrArg Int.ofNat (Bytes.toNat_minimal m)

theorem optionalNumber_minimalNumber (name : String) {n : Int} (h : 0 ≤ n) :
    optionalNumber name (some (minimalNumber n)) = .ok (some n) := by
  rw [minimalNumber, fixedNumber, optionalNumber_bytesText, toNat_minimalBytes h]

theorem required_fixedNumber (name : String) {width : Nat} (h : 0 < width) (n : Int) :
    required name (some (fixedNumber width n)) = .ok (Bytes.ofNat width n.toNat) := by
  refine required_bytesText name fun hnil => ?_
  have := congrArg List.length hnil
  rw [Bytes.length_ofNat, List.length_nil] at this
  omega

/-- The number of a member that must be there, as it was written. -/
theorem required_minimalNumber (name : String) {n : Int} (h : 0 ≤ n) :
    ∃ bs, required name (some (minimalNumber n)) = .ok bs ∧ (Bytes.toNat bs : Int) = n :=
  ⟨_, required_fixedNumber name (Nat.lt_of_lt_of_le Nat.one_pos (Nat.le_max_left _ _)) n,
    toNat_minimalBytes h⟩

theorem minimalMembers_eq_ok {ms : List (String × Option Int)}
    (h : ∀ m ∈ ms, ∀ n, m.2 = some n → 0 ≤ n) :
    minimalMembers ms = .ok (present (ms.map fun m => (m.1, m.2.map minimalNumber))) := by
  induction ms with
  | nil => rfl
  | cons m ms ih =>
    obtain ⟨name, value⟩ := m
    obtain ⟨hhead, htail⟩ := List.forall_mem_cons.mp h
    cases value with
    | none => exact ih htail
    | some n =>
      rw [minimalMembers, minimalText_eq_ok (hhead n rfl), ok_bind, ih htail]
      rfl

end WebKey

/-! ## The document of a key -/

open WebKey

/-- A document with nothing but a label and the members that go along unread. -/
def Document.labelled (label : String × Option String) (kid use alg : Option String) : Document :=
  ⟨label.1, label.2, kid, use, alg, none, none, none, none, none, none, none, none, none, none⟩

def Key.document (k : Key) (kid use alg : Option String) : Document :=
  let doc := Document.labelled k.label kid use alg
  match k with
  | .ec k =>
    { doc with
      x := some (fixedNumber k.curve.size k.x)
      y := some (fixedNumber k.curve.size k.y)
      d := k.d.map (fixedNumber k.curve.size) }
  | .okp k => { doc with x := some (bytesText k.x), d := k.d.map bytesText }
  | .bls k => { doc with x := some (bytesText k.x), d := k.d.map (fixedNumber 32) }
  | .rsa k =>
    { doc with
      n := some (minimalNumber k.n)
      e := some (minimalNumber k.e)
      d := k.d.map minimalNumber
      p := k.p.map minimalNumber
      q := k.q.map minimalNumber
      dp := k.dp.map minimalNumber
      dq := k.dq.map minimalNumber
      qi := k.qi.map minimalNumber }

theorem Key.kty_document (k : Key) (kid use alg : Option String) :
    (k.document kid use alg).kty = k.label.1 := by
  cases k <;> rfl

theorem Curve.group_ne_empty (c : Curve) : c.group.isEmpty = false := by
  cases c <;> decide +kernel

theorem Curve.group_cases (c : Curve) : c.group = "EC" ∨ c.group = "OKP" := by
  cases c <;> decide +kernel

theorem Curve.group_ne_rsa (c : Curve) : c.group ≠ "RSA" := by
  cases c <;> decide +kernel

theorem Key.kty_document_ne_empty (k : Key) (kid use alg : Option String) :
    (k.document kid use alg).kty.isEmpty = false := by
  rw [kty_document, label]
  split
  · next c _ => exact c.group_ne_empty
  · decide +kernel

/-! ## Writing -/

namespace WebKey

/-- A settled key under its own label. -/
structure Settled (w : WebKey) : Prop where
  key : w.key.Settled
  group : w.group = w.key.label.1
  curve : w.curve = w.key.label.2

def document (w : WebKey) : Document := w.key.document w.kid w.use w.alg

/-- The members of a web key are its label, its settings and what its key contributes. -/
theorem members_eq_present {w : WebKey} {ps qs : List (String × Option String)}
    (hpublic : publicMembers w.key = .ok (present ps))
    (hprivate : privateMembers w.key = .ok (present qs)) :
    w.members = .ok (present ([("kty", some w.group), ("crv", w.curve)] ++ ps ++ qs ++
      [("kid", w.kid), ("use", w.use), ("alg", w.alg)])) := by
  have htail : present [("kid", w.kid), ("use", w.use), ("alg", w.alg)] =
      present [("kid", w.kid)] ++ (present [("use", w.use)] ++ present [("alg", w.alg)]) := by
    rw [← present_append, ← present_append]
    rfl
  rw [members, hpublic, ok_bind, if_pos rfl, hprivate, ok_bind, optionalMember_eq,
    optionalMember_eq, optionalMember_eq, optionalMember_eq, present_append, present_append,
    present_append, htail]
  simp

/-- The private scalar of a settled key on an elliptic curve fits the width of a coordinate. -/
theorem scalar_range {k : EcKey} (h : (Key.ec k).Settled) :
    ∀ d, k.d = some d → 0 ≤ d ∧ d < 256 ^ k.curve.size := by
  intro d hd
  obtain ⟨h0, hscalar⟩ := h.2.2 d hd
  obtain ⟨-, -, -, hlt⟩ := EcKey.ofScalar_eq_ok hscalar
  refine ⟨h0, ?_⟩
  rw [← Int.toNat_of_nonneg h0]
  exact_mod_cast hlt

/-- The members that hold the public part of a key, as they are published. -/
def publicFields : Key → List (String × Option String)
  | .ec k =>
    [("x", some (fixedNumber k.curve.size k.x)), ("y", some (fixedNumber k.curve.size k.y))]
  | .okp k => [("x", some (bytesText k.x))]
  | .bls k => [("x", some (bytesText k.x))]
  | .rsa k => [("n", some (minimalNumber k.n)), ("e", some (minimalNumber k.e))]

/-- The members that hold the private part, as they are published if there is one. -/
def privateFields : Key → List (String × Option String)
  | .ec k => [("d", k.d.map (fixedNumber k.curve.size))]
  | .okp k => [("d", k.d.map bytesText)]
  | .bls k => [("d", k.d.map (fixedNumber 32))]
  | .rsa k =>
    [("d", k.d.map minimalNumber), ("p", k.p.map minimalNumber), ("q", k.q.map minimalNumber),
     ("dp", k.dp.map minimalNumber), ("dq", k.dq.map minimalNumber), ("qi", k.qi.map minimalNumber)]

theorem members_document (k : Key) (kid use alg : Option String) :
    (k.document kid use alg).members = present ([("kty", some k.label.1), ("crv", k.label.2)] ++
      publicFields k ++ privateFields k ++ [("kid", kid), ("use", use), ("alg", alg)]) := by
  cases k <;> rfl

/-- Of the two numbers of a public RSA key nothing is asked but that they are not negative. -/
theorem publicMembers_of_nonneg {k : RsaKey} (hn : 0 ≤ k.n) (he : 0 ≤ k.e) :
    publicMembers (.rsa k) = .ok (present (publicFields (.rsa k))) := by
  rw [publicMembers, minimalMembers_eq_ok]
  · rfl
  · intro m hm n hvalue
    simp only [List.mem_cons, List.not_mem_nil, or_false] at hm
    rcases hm with rfl | rfl <;> cases hvalue
    · exact hn
    · exact he

/-- A settled key has all its public members written. -/
theorem publicMembers_eq_ok {k : Key} (h : k.Settled) :
    publicMembers k = .ok (present (publicFields k)) := by
  cases k with
  | ec k =>
    obtain ⟨⟨hx0, hx⟩, hy0, hy⟩ := h.1.range
    rw [publicMembers, fixedText_eq_ok hx0 hx, ok_bind, fixedText_eq_ok hy0 hy]
    rfl
  | okp k => rfl
  | bls k => rfl
  | rsa k =>
    obtain ⟨hn, he, -⟩ := RsaKey.publicNumbersFit_iff.mp (RsaKey.accepted_cases h).1
    exact publicMembers_of_nonneg (by omega) (by omega)

theorem privateMembers_eq_ok {k : Key} (h : k.Settled) :
    privateMembers k = .ok (present (privateFields k)) := by
  cases k with
  | ec k =>
    rw [privateMembers, privateFields]
    cases hd : k.d with
    | none => rfl
    | some d =>
      obtain ⟨h0, hlt⟩ := scalar_range h d hd
      dsimp only
      rw [fixedText_eq_ok h0 hlt]
      rfl
  | okp k =>
    rw [privateMembers, privateFields]
    cases k.d <;> rfl
  | bls k =>
    rw [privateMembers, privateFields]
    cases hd : k.d with
    | none => rfl
    | some d =>
      obtain ⟨-, hpos, hlt⟩ := BlsKey.ofScalar_eq_ok (h.2 d hd)
      dsimp only
      rw [fixedText_eq_ok (Int.le_of_lt hpos) hlt]
      rfl
  | rsa k =>
    obtain ⟨-, hpublic | ⟨whole, rfl, hnonneg, -⟩⟩ := RsaKey.accepted_cases h
    · rw [hpublic]
      rfl
    · show minimalMembers _ = _
      rw [minimalMembers_eq_ok]
      · rfl
      · intro m hm n hvalue
        refine hnonneg n ?_
        simp only [List.mem_cons, List.not_mem_nil, or_false] at hm
        rcases hm with rfl | rfl | rfl | rfl | rfl | rfl <;> cases hvalue <;>
          simp [RsaKey.Complete.numbers]

/-- The members of a settled web key are those of its document. -/
theorem Settled.members_eq {w : WebKey} (h : w.Settled) :
    w.members = .ok w.document.members := by
  rw [members_eq_present (publicMembers_eq_ok h.key) (privateMembers_eq_ok h.key), document,
    members_document, h.group, h.curve]

/-! ## Reading again -/

/-- Under its group and any of its names, a curve decides how a document is read. -/
theorem keyOf_of_curve {doc : Document} {c : Curve} (hkty : c.group = doc.kty)
    (hcrv : doc.crv.bind Curve.ofName? = some c) : keyOf doc = reportRefusal .privateRefused
      (match c.family with
        | .bls => blsKey doc
        | .okp => okpKey c doc
        | _ => ecKey c doc) := by
  have hgroup := c.group_cases
  have hne := c.group_ne_rsa
  rw [hkty] at hgroup hne
  rw [keyOf, if_neg hne, if_pos hgroup, curveKey, hcrv]
  exact if_neg (not_not.mpr hkty)

theorem ecKey_document {k : EcKey} (h : (Key.ec k).Settled) (kid use alg : Option String) :
    ecKey k.curve ((Key.ec k).document kid use alg) = .ok (.ec k) := by
  have hsize := EcKey.size_pos k.curve
  have hxlen := Bytes.length_ofNat k.curve.size k.x.toNat
  have hylen := Bytes.length_ofNat k.curve.size k.y.toNat
  have hfits : ¬(k.curve.size < (Bytes.ofNat k.curve.size k.x.toNat).length ∨
      k.curve.size < (Bytes.ofNat k.curve.size k.y.toNat).length) := by omega
  unfold ecKey Key.document
  dsimp only
  rw [required_fixedNumber _ hsize, ok_bind, required_fixedNumber _ hsize, ok_bind, if_neg hfits,
    Bytes.padLeft_eq_self hxlen, Bytes.padLeft_eq_self hylen,
    EcKey.ofPoint_coordinates h.1, ok_bind]
  cases hd : k.d with
  | none =>
    rw [EcKey.bare_eq hd h.2.1]
    rfl
  | some d =>
    obtain ⟨h0, hlt⟩ := scalar_range h d hd
    obtain ⟨-, hscalar⟩ := h.2.2 d hd
    rw [Option.map_some, optionalNumber_fixedNumber _ h0 hlt, ok_bind]
    dsimp only
    rw [hscalar, ok_bind]
    exact if_pos rfl

theorem okpKey_document {k : OkpKey} (h : (Key.okp k).Settled) (kid use alg : Option String) :
    okpKey k.curve ((Key.okp k).document kid use alg) = .ok (.okp k) := by
  have hne : k.x ≠ [] := by
    intro hnil
    have hsize : ¬([] : Bytes).length = k.curve.size := (EcKey.size_pos k.curve).ne
    have hread := h.1
    rw [hnil, OkpKey.ofRaw, Option.getD_some, if_neg hsize] at hread
    cases hread
  unfold okpKey Key.document
  dsimp only
  rw [required_bytesText _ hne, ok_bind, h.1, ok_bind]
  cases hd : k.d with
  | none =>
    rw [OkpKey.publicPart_eq hd]
    rfl
  | some seed =>
    have hseed := h.2.2 seed hd
    rw [Option.map_some]
    dsimp only
    rw [decodeMember_bytesText, ok_bind, hseed, ok_bind]
    exact if_pos rfl

theorem blsKey_document {k : BlsKey} (h : (Key.bls k).Settled) (kid use alg : Option String) :
    blsKey ((Key.bls k).document kid use alg) = .ok (.bls k) := by
  have hne : k.x ≠ [] := by
    intro hnil
    have hread := h.1
    rw [hnil] at hread
    cases hread
  unfold blsKey Key.document
  dsimp only
  rw [required_bytesText _ hne, ok_bind, h.1, ok_bind]
  cases hd : k.d with
  | none =>
    rw [BlsKey.publicPart_eq hd]
    rfl
  | some d =>
    have hscalar := h.2 d hd
    obtain ⟨-, hpos, hlt⟩ := BlsKey.ofScalar_eq_ok hscalar
    rw [Option.map_some, optionalNumber_fixedNumber _ (Int.le_of_lt hpos) hlt, ok_bind]
    dsimp only
    rw [hscalar, ok_bind]
    exact if_pos rfl

/-- The numbers are read as they were written; whether they make up a key is not asked yet. -/
theorem rsaNumbers_document {k : RsaKey} (hn : 0 ≤ k.n) (he : 0 ≤ k.e)
    (hparts : k = k.publicPart ∨ ∃ whole : RsaKey.Complete, k = whole.toKey ∧
      ∀ n ∈ whole.numbers, 0 ≤ n) (kid use alg : Option String) :
    rsaNumbers ((Key.rsa k).document kid use alg) = .ok k := by
  obtain ⟨n, hnread, hnum⟩ := required_minimalNumber "n" hn
  obtain ⟨e, heread, henum⟩ := required_minimalNumber "e" he
  unfold rsaNumbers Key.document
  dsimp only
  rw [hnread, ok_bind, heread, ok_bind, hnum, henum]
  rcases hparts with hpublic | ⟨whole, rfl, hnonneg⟩
  · rw [hpublic]
    rfl
  · have hread (name : String) {n : Int} (hn : n ∈ whole.numbers) :
        optionalNumber name (some (minimalNumber n)) = .ok (some n) :=
      optionalNumber_minimalNumber name (hnonneg n hn)
    simp only [RsaKey.Complete.toKey, Option.map_some]
    rw [hread "d" (by simp [RsaKey.Complete.numbers]), ok_bind]
    dsimp only
    rw [hread "p" (by simp [RsaKey.Complete.numbers]), ok_bind,
      hread "q" (by simp [RsaKey.Complete.numbers]), ok_bind,
      hread "dp" (by simp [RsaKey.Complete.numbers]), ok_bind,
      hread "dq" (by simp [RsaKey.Complete.numbers]), ok_bind,
      hread "qi" (by simp [RsaKey.Complete.numbers])]
    rfl

/-- The document of a settled key is read back as the key. -/
theorem keyOf_document {k : Key} (h : k.Settled) (kid use alg : Option String) :
    keyOf (k.document kid use alg) = .ok k := by
  cases k with
  | ec k =>
    have hread : keyOf ((Key.ec k).document kid use alg) = _ :=
      keyOf_of_curve rfl k.curve.ofName?_name
    rw [hread, h.1.family, ecKey_document h]
    rfl
  | okp k =>
    have hread : keyOf ((Key.okp k).document kid use alg) = _ :=
      keyOf_of_curve rfl k.curve.ofName?_name
    rw [hread, h.2.1, okpKey_document h]
    rfl
  | bls k =>
    have hread : keyOf ((Key.bls k).document kid use alg) = _ :=
      keyOf_of_curve rfl (Curve.ofName?_name .bls12381G2)
    have hfamily : Curve.bls12381G2.family = .bls := rfl
    rw [hread, hfamily, blsKey_document h]
    rfl
  | rsa k =>
    have haccepted : k.accepted = .ok k := h
    obtain ⟨hfit, hparts⟩ := RsaKey.accepted_cases haccepted
    obtain ⟨hn, he, -⟩ := RsaKey.publicNumbersFit_iff.mp hfit
    have hnumbers := rsaNumbers_document (by omega) (by omega)
      (hparts.imp_right fun ⟨whole, hwhole, hnonneg, _⟩ => ⟨whole, hwhole, hnonneg⟩) kid use alg
    show rsaKey _ = _
    rw [rsaKey, hnumbers, ok_bind, haccepted]
    rfl

/-! ## Web keys -/

theorem ofKey_eq_ok (k : Key) (kid use alg : Option String) :
    ofKey k kid use alg = .ok ⟨k, k.label.1, k.label.2, kid, use, alg⟩ := by
  rw [ofKey, create, if_pos rfl]

/-- Leaving the private members out is publishing the public part. -/
theorem members_false (w : WebKey) : w.members false = w.publicPart.members := by
  have hpublic : publicMembers w.publicPart.key = publicMembers w.key := by
    rw [WebKey.publicPart]
    cases w.key <;> rfl
  have hprivate : privateMembers w.publicPart.key = .ok [] := by
    rw [WebKey.publicPart]
    cases w.key <;> rfl
  rw [members, members, hpublic, hprivate]
  rfl

theorem kty_document_ne_empty (w : WebKey) : w.document.kty.isEmpty = false :=
  w.key.kty_document_ne_empty w.kid w.use w.alg

namespace Settled

variable {w : WebKey}

theorem publicPart (h : w.Settled) : w.publicPart.Settled := by
  have hlabel : w.publicPart.key.label = w.key.label := by
    simp [WebKey.publicPart, Key.label]
  exact ⟨h.key.publicPart, hlabel ▸ h.group, hlabel ▸ h.curve⟩

theorem ofDocument_document (h : w.Settled) : ofDocument w.document = .ok w := by
  have hkid : w.document.kid = w.kid ∧ w.document.use = w.use ∧ w.document.alg = w.alg := by
    rw [document]
    cases w.key <;> exact ⟨rfl, rfl, rfl⟩
  rw [ofDocument, document, keyOf_document h.key, ok_bind, ← document, hkid.1, hkid.2.1, hkid.2.2,
    ofKey_eq_ok, ← h.group, ← h.curve]

theorem ofJson_members (h : w.Settled) : ofJson (documentOf w.document.members) = .ok w := by
  rw [ofJson, Document.ofJson_members w.kty_document_ne_empty]
  exact h.ofDocument_document

/-- A settled web key is written as JSON text and read back as it was. -/
theorem ofJsonText_toJson (h : w.Settled) :
    ∃ text, w.toJson = .ok text ∧ ofJsonText (Utf8.encode text.toList) = .ok w := by
  refine ⟨_, by rw [toJson, h.members_eq]; rfl, ?_⟩
  rw [ofJsonText, Document.ofJsonText_members w.kty_document_ne_empty]
  exact h.ofDocument_document

end Settled

/-- The text of two numbers is read as what the primitives make of them, which may be nothing. -/
theorem ofJsonText_toJson_of_rsa (n e : Nat) (kid : Option String) :
    ∃ text, (WebKey.mk (.rsa { n := n, e := e }) "RSA" none kid none none).toJson = .ok text ∧
      ofJsonText (Utf8.encode text.toList) = (do
        let k ← reportRefusal .rsaRefused (RsaKey.accepted { n := n, e := e })
        ofKey (.rsa k) kid) := by
  let k : RsaKey := { n := n, e := e }
  let w : WebKey := ⟨.rsa k, "RSA", none, kid, none, none⟩
  have hmembers : w.members = .ok w.document.members := by
    have hpublic : publicMembers w.key = _ :=
      publicMembers_of_nonneg (Int.natCast_nonneg n) (Int.natCast_nonneg e)
    have hprivate : privateMembers w.key = .ok (present (privateFields w.key)) := rfl
    rw [members_eq_present hpublic hprivate, document, members_document]
    rfl
  have hnumbers : rsaNumbers w.document = .ok k :=
    rsaNumbers_document (Int.natCast_nonneg n) (Int.natCast_nonneg e) (Or.inl rfl) kid none none
  refine ⟨_, by rw [toJson, hmembers]; rfl, ?_⟩
  rw [ofJsonText, Document.ofJsonText_members w.kty_document_ne_empty]
  show (rsaKey w.document >>= fun k => ofKey k kid) = _
  rw [rsaKey, hnumbers, ok_bind]
  cases reportRefusal .rsaRefused k.accepted <;> rfl

end WebKey

end WebKeys
