import WebKeys.Proofs.KeyInformation

/-!
# Key information is read from its strict DER alone

What a byte string must be for a key information to be read from it is `StrictDer`. This module
draws the conclusions.

* Nothing may follow. A byte string that is read is no proper part of another one that is read, and
  no bytes may be added inside: not after the bit string, and not after the parameters.
* `StrictDer.framed_eq_iff`: with the same identifier and the same key, other parameters are other
  bytes. So what is written from an information is what it was read from, unless parameters were
  forgotten in reading.
* An information in canonical dotted form is written and read back, as long as its arcs can be read
  as numbers and its whole length can be read (`parse_framed_iff`).

`strict_der_read_and_written` puts these together. An arc with too many digits is not written at all
(`longer_arc_not_written`).
-/

namespace WebKeys

namespace Der

attribute [local instance (2000)] instPowNat

/-- A length that takes five bytes makes an element longer than all that are read. -/
theorem length_lt_of_encode_eq {tag tag' : UInt8} {value value' : Bytes}
    (heq : encode tag value = encode tag' value') (h : value'.length < lengthBound) :
    value.length < lengthBound := by
  by_contra hlong
  have hwidth : ¬Bytes.width value.length ≤ 4 := by
    intro hle
    refine hlong (Nat.lt_of_lt_of_le (Bytes.lt_pow_width value.length) ?_)
    exact Nat.pow_le_pow_right (by decide) hle
  have hbound : 128 ≤ lengthBound := by decide
  have hlen := congrArg List.length heq
  have hle := length_encode_le tag' value' h
  rw [← hlen, encode, List.length_cons, List.length_append, lengthOctets, if_neg (by omega)] at hle
  simp only [List.length_cons, Bytes.length_ofNat] at hle
  omega

end Der

namespace PublicKeyInfo

attribute [local instance (2000)] instPowNat

open Der Outcome
open ObjectId (Canonical ShortArcs)

/-! ## Nothing may follow -/

/-- Nothing is read from the bytes. -/
def Refused (bs : Bytes) : Prop := ∀ info, parse bs ≠ .ok info

theorem length_lt_of_parse {content : Bytes} {info : PublicKeyInfo}
    (h : parse (Der.encode sequenceTag content) = .ok info) : content.length < lengthBound := by
  obtain ⟨oid, rest, hstrict⟩ := parse_eq_ok_iff.mp h
  exact length_lt_of_encode_eq hstrict.eq_framed hstrict.framable

theorem framable_of_parse {identifier bits : Bytes} {info : PublicKeyInfo}
    (h : parse (framed identifier bits) = .ok info) : Framable identifier bits :=
  length_lt_of_parse h

/-- Bytes that are read are not continued by other bytes that are read. -/
theorem eq_nil_of_parse_append {bs s : Bytes} {info info' : PublicKeyInfo}
    (h : parse bs = .ok info) (h' : parse (bs ++ s) = .ok info') : s = [] := by
  obtain ⟨oid, rest, hstrict⟩ := parse_eq_ok_iff.mp h
  obtain ⟨oid', rest', hstrict'⟩ := parse_eq_ok_iff.mp h'
  have heq := hstrict'.eq_framed
  rw [hstrict.eq_framed, ← List.append_nil (framed _ (0 :: info'.publicKey))] at heq
  obtain ⟨-, -, hs⟩ := encode_append_inj (readable_sequence hstrict.framable)
    (readable_sequence hstrict'.framable) heq
  exact hs

theorem ParametersOf.exists_element {rest : Bytes} {parameters : Option String}
    (h : ParametersOf rest parameters) (hrest : rest ≠ []) :
    ∃ tag value, Readable tag value ∧ rest = Der.encode tag value := by
  cases h with
  | absent => exact absurd rfl hrest
  | objectId h hoid => exact ⟨objectIdTag, _, readable_objectId h, rfl⟩
  | other h htag => exact ⟨_, _, h, rfl⟩

namespace StrictDer

variable {bs oid rest s : Bytes} {info : PublicKeyInfo}

/-- What stands after the identifier, and the key, are known from the bytes. -/
theorem of_parse_framed {bits : Bytes}
    (h : parse (framed (Der.encode objectIdTag oid ++ rest) bits) = .ok info)
    (hoid : oid.length < lengthBound) :
    StrictDer (framed (Der.encode objectIdTag oid ++ rest) bits) info oid rest := by
  obtain ⟨oid', rest', hstrict⟩ := parse_eq_ok_iff.mp h
  obtain ⟨hidentifier, -⟩ := framed_inj (framable_of_parse h) hstrict.framable hstrict.eq_framed
  obtain ⟨-, rfl, rfl⟩ := encode_append_inj (readable_objectId hoid)
    (readable_objectId hstrict.length_oid) hidentifier
  exact hstrict

/-- The parts are known from the bytes. -/
theorem unique {info' : PublicKeyInfo} {oid' rest' : Bytes} (h : StrictDer bs info oid rest)
    (h' : StrictDer bs info' oid' rest') : info = info' ∧ oid = oid' ∧ rest = rest' := by
  have hparse := parse_eq_ok_iff.mpr ⟨oid, rest, h⟩
  rw [parse_eq_ok_iff.mpr ⟨oid', rest', h'⟩] at hparse
  cases hparse
  obtain ⟨hidentifier, -⟩ :=
    framed_inj h.framable h'.framable (h.eq_framed.symm.trans h'.eq_framed)
  obtain ⟨-, hoid, hrest⟩ := encode_append_inj (readable_objectId h.length_oid)
    (readable_objectId h'.length_oid) hidentifier
  exact ⟨rfl, hoid, hrest⟩

/-- With the same identifier and key, the parameters make the difference. -/
theorem framed_eq_iff (h : StrictDer bs info oid rest) (rest' : Bytes) :
    framed (Der.encode objectIdTag oid ++ rest') (0 :: info.publicKey) = bs ↔ rest' = rest := by
  constructor
  · intro heq
    have hparse := parse_eq_ok_iff.mpr ⟨oid, rest, h⟩
    rw [← heq] at hparse
    rw [h.eq_framed] at heq
    exact List.append_cancel_left (framed_inj (framable_of_parse hparse) h.framable heq).1
  · rintro rfl
    exact h.eq_framed.symm

theorem refused_append (h : StrictDer bs info oid rest) (hs : s ≠ []) : Refused (bs ++ s) :=
  fun _ h' => hs (eq_nil_of_parse_append (parse_eq_ok_iff.mpr ⟨oid, rest, h⟩) h')

theorem refused_front {front : Bytes} (h : StrictDer (front ++ s) info oid rest) (hs : s ≠ []) :
    Refused front :=
  fun _ h' => hs (eq_nil_of_parse_append h' (parse_eq_ok_iff.mpr ⟨oid, rest, h⟩))

/-- Nothing may stand after the bit string. -/
theorem refused_after_key (h : StrictDer bs info oid rest) (hs : s ≠ []) :
    Refused (Der.encode sequenceTag
      (body (Der.encode objectIdTag oid ++ rest) (0 :: info.publicKey) ++ s)) := by
  intro info' h'
  obtain ⟨oid', rest', hstrict⟩ := parse_eq_ok_iff.mp h'
  have hlong := length_lt_of_parse h'
  have heq := hstrict.eq_framed
  rw [framed, ← List.append_nil (Der.encode sequenceTag _),
    ← List.append_nil (Der.encode sequenceTag (body _ (0 :: info'.publicKey)))] at heq
  obtain ⟨-, hbody, -⟩ := encode_append_inj (readable_sequence hlong)
    (readable_sequence hstrict.framable) heq
  rw [body, body, List.append_assoc] at hbody
  obtain ⟨-, -, hbits⟩ := encode_append_inj (readable_sequence h.framable.identifier)
    (readable_sequence hstrict.framable.identifier) hbody
  rw [← List.append_nil (Der.encode bitStringTag (0 :: info'.publicKey))] at hbits
  obtain ⟨-, -, hnil⟩ := encode_append_inj (readable_bitString h.framable.bits)
    (readable_bitString hstrict.framable.bits) hbits
  exact hs hnil

/-- Nothing may stand after the parameters; where there are none, an element is the parameters. -/
theorem refused_after_parameters (h : StrictDer bs info oid rest) (hs : s ≠ []) :
    Refused (framed (Der.encode objectIdTag oid ++ (rest ++ s)) (0 :: info.publicKey)) ∨
      rest = [] ∧ ∃ tag value, Readable tag value ∧ s = Der.encode tag value := by
  refine or_iff_not_imp_right.mpr fun hnot info' h' => ?_
  have hstrict := of_parse_framed h' h.length_oid
  obtain ⟨tag', value', hreadable', heq⟩ := hstrict.parameters.exists_element
    (List.append_ne_nil_of_right_ne_nil rest hs)
  by_cases hrest : rest = []
  · subst hrest
    exact hnot ⟨rfl, tag', value', hreadable', heq⟩
  · obtain ⟨tag, value, hreadable, rfl⟩ := h.parameters.exists_element hrest
    rw [← List.append_nil (Der.encode tag' value')] at heq
    exact hs (encode_append_inj hreadable hreadable' heq).2.2

end StrictDer

/-! ## Written and read back -/

theorem exists_writtenParameters {parameters : Option String}
    (h : ∀ s, parameters = some s → Canonical s ∧ ShortArcs s) :
    ∃ rest, WrittenParameters parameters rest := by
  cases parameters with
  | none => exact ⟨[], .absent⟩
  | some s =>
    obtain ⟨hcanonical, hshort⟩ := h s rfl
    obtain ⟨value, -, hvalue⟩ := ObjectId.decode_of_canonical hcanonical hshort
    exact ⟨_, .objectId hvalue⟩

/-- Framed information is read back exactly when it is short enough. -/
theorem parse_framed_iff {info : PublicKeyInfo} {oid rest : Bytes}
    (halgorithm : ObjectId.decode oid = .ok info.algorithm)
    (hrest : WrittenParameters info.parameters rest) :
    parse (framed (Der.encode objectIdTag oid ++ rest) (0 :: info.publicKey)) = .ok info ↔
      Framable (Der.encode objectIdTag oid ++ rest) (0 :: info.publicKey) := by
  constructor
  · exact framable_of_parse
  · intro hframable
    have hlen := hframable.identifier
    rw [List.length_append] at hlen
    exact parse_eq_ok_iff.mpr
      ⟨oid, rest, hframable, rfl, halgorithm, hrest.parametersOf (by omega)⟩

/-- An information is written as it was read if its parameters were kept. -/
theorem StrictDer.encode_eq_iff {bs oid rest : Bytes} {info : PublicKeyInfo}
    (h : StrictDer bs info oid rest) :
    info.encode = .ok bs ↔ rest = [] ∨ info.parameters ≠ none := by
  constructor
  · intro hencode
    by_contra hlost
    push Not at hlost
    have habsent : WrittenParameters info.parameters [] := hlost.2 ▸ .absent
    rw [encode_eq_ok h.algorithm habsent, Except.ok.injEq, h.framed_eq_iff] at hencode
    exact hlost.1 hencode.symm
  · intro hkept
    rw [encode_eq_ok h.algorithm (h.parameters.written hkept), h.eq_framed]

/-! ## Strict DER -/

/-- An information is read from its strict DER and from nothing else, with all lengths in minimal
definite form. In canonical dotted form with arcs that can be read, it is written, and read back
whenever the length of the whole takes at most four bytes. What was read is written again unless
parameters that are no object identifier are forgotten. No bytes may be missing at the end or stand
after a part of what was read. -/
theorem strict_der_read_and_written (bs : Bytes) (info : PublicKeyInfo) :
    (parse bs = .ok info ↔ ∃ oid rest, StrictDer bs info oid rest) ∧
    (∀ n octets, n < lengthBound → (MinimalLength n octets ↔ octets = lengthOctets n)) ∧
    (Canonical info.algorithm → ShortArcs info.algorithm →
      (∀ s, info.parameters = some s → Canonical s ∧ ShortArcs s) →
      ∃ content, info.encode = .ok (Der.encode sequenceTag content) ∧
        (parse (Der.encode sequenceTag content) = .ok info ↔ content.length < lengthBound)) ∧
    ∀ oid rest, StrictDer bs info oid rest →
      (info.encode = .ok bs ↔ rest = [] ∨ info.parameters ≠ none) ∧
      ∀ s, s ≠ [] →
        Refused (bs ++ s) ∧ (∀ front, front ++ s = bs → Refused front) ∧
        Refused (Der.encode sequenceTag
          (body (Der.encode objectIdTag oid ++ rest) (0 :: info.publicKey) ++ s)) ∧
        (Refused (framed (Der.encode objectIdTag oid ++ (rest ++ s)) (0 :: info.publicKey)) ∨
          rest = [] ∧ ∃ tag value, Readable tag value ∧ s = Der.encode tag value) := by
  refine ⟨parse_eq_ok_iff, fun n octets => minimalLength_iff,
    fun hcanonical hshort hparameters => ?_, fun oid rest h => ?_⟩
  · obtain ⟨oid, -, halgorithm⟩ := ObjectId.decode_of_canonical hcanonical hshort
    obtain ⟨rest, hrest⟩ := exists_writtenParameters hparameters
    exact ⟨_, encode_eq_ok halgorithm hrest, parse_framed_iff halgorithm hrest⟩
  · refine ⟨h.encode_eq_iff, fun s hs => ⟨h.refused_append hs, fun front hfront => ?_,
      h.refused_after_key hs, h.refused_after_parameters hs⟩⟩
    subst hfront
    exact h.refused_front hs

/-- The information of a secp256k1 key whose bit string holds a single byte. -/
theorem secp256k1_information_strict : ∃ (bs : Bytes) (info : PublicKeyInfo) (oid rest : Bytes),
    bs = [0x30, 0x16, 0x30, 0x10, 0x06, 0x07, 0x2A, 0x86, 0x48, 0xCE, 0x3D, 0x02, 0x01, 0x06, 0x05,
      0x2B, 0x81, 0x04, 0x00, 0x0A, 0x03, 0x02, 0x00, 0x04] ∧
    info = ⟨"1.2.840.10045.2.1", some "1.3.132.0.10", [4]⟩ ∧
    (Canonical "1.2.840.10045.2.1" ∧ ShortArcs "1.2.840.10045.2.1") ∧
    (Canonical "1.3.132.0.10" ∧ ShortArcs "1.3.132.0.10") ∧
    (∃ content, info.encode = .ok (Der.encode sequenceTag content) ∧
      (parse (Der.encode sequenceTag content) = .ok info ↔ content.length < lengthBound)) ∧
    StrictDer bs info oid rest ∧ info.encode = .ok bs ∧ Refused (bs ++ [0]) := by
  have hec : Canonical "1.2.840.10045.2.1" :=
    ⟨1, 2, [840, 10045, 2, 1], ⟨by decide, by decide⟩, by decide +kernel⟩
  have hcurve : Canonical "1.3.132.0.10" :=
    ⟨1, 3, [132, 0, 10], ⟨by decide, by decide⟩, by decide +kernel⟩
  have hecShort : ShortArcs "1.2.840.10045.2.1" := by decide +kernel
  have hcurveShort : ShortArcs "1.3.132.0.10" := by decide +kernel
  have hstrict : StrictDer [0x30, 0x16, 0x30, 0x10, 0x06, 0x07, 0x2A, 0x86, 0x48, 0xCE, 0x3D, 0x02,
      0x01, 0x06, 0x05, 0x2B, 0x81, 0x04, 0x00, 0x0A, 0x03, 0x02, 0x00, 0x04]
      ⟨"1.2.840.10045.2.1", some "1.3.132.0.10", [4]⟩
      [0x2A, 0x86, 0x48, 0xCE, 0x3D, 0x02, 0x01] [0x06, 0x05, 0x2B, 0x81, 0x04, 0x00, 0x0A] :=
    ⟨by decide, rfl, rfl, @ParametersOf.objectId [0x2B, 0x81, 0x04, 0x00, 0x0A] _ (by decide) rfl⟩
  obtain ⟨-, -, hwritten, hread⟩ := strict_der_read_and_written _ _
  obtain ⟨hencode, hnothing⟩ := hread _ _ hstrict
  refine ⟨_, _, _, _, rfl, rfl, ⟨hec, hecShort⟩, ⟨hcurve, hcurveShort⟩,
    hwritten hec hecShort ?_, hstrict, hencode.mpr (Or.inr (Option.some_ne_none _)),
    (hnothing [0] (List.cons_ne_nil _ _)).1⟩
  rintro _ ⟨⟩
  exact ⟨hcurve, hcurveShort⟩

/-- The smallest number that is too long to be read, as the second arc of an identifier in canonical
form. -/
theorem longer_arc_not_written :
    Canonical (".".intercalate ([2, 10 ^ Text.longestNumeral].map Nat.repr)) ∧
    ¬∃ bs, encode ⟨".".intercalate ([2, 10 ^ Text.longestNumeral].map Nat.repr), none, []⟩ =
        .ok bs ∧
      parse bs = .ok ⟨".".intercalate ([2, 10 ^ Text.longestNumeral].map Nat.repr), none, []⟩ := by
  have hcanonical : Canonical (".".intercalate ([2, 10 ^ Text.longestNumeral].map Nat.repr)) :=
    ⟨2, 10 ^ Text.longestNumeral, [], ⟨Nat.le_refl 2, fun h => absurd h (Nat.lt_irrefl 2)⟩, rfl⟩
  refine ⟨hcanonical, ?_⟩
  rintro ⟨bs, hencode, -⟩
  have hlong : ¬ShortArcs (".".intercalate ([2, 10 ^ Text.longestNumeral].map Nat.repr)) := by
    rw [ObjectId.shortArcs_iff (List.cons_ne_nil _ _)]
    exact fun h => absurd (h _ (by simp)) (Nat.lt_irrefl _)
  unfold encode at hencode
  rw [ObjectId.encode_of_longArc hcanonical hlong] at hencode
  cases hencode

end PublicKeyInfo

end WebKeys
