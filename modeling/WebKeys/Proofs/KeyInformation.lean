import WebKeys.Der.PublicKeyInfo
import WebKeys.Proofs.DerElement
import WebKeys.Proofs.ObjectIdentifier

/-!
# Public key information has one form

A key information is two elements in a sequence, `framed`; `frames_eq_ok_iff` says that nothing else
is taken apart, and `parse_eq_ok_iff` says what may stand in the two elements.

* `encode_of_parse`: information whose parameters are absent or an object identifier is written back
  byte for byte. Parameters of another kind are read and forgotten, and only those.
* `parse_of_encode`: information that has been written is read as it was.
-/

namespace WebKeys

namespace Der

theorem length_le_length_encode (tag : UInt8) (value : Bytes) :
    value.length ≤ (encode tag value).length := by
  simp only [encode, List.length_cons, List.length_append]
  omega

theorem readable_sequence {value : Bytes} (h : value.length < lengthBound) :
    Readable sequenceTag value := ⟨by decide, h⟩

theorem readable_bitString {value : Bytes} (h : value.length < lengthBound) :
    Readable bitStringTag value := ⟨by decide, h⟩

theorem readable_objectId {value : Bytes} (h : value.length < lengthBound) :
    Readable objectIdTag value := ⟨by decide, h⟩

end Der

namespace PublicKeyInfo

open Der Outcome
open ObjectId (Unreadable)

/-- An algorithm identifier and a bit string, by their contents, as the parts of a sequence. -/
def body (identifier bits : Bytes) : Bytes :=
  Der.encode sequenceTag identifier ++ Der.encode bitStringTag bits

def framed (identifier bits : Bytes) : Bytes := Der.encode sequenceTag (body identifier bits)

/-- Whether the whole is short enough for its length to be read; then so are its parts. -/
def Framable (identifier bits : Bytes) : Prop := (body identifier bits).length < lengthBound

instance (identifier bits : Bytes) : Decidable (Framable identifier bits) :=
  inferInstanceAs (Decidable ((body identifier bits).length < lengthBound))

theorem Framable.identifier {identifier bits : Bytes} (h : Framable identifier bits) :
    identifier.length < lengthBound := by
  have := length_le_length_encode sequenceTag identifier
  simp only [Framable, body, List.length_append] at h
  omega

theorem Framable.bits {identifier bits : Bytes} (h : Framable identifier bits) :
    bits.length < lengthBound := by
  have := length_le_length_encode bitStringTag bits
  simp only [Framable, body, List.length_append] at h
  omega

theorem framable_of_length {identifier bits : Bytes}
    (h : identifier.length + bits.length + 12 < lengthBound) : Framable identifier bits := by
  have h1 := length_encode_le sequenceTag identifier (by omega)
  have h2 := length_encode_le bitStringTag bits (by omega)
  simp only [Framable, body, List.length_append]
  omega

/-! ## Frames -/

theorem part_eq_ok {α : Type} {r : Except DerFault α} {a : α} : part r = .ok a ↔ r = .ok a :=
  mapError_eq_ok

/-- The outer frame is read exactly from its own encoding. -/
theorem frames_eq_ok_iff {bs identifier bits : Bytes} :
    frames bs = .ok (identifier, bits) ↔
      Framable identifier bits ∧ bs = framed identifier bits := by
  constructor
  · intro h
    obtain ⟨⟨inner, after⟩, houter, h⟩ := bind_eq_ok.mp h
    obtain ⟨hafter, h⟩ := guard_eq_ok.mp h
    obtain ⟨⟨identifier', rest⟩, hidentifier, h⟩ := bind_eq_ok.mp h
    obtain ⟨⟨bits', rest'⟩, hbits, h⟩ := bind_eq_ok.mp h
    obtain ⟨hrest', h⟩ := guard_eq_ok.mp h
    cases h
    obtain ⟨hread, rfl⟩ := expect_eq_ok_iff.mp houter
    obtain ⟨-, rfl⟩ := expect_eq_ok_iff.mp hidentifier
    obtain ⟨-, rfl⟩ := expect_eq_ok_iff.mp hbits
    have hafter : after = [] := by simpa using hafter
    have hrest' : rest' = [] := by simpa using hrest'
    subst hafter hrest'
    rw [List.append_nil, List.append_nil] at *
    exact ⟨hread.2, rfl⟩
  · rintro ⟨h, rfl⟩
    have houter := expect_encode [] (readable_sequence h)
    have hidentifier := expect_encode (Der.encode bitStringTag bits)
      (readable_sequence h.identifier)
    have hbits := expect_encode [] (readable_bitString h.bits)
    rw [List.append_nil] at houter hbits
    rw [frames, framed, houter, ok_bind]
    dsimp only
    rw [body, hidentifier]
    simp [hbits]

/-- The frame of a byte string is no other's. -/
theorem framed_inj {identifier identifier' bits bits' : Bytes}
    (h : Framable identifier bits) (h' : Framable identifier' bits')
    (heq : framed identifier bits = framed identifier' bits') :
    identifier = identifier' ∧ bits = bits' := by
  have hframes := frames_eq_ok_iff.mpr ⟨h, rfl⟩
  rw [heq, frames_eq_ok_iff.mpr ⟨h', rfl⟩] at hframes
  cases hframes
  exact ⟨rfl, rfl⟩

/-! ## Contents -/

/-- The parameters that follow an algorithm: none, an object identifier, or any other element. -/
inductive ParametersOf : Bytes → Option String → Prop
  | absent : ParametersOf [] none
  | objectId {value : Bytes} {oid : String} (h : value.length < lengthBound)
      (hoid : ObjectId.decode value = .ok oid) :
      ParametersOf (Der.encode objectIdTag value) (some oid)
  | other {tag : UInt8} {value : Bytes} (h : Readable tag value) (htag : tag ≠ objectIdTag) :
      ParametersOf (Der.encode tag value) none

theorem parseParameters_eq_ok_iff {bs : Bytes} {parameters : Option String} :
    parseParameters bs = .ok parameters ↔ ParametersOf bs parameters := by
  constructor
  · intro h
    unfold parseParameters at h
    split at h
    · next hempty =>
      cases h
      rw [List.isEmpty_iff.mp hempty]
      exact .absent
    · obtain ⟨⟨⟨tag, value⟩, rest⟩, hread, hkind⟩ := bind_eq_ok.mp h
      obtain ⟨hreadable, rfl⟩ := read_eq_ok_iff.mp (part_eq_ok.mp hread)
      dsimp only at hkind
      by_cases hrest : rest.isEmpty
      · simp only [hrest, if_true] at hkind
        rw [List.isEmpty_iff.mp hrest, List.append_nil]
        split at hkind
        · next htag =>
          subst htag
          obtain ⟨found, hfound, hdone⟩ := bind_eq_ok.mp hkind
          obtain ⟨oid, hoid, rfl⟩ := map_eq_ok.mp hfound
          cases hdone
          exact .objectId hreadable.2 hoid
        · next htag =>
          cases hkind
          exact .other hreadable htag
      · simp only [hrest] at hkind
        split at hkind
        · obtain ⟨found, -, hdone⟩ := bind_eq_ok.mp hkind
          cases hdone
        · cases hkind
  · intro h
    cases h with
    | absent => rfl
    | @objectId value oid h hoid =>
      have hread := read_encode [] (readable_objectId h)
      rw [List.append_nil] at hread
      rw [parseParameters, if_neg (by simp [Der.encode]), hread]
      simp [part, Except.mapError, Except.map, hoid]
    | @other tag value h htag =>
      have hread := read_encode [] h
      rw [List.append_nil] at hread
      rw [parseParameters, if_neg (by simp [Der.encode]), hread]
      simp [part, Except.mapError, htag]

/-- The bytes are those of the information, byte for byte: `oid` names its algorithm, `rest` holds
its parameters. All lengths stand in the fewest bytes; that of the whole is the largest of them, and
takes at most four. -/
structure StrictDer (bs : Bytes) (info : PublicKeyInfo) (oid rest : Bytes) : Prop where
  framable : Framable (Der.encode objectIdTag oid ++ rest) (0 :: info.publicKey)
  eq_framed : bs = framed (Der.encode objectIdTag oid ++ rest) (0 :: info.publicKey)
  algorithm : ObjectId.decode oid = .ok info.algorithm
  parameters : ParametersOf rest info.parameters

theorem StrictDer.length_oid {bs oid rest : Bytes} {info : PublicKeyInfo}
    (h : StrictDer bs info oid rest) : oid.length < lengthBound := by
  have hidentifier := h.framable.identifier
  have hoid := length_le_length_encode objectIdTag oid
  rw [List.length_append] at hidentifier
  omega

/-- Key information is read exactly from its strict encodings. -/
theorem parse_eq_ok_iff {bs : Bytes} {info : PublicKeyInfo} :
    parse bs = .ok info ↔ ∃ oid rest, StrictDer bs info oid rest := by
  constructor
  · intro h
    obtain ⟨⟨identifier, bits⟩, hframes, hcontents⟩ := bind_eq_ok.mp h
    obtain ⟨⟨oid, rest⟩, hoid, hnames⟩ := bind_eq_ok.mp hcontents
    obtain ⟨algorithm, halgorithm, hafter⟩ := bind_eq_ok.mp hnames
    obtain ⟨parameters, hparameters, hbits⟩ := bind_eq_ok.mp hafter
    obtain ⟨hframable, rfl⟩ := frames_eq_ok_iff.mp (part_eq_ok.mp hframes)
    obtain ⟨-, rfl⟩ := expect_eq_ok_iff.mp (part_eq_ok.mp hoid)
    have hrest := parseParameters_eq_ok_iff.mp hparameters
    split at hbits
    · cases hbits
      exact ⟨oid, rest, hframable, rfl, halgorithm, hrest⟩
    · cases hbits
  · rintro ⟨oid, rest, hstrict⟩
    have hframes := frames_eq_ok_iff.mpr ⟨hstrict.framable, hstrict.eq_framed⟩
    have hoid := expect_encode rest (readable_objectId hstrict.length_oid)
    rw [parse, hframes]
    simp [part, Except.mapError, hoid, hstrict.algorithm,
      parseParameters_eq_ok_iff.mpr hstrict.parameters]

/-! ## Writing -/

/-- The parameters as they are written: none, or an object identifier. -/
inductive WrittenParameters : Option String → Bytes → Prop
  | absent : WrittenParameters none []
  | objectId {value : Bytes} {oid : String} (h : ObjectId.decode value = .ok oid) :
      WrittenParameters (some oid) (Der.encode objectIdTag value)

/-- Parameters of another kind are lost in reading, and only those. -/
theorem ParametersOf.written {rest : Bytes} {parameters : Option String}
    (h : ParametersOf rest parameters) (hkept : rest = [] ∨ parameters ≠ none) :
    WrittenParameters parameters rest := by
  cases h with
  | absent => exact .absent
  | objectId h hoid => exact .objectId hoid
  | other h htag => simp [Der.encode] at hkept

theorem WrittenParameters.parametersOf {rest : Bytes} {parameters : Option String}
    (h : WrittenParameters parameters rest) (hlen : rest.length < lengthBound) :
    ParametersOf rest parameters := by
  cases h with
  | absent => exact .absent
  | objectId h => exact .objectId (Nat.lt_of_le_of_lt (length_le_length_encode _ _) hlen) h

/-- Information with an identifier that was read is written as the strict encoding. -/
theorem encode_eq_ok {info : PublicKeyInfo} {oid rest : Bytes}
    (halgorithm : ObjectId.decode oid = .ok info.algorithm)
    (hrest : WrittenParameters info.parameters rest) :
    info.encode = .ok (framed (Der.encode objectIdTag oid ++ rest) (0 :: info.publicKey)) := by
  obtain ⟨algorithm, parameters, publicKey⟩ := info
  unfold encode
  rw [ObjectId.encode_of_decode halgorithm, ok_bind]
  cases hrest with
  | absent => rfl
  | objectId h =>
    dsimp only
    rw [ObjectId.encode_of_decode h]
    rfl

theorem encode_of_parse {bs : Bytes} {info : PublicKeyInfo} (h : parse bs = .ok info)
    (hparameters : info.parameters ≠ none) : info.encode = .ok bs := by
  obtain ⟨oid, rest, hstrict⟩ := parse_eq_ok_iff.mp h
  rw [hstrict.eq_framed]
  exact encode_eq_ok hstrict.algorithm (hstrict.parameters.written (Or.inr hparameters))

theorem parse_of_encode {info : PublicKeyInfo} {oid rest : Bytes}
    (halgorithm : ObjectId.decode oid = .ok info.algorithm)
    (hrest : WrittenParameters info.parameters rest)
    (hlen : oid.length + rest.length + info.publicKey.length + 19 < lengthBound) :
    ∃ bs, info.encode = .ok bs ∧ parse bs = .ok info := by
  refine ⟨_, encode_eq_ok halgorithm hrest, parse_eq_ok_iff.mpr ⟨oid, rest, ?_, rfl,
    halgorithm, hrest.parametersOf (by omega)⟩⟩
  have hoid := length_encode_le objectIdTag oid (by omega)
  refine framable_of_length ?_
  simp only [List.length_append, List.length_cons]
  omega

end PublicKeyInfo

end WebKeys
