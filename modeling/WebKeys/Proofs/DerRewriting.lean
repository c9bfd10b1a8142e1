import WebKeys.Proofs.DecodingFailures
import WebKeys.Proofs.StrictInformation

/-!
# Keys in DER are written as they were read, up to parameters

Two readers of DER take parameters that their keys do not remember.

* A secp256k1 key with the placeholder for an algorithm may have parameters of any kind, and is
  written without (`secp256k1_written_as_read`).
* An RSA key may have null parameters or none, and is written with null (`rsa_written_as_read`).

Apart from this every byte comes back, from the key, its public part and the web keys that are made
of it, whatever form is preferred. Both theorems say exactly which bytes are written.

Primitives that load numbers without a look at them pass on RSA keys that nothing can be done with.
Which they load is left open here, and what becomes of each key is told by its numbers.
-/

namespace WebKeys

open Outcome PublicKeyInfo

/-! ## Elliptic curve keys -/

namespace EcKey

/-- The parameters that are written again after an algorithm. -/
def keptParameters (algorithm : String) (rest : Bytes) : Bytes :=
  if algorithm = placeholderAlgorithm then [] else rest

theorem keptParameters_eq_iff {algorithm : String} {rest : Bytes} :
    keptParameters algorithm rest = rest ↔ (algorithm = placeholderAlgorithm → rest = []) := by
  unfold keptParameters
  split
  · next heq => simp [heq, eq_comm]
  · next hne => simp [hne]

/-- A secp256k1 key is written under the identifier it was read with, whatever form is preferred,
and only beside the registered one with the parameters. -/
theorem toDer_of_ofDer_secp256k1 {bs : Bytes} {k : EcKey} (h : ofDer .secp256k1 bs = .ok k) :
    ∃ info oid rest, StrictDer bs info oid rest ∧ ∀ preferred, k.toDer preferred =
      .ok (framed (Der.encode Der.objectIdTag oid ++ keptParameters info.algorithm rest)
        (0 :: info.publicKey)) := by
  obtain ⟨info, form, hinfo, hform, hcurve, hpoint, htoDer⟩ := toDer_eq_toForm_of_ofDer h
  obtain ⟨oid, rest, hstrict⟩ := parse_eq_ok_iff.mp hinfo
  refine ⟨info, oid, rest, hstrict, fun preferred => ?_⟩
  rw [htoDer]
  cases hform with
  | legacy _ halgorithm =>
    -- The form is all that the key remembers, so the parameters of the information do not matter.
    have hidentifier : identifierOf k.curve .legacy = .ok (info.algorithm, none) := by
      rw [identifierOf, halgorithm]
    rw [toForm_eq_ok hidentifier hpoint, keptParameters, if_pos halgorithm]
    exact mapError_eq_ok.mpr (@encode_eq_ok ⟨info.algorithm, none, info.publicKey⟩ oid []
      hstrict.algorithm .absent)
  | registered hoid halgorithm hparameters =>
    have hother : info.algorithm ≠ placeholderAlgorithm := by
      rw [halgorithm]
      decide
    rw [toForm_registered hinfo (.registered hoid halgorithm hparameters) hcurve hpoint,
      keptParameters, if_neg hother, ← hstrict.eq_framed]

end EcKey

/-! ## Conversions of a key that was read -/

namespace Conversion

open Key

variable {t : KeyType}

theorem ofPublicBytes_of_decodeKey {bs : Bytes} {k : Key} (ht : t.family ≠ .symmetric)
    (h : (decodeKey (some bs) t.tag).result = .ok k) : ofPublicBytes t bs = .ok k := by
  rw [result_decodeKey ht] at h
  exact inOperation_eq_ok.mp h

theorem ofPublicBytes_of_decodeWebKey {bs : Bytes} {kid : Option String} {w : WebKey}
    (ht : t.family ≠ .symmetric) (h : (decodeWebKey (some bs) t.tag kid).result = .ok w) :
    ofPublicBytes t bs = .ok w.key := by
  rw [decodeWebKey, Traced.result_timed, Traced.result_andThen, lookup_tag _ ht] at h
  obtain ⟨t', hlookup, hwebKey⟩ := bind_eq_ok.mp h
  cases hlookup
  rw [Traced.result_andThen] at hwebKey
  obtain ⟨k, hk, hcreate⟩ := bind_eq_ok.mp hwebKey
  have hread := ofPublicBytes_of_decodeKey ht hk
  rw [Traced.ofResult, WebKey.create, labelOf_eq ht (fits_of_ofPublicBytes hread), if_pos rfl]
    at hcreate
  cases hcreate
  exact hread

/-- A web key and its public part are written as these bytes. -/
def WebKeyWrittenAs (t : KeyType) (preferred : Result DerForm) (w : WebKey) (out : Bytes) : Prop :=
  (encodeKey preferred (.webKey w) t.tag).result = .ok out ∧
    (encodeKey preferred (.webKey w.publicPart) t.tag).result = .ok out

/-- The key that was read from `bs` is written as `out`: by itself, as its public part, and from
every web key that is made of it or of the bytes. -/
structure WrittenAs (t : KeyType) (preferred : Result DerForm) (bs : Bytes) (k : Key)
    (out : Bytes) (takes : RsaKey.LoadCheck := RsaKey.publicNumbersFit) : Prop where
  key : (encodeKey preferred (.key k) t.tag).result = .ok out
  publicPart : (encodeKey preferred (.key k.publicPart) t.tag).result = .ok out
  wrapped : ∀ kid use alg, ∃ w, (wrapKey (.key k) kid use alg).result = .ok w ∧
    WebKeyWrittenAs t preferred w out
  decoded : ∀ kid, ∃ w, (decodeWebKey (some bs) t.tag kid takes).result = .ok w ∧
    WebKeyWrittenAs t preferred w out

/-- Whatever is made of the bytes or the key is written as its public part is. -/
theorem writtenAs_of_inLayout {preferred : Result DerForm} {takes : RsaKey.LoadCheck}
    {bs out : Bytes} {k : Key} (ht : t.family ≠ .symmetric)
    (hread : ofPublicBytes t bs takes = .ok k)
    (hout : k.publicPart.inLayout preferred t.layout = .ok out) :
    WrittenAs t preferred bs k out takes := by
  have hfits := fits_of_ofPublicBytes hread
  -- Whatever is handed in, only the public part of the key in it is written.
  have hbytes (c : Candidate) (k' : Key) (hc : keyToEncode t c = .ok k')
      (hpublic : k'.publicPart = k.publicPart) :
      (encodeKey preferred c t.tag).result = .ok out := by
    have hfits' : Fits t k.publicPart := by simpa [Fits] using hfits
    rw [result_encodeKey ht hc, hpublic, toPublicBytes_of_fits ht hfits', hout]
    rfl
  have hwebKey (w : WebKey) (hw : w.key = k) : WebKeyWrittenAs t preferred w out :=
    ⟨hbytes _ _ rfl (congrArg _ hw),
      hbytes _ _ rfl (by rw [WebKey.publicPart, hw, publicPart_publicPart])⟩
  exact ⟨hbytes _ _ rfl rfl, hbytes _ _ rfl (publicPart_publicPart k),
    fun kid use alg => ⟨_, result_wrapKey k kid use alg, hwebKey _ rfl⟩,
    fun kid => ⟨_, result_decodeWebKey ht hread hfits kid, hwebKey _ rfl⟩⟩

/-! ## secp256k1 -/

/-- One of the readers of secp256k1 keys in DER takes the bytes for the key. -/
inductive ReadAsSecp256k1 (bs : Bytes) : Key → Prop
  | der {k : EcKey} (h : EcKey.ofDer .secp256k1 bs = .ok k) : ReadAsSecp256k1 bs (.ec k)
  | key {k : Key} (h : (decodeKey (some bs) "SECP256K1DER").result = .ok k) : ReadAsSecp256k1 bs k
  | webKey {kid : Option String} {w : WebKey}
      (h : (decodeWebKey (some bs) "SECP256K1DER" kid).result = .ok w) : ReadAsSecp256k1 bs w.key

theorem ReadAsSecp256k1.ofPublicBytes {bs : Bytes} {key : Key} (h : ReadAsSecp256k1 bs key) :
    Key.ofPublicBytes .secp256k1Der bs = .ok key := by
  cases h with
  | der h => exact map_eq_ok.mpr ⟨_, h, rfl⟩
  | key h => exact @ofPublicBytes_of_decodeKey .secp256k1Der _ _ (by decide) h
  | webKey h => exact @ofPublicBytes_of_decodeWebKey .secp256k1Der _ _ _ (by decide) h

/-- What a secp256k1 key in DER is written as does not depend on the preferred form: it is what the
key was read from, without parameters if the algorithm is the placeholder. -/
theorem secp256k1_written_as_read {bs : Bytes} {key : Key} (h : ReadAsSecp256k1 bs key) :
    ∃ k info oid rest out, key = .ec k ∧ StrictDer bs info oid rest ∧
      out = framed (Der.encode Der.objectIdTag oid ++ EcKey.keptParameters info.algorithm rest)
        (0 :: info.publicKey) ∧
      (∀ preferred, k.toDer preferred = .ok out ∧
        WrittenAs .secp256k1Der preferred bs key out) ∧
      (out = bs ↔ (info.algorithm = EcKey.placeholderAlgorithm → rest = [])) := by
  have hread := h.ofPublicBytes
  obtain ⟨k, hk, rfl⟩ := map_eq_ok.mp hread
  obtain ⟨info, oid, rest, hstrict, htoDer⟩ := EcKey.toDer_of_ofDer_secp256k1 hk
  refine ⟨k, info, oid, rest, _, rfl, hstrict, rfl, fun preferred => ⟨htoDer preferred, ?_⟩, ?_⟩
  · refine writtenAs_of_inLayout (by decide) hread ?_
    show k.publicPart.toDer preferred = _
    rw [EcKey.publicPart_of_ofDer hk, htoDer]
  · rw [hstrict.framed_eq_iff, EcKey.keptParameters_eq_iff]

/-- The base point with the placeholder and without parameters. -/
theorem legacy_base_point_written_back :
    (encodeKey (.ok .registered) (.key (.ec ⟨.secp256k1, Weierstrass.secp256k1.gx,
      Weierstrass.secp256k1.gy, none, some .legacy⟩)) "SECP256K1DER").result =
      .ok (framed (Der.encode Der.objectIdTag [0x50]) (0 :: EcKey.basePoint)) := by
  have hread : ReadAsSecp256k1
      (framed (Der.encode Der.objectIdTag [0x50]) (0 :: EcKey.basePoint))
      (.ec ⟨.secp256k1, Weierstrass.secp256k1.gx, Weierstrass.secp256k1.gy, none,
        some .legacy⟩) := .der rfl
  have hknown : StrictDer (framed (Der.encode Der.objectIdTag [0x50]) (0 :: EcKey.basePoint))
      ⟨EcKey.placeholderAlgorithm, none, EcKey.basePoint⟩ [0x50] [] :=
    ⟨by decide, rfl, rfl, .absent⟩
  obtain ⟨k, info, oid, rest, out, -, hstrict, -, hwritten, hsame⟩ :=
    secp256k1_written_as_read hread
  obtain ⟨-, -, hrest⟩ := hstrict.unique hknown
  rw [← hsame.mpr fun _ => hrest]
  exact (hwritten (.ok .registered)).2.key

/-- The base point with null parameters after the placeholder is written without them. -/
theorem placeholder_parameters_dropped : ∃ k out,
    EcKey.ofDer .secp256k1 (framed (Der.encode Der.objectIdTag [0x50] ++ RsaKey.nullElement)
      (0 :: EcKey.basePoint)) = .ok k ∧
    k.toDer (.ok .legacy) = .ok out ∧
    out ≠ framed (Der.encode Der.objectIdTag [0x50] ++ RsaKey.nullElement)
      (0 :: EcKey.basePoint) := by
  have hread : EcKey.ofDer .secp256k1
      (framed (Der.encode Der.objectIdTag [0x50] ++ RsaKey.nullElement) (0 :: EcKey.basePoint)) =
      .ok ⟨.secp256k1, Weierstrass.secp256k1.gx, Weierstrass.secp256k1.gy, none, some .legacy⟩ :=
    rfl
  have hknown : StrictDer
      (framed (Der.encode Der.objectIdTag [0x50] ++ RsaKey.nullElement) (0 :: EcKey.basePoint))
      ⟨EcKey.placeholderAlgorithm, none, EcKey.basePoint⟩ [0x50] RsaKey.nullElement :=
    ⟨by decide, rfl, rfl, RsaKey.parametersOf_null⟩
  obtain ⟨info, oid, rest, hstrict, htoDer⟩ := EcKey.toDer_of_ofDer_secp256k1 hread
  obtain ⟨rfl, rfl, rfl⟩ := hstrict.unique hknown
  refine ⟨_, _, hread, htoDer _, fun heq => ?_⟩
  have hnull := EcKey.keptParameters_eq_iff.mp ((hstrict.framed_eq_iff _).mp heq) rfl
  cases hnull

/-! ## RSA -/

section Rsa

variable {takes : RsaKey.LoadCheck} {bs : Bytes} {k : RsaKey}

/-- The RSA key that was read from `bs` is of use to the rest of the program: it is written as
`out`, and so is the web key that is made of the bytes, which goes through JSON unchanged. -/
structure UsableAs (t : KeyType) (takes : RsaKey.LoadCheck) (bs : Bytes) (k : RsaKey)
    (out : Bytes) : Prop where
  written : ∀ preferred, WrittenAs t preferred bs (.rsa k) out takes
  webKey : ∀ kid, ∃ w text, (decodeWebKey (some bs) t.tag kid takes).result = .ok w ∧
    w.publicBytes = .ok out ∧ w.toJson = .ok text ∧
    WebKey.ofJsonText (Utf8.encode text.toList) = .ok w

/-- The RSA key that was read from `bs` is refused as soon as it is put to use: it is not written,
nor is the web key that is made of the bytes, and the text of that is not read again. -/
structure RefusedInUse (t : KeyType) (takes : RsaKey.LoadCheck) (bs : Bytes) (k : RsaKey) :
    Prop where
  written : ∀ preferred, (encodeKey preferred (.key (.rsa k)) t.tag).result = refuse
  webKey : ∀ kid, ∃ w text, (decodeWebKey (some bs) t.tag kid takes).result = .ok w ∧
    w.publicBytes = refuse ∧ w.toJson = .ok text ∧
    WebKey.ofJsonText (Utf8.encode text.toList) =
      .error (WebKey.parseFailure (.rsaRefused .numbers))

theorem ofPublicBytes_of_rsa (ht : t.family = .rsa) (bs : Bytes) :
    ofPublicBytes t bs takes = (RsaKey.ofDer bs takes).map rsa := by
  cases t <;> first | rfl | cases ht

theorem family_ne_symmetric (ht : t.family = .rsa) : t.family ≠ .symmetric := by
  rw [ht]
  decide

/-- The web key that is made of the bytes of an RSA key. -/
theorem decodeWebKey_of_rsa (ht : t.family = .rsa) (hread : ofPublicBytes t bs takes = .ok (.rsa k))
    (kid : Option String) : (decodeWebKey (some bs) t.tag kid takes).result =
      .ok ⟨.rsa k, "RSA", none, kid, none, none⟩ :=
  result_decodeWebKey (family_ne_symmetric ht) hread (fits_of_ofPublicBytes hread) kid

variable {n e : Nat}

/-- Numbers that make up a public key are of use, whoever loaded them. -/
theorem usableAs_of_fit (ht : t.family = .rsa)
    (hread : ofPublicBytes t bs takes = .ok (.rsa { n := n, e := e }))
    (hfit : RsaKey.publicNumbersFit n e = true) :
    UsableAs t takes bs { n := n, e := e } (RsaKey.informationOf RsaKey.rsaIdentifier n e) := by
  have htoDer : RsaKey.toDer { n := n, e := e } = .ok (RsaKey.informationOf _ n e) :=
    RsaKey.toDer_eq_ok hfit
  have haccepted : RsaKey.accepted { n := n, e := e } = .ok { n := n, e := e } :=
    RsaKey.publicPart_accepted (k := { n := n, e := e }) hfit
  refine ⟨fun preferred => writtenAs_of_inLayout (family_ne_symmetric ht) hread htoDer,
    fun kid => ?_⟩
  obtain ⟨text, htext, hagain⟩ := WebKey.ofJsonText_toJson_of_rsa n e kid
  refine ⟨_, text, decodeWebKey_of_rsa ht hread kid, htoDer, htext, ?_⟩
  rw [hagain, haccepted]
  exact WebKey.ofKey_eq_ok (.rsa { n := n, e := e }) kid none none

/-- Numbers that make up no public key are refused, though they were loaded. -/
theorem refusedInUse_of_not_fit (ht : t.family = .rsa)
    (hread : ofPublicBytes t bs takes = .ok (.rsa { n := n, e := e }))
    (hfit : RsaKey.publicNumbersFit n e = false) : RefusedInUse t takes bs { n := n, e := e } := by
  have hn : (0 : Int) ≤ n := Int.natCast_nonneg n
  have he : (0 : Int) ≤ e := Int.natCast_nonneg e
  have htoDer : RsaKey.toDer { n := n, e := e } = refuse := RsaKey.toDer_refused hn he hfit
  have haccepted : RsaKey.accepted { n := n, e := e } = refuse :=
    RsaKey.publicPart_refused (k := { n := n, e := e }) hn he hfit
  have hfits : Fits t (.rsa { n := n, e := e }) := fits_of_ofPublicBytes hread
  refine ⟨fun preferred => ?_, fun kid => ?_⟩
  · rw [result_encodeKey (family_ne_symmetric ht) (keyToEncode_key _)]
    show inOperation .encodeKey t (toPublicBytes preferred t (.rsa { n := n, e := e })) = _
    rw [toPublicBytes_of_fits (family_ne_symmetric ht) hfits, inLayout, htoDer]
    rfl
  · obtain ⟨text, htext, hagain⟩ := WebKey.ofJsonText_toJson_of_rsa n e kid
    refine ⟨_, text, decodeWebKey_of_rsa ht hread kid, htoDer, htext, ?_⟩
    rw [hagain, haccepted]
    rfl

/-- What an RSA key in DER is written as: what the key was read from, with null parameters. The web
key that is made of the bytes goes through JSON unchanged. This holds of every loader and of all
numbers that it takes, if they make up a public key; others are refused when they are used. So the
bytes come back exactly if they have null parameters and such numbers. -/
theorem rsa_written_as_read (ht : t.family = .rsa) (h : RsaKey.ofDer bs takes = .ok k) :
    ∃ info rest out,
      StrictDer bs info RsaKey.rsaIdentifier rest ∧ (rest = [] ∨ rest = RsaKey.nullElement) ∧
      out = framed (Der.encode Der.objectIdTag RsaKey.rsaIdentifier ++ RsaKey.nullElement)
        (0 :: info.publicKey) ∧
      takes k.n k.e = true ∧
      (RsaKey.publicNumbersFit k.n k.e = true → UsableAs t takes bs k out) ∧
      (RsaKey.publicNumbersFit k.n k.e = false → RefusedInUse t takes bs k) ∧
      (out = bs ↔ rest = RsaKey.nullElement) ∧
      (UsableAs t takes bs k bs ↔
        rest = RsaKey.nullElement ∧ RsaKey.publicNumbersFit k.n k.e = true) := by
  have hread : ofPublicBytes t bs takes = .ok (.rsa k) := by
    rw [ofPublicBytes_of_rsa ht]
    exact map_eq_ok.mpr ⟨_, h, rfl⟩
  obtain ⟨n, e, rest, hstrict, hrest, -, htakes, rfl⟩ := RsaKey.ofDer_eq_ok_iff.mp h
  have husable := usableAs_of_fit ht hread
  have hrefused := refusedInUse_of_not_fit ht hread
  rw [RsaKey.informationOf_eq_framed] at husable
  have hsame : framed (Der.encode Der.objectIdTag RsaKey.rsaIdentifier ++ RsaKey.nullElement)
      (0 :: RsaKey.numbersElement n e) = bs ↔ rest = RsaKey.nullElement := by
    rw [hstrict.framed_eq_iff, eq_comm]
  refine ⟨_, rest, _, hstrict, hrest, rfl, htakes, husable, hrefused, hsame, ?_, ?_⟩
  · intro hback
    have hkey := (hback.written (.ok .legacy)).key
    cases hfit : RsaKey.publicNumbersFit n e with
    | true =>
      rw [((husable hfit).written (.ok .legacy)).key] at hkey
      exact ⟨hsame.mp (Except.ok.inj hkey), rfl⟩
    | false =>
      rw [(hrefused hfit).written] at hkey
      cases hkey
  · rintro ⟨hnull, hfit⟩
    have hback := husable hfit
    rw [hsame.mpr hnull] at hback
    exact hback

end Rsa

/-- A key of two small numbers with null parameters. -/
theorem small_rsa_key_written_back :
    (encodeKey (.ok .legacy) (.key (.rsa { n := 5, e := 3 })) "RSARS256").result =
      .ok (framed (Der.encode Der.objectIdTag RsaKey.rsaIdentifier ++ RsaKey.nullElement)
        (0 :: RsaKey.numbersElement 5 3)) := by
  have hread : RsaKey.ofDer (RsaKey.informationOf RsaKey.rsaIdentifier 5 3) = _ :=
    @RsaKey.ofDer_informationOf _ 5 3 (by decide) (by decide) (by decide) (by decide)
  obtain ⟨info, rest, out, hstrict, -, -, -, -, -, -, hback⟩ :=
    rsa_written_as_read (t := .rsaRs256) rfl hread
  have hknown : StrictDer (RsaKey.informationOf RsaKey.rsaIdentifier 5 3)
      ⟨RsaKey.algorithm, none, RsaKey.numbersElement 5 3⟩ RsaKey.rsaIdentifier
      RsaKey.nullElement :=
    ⟨by decide, rfl, rfl, RsaKey.parametersOf_null⟩
  obtain ⟨-, -, hrest⟩ := hstrict.unique hknown
  exact ((hback.mpr ⟨hrest, rfl⟩).written (.ok .legacy)).key

/-- The same key with absent parameters is written with null. -/
theorem absent_parameters_written_as_null : ∃ k out,
    RsaKey.ofDer (framed (Der.encode Der.objectIdTag RsaKey.rsaIdentifier)
      (0 :: RsaKey.numbersElement 5 3)) = .ok k ∧
    (encodeKey (.ok .legacy) (.key (.rsa k)) "RSARS256").result = .ok out ∧
    out ≠ framed (Der.encode Der.objectIdTag RsaKey.rsaIdentifier)
      (0 :: RsaKey.numbersElement 5 3) := by
  have htoDer := RsaKey.toDer_eq_ok (k := { n := 5, e := 3 }) rfl
  have hwritten : WrittenAs .rsaRs256 (.ok .legacy) (RsaKey.informationOf RsaKey.rsaIdentifier 5 3)
      (.rsa { n := 5, e := 3 }) _ := writtenAs_of_inLayout (by decide) rfl htoDer
  exact ⟨{ n := 5, e := 3 }, _, rfl, hwritten.key, by decide +kernel⟩

/-- An exponent that is even: a loader that does not look at the numbers takes it, and then the key
is not written; the one that does refuses to read it. -/
theorem even_exponent_refused_in_use :
    (∃ k, RsaKey.ofDer (RsaKey.informationOf RsaKey.rsaIdentifier 15 2) (fun _ _ => true) = .ok k ∧
      RefusedInUse .rsaRs256 (fun _ _ => true) (RsaKey.informationOf RsaKey.rsaIdentifier 15 2) k) ∧
    RsaKey.ofDer (RsaKey.informationOf RsaKey.rsaIdentifier 15 2) =
      .error (.ofReason .rsaNumbers) := by
  have hread : RsaKey.ofDer (RsaKey.informationOf RsaKey.rsaIdentifier 15 2) (fun _ _ => true) =
      .ok { n := 15, e := 2 } :=
    RsaKey.ofDer_informationOf (n := 15) (e := 2) (by decide) (by decide) rfl (by decide)
  exact ⟨⟨_, hread, refusedInUse_of_not_fit rfl (map_eq_ok.mpr ⟨_, hread, rfl⟩) (by decide)⟩, rfl⟩

end Conversion

end WebKeys
