import WebKeys.Creation
import WebKeys.Proofs.DecodingFailures

/-!
# Labels are those of the keys

A web key has its label from two sides. Decoding takes it from the key type, all other operations
from the key, and whatever makes a web key compares it with the key's own. So the comparison can
fail only in decoding, and there it does not: what is read under a type has the family and the curve
of the type (`Key.fits_of_ofPublicBytes`).

* `Obtained`: the web keys that the operations of this library give out.
* `labels_agree`: decoding to a web key is decoding to a key and wrapping it; the two types of raw
  keys differ in the curve and in nothing else; and every web key that is obtained has the label of
  its key.
-/

namespace WebKeys

open Outcome

/-! ## Failures of reading -/

/-- A failure that comes before anything is put together. -/
def Failure.BeforeCreation (f : Failure) : Prop := ∀ e, f = .conversion e → e.kind ≠ .keyCreation

namespace Key

theorem beforeCreation_of_ofPublicBytes {t : KeyType} {bs : Bytes} {f : Failure}
    (h : ofPublicBytes t bs = .error f) : f.BeforeCreation := by
  obtain ⟨reason, rfl, hkind⟩ | ⟨hlayout, hlong⟩ := failure_of_ofPublicBytes h
  · rintro e ⟨⟩
    exact hkind
  · rw [ofPublicBytes_of_longArc hlayout hlong] at h
    cases h
    rintro e ⟨⟩

/-- No reader of exported bytes makes a private key. -/
theorem isPrivate_of_ofPublicBytes {t : KeyType} {bs : Bytes} {k : Key}
    (h : ofPublicBytes t bs = .ok k) : k.isPrivate = false := by
  have hpoint {c : Curve} {bs : Bytes} {k : EcKey} (hk : EcKey.ofPoint c bs = .ok k) :
      (Key.ec k).isPrivate = false := by
    obtain ⟨-, hbare, -⟩ := EcKey.toPoint_of_ofPoint hk
    rw [← hbare]
    rfl
  unfold ofPublicBytes at h
  split at h
  · obtain ⟨k, hk, rfl⟩ := map_eq_ok.mp h
    exact hpoint hk
  · obtain ⟨k, hk, rfl⟩ := map_eq_ok.mp h
    rw [← EcKey.publicPart_of_ofDer hk]
    rfl
  · obtain ⟨k, hk, rfl⟩ := map_eq_ok.mp h
    obtain ⟨n, e, rest, -, -, -, -, rfl⟩ := RsaKey.ofDer_eq_ok_iff.mp hk
    rfl
  · obtain ⟨k, hk, rfl⟩ := map_eq_ok.mp h
    obtain ⟨point, hread⟩ := EcKey.exists_ofPoint_of_ofKeyWrapJson hk
    exact hpoint hread
  · obtain ⟨k, hk, rfl⟩ := map_eq_ok.mp h
    cases OkpKey.ofRaw_eq_ok hk
    rfl
  · obtain ⟨k, hk, rfl⟩ := map_eq_ok.mp h
    cases ofCompressed_eq_ok hk
    rfl
  · cases h

end Key

/-! ## Decoding -/

namespace Conversion

open Key

variable {t : KeyType}

theorem beforeCreation_of_keyOfBytes {bs : Option Bytes} {f : Failure}
    (h : keyOfBytes bs t = .error f) : f.BeforeCreation := by
  cases bs with
  | none =>
    cases h
    rintro e ⟨⟩
    rintro ⟨⟩
  | some bs =>
    obtain ⟨f', hf'⟩ := error_of_inOperation h
    have hread := beforeCreation_of_ofPublicBytes hf'
    rw [keyOfBytes, hf'] at h
    unfold inOperation at h
    -- The names that are added to the failure do not change its reason.
    split at h
    · next e he =>
      have hkind := hread e (Except.error.inj he)
      split at h <;> cases h <;> rintro e' ⟨⟩ <;> exact hkind
    · cases h
      exact hread

theorem keyOfBytes_eq_ok {bs : Option Bytes} {k : Key} (h : keyOfBytes bs t = .ok k) :
    ∃ data, bs = some data ∧ ofPublicBytes t data = .ok k := by
  cases bs with
  | none => cases h
  | some data => exact ⟨data, rfl, inOperation_eq_ok.mp h⟩

/-- Both results of decoding, for a type whose keys have a public part. The label of the type is the
key's own, so a key that is read is wrapped without fail. -/
theorem results_of_decoding (ht : t.family ≠ .symmetric) (bs : Option Bytes)
    (kid : Option String) : (decodeKey bs t.tag).result = keyOfBytes bs t ∧
      (decodeWebKey bs t.tag kid).result =
        keyOfBytes bs t >>= fun k => (wrapKey (.key k) kid).result := by
  have hkey : (decodeKey bs t.tag).result = keyOfBytes bs t := by
    rw [decodeKey, Traced.result_timed, lookup_tag _ ht]
    rfl
  refine ⟨hkey, ?_⟩
  rw [decodeWebKey, Traced.result_timed, Traced.result_andThen, lookup_tag _ ht]
  show (Traced.andThen _ _).result = _
  rw [Traced.result_andThen, hkey]
  cases hread : keyOfBytes bs t with
  | error f => rfl
  | ok k =>
    obtain ⟨data, -, hdata⟩ := keyOfBytes_eq_ok hread
    show WebKey.create k (labelOf t) kid none none = _
    rw [labelOf_eq ht (fits_of_ofPublicBytes hdata)]
    rfl

theorem failures_of_symmetric (ht : t.family = .symmetric) (bs : Option Bytes)
    (kid : Option String) :
    (decodeKey bs t.tag).result = .error (errorIn .decodeKey t (.withoutPublicKey t)) ∧
      (decodeWebKey bs t.tag kid).result =
        .error (errorIn .decodeWebKey t (.withoutPublicKey t)) := by
  have hlookup (op : Operation) : lookup op t.tag = .error (errorIn op t (.withoutPublicKey t)) := by
    rw [lookup, KeyType.ofTag?_tag]
    exact if_pos ht
  rw [decodeKey, decodeWebKey, Traced.result_timed, Traced.result_timed, Traced.result_andThen,
    hlookup, hlookup]
  exact ⟨rfl, rfl⟩

end Conversion

/-! ## All ways to a web key -/

namespace WebKey

theorem label_of_create {k : Key} {label : Option String × Option String}
    {kid use alg : Option String} {w : WebKey} (h : create k label kid use alg = .ok w) :
    (w.group, w.curve) = w.key.label := by
  unfold create at h
  split at h
  · cases h
    rfl
  · cases h

/-- The web keys that callers get: decoded from bytes, wrapped, labelled by themselves, read from
documents, handed out by a store of whatever kind, and the public parts of those. -/
inductive Obtained : WebKey → Prop
  | decoded {bs : Option Bytes} {tag : String} {kid : Option String} {w : WebKey}
      (h : (Conversion.decodeWebKey bs tag kid).result = .ok w) : Obtained w
  | wrapped {c : Candidate} {kid use alg : Option String} {w : WebKey}
      (h : (Conversion.wrapKey c kid use alg).result = .ok w) : Obtained w
  | wrappedX25519 {bs : Option Bytes} {kid : Option String} {w : WebKey}
      (h : Conversion.wrapX25519 bs kid = .ok w) : Obtained w
  | labelled {c : Candidate} {label : Option String × Option String} {kid use alg : Option String}
      {w : WebKey} (h : c.toWebKey label kid use alg = .ok w) : Obtained w
  | ofJson {v : Json} {w : WebKey} (h : ofJson v = .ok w) : Obtained w
  | ofJsonText {bs : Bytes} {w : WebKey} (h : ofJsonText bs = .ok w) : Obtained w
  | created {σ : Type} {store : KeyStore σ} {tag : String} {s : σ} {w : WebKey}
      (h : (store.createWebKey tag s).1.result = .ok w) : Obtained w
  | exported {σ : Type} {store : KeyStore σ} {id : String} {s : σ} {w : WebKey} {t : KeyType}
      (h : (store.exportWebKey id s).1.result = .ok (w, t)) : Obtained w
  | publicPart {w : WebKey} (h : Obtained w) : Obtained w.publicPart

theorem label_of_decodeWebKey {bs : Option Bytes} {tag : String} {kid : Option String} {w : WebKey}
    (h : (Conversion.decodeWebKey bs tag kid).result = .ok w) :
    (w.group, w.curve) = w.key.label := by
  rw [Conversion.decodeWebKey, Traced.result_timed, Traced.result_andThen] at h
  obtain ⟨t, -, h⟩ := bind_eq_ok.mp h
  rw [Traced.result_andThen] at h
  obtain ⟨k, -, h⟩ := bind_eq_ok.mp h
  exact label_of_create h

theorem label_of_wrapKey {c : Candidate} {kid use alg : Option String} {w : WebKey}
    (h : (Conversion.wrapKey c kid use alg).result = .ok w) :
    (w.group, w.curve) = w.key.label := by
  rw [Conversion.wrapKey, Traced.result_timed, Traced.ofResult] at h
  unfold Conversion.webKeyOf at h
  split at h
  · cases h
  · obtain ⟨k?, -, h⟩ := bind_eq_ok.mp h
    split at h
    · exact label_of_create h
    · cases h

theorem label_of_wrapX25519 {bs : Option Bytes} {kid : Option String} {w : WebKey}
    (h : Conversion.wrapX25519 bs kid = .ok w) : (w.group, w.curve) = w.key.label := by
  unfold Conversion.wrapX25519 at h
  split at h
  · exact label_of_create h
  · cases h
  · cases h

theorem label_of_toWebKey {c : Candidate} {label : Option String × Option String}
    {kid use alg : Option String} {w : WebKey} (h : c.toWebKey label kid use alg = .ok w) :
    (w.group, w.curve) = w.key.label := by
  obtain ⟨k?, -, h⟩ := bind_eq_ok.mp h
  split at h
  · exact label_of_create h
  · cases h

theorem label_of_ofChecked {r : Except (List FieldFault) Document} {w : WebKey}
    (h : ofChecked r = .ok w) : (w.group, w.curve) = w.key.label := by
  cases r with
  | error faults => cases h
  | ok doc =>
    obtain ⟨k, -, h⟩ := bind_eq_ok.mp h
    exact label_of_create h

end WebKey

namespace KeyStore

variable {σ : Type} {store : KeyStore σ} {s : σ}

/-- A store's web key is decoded from the bytes that the store hands out. -/
theorem decodeWebKey_of_createWebKey {tag : String} {w : WebKey}
    (h : (store.createWebKey tag s).1.result = .ok w) :
    ∃ bs tag' kid, (Conversion.decodeWebKey bs tag' kid).result = .ok w := by
  unfold createWebKey createThen at h
  split at h
  · cases h
  · next t ht =>
    dsimp only at h
    rw [Traced.result_andThen] at h
    obtain ⟨⟨id, bs⟩, -, h⟩ := bind_eq_ok.mp h
    rw [Traced.result_andThen] at h
    obtain ⟨w, hw, h⟩ := bind_eq_ok.mp h
    cases h
    exact ⟨bs, _, _, hw⟩

theorem decodeWebKey_of_exportWebKey {id : String} {w : WebKey} {t : KeyType}
    (h : (store.exportWebKey id s).1.result = .ok (w, t)) :
    ∃ bs tag kid, (Conversion.decodeWebKey bs tag kid).result = .ok w := by
  unfold exportWebKey at h
  dsimp only at h
  rw [Traced.result_andThen] at h
  obtain ⟨⟨bs, tag⟩, -, h⟩ := bind_eq_ok.mp h
  rw [Traced.result_andThen] at h
  obtain ⟨t, -, h⟩ := bind_eq_ok.mp h
  rw [Traced.result_andThen] at h
  obtain ⟨w, hw, h⟩ := bind_eq_ok.mp h
  cases h
  exact ⟨bs, _, _, hw⟩

end KeyStore

namespace WebKey

/-- However a web key was obtained, its label is that of its key. -/
theorem Obtained.label {w : WebKey} (h : Obtained w) : (w.group, w.curve) = w.key.label := by
  induction h with
  | decoded h => exact label_of_decodeWebKey h
  | wrapped h => exact label_of_wrapKey h
  | wrappedX25519 h => exact label_of_wrapX25519 h
  | labelled h => exact label_of_toWebKey h
  | ofJson h => exact label_of_ofChecked h
  | ofJsonText h => exact label_of_ofChecked h
  | created h =>
    obtain ⟨bs, tag, kid, hw⟩ := KeyStore.decodeWebKey_of_createWebKey h
    exact label_of_decodeWebKey hw
  | exported h =>
    obtain ⟨bs, tag, kid, hw⟩ := KeyStore.decodeWebKey_of_exportWebKey h
    exact label_of_decodeWebKey hw
  | publicPart h ih => exact ih.trans (Key.label_publicPart _).symm

end WebKey

/-! ## Agreement -/

namespace Conversion

open Key

/-- Under the types of raw keys, the same bytes are keys of both or of neither. -/
theorem decodeWebKey_raw (bs : Option Bytes) (kid : Option String) :
    ((∃ f, (decodeWebKey bs "ED25519" kid).result = .error f) ∧
      ∃ f, (decodeWebKey bs "X25519ECDHKW" kid).result = .error f) ∨
    ∃ x, (decodeWebKey bs "ED25519" kid).result =
        .ok ⟨.okp { curve := .ed25519, x := x }, "OKP", some "Ed25519", kid, none, none⟩ ∧
      (decodeWebKey bs "X25519ECDHKW" kid).result =
        .ok ⟨.okp { curve := .x25519, x := x }, "OKP", some "X25519", kid, none, none⟩ := by
  have hed := (results_of_decoding (t := .ed25519) (by decide) bs kid).2
  have hx := (results_of_decoding (t := .x25519) (by decide) bs kid).2
  rw [show "ED25519" = KeyType.ed25519.tag from rfl, hed,
    show "X25519ECDHKW" = KeyType.x25519.tag from rfl, hx]
  cases bs with
  | none => exact Or.inl ⟨⟨_, rfl⟩, _, rfl⟩
  | some x =>
    by_cases hlen : x.length = 32
    · have hread {t : KeyType} {c : Curve} (hc : c.family = .okp)
          (ht : ofPublicBytes t x = (OkpKey.ofRaw c (some x)).map .okp) :
          keyOfBytes (some x) t = .ok (.okp { curve := c, x := x }) :=
        inOperation_eq_ok.mpr (ht.trans (map_eq_ok.mpr ⟨_, ofRaw_of_length hc hlen, rfl⟩))
      rw [hread (c := .ed25519) rfl rfl, hread (c := .x25519) rfl rfl]
      exact Or.inr ⟨x, rfl, rfl⟩
    · have hread {t : KeyType} {c : Curve} (hsize : c.size = 32)
          (ht : ofPublicBytes t x = (OkpKey.ofRaw c (some x)).map .okp) :
          ∃ f, keyOfBytes (some x) t = .error f := by
        rw [keyOfBytes, ht, OkpKey.ofRaw, Option.getD_some, hsize, if_neg hlen]
        exact ⟨_, rfl⟩
      obtain ⟨f, hf⟩ := hread (t := .ed25519) (c := .ed25519) rfl rfl
      obtain ⟨f', hf'⟩ := hread (t := .x25519) (c := .x25519) rfl rfl
      rw [hf, hf']
      exact Or.inl ⟨⟨_, rfl⟩, _, rfl⟩

/-- Decoding gives a web key exactly if it gives a key, and then the public one that the key is
wrapped in; that the label does not fit is never the reason of a failure. Raw bytes are keys of both
types or of neither, under labels that differ in the curve. And no operation gives out a web key
under a label that is not its key's. -/
theorem labels_agree :
    (∀ (bs : Option Bytes) (t : KeyType) (kid : Option String),
      (∀ k, (decodeKey bs t.tag).result = .ok k → ∃ w,
        (decodeWebKey bs t.tag kid).result = .ok w ∧ (wrapKey (.key k) kid).result = .ok w ∧
          w.isPrivate = false) ∧
      (∀ w, (decodeWebKey bs t.tag kid).result = .ok w →
        ∃ k, (decodeKey bs t.tag).result = .ok k) ∧
      ∀ e, (decodeWebKey bs t.tag kid).result = .error (.conversion e) →
        e.kind ≠ .keyCreation) ∧
    (∀ (bs : Option Bytes) (kid : Option String),
      ((∃ f, (decodeWebKey bs "ED25519" kid).result = .error f) ∧
        ∃ f, (decodeWebKey bs "X25519ECDHKW" kid).result = .error f) ∨
      ∃ x, (decodeWebKey bs "ED25519" kid).result =
          .ok ⟨.okp { curve := .ed25519, x := x }, "OKP", some "Ed25519", kid, none, none⟩ ∧
        (decodeWebKey bs "X25519ECDHKW" kid).result =
          .ok ⟨.okp { curve := .x25519, x := x }, "OKP", some "X25519", kid, none, none⟩) ∧
    ∀ w, WebKey.Obtained w → (w.group, w.curve) = w.key.label := by
  refine ⟨fun bs t kid => ?_, decodeWebKey_raw, fun w h => h.label⟩
  by_cases ht : t.family = .symmetric
  · obtain ⟨hkey, hwebKey⟩ := failures_of_symmetric ht bs kid
    rw [hkey, hwebKey]
    refine ⟨?_, ?_, ?_⟩
    · intro k h
      cases h
    · intro w h
      cases h
    · intro e h
      cases h
      exact fun hkind => ErrorKind.noConfusion hkind
  · obtain ⟨hkey, hwebKey⟩ := results_of_decoding ht bs kid
    rw [hkey, hwebKey]
    refine ⟨fun k h => ?_, fun w h => ?_, fun e h => ?_⟩
    · obtain ⟨data, -, hdata⟩ := keyOfBytes_eq_ok h
      rw [h, ok_bind, result_wrapKey]
      exact ⟨_, rfl, rfl, isPrivate_of_ofPublicBytes hdata⟩
    · obtain ⟨k, hk, -⟩ := bind_eq_ok.mp h
      exact ⟨k, hk⟩
    · obtain hread | ⟨k, -, hwrap⟩ := bind_eq_error.mp h
      · exact beforeCreation_of_keyOfBytes hread e rfl
      · rw [result_wrapKey] at hwrap
        cases hwrap

/-- Zero bytes, decoded under the one type of raw keys and wrapped as a key of the other. -/
theorem zero_bytes_labelled :
    (∃ w, (decodeWebKey (some (List.replicate 32 0)) "ED25519" (some "id")).result = .ok w ∧
      (wrapKey (.key (.okp { curve := .ed25519, x := List.replicate 32 0 })) (some "id")).result =
        .ok w ∧ w.isPrivate = false) ∧
    ∃ w, wrapX25519 (some (List.replicate 32 0)) = .ok w ∧
      (w.publicPart.group, w.publicPart.curve) = w.publicPart.key.label := by
  obtain ⟨hdecoding, -, hobtained⟩ := labels_agree
  have hwrapped : wrapX25519 (some (List.replicate 32 0)) =
      .ok ⟨.okp ⟨.x25519, List.replicate 32 0, none⟩, "OKP", some "X25519", none, none, none⟩ := rfl
  exact ⟨(hdecoding (some (List.replicate 32 0)) .ed25519 (some "id")).1 _ rfl, _, hwrapped,
    hobtained _ (.publicPart (.wrappedX25519 hwrapped))⟩

end Conversion

end WebKeys
