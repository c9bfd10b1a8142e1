import WebKeys.Creation
import WebKeys.Proofs.Labels

/-!
# Keys from any store

Nothing is known of a store but what it answers. It is asked once for each key, and what it answers
is all that counts: a failure is passed on, and bytes are read as they would be without a store
(`createWebKey_goesAs`, `createKey_goesAs`, `exportWebKey_goesAs`). The identifier is put on a web
key that has already been read (`decodeWebKey_kid`), so no failure can depend on it.

* `recorded`: a store that keeps a list of what it was asked.
* `Indistinct`: two uses fail alike, log included, or give results in a relation.
* `any_store_is_used_faithfully`: the requests, the failures and the results.
-/

namespace WebKeys

open Outcome

/-! ## Decoding under an identifier -/

namespace Conversion

theorem create_kid (k : Key) (label : Option String × Option String) (kid : Option String) :
    WebKey.create k label kid none none =
      (WebKey.create k label none none none).map fun w => { w with kid := kid } := by
  unfold WebKey.create
  split <;> rfl

theorem ended_map {α β : Type} (logger name : String) (r : Result α) (f : α → β) :
    Traced.ended logger name (r.map f) = Traced.ended logger name r := by
  cases r <;> rfl

/-- An identifier stands on the web key and nowhere else. -/
theorem decodeWebKey_kid (bs : Option Bytes) (tag : String) (kid : Option String) :
    (decodeWebKey bs tag kid).result =
        (decodeWebKey bs tag).result.map (fun w => { w with kid := kid }) ∧
      (decodeWebKey bs tag kid).events = (decodeWebKey bs tag).events := by
  unfold decodeWebKey
  cases lookup .decodeWebKey tag with
  | error f => exact ⟨rfl, rfl⟩
  | ok t =>
    cases hkey : decodeKey bs t.tag with
    | mk r es =>
      cases r with
      | error f =>
        simp [Traced.timed, Traced.andThen, Traced.ofResult, hkey, Except.map, Traced.ended]
      | ok k =>
        simp only [Traced.timed, Traced.andThen, Traced.ofResult, hkey]
        rw [create_kid k (labelOf t) kid, ended_map]
        exact ⟨rfl, rfl⟩

/-- What is decoded to a web key is what is decoded to a key, under the key's own label. -/
theorem decodeWebKey_eq_ok_iff {bs : Option Bytes} {t : KeyType} {kid : Option String}
    {w : WebKey} :
    (decodeWebKey bs t.tag kid).result = .ok w ↔ ∃ k, (decodeKey bs t.tag).result = .ok k ∧
      w = ⟨k, k.label.1, k.label.2, kid, none, none⟩ := by
  by_cases ht : t.family = .symmetric
  · obtain ⟨hkey, hwebKey⟩ := failures_of_symmetric ht bs kid
    rw [hkey, hwebKey]
    simp
  · obtain ⟨hkey, hwebKey⟩ := results_of_decoding ht bs kid
    rw [hkey, hwebKey, bind_eq_ok]
    simp only [result_wrapKey, Except.ok.injEq, eq_comm]

end Conversion

namespace KeyStore

variable {σ τ : Type}

/-- What a store can be asked. -/
inductive Request
  | create (t : KeyType)
  | exportKey (id : String)
  deriving DecidableEq

/-- The store with a list of all that it was asked, the newest last. -/
def recorded (store : KeyStore σ) : KeyStore (σ × List Request) where
  create t s := ((store.create t s.1).1, (store.create t s.1).2, s.2 ++ [.create t])
  exportKey id s := ((store.exportKey id s.1).1, (store.exportKey id s.1).2, s.2 ++ [.exportKey id])

/-! ## What becomes of an answer -/

/-- The error of a tag that is not registered. -/
def unregistered (tag : String) : ConversionError :=
  { ConversionError.ofReason (.unknownTag tag) with keyType := some tag }

theorem createThen_of_unknown {α : Type} (store : KeyStore σ) {tag : String}
    (h : KeyType.ofTag? tag = none) (f : KeyType → Option String → Option Bytes → Traced α)
    (s : σ) :
    store.createThen tag f s = (.ofResult (.error (.conversion (unregistered tag))), s) := by
  rw [createThen, KeyType.require, h]
  rfl

/-- The use of a store goes as the reading of its bytes: it fails like that, log included, or gives
what is made of the result. -/
def GoesAs {α β : Type} (use : Traced α) (before : List Log.Event) (reading : Traced β)
    (make : β → α) : Prop :=
  match reading.result with
  | .ok b => use.result = .ok (make b)
  | .error e => use = ⟨.error e, before ++ reading.events⟩

theorem goesAs_andThen {α β : Type} {reading reading' : Traced β} {before : List Log.Event}
    {make : β → β} {finish : β → Traced α} {made : β → α}
    (hresult : reading.result = reading'.result.map make)
    (hevents : reading.events = reading'.events)
    (hfinish : ∀ b, (finish (make b)).result = .ok (made b)) :
    GoesAs ⟨(reading.andThen finish).result, before ++ (reading.andThen finish).events⟩ before
      reading' made := by
  unfold GoesAs
  cases hread : reading'.result with
  | ok b =>
    rw [hread] at hresult
    show (reading.andThen finish).result = _
    rw [Traced.andThen_of_ok hresult, hfinish]
  | error e =>
    rw [hread] at hresult
    dsimp only
    rw [Traced.andThen_of_error hresult, hevents]

section Answers

variable {store : KeyStore σ} {s : σ} {t : KeyType} {id : Option String} {bs : Option Bytes}

theorem createWebKey_goesAs (h : (store.create t s).1.result = .ok (id, bs)) :
    GoesAs (store.createWebKey t.tag s).1 (store.create t s).1.events
      (Conversion.decodeWebKey bs t.tag) fun w => { w with kid := id } := by
  obtain ⟨hresult, hevents⟩ := Conversion.decodeWebKey_kid bs t.tag id
  rw [createWebKey, createThen_tag, Traced.andThen_of_ok h]
  exact goesAs_andThen hresult hevents fun w => rfl

theorem createKey_goesAs (h : (store.create t s).1.result = .ok (id, bs)) :
    GoesAs (store.createKey t.tag s).1 (store.create t s).1.events
      (Conversion.decodeKey bs t.tag) fun k => (id, k) := by
  have hresult : (Conversion.decodeKey bs t.tag).result =
      (Conversion.decodeKey bs t.tag).result.map fun k => k := by
    cases (Conversion.decodeKey bs t.tag).result <;> rfl
  rw [createKey, createThen_tag, Traced.andThen_of_ok h]
  exact goesAs_andThen hresult rfl fun k => rfl

theorem exportWebKey_goesAs {key tag : String}
    (h : (store.exportKey key s).1.result = .ok (bs, tag)) (ht : KeyType.ofTag? tag = some t) :
    GoesAs (store.exportWebKey key s).1 (store.exportKey key s).1.events
      (Conversion.decodeWebKey bs tag) fun w => ({ w with kid := some key }, t) := by
  obtain ⟨hresult, hevents⟩ := Conversion.decodeWebKey_kid bs tag (some key)
  rw [exportWebKey]
  dsimp only
  rw [Traced.andThen_of_ok h, KeyType.require, ht, Traced.andThen_of_ok rfl,
    KeyType.tag_of_ofTag? ht]
  exact goesAs_andThen hresult hevents fun w => rfl

theorem exportWebKey_of_unknown {key tag : String}
    (h : (store.exportKey key s).1.result = .ok (bs, tag)) (ht : KeyType.ofTag? tag = none) :
    (store.exportWebKey key s).1 =
      ⟨.error (.conversion (unregistered tag)), (store.exportKey key s).1.events⟩ := by
  rw [exportWebKey]
  dsimp only
  rw [Traced.andThen_of_ok h, KeyType.require, ht, Traced.andThen_of_error rfl]
  simp [Traced.ofResult, unregistered]

end Answers

/-- A use that goes as a reading succeeds exactly where the reading does, with what is made of its
result. -/
theorem GoesAs.eq_ok_iff {α β : Type} {use : Traced α} {before : List Log.Event}
    {reading : Traced β} {make : β → α} (h : GoesAs use before reading make) (a : α) :
    use.result = .ok a ↔ ∃ b, reading.result = .ok b ∧ a = make b := by
  unfold GoesAs at h
  cases hread : reading.result with
  | ok b =>
    rw [hread] at h
    rw [h]
    simp [eq_comm]
  | error e =>
    rw [hread] at h
    rw [h]
    simp

/-! ## Two stores -/

/-- Two uses fail with the same failure, and the log says the same of it after what the stores
noted, or they give results in the relation. -/
def Indistinct {α : Type} (R : α → α → Prop) (a b : Traced α) (before before' : List Log.Event) :
    Prop :=
  (∃ e es, a = ⟨.error e, before ++ es⟩ ∧ b = ⟨.error e, before' ++ es⟩) ∨
    ∃ x y, a.result = .ok x ∧ b.result = .ok y ∧ R x y

theorem GoesAs.indistinct {α β : Type} {R : α → α → Prop} {a b : Traced α}
    {before before' : List Log.Event} {reading : Traced β} {make make' : β → α}
    (ha : GoesAs a before reading make) (hb : GoesAs b before' reading make')
    (hR : ∀ x, R (make x) (make' x)) : Indistinct R a b before before' := by
  unfold GoesAs at ha hb
  cases hread : reading.result with
  | ok x =>
    rw [hread] at ha hb
    exact Or.inr ⟨_, _, ha, hb, hR x⟩
  | error e =>
    rw [hread] at ha hb
    exact Or.inl ⟨e, _, ha, hb⟩

theorem indistinct_exportWebKey {store : KeyStore σ} {other : KeyStore τ} {s : σ} {r : τ}
    {id id' tag : String} {bs : Option Bytes} (h : (store.exportKey id s).1.result = .ok (bs, tag))
    (h' : (other.exportKey id' r).1.result = .ok (bs, tag)) :
    Indistinct (fun a b => a.1.kid = some id ∧ b = ({ a.1 with kid := some id' }, a.2))
      (store.exportWebKey id s).1 (other.exportWebKey id' r).1
      (store.exportKey id s).1.events (other.exportKey id' r).1.events := by
  cases ht : KeyType.ofTag? tag with
  | none =>
    refine Or.inl ⟨.conversion (unregistered tag), [], ?_, ?_⟩
    · rw [exportWebKey_of_unknown h ht, List.append_nil]
    · rw [exportWebKey_of_unknown h' ht, List.append_nil]
  | some t =>
    exact (exportWebKey_goesAs h ht).indistinct (exportWebKey_goesAs h' ht) fun w => ⟨rfl, rfl⟩

/-! ## All stores -/

/-- Whatever a store is, creating a key asks it once, for the key type of the tag, and not at all if
there is none; exporting a key asks it once, for the identifier. What it reports is passed on. Bytes
that it answers with are read as by themselves, to the same key in all three operations, which put
the store's identifier on it. Two stores that answer with the same bytes under different identifiers
lead to the same failure and the same log, or to results that differ in the identifier alone. -/
theorem any_store_is_used_faithfully (store : KeyStore σ) (s : σ) :
    (∀ (t : KeyType) (log : List Request),
      store.recorded.createWebKey t.tag (s, log) =
        ((store.createWebKey t.tag s).1, (store.create t s).2, log ++ [.create t]) ∧
      store.recorded.createKey t.tag (s, log) =
        ((store.createKey t.tag s).1, (store.create t s).2, log ++ [.create t])) ∧
    (∀ (id : String) (log : List Request), store.recorded.exportWebKey id (s, log) =
      ((store.exportWebKey id s).1, (store.exportKey id s).2, log ++ [.exportKey id])) ∧
    (∀ tag, KeyType.ofTag? tag = none → ∃ e, e.kind = .unsupportedKeyType ∧ ∀ log,
      store.recorded.createWebKey tag (s, log) = (.ofResult (.error (.conversion e)), s, log) ∧
      store.recorded.createKey tag (s, log) = (.ofResult (.error (.conversion e)), s, log)) ∧
    (∀ t e, (store.create t s).1.result = .error e →
      (store.createWebKey t.tag s).1 = ⟨.error e, (store.create t s).1.events⟩ ∧
      (store.createKey t.tag s).1 = ⟨.error e, (store.create t s).1.events⟩) ∧
    (∀ id e, (store.exportKey id s).1.result = .error e →
      (store.exportWebKey id s).1 = ⟨.error e, (store.exportKey id s).1.events⟩) ∧
    (∀ t id bs, (store.create t s).1.result = .ok (id, bs) →
      (∀ r, (store.createKey t.tag s).1.result = .ok r ↔
        r.1 = id ∧ (Conversion.decodeKey bs t.tag).result = .ok r.2) ∧
      ∀ w, (store.createWebKey t.tag s).1.result = .ok w ↔
        ∃ k, (Conversion.decodeKey bs t.tag).result = .ok k ∧
          w = ⟨k, k.label.1, k.label.2, id, none, none⟩) ∧
    (∀ id bs tag, (store.exportKey id s).1.result = .ok (bs, tag) →
      ∀ r, (store.exportWebKey id s).1.result = .ok r ↔ KeyType.ofTag? tag = some r.2 ∧
        ∃ k, (Conversion.decodeKey bs tag).result = .ok k ∧
          r.1 = ⟨k, k.label.1, k.label.2, some id, none, none⟩) ∧
    ∀ {τ : Type} (other : KeyStore τ) (r : τ),
      (∀ t id id' bs, (store.create t s).1.result = .ok (id, bs) →
        (other.create t r).1.result = .ok (id', bs) →
        Indistinct (fun w w' => w.kid = id ∧ w' = { w with kid := id' })
          (store.createWebKey t.tag s).1 (other.createWebKey t.tag r).1
          (store.create t s).1.events (other.create t r).1.events ∧
        Indistinct (fun a b => a.1 = id ∧ b = (id', a.2))
          (store.createKey t.tag s).1 (other.createKey t.tag r).1
          (store.create t s).1.events (other.create t r).1.events) ∧
      ∀ id id' bs tag, (store.exportKey id s).1.result = .ok (bs, tag) →
        (other.exportKey id' r).1.result = .ok (bs, tag) →
        Indistinct (fun a b => a.1.kid = some id ∧ b = ({ a.1 with kid := some id' }, a.2))
          (store.exportWebKey id s).1 (other.exportWebKey id' r).1
          (store.exportKey id s).1.events (other.exportKey id' r).1.events := by
  refine ⟨fun t log => ?_, fun id log => rfl, fun tag htag => ?_, fun t e he => ?_,
    fun id e he => ?_, fun t id bs h => ⟨fun r => ?_, fun w => ?_⟩, fun id bs tag h r => ?_,
    fun other r => ⟨fun t id id' bs h h' => ?_, fun id id' bs tag h h' =>
      indistinct_exportWebKey h h'⟩⟩
  · simp only [createWebKey, createKey, createThen_tag]
    exact ⟨rfl, rfl⟩
  · refine ⟨unregistered tag, rfl, fun log => ?_⟩
    rw [createWebKey, createKey, createThen_of_unknown _ htag, createThen_of_unknown _ htag]
    exact ⟨rfl, rfl⟩
  · rw [createWebKey, createKey, createThen_tag, createThen_tag]
    exact ⟨Traced.andThen_of_error he _, Traced.andThen_of_error he _⟩
  · exact Traced.andThen_of_error he _
  · rw [(createKey_goesAs h).eq_ok_iff]
    constructor
    · rintro ⟨k, hk, rfl⟩
      exact ⟨rfl, hk⟩
    · rintro ⟨rfl, hk⟩
      exact ⟨r.2, hk, rfl⟩
  · rw [(createWebKey_goesAs h).eq_ok_iff]
    constructor
    · rintro ⟨w, hw, rfl⟩
      obtain ⟨k, hk, rfl⟩ := Conversion.decodeWebKey_eq_ok_iff.mp hw
      exact ⟨k, hk, rfl⟩
    · rintro ⟨k, hk, rfl⟩
      exact ⟨_, Conversion.decodeWebKey_eq_ok_iff.mpr ⟨k, hk, rfl⟩, rfl⟩
  · cases ht : KeyType.ofTag? tag with
    | none =>
      rw [exportWebKey_of_unknown h ht]
      simp
    | some t =>
      obtain rfl := KeyType.tag_of_ofTag? ht
      rw [(exportWebKey_goesAs h ht).eq_ok_iff]
      constructor
      · rintro ⟨w, hw, rfl⟩
        obtain ⟨k, hk, rfl⟩ := Conversion.decodeWebKey_eq_ok_iff.mp hw
        exact ⟨rfl, k, hk, rfl⟩
      · rintro ⟨ht', k, hk, hw⟩
        obtain rfl := Option.some.inj ht'
        exact ⟨_, Conversion.decodeWebKey_eq_ok_iff.mpr ⟨k, hk, rfl⟩, Prod.ext hw rfl⟩
  · exact ⟨(createWebKey_goesAs h).indistinct (createWebKey_goesAs h') fun w => ⟨rfl, rfl⟩,
      (createKey_goesAs h).indistinct (createKey_goesAs h') fun k => ⟨rfl, rfl⟩⟩

/-- A store that knows one public key and gives it any name it likes. -/
theorem zero_bytes_from_any_store :
    let store (id : Option String) : KeyStore Unit :=
      { create := fun _ s => (.ofResult (.ok (id, some (List.replicate 32 0))), s)
        exportKey := fun _ s => (.ofResult (.ok (some (List.replicate 32 0), "ED25519")), s) }
    let key : Key := .okp { curve := .ed25519, x := List.replicate 32 0 }
    ((store (some "a")).createKey "ED25519" ()).1.result = .ok (some "a", key) ∧
      ((store none).createWebKey "ED25519" ()).1.result =
        .ok ⟨key, "OKP", some "Ed25519", none, none, none⟩ ∧
      ((store none).exportWebKey "b" ()).1.result =
        .ok (⟨key, "OKP", some "Ed25519", some "b", none, none⟩, .ed25519) ∧
      ((store none).recorded.createWebKey "ED25519" ((), [])).2.2 = [.create .ed25519] := by
  intro store key
  have hread : (Conversion.decodeKey (some (List.replicate 32 0)) "ED25519").result = .ok key := rfl
  obtain ⟨-, -, -, -, -, hkey, -⟩ := any_store_is_used_faithfully (store (some "a")) ()
  obtain ⟨hrequests, -, -, -, -, hwebKey, hexport, -⟩ := any_store_is_used_faithfully (store none) ()
  refine ⟨((hkey .ed25519 _ _ rfl).1 _).mpr ⟨rfl, hread⟩,
    ((hwebKey .ed25519 _ _ rfl).2 _).mpr ⟨key, hread, rfl⟩,
    (hexport "b" _ "ED25519" rfl _).mpr ⟨KeyType.ofTag?_tag .ed25519, key, hread, rfl⟩, ?_⟩
  exact congrArg (fun r => r.2.2) (hrequests .ed25519 []).1

end KeyStore

end WebKeys
