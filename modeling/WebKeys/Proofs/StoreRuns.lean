import WebKeys.Session
import WebKeys.Proofs.Labels
import WebKeys.Proofs.NewKeys

/-!
# A local store keeps its keys

A session goes from one use of a local store to the next, and settings may change in between. No
step takes a key out of the store or puts another in its place, as long as identifiers are fresh: a
creation adds one entry or fails, and nothing else touches the store (`apply_cases`).

* `Session.Step`, `Session.after`: the steps and the runs, `Session.Issued` what they were answered.
* `Session.Names`: an identifier names a key pair, under its type.
* `issued_names`: what was issued in a run is named at its end.
* `store_keeps_keys`: the same for keys and for web keys, together with what fails and changes
  nothing.
-/

namespace WebKeys

open Outcome Key

/-! ## Settings -/

namespace Settings

theorem fields_of_ofSources {sources : List Members} {v : Settings} (h : ofSources sources = .ok v) :
    field sources "log_level" "INFO" asLevel = .ok v.logLevel ∧
      field sources "rsa_key_size" 2048 asRsaBits = .ok v.rsaBits ∧
      field sources "secp256k1_der_oid" .legacy asDerForm = .ok v.derForm := by
  unfold ofSources at h
  dsimp only at h
  split at h
  · next hlevel _ _ hbits hform =>
    cases h
    exact ⟨hlevel, hbits, hform⟩
  · cases h

theorem field_eq_ok {α : Type} {sources : List Members} {name : String} {default a : α}
    {read : Json → Except FaultKind α} (h : field sources name default read = .ok a) :
    a = default ∨ ∃ v, read v = .ok a := by
  unfold field at h
  split at h
  · cases h
    exact Or.inl rfl
  · exact Or.inr ⟨_, mapError_eq_ok.mp h⟩

/-- The preferred form is one that there is. -/
theorem known_of_ofSources {sources : List Members} {v : Settings} (h : ofSources sources = .ok v) :
    v.derForm.Known := by
  obtain hdefault | ⟨text, hlisted⟩ := field_eq_ok (fields_of_ofSources h).2.2
  · exact Or.inl hdefault
  · unfold asDerForm at hlisted
    split at hlisted
    · exact Or.inl (Except.ok.inj hlisted).symm
    · exact Or.inr (Except.ok.inj hlisted).symm
    · cases hlisted

end Settings

/-- Every entry of the store is a sound key pair for its type. -/
def LocalStore.Sound (store : LocalStore) : Prop :=
  ∀ id t k, store.find? id = some (t, k) → Entropy.New t k ∧ k.Sound

namespace Session

variable {position : Nat} {s : Session} {store : LocalStore}

/-- The settings in force, if they have been read, prefer a form that there is. -/
def FormsKnown (s : Session) : Prop := ∀ v, s.settings? = some v → v.derForm.Known

/-- The settings are in force or can be read. -/
def SettingsValid (s : Session) : Prop := ∃ v, s.consult.1 = .ok v

/-- What consulting the settings can change, and what is known of them then. -/
theorem consult_cases (s : Session) : s.consult.2.stores = s.stores ∧
    (s.FormsKnown → s.consult.2.FormsKnown ∧ ∀ v, s.consult.1 = .ok v → v.derForm.Known) := by
  unfold consult
  split
  · next v hv =>
    refine ⟨rfl, fun h => ⟨h, ?_⟩⟩
    rintro v' ⟨⟩
    exact h v hv
  · dsimp only
    cases hv : Settings.ofSources
        [Settings.ofEnvironment s.environment, Settings.ofEnvironment s.assignments] with
    | error faults =>
      refine ⟨rfl, fun h => ⟨h, ?_⟩⟩
      rintro v ⟨⟩
    | ok v =>
      have hknown := Settings.known_of_ofSources hv
      refine ⟨rfl, fun _ => ⟨?_, ?_⟩⟩
      · rintro v' ⟨⟩
        exact hknown
      · rintro v' ⟨⟩
        exact hknown

theorem preferred_cases (asks : Bool) (s : Session) : (s.preferred asks).2.stores = s.stores ∧
    (s.FormsKnown → (s.preferred asks).2.FormsKnown ∧
      ∀ form, (s.preferred asks).1 = .ok form → form.Known) ∧
    (s.SettingsValid → ∃ form, (s.preferred asks).1 = .ok form) := by
  obtain ⟨hstores, hknown⟩ := consult_cases s
  unfold preferred
  cases asks with
  | false => exact ⟨rfl, fun h => ⟨h, by rintro form ⟨⟩; exact Or.inl rfl⟩, fun _ => ⟨_, rfl⟩⟩
  | true =>
    refine ⟨hstores, fun h => ⟨(hknown h).1, fun form hform => ?_⟩, ?_⟩
    · obtain ⟨v, hv, rfl⟩ := map_eq_ok.mp hform
      exact (hknown h).2 v hv
    · rintro ⟨v, hv⟩
      exact ⟨v.derForm, map_eq_ok.mpr ⟨v, hv, rfl⟩⟩

theorem preferred_of_entropy (asks : Bool) (s : Session) (e : Entropy) :
    ({ s with entropy := e }.preferred asks).1 = (s.preferred asks).1 := by
  unfold preferred
  cases asks with
  | false => rfl
  | true =>
    show ({ s with entropy := e }.consult.1).map _ = s.consult.1.map _
    have hconsult : { s with entropy := e }.consult.1 = s.consult.1 := by
      unfold consult
      dsimp only
      cases s.settings? with
      | some v => rfl
      | none =>
        dsimp only
        split <;> rfl
    rw [hconsult]

/-! ## Creating -/

/-- The key pair that a creation makes, and the identifier that it draws. -/
def drawn (rsaBits : Int) (t : KeyType) (s : Session) : Result Key × String :=
  ((s.entropy.key rsaBits t).1, (s.entropy.key rsaBits t).2.identifier.1)

theorem drawn_fst (rsaBits : Int) (t : KeyType) (s : Session) :
    (s.drawn rsaBits t).1 = (s.entropy.key rsaBits t).1 := rfl

theorem storeAt_set {stores : List StoreState} {s : Session} {store store' : LocalStore}
    (h : s.storeAt position = .inMemory store) (hstores : stores = s.stores) :
    (stores.set position (.inMemory store')).getD position .readOnly = .inMemory store' := by
  subst hstores
  have hlt : position < s.stores.length := by
    by_contra hge
    rw [storeAt, List.getD_eq_default _ _ (Nat.le_of_not_lt hge)] at h
    cases h
  rw [List.getD_eq_getElem?_getD, List.getElem?_set_self hlt]
  rfl

/-- A creation fails and leaves the store as it was, or it adds one entry and answers with the
identifier and the bytes under which the key is exported. -/
theorem createIn_cases (h : s.storeAt position = .inMemory store) (t : KeyType) :
    (∃ e, (s.createIn position t).1.result = .error e ∧
        (s.createIn position t).2.storeAt position = .inMemory store ∧
        ((s.drawn store.rsaBits t).1 = .error e ∨ ∃ k, (s.drawn store.rsaBits t).1 = .ok k ∧
          LocalStore.publicBytes (s.preferred (t == .secp256k1Der)).1 t k = .error e)) ∨
      ∃ k bs, (s.drawn store.rsaBits t).1 = .ok k ∧
        LocalStore.publicBytes (s.preferred (t == .secp256k1Der)).1 t k = .ok bs ∧
        (s.createIn position t).1.result = .ok (some (s.drawn store.rsaBits t).2, some bs) ∧
        (s.createIn position t).2.storeAt position = .inMemory
          { store with keys := ((s.drawn store.rsaBits t).2, t, k) :: store.keys } := by
  have hform := preferred_of_entropy (t == .secp256k1Der) s
    (s.entropy.key store.rsaBits t).2.identifier.2
  have hstores := (preferred_cases (t == .secp256k1Der)
    { s with entropy := (s.entropy.key store.rsaBits t).2.identifier.2 }).1
  unfold createIn drawn LocalStore.create
  rw [h]
  dsimp only
  rw [hform]
  cases hmade : (s.entropy.key store.rsaBits t).1 with
  | error e => exact Or.inl ⟨e, rfl, storeAt_set h hstores, Or.inl rfl⟩
  | ok k =>
    dsimp only
    cases hbs : LocalStore.publicBytes (s.preferred (t == .secp256k1Der)).1 t k with
    | error e => exact Or.inl ⟨e, rfl, storeAt_set h hstores, Or.inr ⟨k, rfl, hbs⟩⟩
    | ok bs => exact Or.inr ⟨k, bs, rfl, hbs, rfl, storeAt_set h hstores⟩

/-- The bytes that a creation answers with are read as the public part of the new key. -/
theorem readAs_of_publicBytes (hs : s.FormsKnown) {t : KeyType} {k : Key} {bs : Bytes}
    (hnew : Entropy.New t k) (hsound : k.Sound)
    (h : LocalStore.publicBytes (s.preferred (t == .secp256k1Der)).1 t k = .ok bs) :
    ReadAs t bs k := by
  cases hform : (s.preferred (t == .secp256k1Der)).1 with
  | ok form =>
    obtain ⟨bs', hbs, hread⟩ := LocalStore.exists_publicBytes hnew.family_ne hnew.fits hsound
      (((preferred_cases _ s).2.1 hs).2 form hform)
    rw [hform, hbs] at h
    cases h
    exact hread
  | error f =>
    -- Only a secp256k1 key in DER asks, and it has no form of its own yet.
    have ht : t = .secp256k1Der := by
      by_contra hne
      rw [beq_false_of_ne hne] at hform
      cases hform
    subst ht
    rw [hform, LocalStore.publicBytes_of_error hnew] at h
    cases h

/-- Under valid settings, a key that is drawn and sound is created. -/
theorem createIn_eq_ok (h : s.storeAt position = .inMemory store) (hs : s.FormsKnown)
    (hvalid : s.SettingsValid) {t : KeyType} {k : Key} (hk : (s.drawn store.rsaBits t).1 = .ok k)
    (hsound : k.Sound) : ∃ bs,
      (s.createIn position t).1.result = .ok (some (s.drawn store.rsaBits t).2, some bs) ∧
        ReadAs t bs k := by
  have hnew : Entropy.New t k := Entropy.new_of_key hk
  obtain ⟨form, hform⟩ := (preferred_cases (t == .secp256k1Der) s).2.2 hvalid
  obtain ⟨bs, hbs, hread⟩ := LocalStore.exists_publicBytes hnew.family_ne hnew.fits hsound
    (((preferred_cases _ s).2.1 hs).2 form hform)
  obtain ⟨e, -, -, hfails⟩ | ⟨k', bs', hk', hbs', hresult, -⟩ := createIn_cases h t
  · rcases hfails with hnone | ⟨k', hk', hnone⟩
    · rw [hk] at hnone
      cases hnone
    · rw [hk] at hk'
      cases hk'
      rw [hform, hbs] at hnone
      cases hnone
  · rw [hk] at hk'
    cases hk'
    rw [hform, hbs] at hbs'
    cases hbs'
    exact ⟨bs, hresult, hread⟩

theorem createIn_of_symmetric (h : s.storeAt position = .inMemory store) {t : KeyType}
    (ht : t.family = .symmetric) :
    (s.createIn position t).1.result = .error (.store (.nothingToExport t)) := by
  have hnone : (s.drawn store.rsaBits t).1 = .error (.store (.nothingToExport t)) :=
    Entropy.key_of_symmetric ht store.rsaBits s.entropy
  obtain ⟨e, he, -, hfails⟩ | ⟨k, bs, hk, -⟩ := createIn_cases h t
  · rcases hfails with hfails | ⟨k, hk, -⟩
    · rw [hnone] at hfails
      cases hfails
      exact he
    · rw [hnone] at hk
      cases hk
  · rw [hnone] at hk
    cases hk

theorem formsKnown_createIn (h : s.FormsKnown) (position : Nat) (t : KeyType) :
    (s.createIn position t).2.FormsKnown := by
  unfold createIn
  split
  · exact h
  · next store _ =>
    exact ((preferred_cases (t == .secp256k1Der)
      { s with entropy := (s.entropy.key store.rsaBits t).2.identifier.2 }).2.1 h).1

/-- Under a tag that is not registered nothing happens, and under any other a key of its type is
created. -/
theorem createTagged_cases (h : s.storeAt position = .inMemory store) (tag : String) :
    (KeyType.ofTag? tag = none ∧ (s.createTagged position tag).2 = s ∧
      ∃ e, (s.createTagged position tag).1.result = .error (.conversion e) ∧
        e.kind = .unsupportedKeyType) ∨
    ∃ t, KeyType.ofTag? tag = some t ∧ s.createTagged position tag = s.createIn position t := by
  unfold createTagged KeyType.require
  rw [h]
  cases ht : KeyType.ofTag? tag with
  | none => exact Or.inl ⟨rfl, rfl, _, rfl, rfl⟩
  | some t => exact Or.inr ⟨t, rfl, rfl⟩

theorem createTagged_tag (h : s.storeAt position = .inMemory store) (t : KeyType) :
    s.createTagged position t.tag = s.createIn position t := by
  obtain ⟨hnone, -⟩ | ⟨t', ht, hsame⟩ := createTagged_cases h t.tag
  · rw [KeyType.ofTag?_tag] at hnone
    cases hnone
  · rw [KeyType.ofTag?_tag] at ht
    cases ht
    exact hsame

/-! ## Handing out -/

theorem exportFrom_cases (h : s.storeAt position = .inMemory store) (id : String) :
    (∃ asks, (s.exportFrom position id).1.result =
        (store.exportKey (s.preferred asks).1 id).map fun r => (some r.1, r.2.tag)) ∧
      (s.exportFrom position id).2.stores = s.stores ∧
      (s.FormsKnown → (s.exportFrom position id).2.FormsKnown) := by
  unfold exportFrom
  rw [h]
  exact ⟨⟨_, rfl⟩, (preferred_cases _ s).1, fun hs => ((preferred_cases _ s).2.1 hs).1⟩

/-- The identifier names a private key pair: the whole pair is handed out under it, and so are,
under valid settings, the tag of its type and bytes that are read as the public part. -/
structure Names (position : Nat) (s : Session) (id : String) (t : KeyType) (k : Key) : Prop where
  isPrivate : k.isPrivate = true
  keyPair : s.keyPair position id = .ok k
  exported : s.SettingsValid → ∃ bs,
    (s.exportFrom position id).1.result = .ok (some bs, t.tag) ∧ ReadAs t bs k

/-- A key that a sound store holds is exported under its identifier. -/
theorem names_of_find? {id : String} {t : KeyType} {k : Key}
    (h : s.storeAt position = .inMemory store) (hsound : store.Sound) (hs : s.FormsKnown)
    (hfind : store.find? id = some (t, k)) : Names position s id t k := by
  obtain ⟨hnew, hkey⟩ := hsound id t k hfind
  have hrequire : store.require id = .ok (t, k) := by rw [LocalStore.require, hfind]
  refine ⟨hnew.isPrivate, ?_, fun hvalid => ?_⟩
  · rw [Session.keyPair, h]
    show (store.require id >>= _) = _
    rw [hrequire]
    rfl
  · obtain ⟨⟨asks, hresult⟩, -⟩ := exportFrom_cases h id
    obtain ⟨-, hknown, hpreferred⟩ := preferred_cases asks s
    obtain ⟨form, hform⟩ := hpreferred hvalid
    obtain ⟨bs, hbs, hread⟩ := LocalStore.exists_publicBytes hnew.family_ne hnew.fits hkey
      ((hknown hs).2 form hform)
    refine ⟨bs, ?_, hread⟩
    rw [hresult, hform, LocalStore.exportKey, hrequire, ok_bind]
    dsimp only
    rw [hbs]
    rfl

/-! ## Runs -/

/-- A use of a store, or a change of settings between two uses. -/
inductive Step
  | create (tag : String)
  | exportKey (id : String)
  | keyPair (id : String)
  | setEnvironment (changes : List (String × Option String))
  | forgetSettings

/-- What a step leaves behind. -/
def apply (position : Nat) : Step → Session → Session
  | .create tag, s => (s.createTagged position tag).2
  | .exportKey id, s => (s.exportFrom position id).2
  | .keyPair _, s => s
  | .setEnvironment changes, s => s.setEnvironment changes
  | .forgetSettings, s => s.forgetSettings

/-- The session after the steps, one after the other. -/
def after (position : Nat) (steps : List Step) (s : Session) : Session :=
  steps.foldl (fun s step => apply position step s) s

/-- What a creation may take for granted: the identifier is fresh, and the multiple of a base point
that makes up a key on a curve is a point of that curve. -/
def Favourable (position : Nat) : Step → Session → Prop
  | .create tag, s => ∀ store t k, s.storeAt position = .inMemory store →
      KeyType.ofTag? tag = some t → (s.drawn store.rsaBits t).1 = .ok k →
      store.find? (s.drawn store.rsaBits t).2 = none ∧
        (t.family = .ec ∨ t.family = .bls → k.Sound)
  | _, _ => True

/-- Every step of a run finds what it may take for granted. -/
def FavourableRun (position : Nat) : List Step → Session → Prop
  | [], _ => True
  | step :: rest, s => Favourable position step s ∧ FavourableRun position rest (apply position step s)

/-- In the course of the steps, a creation for this type is answered with this identifier and these
bytes. -/
inductive Issued (position : Nat) : List Step → Session → String → KeyType → Bytes → Prop
  | here {tag : String} {rest : List Step} {s : Session} {id : String} {t : KeyType} {bs : Bytes}
      (ht : KeyType.ofTag? tag = some t)
      (h : (s.createTagged position tag).1.result = .ok (some id, some bs)) :
      Issued position (.create tag :: rest) s id t bs
  | later {step : Step} {rest : List Step} {s : Session} {id : String} {t : KeyType} {bs : Bytes}
      (h : Issued position rest (apply position step s) id t bs) :
      Issued position (step :: rest) s id t bs

theorem formsKnown_apply (h : s.storeAt position = .inMemory store) (hs : s.FormsKnown)
    (step : Step) : (apply position step s).FormsKnown := by
  cases step with
  | create tag =>
    obtain ⟨-, hsame, -⟩ | ⟨t, -, hcreate⟩ := createTagged_cases h tag
    · rw [apply, hsame]
      exact hs
    · rw [apply, hcreate]
      exact formsKnown_createIn hs position t
  | exportKey id => exact (exportFrom_cases h id).2.2 hs
  | keyPair id => exact hs
  | setEnvironment changes => exact hs
  | forgetSettings => rintro v ⟨⟩

/-- A step leaves the store as it was, and then it was not a creation that succeeded, or it is a
creation that adds the key pair that was drawn. -/
theorem apply_cases (h : s.storeAt position = .inMemory store) (step : Step) :
    ((apply position step s).storeAt position = .inMemory store ∧
      ∀ tag, step = .create tag → ∃ e, (s.createTagged position tag).1.result = .error e) ∨
    ∃ tag t k bs, step = .create tag ∧ KeyType.ofTag? tag = some t ∧
      (s.drawn store.rsaBits t).1 = .ok k ∧
      LocalStore.publicBytes (s.preferred (t == .secp256k1Der)).1 t k = .ok bs ∧
      (s.createTagged position tag).1.result =
        .ok (some (s.drawn store.rsaBits t).2, some bs) ∧
      (apply position step s).storeAt position = .inMemory
        { store with keys := ((s.drawn store.rsaBits t).2, t, k) :: store.keys } := by
  cases step with
  | create tag =>
    obtain ⟨-, hsame, e, he, -⟩ | ⟨t, ht, hcreate⟩ := createTagged_cases h tag
    · refine Or.inl ⟨by rw [apply, hsame]; exact h, ?_⟩
      rintro _ ⟨⟩
      exact ⟨_, he⟩
    · obtain ⟨e, he, hsame, -⟩ | ⟨k, bs, hk, hbs, hresult, hstore⟩ := createIn_cases h t
      · refine Or.inl ⟨by rw [apply, hcreate]; exact hsame, ?_⟩
        rintro _ ⟨⟩
        rw [hcreate]
        exact ⟨e, he⟩
      · refine Or.inr ⟨tag, t, k, bs, rfl, ht, hk, hbs, by rw [hcreate]; exact hresult, ?_⟩
        rw [apply, hcreate]
        exact hstore
  | exportKey id =>
    refine Or.inl ⟨?_, fun tag htag => by cases htag⟩
    rw [apply, storeAt, (exportFrom_cases h id).2.1]
    exact h
  | keyPair id => exact Or.inl ⟨h, fun tag htag => by cases htag⟩
  | setEnvironment changes => exact Or.inl ⟨h, fun tag htag => by cases htag⟩
  | forgetSettings => exact Or.inl ⟨h, fun tag htag => by cases htag⟩

/-- What a step under good conditions preserves: the store stays sound, keeps what was found in it
and the size of its RSA keys, and has nothing new but what was issued. -/
theorem store_of_apply (h : s.storeAt position = .inMemory store) (hsound : store.Sound)
    {step : Step} (hstep : Favourable position step s) :
    ∃ store', (apply position step s).storeAt position = .inMemory store' ∧ store'.Sound ∧
      store'.rsaBits = store.rsaBits ∧
      ∀ id entry, store.find? id = some entry → store'.find? id = some entry := by
  obtain ⟨hsame, -⟩ | ⟨tag, t, k, bs, rfl, ht, hk, -, -, hstore⟩ := apply_cases h step
  · exact ⟨store, hsame, hsound, rfl, fun id entry hfind => hfind⟩
  · obtain ⟨hfresh, hpoint⟩ := hstep store t k h ht hk
    refine ⟨_, hstore, fun id t' k' hfind => ?_, rfl, fun id entry hfind => ?_⟩
    · rw [LocalStore.find?_cons] at hfind
      split at hfind
      · cases hfind
        exact ⟨Entropy.new_of_key hk, Entropy.sound_of_key hk hpoint⟩
      · exact hsound id t' k' hfind
    · have hne : id ≠ (s.drawn store.rsaBits t).2 := by
        rintro rfl
        rw [hfresh] at hfind
        cases hfind
      rw [LocalStore.find?_cons, if_neg hne]
      exact hfind

/-- A favourable run leaves the store in memory, sound and with all it held. -/
theorem store_of_after {steps : List Step} (h : s.storeAt position = .inMemory store)
    (hs : s.FormsKnown) (hsound : store.Sound) (hsteps : FavourableRun position steps s) :
    ∃ store', (after position steps s).storeAt position = .inMemory store' ∧ store'.Sound ∧
      (after position steps s).FormsKnown ∧ store'.rsaBits = store.rsaBits ∧
      ∀ id entry, store.find? id = some entry → store'.find? id = some entry := by
  induction steps generalizing s store with
  | nil => exact ⟨store, h, hsound, hs, rfl, fun id entry hfind => hfind⟩
  | cons step rest ih =>
    obtain ⟨hstep, hrest⟩ := hsteps
    obtain ⟨store₁, h₁, hsound₁, hbits₁, hkeeps₁⟩ := store_of_apply h hsound hstep
    obtain ⟨store₂, h₂, hsound₂, hs₂, hbits₂, hkeeps₂⟩ :=
      ih h₁ (formsKnown_apply h hs step) hsound₁ hrest
    exact ⟨store₂, h₂, hsound₂, hs₂, hbits₂.trans hbits₁,
      fun id entry hfind => hkeeps₂ id entry (hkeeps₁ id entry hfind)⟩

/-- What was issued in a run is found at its end, as a key that the issued bytes are read as. -/
theorem find?_of_issued {steps : List Step} {id : String} {t : KeyType} {bs : Bytes}
    (hissued : Issued position steps s id t bs) (h : s.storeAt position = .inMemory store)
    (hs : s.FormsKnown) (hsound : store.Sound) (hsteps : FavourableRun position steps s) :
    ∃ store' k, (after position steps s).storeAt position = .inMemory store' ∧ store'.Sound ∧
      (after position steps s).FormsKnown ∧ store'.find? id = some (t, k) ∧ ReadAs t bs k := by
  induction hissued generalizing store with
  | @here tag rest s id t bs ht hresult =>
    obtain ⟨hstep, hrest⟩ := hsteps
    obtain ⟨-, hfails⟩ | ⟨tag', t', k, bs', htag, ht', hk, hbs, hresult', hstore⟩ :=
      apply_cases h (.create tag)
    · obtain ⟨e, he⟩ := hfails tag rfl
      rw [hresult] at he
      cases he
    · cases htag
      rw [ht] at ht'
      cases ht'
      rw [hresult] at hresult'
      obtain ⟨hid, hbytes⟩ := Prod.mk.inj (Except.ok.inj hresult')
      obtain rfl := Option.some.inj hid
      obtain rfl := Option.some.inj hbytes
      obtain ⟨-, hpoint⟩ := hstep store t k h ht hk
      have hread := readAs_of_publicBytes hs (Entropy.new_of_key hk)
        (Entropy.sound_of_key hk hpoint) hbs
      obtain ⟨store₁, h₁, hsound₁, -, -⟩ := store_of_apply h hsound hstep
      rw [hstore] at h₁
      obtain rfl := StoreState.inMemory.inj h₁
      obtain ⟨store₂, h₂, hsound₂, hs₂, -, hkeeps⟩ :=
        store_of_after hstore (formsKnown_apply h hs _) hsound₁ hrest
      refine ⟨store₂, k, h₂, hsound₂, hs₂, hkeeps _ _ ?_, hread⟩
      rw [LocalStore.find?_cons, if_pos rfl]
  | @later step rest s id t bs hissued ih =>
    obtain ⟨hstep, hrest⟩ := hsteps
    obtain ⟨store₁, h₁, hsound₁, -, -⟩ := store_of_apply h hsound hstep
    exact ih h₁ (formsKnown_apply h hs step) hsound₁ hrest

/-- An identifier that was not issued is not found, however the steps went. -/
theorem find?_of_not_issued {steps : List Step} {id : String}
    (h : s.storeAt position = .inMemory store) (hnone : store.find? id = none)
    (hnot : ∀ t bs, ¬Issued position steps s id t bs) :
    ∃ store', (after position steps s).storeAt position = .inMemory store' ∧
      store'.find? id = none := by
  induction steps generalizing s store with
  | nil => exact ⟨store, h, hnone⟩
  | cons step rest ih =>
    have hlater : ∀ t bs, ¬Issued position rest (apply position step s) id t bs :=
      fun t bs hissued => hnot t bs (.later hissued)
    obtain ⟨hsame, -⟩ | ⟨tag, t, k, bs, rfl, ht, -, -, hresult, hstore⟩ := apply_cases h step
    · exact ih hsame hnone hlater
    · refine ih hstore ?_ hlater
      have hne : id ≠ (s.drawn store.rsaBits t).2 := by
        rintro rfl
        exact hnot t bs (.here ht hresult)
      rw [LocalStore.find?_cons, if_neg hne]
      exact hnone

/-- An identifier the store does not hold is refused by every way to it. -/
theorem not_found (h : s.storeAt position = .inMemory store) {id : String}
    (hnone : store.find? id = none) :
    s.keyPair position id = .error (.store (.keyNotFound id)) ∧
      (s.exportFrom position id).1.result = .error (.store (.keyNotFound id)) := by
  have hrequire : store.require id = .error (.store (.keyNotFound id)) := by
    rw [LocalStore.require, hnone]
  constructor
  · rw [keyPair, h]
    show (store.require id >>= _) = _
    rw [hrequire]
    rfl
  · obtain ⟨⟨asks, hresult⟩, -⟩ := exportFrom_cases h id
    rw [hresult, LocalStore.exportKey, hrequire]
    rfl

/-! ## Web keys -/

/-- Making a web key is making a key in the store and reading the bytes it answers with. -/
theorem createWebKey_eq {t : KeyType} (position : Nat) (s : Session) :
    ((Session.store position).createWebKey t.tag s).2 = (s.createIn position t).2 ∧
      ((Session.store position).createWebKey t.tag s).1.result =
        (s.createIn position t).1.result.bind fun r =>
          (Conversion.decodeWebKey r.2 t.tag r.1).result := by
  rw [KeyStore.createWebKey, KeyStore.createThen_tag]
  refine ⟨rfl, ?_⟩
  dsimp only
  rw [Traced.result_andThen]
  show (s.createIn position t).1.result.bind _ = _
  congr 1
  funext r
  rw [Traced.result_andThen]
  cases (Conversion.decodeWebKey r.2 t.tag r.1).result <;> rfl

theorem exportWebKey_eq_ok {t : KeyType} {id : String} {bs : Bytes} {w : WebKey}
    (hexport : (s.exportFrom position id).1.result = .ok (some bs, t.tag))
    (hdecode : (Conversion.decodeWebKey (some bs) t.tag id).result = .ok w) :
    ((Session.store position).exportWebKey id s).1.result = .ok (w, t) := by
  unfold KeyStore.exportWebKey
  dsimp only
  rw [Traced.result_andThen]
  show (s.exportFrom position id).1.result.bind _ = _
  rw [hexport]
  show (Traced.andThen _ _).result = _
  rw [Traced.result_andThen, KeyType.require_tag]
  show (Traced.andThen _ _).result = _
  rw [Traced.result_andThen, hdecode]
  rfl

end Session

/-- Bytes that are read as the public part of a key are read as a web key around it. -/
theorem Key.ReadAs.webKey {t : KeyType} {bs : Bytes} {k : Key} (h : ReadAs t bs k)
    (ht : t.family ≠ .symmetric) (kid : Option String) :
    ∃ k', (Conversion.decodeWebKey (some bs) t.tag kid).result =
        .ok ⟨k', k'.label.1, k'.label.2, kid, none, none⟩ ∧ k'.same k.publicPart = true := by
  obtain ⟨k', hread, hsame⟩ := h
  obtain ⟨hkey, hwebKey⟩ := Conversion.results_of_decoding ht (some bs) kid
  rw [hkey] at hread
  refine ⟨k', ?_, hsame⟩
  rw [hwebKey, hread, ok_bind, Conversion.result_wrapKey]

theorem Key.ReadAs.publicPart_eq {t : KeyType} {bs : Bytes} {k k' : Key} (h : ReadAs t bs k)
    (h' : ReadAs t bs k') : k.publicPart.withoutForm = k'.publicPart.withoutForm := by
  obtain ⟨k₁, hread, hsame⟩ := h
  obtain ⟨k₂, hread', hsame'⟩ := h'
  rw [hread] at hread'
  cases hread'
  exact (of_decide_eq_true hsame).symm.trans (of_decide_eq_true hsame')

theorem WebKey.same_of_same {k k' p : Key} {kid : Option String} (h : k.same p = true)
    (h' : k'.same p = true) : WebKey.same ⟨k', k'.label.1, k'.label.2, kid, none, none⟩
      ⟨k, k.label.1, k.label.2, kid, none, none⟩ = true := by
  have hform : k'.withoutForm = k.withoutForm :=
    (of_decide_eq_true h').trans (of_decide_eq_true h).symm
  have hlabel : k'.label = k.label := by
    rw [← label_withoutForm k', hform, label_withoutForm]
  exact decide_eq_true (by rw [hform, hlabel])

namespace Session

variable {position : Nat} {s : Session} {store : LocalStore}

/-- A web key is created with the identifier, and from then on exported as the same. -/
theorem createWebKey_exported (h : s.storeAt position = .inMemory store) (hs : s.FormsKnown)
    (hsound : store.Sound) {t : KeyType} {k : Key} (hk : (s.drawn store.rsaBits t).1 = .ok k)
    (hstep : Favourable position (.create t.tag) s) (hvalid : s.SettingsValid) :
    ∃ w id, ((Session.store position).createWebKey t.tag s).1.result = .ok w ∧ w.kid = some id ∧
      ∀ more, FavourableRun position more ((Session.store position).createWebKey t.tag s).2 →
        (after position more ((Session.store position).createWebKey t.tag s).2).SettingsValid →
        ∃ w', ((Session.store position).exportWebKey id
            (after position more ((Session.store position).createWebKey t.tag s).2)).1.result =
            .ok (w', t) ∧ w'.same w = true := by
  have hnew : Entropy.New t k := Entropy.new_of_key hk
  have hfamily := hnew.family_ne
  have ht := KeyType.ofTag?_tag t
  obtain ⟨bs, hresult, hread⟩ := createIn_eq_ok h hs hvalid hk
    (Entropy.sound_of_key hk (hstep store t k h ht hk).2)
  obtain ⟨k₁, hdecode, hsame⟩ := hread.webKey hfamily (some (s.drawn store.rsaBits t).2)
  obtain ⟨hstate, hcreate⟩ := createWebKey_eq (t := t) position s
  have htagged := createTagged_tag h t
  have happly : ((Session.store position).createWebKey t.tag s).2 =
      apply position (.create t.tag) s := by
    rw [hstate, apply, htagged]
  have hissued : Issued position [.create t.tag] s (s.drawn store.rsaBits t).2 t bs :=
    .here ht (by rw [htagged, hresult])
  refine ⟨_, _, by rw [hcreate, hresult]; exact hdecode, rfl, fun more hmore hmorevalid => ?_⟩
  rw [happly] at hmore hmorevalid ⊢
  obtain ⟨store₁, k', h₁, hsound₁, hs₁, hfind, hread'⟩ :=
    find?_of_issued hissued h hs hsound ⟨hstep, trivial⟩
  obtain ⟨store₂, h₂, hsound₂, hs₂, -, hkeeps⟩ := store_of_after h₁ hs₁ hsound₁ hmore
  obtain ⟨bs₂, hexport, hread₂⟩ :=
    (names_of_find? h₂ hsound₂ hs₂ (hkeeps _ _ hfind)).exported hmorevalid
  obtain ⟨k₂, hdecode₂, hsame₂⟩ := hread₂.webKey hfamily (some (s.drawn store.rsaBits t).2)
  refine ⟨_, exportWebKey_eq_ok hexport hdecode₂, WebKey.same_of_same hsame ?_⟩
  rw [Key.same, hread.publicPart_eq hread']
  exact hsame₂

/-- After any run on a new local store, what was issued in it names the same key pair from then on,
whatever follows; the bytes that were issued are read as its public part, and so are those that are
exported at any time. What was not issued is not found. A creation fails for a symmetric type and
for a tag that is not registered. No failure and no export changes the store. A key that is drawn
can be created as a web key, which is exported from then on as the same. -/
theorem store_keeps_keys {position : Nat} {s₀ : Session} {bits : Int} {steps : List Step}
    (h : s₀.storeAt position = .inMemory { rsaBits := bits }) (hs : s₀.FormsKnown)
    (hsteps : FavourableRun position steps s₀) :
    let s := after position steps s₀
    (∀ id t bs, Issued position steps s₀ id t bs → ∃ k, ReadAs t bs k ∧
      ∀ more, FavourableRun position more s → Names position (after position more s) id t k) ∧
    (∀ id, (∀ t bs, ¬Issued position steps s₀ id t bs) →
      s.keyPair position id = .error (.store (.keyNotFound id)) ∧
        (s.exportFrom position id).1.result = .error (.store (.keyNotFound id))) ∧
    (∀ t : KeyType, t.family = .symmetric →
      (s.createTagged position t.tag).1.result = .error (.store (.nothingToExport t))) ∧
    (∀ tag, KeyType.ofTag? tag = none → ∃ e,
      (s.createTagged position tag).1.result = .error (.conversion e) ∧
        e.kind = .unsupportedKeyType) ∧
    (∀ tag e, (s.createTagged position tag).1.result = .error e →
      (s.createTagged position tag).2.storeAt position = s.storeAt position) ∧
    (∀ id, (s.exportFrom position id).2.storeAt position = s.storeAt position) ∧
    ∀ t k, (s.drawn bits t).1 = .ok k → Favourable position (.create t.tag) s → s.SettingsValid →
      ∃ w id, ((Session.store position).createWebKey t.tag s).1.result = .ok w ∧ w.kid = some id ∧
        ∀ more, FavourableRun position more ((Session.store position).createWebKey t.tag s).2 →
          (after position more ((Session.store position).createWebKey t.tag s).2).SettingsValid →
          ∃ w', ((Session.store position).exportWebKey id
              (after position more ((Session.store position).createWebKey t.tag s).2)).1.result =
              .ok (w', t) ∧ w'.same w = true := by
  intro s
  have hempty : LocalStore.Sound { rsaBits := bits } := by
    rintro id t k ⟨⟩
  obtain ⟨store, hstore, hsound, hforms, hbits, -⟩ := store_of_after h hs hempty hsteps
  refine ⟨fun id t bs hissued => ?_, fun id hnot => ?_, fun t ht => ?_, fun tag htag => ?_,
    fun tag e he => ?_, fun id => ?_, fun t k hk hstep hvalid => ?_⟩
  · obtain ⟨store₁, k, h₁, hsound₁, hs₁, hfind, hread⟩ :=
      find?_of_issued hissued h hs hempty hsteps
    refine ⟨k, hread, fun more hmore => ?_⟩
    obtain ⟨store₂, h₂, hsound₂, hs₂, -, hkeeps⟩ := store_of_after h₁ hs₁ hsound₁ hmore
    exact names_of_find? h₂ hsound₂ hs₂ (hkeeps _ _ hfind)
  · obtain ⟨store₁, h₁, hnone⟩ := find?_of_not_issued h rfl hnot
    exact not_found h₁ hnone
  · rw [createTagged_tag hstore]
    exact createIn_of_symmetric hstore ht
  · obtain ⟨-, -, hfails⟩ | ⟨t, ht, -⟩ := createTagged_cases hstore tag
    · exact hfails
    · rw [htag] at ht
      cases ht
  · obtain ⟨hsame, -⟩ | ⟨tag', t, k, bs, htag, -, -, -, hresult, -⟩ :=
      apply_cases hstore (.create tag)
    · exact hsame.trans hstore.symm
    · cases htag
      rw [he] at hresult
      cases hresult
  · rw [storeAt, (exportFrom_cases hstore id).2.1]
    rfl
  · have hk' : (s.drawn store.rsaBits t).1 = .ok k := by
      rw [hbits]
      exact hk
    exact createWebKey_exported hstore hforms hsound hk' hstep hvalid

/-- A raw key on a new store, and what follows: creations that fail for their type and for their
tag, and a change of settings. -/
theorem raw_key_kept : ∃ (s₀ : Session) (id : String) (bs : Bytes) (k : Key),
    s₀.storeAt 0 = .inMemory { rsaBits := 2048 } ∧
    Issued 0 [.create "X25519ECDHKW"] s₀ id .x25519 bs ∧ ReadAs .x25519 bs k ∧
    Names 0 (after 0 [.create "AES128GCM", .create "X25519", .exportKey "X25519",
      .setEnvironment [("KMSJWK_SECP256K1_DER_OID", some "registered")], .forgetSettings]
      (after 0 [.create "X25519ECDHKW"] s₀)) id .x25519 k := by
  obtain ⟨s₀, hstore, hforms, hvalid⟩ : ∃ s₀ : Session,
      s₀.storeAt 0 = .inMemory { rsaBits := 2048 } ∧ s₀.FormsKnown ∧ s₀.SettingsValid :=
    ⟨{ stores := [.inMemory { rsaBits := 2048 }], entropy := { seed := [1] } }, rfl,
      by rintro v ⟨⟩, _, rfl⟩
  have hraw (h : KeyType.x25519.family = .ec ∨ KeyType.x25519.family = .bls) : False := by
    rcases h with h | h <;> cases h
  obtain ⟨k, hk⟩ := @Entropy.exists_key_of_okp .x25519 rfl 2048 s₀.entropy
  have hsound : k.Sound := Entropy.sound_of_key hk fun h => (hraw h).elim
  rw [← drawn_fst] at hk
  obtain ⟨bs, hresult, -⟩ := createIn_eq_ok hstore hforms hvalid hk hsound
  have hstep : Favourable 0 (.create "X25519ECDHKW") s₀ := by
    intro store t k' hstore' ht hk'
    rw [hstore] at hstore'
    cases hstore'
    obtain rfl := Option.some.inj ((KeyType.ofTag?_tag .x25519).symm.trans ht)
    exact ⟨rfl, fun h => (hraw h).elim⟩
  have hsymmetric (s : Session) : Favourable 0 (.create "AES128GCM") s := by
    intro store t k' hstore' ht hk'
    obtain rfl := Option.some.inj ((KeyType.ofTag?_tag .aes128Gcm).symm.trans ht)
    rw [drawn, Entropy.key_of_symmetric rfl] at hk'
    cases hk'
  have hunknown (s : Session) : Favourable 0 (.create "X25519") s := by
    intro store t k' hstore' ht hk'
    have hnone : KeyType.ofTag? "X25519" = none := by decide +kernel
    rw [hnone] at ht
    cases ht
  have hsteps : FavourableRun 0 [.create "X25519ECDHKW"] s₀ := ⟨hstep, trivial⟩
  obtain ⟨hissued, -⟩ := store_keeps_keys hstore hforms hsteps
  have hanswer : Issued 0 [.create "X25519ECDHKW"] s₀ (s₀.drawn 2048 .x25519).2 .x25519 bs :=
    .here (KeyType.ofTag?_tag .x25519) (by
      rw [show "X25519ECDHKW" = KeyType.x25519.tag from rfl, createTagged_tag hstore, hresult])
  obtain ⟨k', hread, hnames⟩ := hissued _ _ _ hanswer
  exact ⟨s₀, _, bs, k', hstore, hanswer, hread,
    hnames _ ⟨hsymmetric _, hunknown _, trivial, trivial, trivial, trivial⟩⟩

end Session

end WebKeys
