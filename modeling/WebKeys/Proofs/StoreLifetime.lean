import WebKeys.Proofs.ConfiguredStore

/-!
# How long keys can be reached

Keys stay in the store in which they were made, and the configured store stays in use until it is
reset. So what is created in the configured store is handed out by it until then, and by no store
that is configured later: that is a new one (`Apart`), in which an old identifier is found only if
it is drawn once more.

* `Session.StoreChange`: all that an act can do to one store.
* `Session.FairActs`: identifiers are fresh, and generated points are points of their curves.
* `configured_store_keeps_keys`: one store until a reset, failures that leave nothing behind, and
  keys that are found exactly as long as their store is in use.
-/

namespace WebKeys.Session

open Text (lowercase)
open Key (ReadAs)

variable {s : Session} {a : Act} {acts : List Act} {position : Nat} {id : String}

/-! ## One act -/

/-- What becomes of the store at a position. Of one outside nothing more is asked. -/
inductive StoreChange (a : Act) (s : Session) (position : Nat) : Prop
  | same (h : (act a s).storeAt position = s.storeAt position)
  | added (v : Settings) (kind : StoreKind) (hposition : position = s.stores.length)
      (h : (act a s).storeAt position = newStore v kind)
  | outside (c : StoreClass) (uses : List StoreUse)
      (h : (act a s).storeAt position = .outside c uses)
  | created (tag : String) (t : KeyType) (store : LocalStore) (k : Key)
      (ha : a = .create position tag) (ht : KeyType.ofTag? tag = some t)
      (hstore : s.storeAt position = .inMemory store)
      (hk : (s.drawn store.rsaBits t).1 = .ok k)
      (h : (act a s).storeAt position = .inMemory
        { store with keys := ((s.drawn store.rsaBits t).2, t, k) :: store.keys })

theorem storeChange_configure (s : Session) (position : Nat) :
    StoreChange .configure s position := by
  cases configuring s with
  | kept position' hconfigured hrun => exact .same (by rw [act, hrun])
  | unreadable e hnone hsettings hrun | unknown v hnone hsettings hkind hrun =>
    refine .same ?_
    rw [act, hrun, consult_snd]
    rfl
  | made v kind hnone hsettings hkind hrun =>
    obtain ⟨journal, hrun⟩ := hrun
    have hstores : (act .configure s).stores = s.stores ++ [newStore v kind] := by rw [act, hrun]
    obtain hlt | rfl | hgt := Nat.lt_trichotomy position s.stores.length
    · refine .same ?_
      rw [storeAt, hstores, List.getD_append _ _ _ _ hlt]
      rfl
    · refine .added v kind rfl ?_
      rw [storeAt, hstores, storeAt_append_self]
    · refine .same ?_
      have hlength : (s.stores ++ [newStore v kind]).length ≤ position := by
        rw [List.length_append]
        exact hgt
      rw [storeAt, hstores, List.getD_eq_default _ _ hlength, storeAt,
        List.getD_eq_default _ _ (Nat.le_of_lt hgt)]

theorem storeChange_create (s : Session) (made : Nat) (tag : String) (position : Nat) :
    StoreChange (.create made tag) s position := by
  obtain ⟨-, hsame⟩ | ⟨t, ht, hcreate⟩ := createWebKey_snd made tag s
  · refine .same ?_
    show ((store made).createWebKey tag s).2.storeAt position = _
    rw [hsame]
  have hact : (act (.create made tag) s).stores = (s.createIn made t).2.stores := by
    show ((store made).createWebKey tag s).2.stores = _
    rw [hcreate]
  by_cases hne : made = position
  · subst hne
    cases hstore : s.storeAt made with
    | outside c uses =>
      obtain ⟨uses', h⟩ := (uses_createIn made t s).storeAt_outside hstore
      refine .outside c uses' ?_
      rw [storeAt, hact]
      exact h
    | inMemory store =>
      obtain ⟨e, -, hsame, -⟩ | ⟨k, bs, hk, -, -, hadded⟩ := createIn_cases hstore t
      · refine .same ?_
        rw [storeAt, hact, hstore]
        exact hsame
      · refine .created tag t store k rfl ht hstore hk ?_
        rw [storeAt, hact]
        exact hadded
  · refine .same ?_
    rw [storeAt, hact]
    exact (uses_createIn made t s).storeAt_of_ne hne

theorem storeChange_exportKey (s : Session) (used : Nat) (id : String) (position : Nat) :
    StoreChange (.exportKey used id) s position := by
  have huses : Uses used s (act (.exportKey used id) s).stores := uses_exportFrom used id s
  by_cases hne : used = position
  · subst hne
    cases hstore : s.storeAt used with
    | outside c uses =>
      obtain ⟨uses', h⟩ := huses.storeAt_outside hstore
      exact .outside c uses' h
    | inMemory store =>
      refine .same ?_
      show (s.exportFrom used id).2.stores.getD used .readOnly = _
      rw [(exportFrom_cases hstore id).2.1]
      rfl
  · exact .same (huses.storeAt_of_ne hne)

theorem storeChange (a : Act) (s : Session) (position : Nat) : StoreChange a s position := by
  cases a with
  | register name kind => exact .same rfl
  | setEnvironment changes => exact .same rfl
  | forgetSettings => exact .same rfl
  | configure => exact storeChange_configure s position
  | reset => exact .same rfl
  | create made tag => exact storeChange_create s made tag position
  | exportKey used id => exact storeChange_exportKey s used id position

/-- Every act leaves the settings with known forms only. -/
theorem formsKnown_act (h : s.FormsKnown) (a : Act) : (act a s).FormsKnown := by
  cases a with
  | register name kind => exact h
  | setEnvironment changes => exact h
  | forgetSettings => rintro v ⟨⟩
  | configure =>
    cases configuring s with
    | kept position' hconfigured hrun =>
      rw [act, hrun]
      exact h
    | unreadable e hnone hsettings hrun | unknown v hnone hsettings hkind hrun =>
      rw [act, hrun]
      exact ((consult_cases s).2 h).1
    | made v kind hnone hsettings hkind hrun =>
      obtain ⟨journal, hrun⟩ := hrun
      rw [act, hrun]
      exact ((consult_cases s).2 h).1
  | reset => exact h
  | create made tag =>
    show ((store made).createWebKey tag s).2.FormsKnown
    obtain ⟨-, hsame⟩ | ⟨t, -, hcreate⟩ := createWebKey_snd made tag s
    · rw [hsame]
      exact h
    · rw [hcreate]
      exact formsKnown_createIn h made t
  | exportKey made id =>
    show (s.exportFrom made id).2.FormsKnown
    cases hstore : s.storeAt made with
    | outside c uses =>
      rw [exportFrom, hstore]
      exact h
    | inMemory store => exact (exportFrom_cases hstore id).2.2 h

/-! ## What good random choices preserve -/

/-- A creation draws an identifier that no store has, and a point that is one of its curve. -/
def Fair : Act → Session → Prop
  | .create position tag, s => ∀ store t k, s.storeAt position = .inMemory store →
      KeyType.ofTag? tag = some t → (s.drawn store.rsaBits t).1 = .ok k →
      (∀ other store', s.storeAt other = .inMemory store' →
        store'.find? (s.drawn store.rsaBits t).2 = none) ∧
      (t.family = .ec ∨ t.family = .bls → k.Sound)
  | _, _ => True

def FairActs : List Act → Session → Prop
  | [], _ => True
  | a :: rest, s => Fair a s ∧ FairActs rest (act a s)

theorem fairActs_append {first later : List Act} :
    FairActs (first ++ later) s ↔ FairActs first s ∧ FairActs later (afterActs first s) := by
  induction first generalizing s with
  | nil => exact ⟨fun h => ⟨trivial, h⟩, fun h => h.2⟩
  | cons a rest ih =>
    show Fair a s ∧ FairActs (rest ++ later) (act a s) ↔ _
    rw [ih, ← and_assoc]
    rfl

/-- The settings prefer a form that there is, and all keys in memory are sound. -/
structure Orderly (s : Session) : Prop where
  forms : s.FormsKnown
  sound : ∀ position store, s.storeAt position = .inMemory store → store.Sound

/-- What is found in a store of the one session is found in the same store of the other. -/
def KeptIn (s s' : Session) : Prop :=
  ∀ position store, s.storeAt position = .inMemory store →
    ∃ store', s'.storeAt position = .inMemory store' ∧
      ∀ id entry, store.find? id = some entry → store'.find? id = some entry

theorem KeptIn.trans {s' s'' : Session} (h : KeptIn s s') (h' : KeptIn s' s'') : KeptIn s s'' := by
  intro position store hstore
  obtain ⟨store', hstore', hfind⟩ := h position store hstore
  obtain ⟨store'', hstore'', hfind'⟩ := h' position store' hstore'
  exact ⟨store'', hstore'', fun id entry hentry => hfind' id entry (hfind id entry hentry)⟩

/-- A fair act keeps every key of every store in memory. -/
theorem keptIn_act (ha : Fair a s) : KeptIn s (act a s) := by
  intro position store hstore
  cases storeChange a s position with
  | same hsame => exact ⟨store, hsame.trans hstore, fun id entry hfind => hfind⟩
  | added v kind hposition hnew => exact absurd (lt_of_inMemory hstore) (by omega)
  | outside c uses houtside =>
    have hkind := kind_storeAt_act (lt_of_inMemory hstore) a
    rw [houtside, hstore] at hkind
    cases hkind
  | created tag t before k heq ht hbefore hk hcreated =>
    subst heq
    rw [hstore] at hbefore
    cases hbefore
    refine ⟨_, hcreated, fun id entry hfind => ?_⟩
    have hfresh := (ha store t k hstore ht hk).1 position store hstore
    have hne : id ≠ (s.drawn store.rsaBits t).2 := by
      rintro rfl
      rw [hfresh] at hfind
      cases hfind
    rw [LocalStore.find?_cons, if_neg hne]
    exact hfind

theorem keptIn_afterActs (hacts : FairActs acts s) : KeptIn s (afterActs acts s) := by
  induction acts generalizing s with
  | nil => exact fun position store hstore => ⟨store, hstore, fun id entry hfind => hfind⟩
  | cons a rest ih => exact (keptIn_act hacts.1).trans (ih hacts.2)

/-- A fair act leaves the stores in order. -/
theorem Orderly.act (h : s.Orderly) (ha : Fair a s) : (act a s).Orderly := by
  refine ⟨formsKnown_act h.forms a, fun position store hstore => ?_⟩
  cases storeChange a s position with
  | same hsame => exact h.sound position store (hsame.symm.trans hstore)
  | added v kind hposition hnew =>
    rw [hstore] at hnew
    cases kind with
    | outside c => cases hnew
    | inMemory =>
      cases hnew
      rintro id t k ⟨⟩
  | outside c uses houtside =>
    rw [hstore] at houtside
    cases houtside
  | created tag t before k heq ht hbefore hk hcreated =>
    subst heq
    rw [hstore] at hcreated
    cases hcreated
    intro id t' k' hfind
    rw [LocalStore.find?_cons] at hfind
    split at hfind
    · cases hfind
      exact ⟨Entropy.new_of_key hk, Entropy.sound_of_key hk (ha before t k hbefore ht hk).2⟩
    · exact h.sound position before hbefore id t' k' hfind

theorem Orderly.afterActs (h : s.Orderly) (hacts : FairActs acts s) :
    (afterActs acts s).Orderly := by
  induction acts generalizing s with
  | nil => exact h
  | cons a rest ih => exact ih (h.act hacts.1) hacts.2

/-! ## Issued keys -/

/-- A web key that is created in memory has the identifier under which its key pair is found from
then on. -/
theorem find?_of_createWebKey {tag : String} {w : WebKey} (h : s.Orderly)
    (ha : Fair (.create position tag) s) (hkind : (s.storeAt position).kind = .inMemory)
    (hw : ((store position).createWebKey tag s).1.result = .ok w) :
    ∃ id t k k' store, KeyType.ofTag? tag = some t ∧
      (Session.act (.create position tag) s).storeAt position = .inMemory store ∧
      store.find? id = some (t, k) ∧ k'.same k.publicPart = true ∧
      w = ⟨k', k'.label.1, k'.label.2, id, none, none⟩ := by
  obtain ⟨hunknown, -⟩ | ⟨t, ht, hafter⟩ := createWebKey_snd position tag s
  · rw [KeyStore.createWebKey, KeyStore.createThen_of_unknown _ hunknown] at hw
    cases hw
  obtain rfl := KeyType.tag_of_ofTag? ht
  rw [(createWebKey_eq position s).2] at hw
  cases hstore : s.storeAt position with
  | outside c uses =>
    rw [hstore] at hkind
    cases hkind
  | inMemory store =>
    obtain ⟨e, he, -⟩ | ⟨k, bs, hk, hbs, hresult, hadded⟩ := createIn_cases hstore t
    · rw [he] at hw
      cases hw
    have hnew := Entropy.new_of_key hk
    have hread := readAs_of_publicBytes h.forms hnew
      (Entropy.sound_of_key hk (ha store t k hstore ht hk).2) hbs
    obtain ⟨k', hdecode, hsame⟩ := hread.webKey hnew.family_ne (some (s.drawn store.rsaBits t).2)
    rw [hresult] at hw
    change (Conversion.decodeWebKey _ _ _).result = _ at hw
    rw [hdecode] at hw
    cases hw
    rw [← hafter] at hadded
    refine ⟨_, t, k, k', _, ht, hadded, ?_, hsame, rfl⟩
    rw [LocalStore.find?_cons, if_pos rfl]

/-- Under valid settings, a key pair that is found is exported as a web key. -/
theorem exportWebKey_of_find? {store : LocalStore} {t : KeyType} {k k' : Key} (h : s.Orderly)
    (hvalid : s.SettingsValid) (hstore : s.storeAt position = .inMemory store)
    (hfind : store.find? id = some (t, k)) (hsame : k'.same k.publicPart = true) :
    ∃ w, ((Session.store position).exportWebKey id s).1.result = .ok (w, t) ∧
      w.same ⟨k', k'.label.1, k'.label.2, id, none, none⟩ = true := by
  have hsound := h.sound position store hstore
  obtain ⟨bs, hexport, hread⟩ := (names_of_find? hstore hsound h.forms hfind).exported hvalid
  obtain ⟨k₂, hdecode, hsame₂⟩ := hread.webKey (hsound id t k hfind).1.family_ne (some id)
  exact ⟨_, exportWebKey_eq_ok hexport hdecode, WebKey.same_of_same hsame hsame₂⟩

/-! ## After a reset -/

/-- Some store has a key under the identifier. -/
def Taken (id : String) (s : Session) : Prop :=
  ∃ position store entry, s.storeAt position = .inMemory store ∧ store.find? id = some entry

theorem Taken.of_keptIn {s' : Session} (h : s.Taken id) (hkept : KeptIn s s') : s'.Taken id := by
  obtain ⟨position, store, entry, hstore, hfind⟩ := h
  obtain ⟨store', hstore', hkeeps⟩ := hkept position store hstore
  exact ⟨position, store', entry, hstore', hkeeps id entry hfind⟩

/-- The identifier is taken, but by none of the stores from some position on, and the store in use
is one of these. -/
structure Apart (first : Nat) (id : String) (s : Session) : Prop where
  taken : s.Taken id
  made : first ≤ s.stores.length
  absent : ∀ position store, first ≤ position → s.storeAt position = .inMemory store →
    store.find? id = none
  inUse : ∀ position, s.configured? = some position → first ≤ position

theorem apart_reset (h : s.Taken id) : Apart s.stores.length id (act .reset s) where
  taken := h
  made := Nat.le_refl _
  absent position store hposition hstore := absurd (lt_of_inMemory hstore) (Nat.not_lt.mpr hposition)
  inUse position hposition := by cases hposition

theorem Apart.act {first : Nat} (h : Apart first id s) (ha : Fair a s) :
    Apart first id (act a s) where
  taken := h.taken.of_keptIn (keptIn_act ha)
  made := h.made.trans (length_stores_act a s)
  absent position store hposition hstore := by
    cases storeChange a s position with
    | same hsame => exact h.absent position store hposition (hsame.symm.trans hstore)
    | added v kind hlength hnew =>
      rw [hstore] at hnew
      cases kind with
      | outside c => cases hnew
      | inMemory =>
        cases hnew
        rfl
    | outside c uses houtside =>
      rw [hstore] at houtside
      cases houtside
    | created tag t before k heq ht hbefore hk hcreated =>
      subst heq
      rw [hstore] at hcreated
      cases hcreated
      obtain ⟨other, store', entry, hother, hentry⟩ := h.taken
      have hne : id ≠ (s.drawn before.rsaBits t).2 := by
        rintro rfl
        rw [(ha before t k hbefore ht hk).1 other store' hother] at hentry
        cases hentry
      rw [LocalStore.find?_cons, if_neg hne]
      exact h.absent position before hposition hbefore
  inUse position hposition := by
    by_cases hreset : a = .reset
    · subst hreset
      cases hposition
    by_cases hconfigure : a = .configure
    · subst hconfigure
      cases configuring s with
      | kept position' hconfigured hrun =>
        rw [Session.act, hrun] at hposition
        exact h.inUse position hposition
      | unreadable e hnone hsettings hrun | unknown v hnone hsettings hkind hrun =>
        rw [Session.act, hrun, consult_snd] at hposition
        exact h.inUse position hposition
      | made v kind hnone hsettings hkind hrun =>
        obtain ⟨journal, hrun⟩ := hrun
        rw [Session.act, hrun] at hposition
        cases hposition
        exact h.made
    · rw [configured?_act_eq hconfigure hreset] at hposition
      exact h.inUse position hposition

theorem Apart.afterActs {first : Nat} (h : Apart first id s) (hacts : FairActs acts s) :
    Apart first id (afterActs acts s) := by
  induction acts generalizing s with
  | nil => exact h
  | cons a rest ih => exact ih (h.act hacts.1) hacts.2

/-- An identifier that was taken before a reset is not found in the stores that are configured after
it. -/
theorem not_found_of_reset (h : s.Taken id) (hacts : FairActs acts s) (hreset : .reset ∈ acts)
    {store : LocalStore} (hchosen : (afterActs acts s).chosen = .ok position)
    (hstore : (act .configure (afterActs acts s)).storeAt position = .inMemory store) :
    ((Session.store position).exportWebKey id (act .configure (afterActs acts s))).1.result =
      .error (.store (.keyNotFound id)) := by
  obtain ⟨before, later, rfl⟩ := List.append_of_mem hreset
  obtain ⟨hbefore, -, hlater⟩ := fairActs_append.mp hacts
  have hapart := (apart_reset (h.of_keptIn (keptIn_afterActs hbefore))).afterActs hlater
  rw [afterActs_append] at hchosen hstore ⊢
  change (afterActs later (act .reset (afterActs before s))).chosen = _ at hchosen
  change (act .configure (afterActs later (act .reset (afterActs before s)))).storeAt _ = _ at hstore
  have hinUse := (hapart.act (a := .configure) trivial)
  have hnone := hinUse.absent position store
    (hinUse.inUse position (configured?_of_chosen hchosen)) hstore
  exact congrArg Traced.result (Traced.andThen_of_error (not_found hstore hnone).2 _)

/-! ## The store in use -/

theorem orderly_of_new (environment assignments : Environment) (entropy : Entropy) :
    Orderly
      { environment := environment, assignments := assignments, entropy := entropy } where
  forms := by rintro v ⟨⟩
  sound := by
    rintro position store ⟨⟩

/-- A call that fails changes neither the stores nor which one is configured. -/
theorem configure_of_chosen_error {e : Failure} (h : s.chosen = .error e) :
    (act .configure s).configured? = none ∧ (act .configure s).stores = s.stores ∧
      (s.consult.1 = .error e ∨
        ∃ v, s.consult.1 = .ok v ∧ s.registry.lookup (lowercase v.backend) = none ∧
          e = .store (.unknownStore (lowercase v.backend) s.registered)) := by
  refine ⟨configured?_of_chosen_error h, ?_⟩
  rw [chosen] at h
  cases configuring s with
  | kept position hconfigured hrun =>
    rw [hrun] at h
    cases h
  | unreadable e' hnone hsettings hrun =>
    rw [hrun] at h
    cases h
    exact ⟨by rw [act, hrun, consult_snd], Or.inl hsettings⟩
  | unknown v hnone hsettings hkind hrun =>
    rw [hrun] at h
    cases h
    exact ⟨by rw [act, hrun, consult_snd], Or.inr ⟨v, hsettings, hkind, rfl⟩⟩
  | made v kind hnone hsettings hkind hrun =>
    obtain ⟨journal, hrun⟩ := hrun
    rw [hrun] at h
    cases h

/-- Settings that can be read and name a registered backend are all that a call needs. -/
theorem exists_chosen {v : Settings} {kind : StoreKind} (hsettings : s.consult.1 = .ok v)
    (hkind : s.registry.lookup (lowercase v.backend) = some kind) :
    ∃ position, s.chosen = .ok position := by
  cases hconfigured : s.configured? with
  | some position => exact ⟨position, (chosen_of_configured? hconfigured).1⟩
  | none =>
    have hfollows := (followsSettings_of_none hconfigured).1
    rw [FollowsSettings, hsettings] at hfollows
    dsimp only at hfollows
    rw [hkind] at hfollows
    obtain ⟨position, hchosen, -⟩ := hfollows
    exact ⟨position, hchosen⟩

/-! ## The first key of a program -/

/-- The store in use is the only one, and the settings are the standard ones. -/
structure Begun (s : Session) : Prop where
  stores : s.stores = [.inMemory { rsaBits := 2048 }]
  settings : s.settings? = some {}
  registry : s.registry = [("local", .inMemory)]

theorem begun_configure (entropy : Entropy) : Begun (act .configure { entropy := entropy }) :=
  ⟨rfl, rfl, rfl⟩

namespace Begun

theorem storeAt (h : Begun s) : s.storeAt 0 = .inMemory { rsaBits := 2048 } := by
  rw [Session.storeAt, h.stores]
  rfl

/-- No identifier has been given out, and a raw key is on no curve that it could miss. -/
theorem fair (h : Begun s) : Fair (.create 0 KeyType.x25519.tag) s := by
  intro store t k _ ht _
  obtain rfl := Option.some.inj ((KeyType.ofTag?_tag .x25519).symm.trans ht)
  refine ⟨fun other store' hother => ?_, ?_⟩
  · have hzero : other = 0 := by
      have hlt := lt_of_inMemory hother
      rw [h.stores] at hlt
      exact Nat.lt_one_iff.mp hlt
    rw [hzero, h.storeAt] at hother
    cases hother
    rfl
  · rintro (h | h) <;> cases h

theorem exists_created (h : Begun s) : ∃ w id,
    ((store 0).createWebKey KeyType.x25519.tag s).1.result = .ok w ∧ w.kid = some id := by
  have hforms : s.FormsKnown := by
    intro v hv
    rw [h.settings] at hv
    cases hv
    exact Or.inl rfl
  have hsound : LocalStore.Sound { rsaBits := 2048 } := by
    rintro id t k ⟨⟩
  obtain ⟨k, hk⟩ := @Entropy.exists_key_of_okp .x25519 rfl 2048 s.entropy
  rw [← drawn_fst] at hk
  obtain ⟨w, id, hw, hid, -⟩ := createWebKey_exported h.storeAt hforms hsound hk
    (fun store t k hstore ht hk => ⟨(h.fair store t k hstore ht hk).1 0 store hstore,
      (h.fair store t k hstore ht hk).2⟩) ⟨_, by rw [consult_of_settings? h.settings]⟩
  exact ⟨w, id, hw, hid⟩

/-- A raw key does not ask for settings, so the session goes on with those it has. -/
theorem settings_create (h : Begun s) :
    (act (.create 0 KeyType.x25519.tag) s).settings? = some {} ∧
      (act (.create 0 KeyType.x25519.tag) s).registry = [("local", .inMemory)] := by
  show ((store 0).createWebKey KeyType.x25519.tag s).2.settings? = _ ∧
    ((store 0).createWebKey KeyType.x25519.tag s).2.registry = _
  rw [(createWebKey_eq 0 s).1, (createIn_snd 0 _ s).2, h.registry, createIn, h.storeAt]
  exact ⟨h.settings, rfl⟩

end Begun

/-! ## The life of a store -/

/-- After any acts on a new session: the store that a call gives out is the one that all calls give
out until a reset, whatever is registered or set in between. A call that fails leaves no store
behind, and later calls succeed once the settings can be read and name a registered backend. With
random choices that are good throughout, a web key that is created in the store in use, if that is
one in memory, has an identifier under which the store in use exports the same web key until the
next reset, whenever settings are valid; no store in memory that is configured after a reset finds
an identifier that any such store has given out before. Stores of other classes may be registered,
put to use and asked for keys in between, and answer as they like. -/
theorem configured_store_keeps_keys (environment assignments : Environment) (entropy : Entropy)
    (acts : List Act) :
    let s₀ : Session :=
      { environment := environment, assignments := assignments, entropy := entropy }
    let s := afterActs acts s₀
    (∀ position, s.chosen = .ok position → ∀ more, .reset ∉ more →
      (afterActs more (act .configure s)).chosen = .ok position) ∧
    (∀ e, s.chosen = .error e →
      (act .configure s).configured? = none ∧ (act .configure s).stores = s.stores ∧
      (s.consult.1 = .error e ∨
        ∃ v, s.consult.1 = .ok v ∧ s.registry.lookup (lowercase v.backend) = none ∧
          e = .store (.unknownStore (lowercase v.backend) s.registered)) ∧
      ∀ more v kind, (afterActs more (act .configure s)).consult.1 = .ok v →
        (afterActs more (act .configure s)).registry.lookup (lowercase v.backend) = some kind →
        ∃ position, (afterActs more (act .configure s)).chosen = .ok position) ∧
    (∀ position tag w more, s.chosen = .ok position →
      ((act .configure s).storeAt position).kind = .inMemory →
      FairActs (acts ++ [.configure, .create position tag] ++ more) s₀ →
      ((store position).createWebKey tag (act .configure s)).1.result = .ok w → .reset ∉ more →
      let later := afterActs (.create position tag :: more) (act .configure s)
      later.SettingsValid → later.chosen = .ok position ∧
        ∃ id t w', w.kid = some id ∧ KeyType.ofTag? tag = some t ∧
          ((store position).exportWebKey id later).1.result = .ok (w', t) ∧ w'.same w = true) ∧
    ∀ made tag w more, (s.storeAt made).kind = .inMemory →
      FairActs (acts ++ [.create made tag] ++ more) s₀ →
      ((store made).createWebKey tag s).1.result = .ok w → .reset ∈ more →
      let later := afterActs (.create made tag :: more) s
      ∃ id, w.kid = some id ∧ ∀ position store, later.chosen = .ok position →
        (act .configure later).storeAt position = .inMemory store →
        ((Session.store position).exportWebKey id (act .configure later)).1.result =
          .error (.store (.keyNotFound id)) := by
  intro s₀ s
  have hnew : s₀.Orderly := orderly_of_new environment assignments entropy
  refine ⟨?_, ?_, ?_, ?_⟩
  · intro position hchosen more hmore
    exact (chosen_of_configured? (configured?_afterActs hmore (configured?_of_chosen hchosen))).1
  · intro e he
    obtain ⟨hnone, hstores, hcause⟩ := configure_of_chosen_error he
    exact ⟨hnone, hstores, hcause, fun more v kind hsettings hkind => exists_chosen hsettings hkind⟩
  · intro position tag w more hchosen hkind hfair hw hmore later hvalid
    rw [List.append_assoc, fairActs_append] at hfair
    obtain ⟨hacts, -, hcreate, hlater⟩ := hfair
    have hs : (act .configure s).Orderly := (hnew.afterActs hacts).act trivial
    obtain ⟨id, t, k, k', before, ht, hstore, hfind, hsame, rfl⟩ :=
      find?_of_createWebKey hs hcreate hkind hw
    obtain ⟨after, hafter, hkeeps⟩ := keptIn_afterActs hlater position before hstore
    obtain ⟨w', hexport, hsame'⟩ := exportWebKey_of_find? ((hs.act hcreate).afterActs hlater) hvalid
      hafter (hkeeps id _ hfind) hsame
    have hcreating : Act.create position tag ≠ .reset := by rintro ⟨⟩
    exact ⟨(chosen_of_configured? (configured?_afterActs hmore
      (configured?_act hcreating (configured?_of_chosen hchosen)))).1,
      id, t, w', rfl, ht, hexport, hsame'⟩
  · intro made tag w more hkind hfair hw hreset later
    rw [List.append_assoc, fairActs_append] at hfair
    obtain ⟨hacts, hcreate, hlater⟩ := hfair
    obtain ⟨id, t, k, k', before, -, hstore, hfind, -, rfl⟩ :=
      find?_of_createWebKey (hnew.afterActs hacts) hcreate hkind hw
    have htaken : (act (.create made tag) s).Taken id := ⟨made, before, _, hstore, hfind⟩
    exact ⟨id, rfl, fun position store hchosen hnext =>
      not_found_of_reset (s := act (.create made tag) s) htaken hlater hreset hchosen hnext⟩

/-- A raw key that is made in the first store is exported as before when another backend has taken
the name of the configured one. After a reset, the next store does not find it. -/
theorem raw_web_key_reachable : ∃ (s : Session) (w w' : WebKey) (id : String) (next : Nat),
    s = act .configure { entropy := { seed := [1] } } ∧
    ((store 0).createWebKey KeyType.x25519.tag s).1.result = .ok w ∧ w.kid = some id ∧
    (let later := afterActs [.create 0 KeyType.x25519.tag, .register "Local" .readOnly] s
    later.chosen = .ok 0 ∧ ((store 0).exportWebKey id later).1.result = .ok (w', .x25519) ∧
      w'.same w = true) ∧
    let later := afterActs [.create 0 KeyType.x25519.tag, .reset] s
    later.chosen = .ok next ∧
      ((store next).exportWebKey id (act .configure later)).1.result =
        .error (.store (.keyNotFound id)) := by
  obtain ⟨s, hs⟩ : ∃ s, s = act .configure { entropy := { seed := [1] } } := ⟨_, rfl⟩
  have hbegun : Begun s := hs ▸ begun_configure _
  obtain ⟨w, id, hw, hid⟩ := hbegun.exists_created
  have hcreate := hbegun.settings_create
  obtain ⟨-, -, hkept, -⟩ := configured_store_keeps_keys [] [] { seed := [1] } []
  obtain ⟨-, -, -, hlost⟩ := configured_store_keeps_keys [] [] { seed := [1] } [.configure]
  have hnone (s : Session) : afterActs [] s = s := rfl
  have hone (s : Session) : afterActs [.configure] s = act .configure s := rfl
  rw [hnone, ← hs] at hkept
  rw [hone, ← hs] at hlost
  have hreplaced : (afterActs [.create 0 KeyType.x25519.tag, .register "Local" .readOnly]
      s).settings? = some {} := hcreate.1
  obtain ⟨hchosen, id', t, w', hid', ht, hexport, hsame⟩ := hkept 0 KeyType.x25519.tag w
    [.register "Local" .readOnly] rfl (by rw [hs]; rfl)
    ⟨trivial, hs ▸ hbegun.fair, trivial, trivial⟩ hw (by simp)
    ⟨_, by rw [consult_of_settings? hreplaced]⟩
  obtain rfl := Option.some.inj ((KeyType.ofTag?_tag .x25519).symm.trans ht)
  obtain rfl := Option.some.inj (hid.symm.trans hid')
  obtain ⟨id', hid', hlost⟩ := hlost 0 KeyType.x25519.tag w [.reset] (by rw [hbegun.storeAt]; rfl)
    ⟨trivial, hs ▸ hbegun.fair, trivial, trivial⟩ hw (by simp)
  obtain rfl := Option.some.inj (hid.symm.trans hid')
  have hreset : (afterActs [.create 0 KeyType.x25519.tag, .reset] s).settings? = some {} ∧
      (afterActs [.create 0 KeyType.x25519.tag, .reset] s).registry = [("local", .inMemory)] :=
    hcreate
  have hfollows : (afterActs [.create 0 KeyType.x25519.tag, .reset] s).FollowsSettings :=
    (followsSettings_of_none rfl).1
  rw [FollowsSettings, consult_of_settings? hreset.1, hreset.2] at hfollows
  obtain ⟨next, hnext, hkind⟩ := hfollows
  cases hnew : (act .configure (afterActs [.create 0 KeyType.x25519.tag, .reset] s)).storeAt next with
  | outside c uses =>
    rw [hnew] at hkind
    cases hkind
  | inMemory store =>
    exact ⟨s, w, w', id, next, hs, hw, hid, ⟨hchosen, hexport, hsame⟩, hnext,
      hlost next store hnext hnew⟩

end WebKeys.Session
