import WebKeys.Proofs.AnyStore
import WebKeys.Proofs.StoreRuns

/-!
# The configured store

A session makes the store that its settings name at the first call that can be answered, and gives
out that one store until it is reset. Nothing else has any bearing on the answer: while a store is
configured neither settings nor registry are looked at, and a call that fails leaves nothing behind
but settings that have been read (`configuring`).

* `Session.Act`, `Session.act`, `Session.afterActs`: what a program does with stores, in any order.
* `Session.FollowsSettings`: a call is answered as the settings in force want it.
* `store_of_first_call`: the first call that succeeds follows the settings of its time, and later
  ones follow it.
* `other_backend_ignored`: so a later call need not follow the settings of its own time.
-/

namespace WebKeys.Session

open Text (lowercase)

/-! ## Acts -/

/-- A change of the registry or of the settings, a call for the store in use, or a use of a store
that has been made. -/
inductive Act
  | register (name : String) (kind : StoreKind)
  | setEnvironment (changes : List (String × Option String))
  | forgetSettings
  | configure
  | reset
  | create (position : Nat) (tag : String)
  | exportKey (position : Nat) (id : String)

/-- The answer to a call for the store in use. -/
def chosen (s : Session) : Result Nat := (s.run configuredStore).1

/-- What an act leaves behind. -/
def act : Act → Session → Session
  | .register name kind, s => (s.run (register name kind)).2
  | .setEnvironment changes, s => s.setEnvironment changes
  | .forgetSettings, s => s.forgetSettings
  | .configure, s => (s.run configuredStore).2
  | .reset, s => s.resetStore
  | .create position tag, s => (s.run ((store position).createWebKey tag)).2
  | .exportKey position id, s => (s.run ((store position).exportWebKey id)).2

/-- The session after the acts, one after the other. -/
def afterActs (acts : List Act) (s : Session) : Session := acts.foldl (fun s a => act a s) s

theorem afterActs_append (first later : List Act) (s : Session) :
    afterActs (first ++ later) s = afterActs later (afterActs first s) :=
  List.foldl_append

/-! ## What reading the settings leaves alone -/

theorem consult_snd (s : Session) :
    s.consult.2 = { s with settings? := s.consult.2.settings? } := by
  unfold consult
  split
  · rfl
  · dsimp only
    split <;> rfl

theorem preferred_snd (asks : Bool) (s : Session) :
    (s.preferred asks).2 = { s with settings? := (s.preferred asks).2.settings? } := by
  unfold preferred
  cases asks with
  | false => rfl
  | true => exact consult_snd s

/-- Settings that are in force are the answer, whatever has become of their sources. -/
theorem consult_of_settings? {s : Session} {v : Settings} (h : s.settings? = some v) :
    s.consult = (.ok v, s) := by
  rw [consult, h]

theorem createIn_snd (position : Nat) (t : KeyType) (s : Session) :
    (s.createIn position t).2.configured? = s.configured? ∧
      (s.createIn position t).2.registry = s.registry := by
  unfold createIn
  split
  · exact ⟨rfl, rfl⟩
  · dsimp only
    rw [preferred_snd]
    exact ⟨rfl, rfl⟩

theorem exportFrom_snd (position : Nat) (id : String) (s : Session) :
    (s.exportFrom position id).2.configured? = s.configured? ∧
      (s.exportFrom position id).2.registry = s.registry := by
  unfold exportFrom
  split
  · exact ⟨rfl, rfl⟩
  · dsimp only
    rw [preferred_snd]
    exact ⟨rfl, rfl⟩

/-! ## The answers to a call -/

theorem kind_newStore (v : Settings) (kind : StoreKind) : (newStore v kind).kind = kind := by
  cases kind <;> rfl

/-- What a call for the store in use comes to. -/
inductive Configuring (s : Session) : Prop
  | kept (position : Nat) (hconfigured : s.configured? = some position)
      (h : s.run configuredStore = (.ok position, s))
  | unreadable (e : Failure) (hnone : s.configured? = none) (hsettings : s.consult.1 = .error e)
      (h : s.run configuredStore = (.error e, s.consult.2))
  | unknown (v : Settings) (hnone : s.configured? = none) (hsettings : s.consult.1 = .ok v)
      (hkind : s.registry.lookup (lowercase v.backend) = none)
      (h : s.run configuredStore =
        (.error (.store (.unknownStore (lowercase v.backend) s.registered)), s.consult.2))
  | made (v : Settings) (kind : StoreKind) (hnone : s.configured? = none)
      (hsettings : s.consult.1 = .ok v)
      (hkind : s.registry.lookup (lowercase v.backend) = some kind)
      (h : ∃ journal, s.run configuredStore = (.ok s.stores.length,
        { s.consult.2 with
          stores := s.stores ++ [newStore v kind], configured? := some s.stores.length,
          journal := journal }))

/-- What configuring a store does, by whether one is configured and whether a choice can be made. -/
theorem configuring (s : Session) : Configuring s := by
  cases hconfigured : s.configured? with
  | some position =>
    refine .kept position hconfigured ?_
    rw [run, configuredStore, hconfigured]
    rfl
  | none =>
    have hframe := consult_snd s
    cases hsettings : s.consult with
    | mk settings s' =>
      rw [hsettings] at hframe
      dsimp only at hframe
      cases settings with
      | error e =>
        refine .unreadable e hconfigured (by rw [hsettings]) ?_
        rw [run, configuredStore, hconfigured, hsettings]
        rfl
      | ok v =>
        have hregistry : s'.registry = s.registry := by rw [hframe]
        have hstores : s'.stores = s.stores := by rw [hframe]
        cases hkind : s.registry.lookup (lowercase v.backend) with
        | none =>
          refine .unknown v hconfigured (by rw [hsettings]) hkind ?_
          rw [run, configuredStore, hconfigured, hsettings]
          dsimp only
          rw [hregistry, hkind, registered, hregistry]
          rfl
        | some kind =>
          refine .made v kind hconfigured (by rw [hsettings]) hkind ?_
          rw [run, configuredStore, hconfigured, hsettings]
          dsimp only
          rw [← hregistry] at hkind
          rw [hkind]
          dsimp only [addStore]
          rw [hstores]
          exact ⟨_, rfl⟩

/-- The call is answered as the settings in force want it: with their own failure if they cannot be
read, with that of an unknown store if nothing is registered for their backend, and else with a
store of the kind that is registered. -/
def FollowsSettings (s : Session) : Prop :=
  match s.consult.1 with
  | .error e => s.chosen = .error e
  | .ok v =>
    match s.registry.lookup (lowercase v.backend) with
    | none => s.chosen = .error (.store (.unknownStore (lowercase v.backend) s.registered))
    | some kind => ∃ position, s.chosen = .ok position ∧
        ((act .configure s).storeAt position).kind = kind

theorem storeAt_append_self (stores : List StoreState) (store : StoreState) :
    (stores ++ [store]).getD stores.length .readOnly = store := by
  simp [List.getD_eq_getElem?_getD]

/-- While no store is configured, a call follows the settings in force, and a store that it gives
out is a new one. -/
theorem followsSettings_of_none {s : Session} (h : s.configured? = none) :
    s.FollowsSettings ∧ ∀ position, s.chosen = .ok position → position = s.stores.length := by
  unfold FollowsSettings
  cases configuring s with
  | kept position hconfigured hrun =>
    rw [h] at hconfigured
    cases hconfigured
  | unreadable e hnone hsettings hrun =>
    have hchosen : s.chosen = .error e := congrArg Prod.fst hrun
    rw [hsettings, hchosen]
    exact ⟨rfl, fun position hposition => by cases hposition⟩
  | unknown v hnone hsettings hkind hrun =>
    have hchosen : s.chosen = .error (.store (.unknownStore (lowercase v.backend) s.registered)) :=
      congrArg Prod.fst hrun
    rw [hsettings, hchosen]
    dsimp only
    rw [hkind]
    exact ⟨rfl, fun position hposition => by cases hposition⟩
  | made v kind hnone hsettings hkind hrun =>
    obtain ⟨journal, hrun⟩ := hrun
    have hchosen : s.chosen = .ok s.stores.length := congrArg Prod.fst hrun
    have hnew : (act .configure s).storeAt s.stores.length = newStore v kind := by
      rw [act, hrun]
      exact storeAt_append_self _ _
    rw [hsettings, hchosen]
    dsimp only
    rw [hkind]
    exact ⟨⟨_, rfl, by rw [hnew, kind_newStore]⟩, fun position hposition => by cases hposition; rfl⟩

/-! ## What an act leaves alone -/

/-- A key can be created only under a registered tag. Then the session is left as the creation of a
key of the type leaves it. -/
theorem createWebKey_snd (position : Nat) (tag : String) (s : Session) :
    (KeyType.ofTag? tag = none ∧ ((store position).createWebKey tag s).2 = s) ∨
      ∃ t, KeyType.ofTag? tag = some t ∧
        ((store position).createWebKey tag s).2 = (s.createIn position t).2 := by
  cases ht : KeyType.ofTag? tag with
  | none =>
    refine Or.inl ⟨rfl, ?_⟩
    rw [KeyStore.createWebKey, KeyStore.createThen_of_unknown _ ht]
  | some t =>
    refine Or.inr ⟨t, rfl, ?_⟩
    rw [← KeyType.tag_of_ofTag? ht]
    exact (createWebKey_eq position s).1

/-- Only configuring and resetting change which store is configured. -/
theorem configured?_act_eq {a : Act} (hconfigure : a ≠ .configure) (hreset : a ≠ .reset)
    (s : Session) : (act a s).configured? = s.configured? := by
  cases a with
  | register name kind => rfl
  | setEnvironment changes => rfl
  | forgetSettings => rfl
  | configure => exact absurd rfl hconfigure
  | reset => exact absurd rfl hreset
  | create position tag =>
    show ((store position).createWebKey tag s).2.configured? = _
    obtain ⟨-, hsame⟩ | ⟨t, -, hcreate⟩ := createWebKey_snd position tag s
    · rw [hsame]
    · rw [hcreate, (createIn_snd position t s).1]
  | exportKey position id =>
    show (s.exportFrom position id).2.configured? = _
    rw [(exportFrom_snd position id s).1]

theorem chosen_of_configured? {s : Session} {position : Nat} (h : s.configured? = some position) :
    s.chosen = .ok position ∧ act .configure s = s := by
  cases configuring s with
  | kept position' hconfigured hrun =>
    rw [h] at hconfigured
    cases hconfigured
    exact ⟨congrArg Prod.fst hrun, congrArg Prod.snd hrun⟩
  | unreadable e hnone | unknown v hnone | made v kind hnone =>
    rw [h] at hnone
    cases hnone

/-- A store that is configured stays so until it is reset. -/
theorem configured?_act {a : Act} {s : Session} {position : Nat} (ha : a ≠ .reset)
    (h : s.configured? = some position) : (act a s).configured? = some position := by
  by_cases hconfigure : a = .configure
  · rw [hconfigure, (chosen_of_configured? h).2]
    exact h
  · rw [configured?_act_eq hconfigure ha]
    exact h

/-- A use of the store at a position leaves the stores as they are, or changes the one there, which
stays of its kind. -/
def Uses (position : Nat) (s : Session) (stores : List StoreState) : Prop :=
  stores = s.stores ∨
    ∃ store, store.kind = (s.storeAt position).kind ∧ stores = s.stores.set position store

theorem uses_createIn (position : Nat) (t : KeyType) (s : Session) :
    Uses position s (s.createIn position t).2.stores := by
  unfold createIn
  split
  · next hstore => exact Or.inr ⟨_, by rw [hstore]; rfl, rfl⟩
  · next hstore =>
    dsimp only
    rw [preferred_snd]
    exact Or.inr ⟨_, by rw [hstore]; rfl, rfl⟩

theorem uses_exportFrom (position : Nat) (id : String) (s : Session) :
    Uses position s (s.exportFrom position id).2.stores := by
  unfold exportFrom
  split
  · next hstore => exact Or.inr ⟨_, by rw [hstore]; rfl, rfl⟩
  · dsimp only
    rw [preferred_snd]
    exact Or.inl rfl

/-- What is used is the store at one position only. -/
theorem Uses.storeAt_of_ne {stores : List StoreState} {s : Session} {used position : Nat}
    (h : Uses used s stores) (hne : used ≠ position) :
    stores.getD position .readOnly = s.storeAt position := by
  obtain rfl | ⟨store, -, rfl⟩ := h
  · rfl
  · rw [List.getD_eq_getElem?_getD, List.getElem?_set_ne hne, ← List.getD_eq_getElem?_getD]
    rfl

/-- A store outside is of the same class after its use. -/
theorem Uses.storeAt_outside {stores : List StoreState} {s : Session} {position : Nat}
    {c : StoreClass} {uses : List StoreUse} (h : Uses position s stores)
    (hstore : s.storeAt position = .outside c uses) :
    ∃ uses', stores.getD position .readOnly = .outside c uses' := by
  obtain rfl | ⟨store, hkind, rfl⟩ := h
  · exact ⟨uses, hstore⟩
  rw [hstore] at hkind
  by_cases hlt : position < s.stores.length
  · rw [List.getD_eq_getElem?_getD, List.getElem?_set_self hlt]
    cases store with
    | inMemory kept => cases hkind
    | outside c' uses' =>
      cases hkind
      exact ⟨uses', rfl⟩
  · rw [List.set_eq_of_length_le (Nat.le_of_not_lt hlt)]
    exact ⟨uses, hstore⟩

theorem Uses.length_eq {stores : List StoreState} {s : Session} {used : Nat}
    (h : Uses used s stores) : stores.length = s.stores.length := by
  obtain rfl | ⟨store, -, rfl⟩ := h
  · rfl
  · exact List.length_set

theorem Uses.kind_eq {stores : List StoreState} {s : Session} {used position : Nat}
    (h : Uses used s stores) (hlt : position < s.stores.length) :
    (stores.getD position .readOnly).kind = (s.storeAt position).kind := by
  by_cases hne : used = position
  · subst hne
    obtain rfl | ⟨store, hkind, rfl⟩ := h
    · rfl
    · rw [List.getD_eq_getElem?_getD, List.getElem?_set_self hlt]
      exact hkind
  · rw [h.storeAt_of_ne hne]

/-- One store is added at the end, or one is used, or nothing happens to any. -/
theorem stores_act (a : Act) (s : Session) :
    (∃ store, (act a s).stores = s.stores ++ [store]) ∨
      ∃ position, Uses position s (act a s).stores := by
  cases a with
  | register name kind => exact Or.inr ⟨0, Or.inl rfl⟩
  | setEnvironment changes => exact Or.inr ⟨0, Or.inl rfl⟩
  | forgetSettings => exact Or.inr ⟨0, Or.inl rfl⟩
  | configure =>
    cases configuring s with
    | kept position hconfigured hrun => exact Or.inr ⟨0, Or.inl (by rw [act, hrun])⟩
    | unreadable e hnone hsettings hrun =>
      exact Or.inr ⟨0, Or.inl (by rw [act, hrun, consult_snd])⟩
    | unknown v hnone hsettings hkind hrun =>
      exact Or.inr ⟨0, Or.inl (by rw [act, hrun, consult_snd])⟩
    | made v kind hnone hsettings hkind hrun =>
      obtain ⟨journal, hrun⟩ := hrun
      exact Or.inl ⟨_, by rw [act, hrun]⟩
  | reset => exact Or.inr ⟨0, Or.inl rfl⟩
  | create position tag =>
    refine Or.inr ⟨position, ?_⟩
    show Uses position s ((store position).createWebKey tag s).2.stores
    obtain ⟨-, hsame⟩ | ⟨t, -, hcreate⟩ := createWebKey_snd position tag s
    · exact Or.inl (by rw [hsame])
    · rw [hcreate]
      exact uses_createIn position t s
  | exportKey position id => exact Or.inr ⟨position, uses_exportFrom position id s⟩

theorem lt_of_inMemory {s : Session} {position : Nat} {store : LocalStore}
    (h : s.storeAt position = .inMemory store) : position < s.stores.length := by
  by_contra hge
  rw [storeAt, List.getD_eq_default _ _ (Nat.le_of_not_lt hge)] at h
  cases h

theorem length_stores_act (a : Act) (s : Session) :
    s.stores.length ≤ (act a s).stores.length := by
  obtain ⟨store, hadded⟩ | ⟨used, huses⟩ := stores_act a s
  · rw [hadded, List.length_append]
    exact Nat.le_add_right _ _
  · exact Nat.le_of_eq huses.length_eq.symm

/-- A store that has been made stays what it is. -/
theorem kind_storeAt_act {position : Nat} {s : Session} (h : position < s.stores.length) (a : Act) :
    ((act a s).storeAt position).kind = (s.storeAt position).kind := by
  obtain ⟨store, hadded⟩ | ⟨used, huses⟩ := stores_act a s
  · rw [storeAt, hadded, List.getD_append _ _ _ _ h]
    rfl
  · exact huses.kind_eq h

/-! ## Runs -/

theorem configured?_afterActs {acts : List Act} {s : Session} {position : Nat}
    (hacts : .reset ∉ acts) (h : s.configured? = some position) :
    (afterActs acts s).configured? = some position := by
  induction acts generalizing s with
  | nil => exact h
  | cons a rest ih =>
    obtain ⟨hhead, hrest⟩ := not_or.mp (mt List.mem_cons.mpr hacts)
    exact ih hrest (configured?_act (Ne.symm hhead) h)

theorem kind_storeAt_afterActs {acts : List Act} {s : Session} {position : Nat}
    (h : position < s.stores.length) :
    ((afterActs acts s).storeAt position).kind = (s.storeAt position).kind := by
  induction acts generalizing s with
  | nil => rfl
  | cons a rest ih =>
    exact (ih (h.trans_le (length_stores_act a s))).trans (kind_storeAt_act h a)

/-- What is given out is what is configured from then on. -/
theorem configured?_of_chosen {s : Session} {position : Nat} (h : s.chosen = .ok position) :
    (act .configure s).configured? = some position := by
  rw [chosen] at h
  cases configuring s with
  | kept position' hconfigured hrun =>
    rw [hrun] at h
    cases h
    rw [act, hrun]
    exact hconfigured
  | unreadable e hnone hsettings hrun | unknown v hnone hsettings hkind hrun =>
    rw [hrun] at h
    cases h
  | made v kind hnone hsettings hkind hrun =>
    obtain ⟨journal, hrun⟩ := hrun
    rw [hrun] at h
    cases h
    rw [act, hrun]

theorem configured?_of_chosen_error {s : Session} {e : Failure} (h : s.chosen = .error e) :
    (act .configure s).configured? = none := by
  rw [chosen] at h
  cases configuring s with
  | kept position hconfigured hrun =>
    rw [hrun] at h
    cases h
  | unreadable e hnone hsettings hrun | unknown v hnone hsettings hkind hrun =>
    rw [act, hrun, consult_snd]
    exact hnone
  | made v kind hnone hsettings hkind hrun =>
    obtain ⟨journal, hrun⟩ := hrun
    rw [hrun] at h
    cases h

/-- The first call to succeed answers with a store that is there after it. -/
theorem lt_of_first_call {s : Session} {position : Nat} (hnone : s.configured? = none)
    (h : s.chosen = .ok position) : position < (act .configure s).stores.length := by
  rw [chosen] at h
  cases configuring s with
  | kept position' hconfigured hrun =>
    rw [hnone] at hconfigured
    cases hconfigured
  | unreadable e hnone hsettings hrun | unknown v hnone hsettings hkind hrun =>
    rw [hrun] at h
    cases h
  | made v kind hnone hsettings hkind hrun =>
    obtain ⟨journal, hrun⟩ := hrun
    rw [hrun] at h
    cases h
    rw [act, hrun, List.length_append]
    exact Nat.lt_succ_self _

/-- Every call for the store in use has failed since the last reset. -/
def Unanswered (acts : List Act) (s₀ : Session) : Prop :=
  ∀ before later, acts = before ++ .configure :: later → .reset ∉ later →
    ∃ e, (afterActs before s₀).chosen = .error e

theorem unanswered_of_none {acts : List Act} {s₀ : Session}
    (h : (afterActs acts s₀).configured? = none) : Unanswered acts s₀ := by
  rintro before later rfl hlater
  cases hchosen : (afterActs before s₀).chosen with
  | error e => exact ⟨e, rfl⟩
  | ok position =>
    have hkept := configured?_afterActs hlater (configured?_of_chosen hchosen)
    rw [afterActs_append] at h
    rw [show afterActs (.configure :: later) _ = afterActs later (act .configure _) from rfl,
      hkept] at h
    cases h

/-- Where a store is configured, there was a first call that made it. -/
theorem exists_first_call {acts : List Act} {s₀ : Session} {position : Nat}
    (h₀ : s₀.configured? = none) (h : (afterActs acts s₀).configured? = some position) :
    ∃ before later, acts = before ++ .configure :: later ∧ .reset ∉ later ∧
      (afterActs before s₀).configured? = none ∧ (afterActs before s₀).chosen = .ok position := by
  -- The acts are taken from the last one on: it made the store, or the store was there before it.
  induction acts using List.reverseRecOn with
  | nil =>
    rw [show afterActs [] s₀ = s₀ from rfl, h₀] at h
    cases h
  | append_singleton acts a ih =>
    rw [afterActs_append] at h
    change (act a (afterActs acts s₀)).configured? = some position at h
    have hreset : a ≠ .reset := by
      rintro rfl
      cases h
    cases hconfigured : (afterActs acts s₀).configured? with
    | some position' =>
      rw [configured?_act hreset hconfigured] at h
      cases h
      obtain ⟨before, later, rfl, hlater, hfirst⟩ := ih hconfigured
      refine ⟨before, later ++ [a], by simp, ?_, hfirst⟩
      simpa [hlater] using Ne.symm hreset
    | none =>
      have ha : a = .configure := by
        by_contra hconfigure
        rw [configured?_act_eq hconfigure hreset, hconfigured] at h
        cases h
      subst ha
      refine ⟨acts, [], rfl, List.not_mem_nil, hconfigured, ?_⟩
      cases hchosen : (afterActs acts s₀).chosen with
      | ok position' =>
        rw [configured?_of_chosen hchosen] at h
        exact congrArg Except.ok (Option.some.inj h)
      | error e =>
        rw [configured?_of_chosen_error hchosen] at h
        cases h

/-! ## Settings and answers -/

/-- After any acts on a new session, a call for the store in use goes one of two ways. As long as
every call since the last reset has failed, it follows the settings in force, and what it gives out
is a new store. Else it gives out the store of the first call since then that succeeded, which
followed the settings in force at that time; the store is of the same kind still, and so the call
follows the present settings too if that kind is registered for them. -/
theorem store_of_first_call (environment assignments : Environment) (entropy : Entropy)
    (acts : List Act) :
    let s₀ : Session :=
      { environment := environment, assignments := assignments, entropy := entropy }
    let s := afterActs acts s₀
    (Unanswered acts s₀ ∧ s.FollowsSettings ∧
      ∀ position, s.chosen = .ok position → position = s.stores.length) ∨
    ∃ before later position, acts = before ++ .configure :: later ∧ .reset ∉ later ∧
      Unanswered before s₀ ∧ (afterActs before s₀).FollowsSettings ∧
      (afterActs before s₀).chosen = .ok position ∧ s.chosen = .ok position ∧
      (s.storeAt position).kind =
        ((act .configure (afterActs before s₀)).storeAt position).kind ∧
      ∀ v, s.consult.1 = .ok v →
        s.registry.lookup (lowercase v.backend) = some (s.storeAt position).kind →
        s.FollowsSettings := by
  intro s₀ s
  cases hconfigured : s.configured? with
  | none =>
    exact Or.inl ⟨unanswered_of_none hconfigured, followsSettings_of_none hconfigured⟩
  | some position =>
    obtain ⟨before, later, hacts, hlater, hnone, hfirst⟩ := exists_first_call rfl hconfigured
    obtain ⟨hfollows, hnew⟩ := followsSettings_of_none hnone
    obtain ⟨hchosen, hsame⟩ := chosen_of_configured? hconfigured
    refine Or.inr ⟨before, later, position, hacts, hlater, unanswered_of_none hnone, hfollows,
      hfirst, hchosen, ?_, fun v hv hkind => ?_⟩
    · have hs : s = afterActs later (act .configure (afterActs before s₀)) := by
        rw [show s = afterActs acts s₀ from rfl, hacts, afterActs_append]
        rfl
      rw [hs]
      exact kind_storeAt_afterActs (lt_of_first_call hnone hfirst)
    · unfold FollowsSettings
      rw [hv]
      dsimp only
      rw [hkind]
      exact ⟨position, hchosen, by rw [hsame]⟩

/-- A store that was made stays in use when another backend is set and the settings are read
anew. -/
theorem other_backend_ignored :
    let s := afterActs [.register "empty" .readOnly, .configure,
      .setEnvironment [("KMSJWK_KMS_BACKEND", some "empty")], .forgetSettings]
      { entropy := { seed := [] } }
    s.consult.1 = .ok { backend := "empty" } ∧ s.registry.lookup "empty" = some .readOnly ∧
      s.chosen = .ok 0 ∧ (s.storeAt 0).kind = .inMemory ∧ ¬s.FollowsSettings := by
  intro s
  have hchosen : s.chosen = .ok 0 := rfl
  have hkind : ((act .configure s).storeAt 0).kind = .inMemory := rfl
  refine ⟨rfl, rfl, hchosen, rfl, ?_⟩
  rintro ⟨position, hposition, hfollows⟩
  rw [hchosen] at hposition
  cases hposition
  rw [hkind] at hfollows
  cases hfollows

end WebKeys.Session
