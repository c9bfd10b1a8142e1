import WebKeys.Proofs.ConfiguredStore

/-!
# Calls do not see the journal

No operation reads the journal or the identifier in force, and none writes them: what it notes is
beside its answer. So it goes the same way whatever they are (`Blind`), and entering its events
afterwards changes nothing else (`alike_run`).

* `Call`: the conversions, the uses of key stores, and the choice of the store in use.
* `Alike`: two sessions that differ in nothing but the journal and the identifier.
* `Call.blind`: every call is answered alike in alike sessions.
-/

namespace WebKeys.Session

variable {α β : Type} {s s' : Session}

/-! ## Sessions with another journal -/

/-- The session with another journal, and with another identifier in force. -/
def under (journal : Log.Journal) (id : Option String) (s : Session) : Session :=
  { s with journal := journal, correlation := id }

/-- The sessions differ in nothing but the journal and the identifier in force. -/
def Alike (s s' : Session) : Prop := s' = s.under s'.journal s'.correlation

theorem settings?_under (journal : Log.Journal) (id : Option String) (s : Session) :
    (s.under journal id).settings? = s.settings? := rfl

theorem storeAt_under (position : Nat) (journal : Log.Journal) (id : Option String) (s : Session) :
    (s.under journal id).storeAt position = s.storeAt position := rfl

theorem configured?_under (journal : Log.Journal) (id : Option String) (s : Session) :
    (s.under journal id).configured? = s.configured? := rfl

theorem registry_under (journal : Log.Journal) (id : Option String) (s : Session) :
    (s.under journal id).registry = s.registry := rfl

theorem alike_under (journal : Log.Journal) (id : Option String) (s : Session) :
    Alike s (s.under journal id) := rfl

theorem alike_observe (t : Traced α) (s : Session) : Alike s (s.observe t).2 := rfl

theorem Alike.symm (h : Alike s s') : Alike s' s := by
  rw [Alike] at h
  rw [Alike, h]
  rfl

theorem Alike.trans {s'' : Session} (h : Alike s s') (h' : Alike s' s'') : Alike s s'' := by
  rw [Alike] at h h'
  rw [Alike, h', h]
  rfl

/-! ## Blind operations -/

/-- The operation goes the same way under any journal and any identifier, and leaves both as they
are. -/
def Blind (f : Session → β × Session) : Prop :=
  ∀ journal id s, f (s.under journal id) = ((f s).1, (f s).2.under journal id)

namespace Blind

variable {f : Session → β × Session}

theorem alike (hf : Blind f) (h : Alike s s') : (f s').1 = (f s).1 ∧ Alike (f s).2 (f s').2 := by
  have hs' := hf s'.journal s'.correlation s
  rw [← h] at hs'
  rw [hs']
  exact ⟨rfl, alike_under _ _ _⟩

theorem map {γ : Type} (hf : Blind f) (g : β → γ) : Blind fun s => (g (f s).1, (f s).2) :=
  fun journal id s => by
  dsimp only
  rw [hf]

end Blind

theorem blind_consult : Blind consult := fun journal id s => by
  unfold consult
  rw [settings?_under]
  cases s.settings? with
  | some v => rfl
  | none =>
    dsimp only [under]
    cases Settings.ofSources
      [Settings.ofEnvironment s.environment, Settings.ofEnvironment s.assignments] <;> rfl

theorem blind_preferred (asks : Bool) : Blind (preferred asks) := fun journal id s => by
  cases asks with
  | false => rfl
  | true =>
    have hconsult := blind_consult journal id s
    simp only [preferred, if_true, hconsult]

theorem blind_encodeKey (c : Candidate) (tag : String) : Blind (encodeKey c tag) :=
  (blind_preferred _).map fun preferred => Conversion.encodeKey preferred c tag

/-! ## Key stores -/

theorem blind_createIn (position : Nat) (t : KeyType) : Blind (createIn position t) :=
  fun journal id s => by
  unfold createIn
  rw [storeAt_under]
  cases s.storeAt position with
  | outside c uses => rfl
  | inMemory store =>
    have hpreferred := blind_preferred (t == .secp256k1Der) journal id
      { s with entropy := (s.entropy.key store.rsaBits t).2.identifier.2 }
    dsimp only [under] at hpreferred ⊢
    rw [hpreferred]

theorem blind_exportFrom (position : Nat) (id : String) : Blind (exportFrom position id) :=
  fun journal correlation s => by
  unfold exportFrom
  rw [storeAt_under]
  cases s.storeAt position with
  | outside c uses => rfl
  | inMemory store =>
    dsimp only
    rw [blind_preferred]

theorem blind_createTagged (position : Nat) (tag : String) : Blind (createTagged position tag) :=
  fun journal id s => by
  unfold createTagged
  rw [storeAt_under]
  cases s.storeAt position with
  | outside c uses => rfl
  | inMemory store =>
    cases KeyType.require tag with
    | error e => rfl
    | ok t => exact blind_createIn position t journal id s

theorem blind_addLocalStore (rsaBits : Option Int) : Blind (addLocalStore rsaBits) :=
  fun journal id s => by
  unfold addLocalStore
  cases rsaBits.filter (· ≠ 0) with
  | some bits => rfl
  | none =>
    dsimp only
    rw [blind_consult]
    cases s.consult.1 <;> rfl

theorem blind_configuredStore : Blind configuredStore := fun journal id s => by
  unfold configuredStore
  rw [configured?_under]
  cases s.configured? with
  | some position => rfl
  | none =>
    dsimp only
    rw [blind_consult]
    cases s.consult.1 with
    | error e => rfl
    | ok v =>
      dsimp only
      rw [registry_under]
      cases s.consult.2.registry.lookup (Text.lowercase v.backend) <;> rfl

/-- A store whose operations are blind makes for blind creations. -/
theorem blind_createThen {store : KeyStore Session} (h : ∀ t, Blind (store.create t)) (tag : String)
    (f : KeyType → Option String → Option Bytes → Traced α) : Blind (store.createThen tag f) :=
  fun journal id s => by
  unfold KeyStore.createThen
  cases KeyType.require tag with
  | error e => rfl
  | ok t =>
    simp only [h t journal id s]

theorem blind_exportWebKey {store : KeyStore Session} (h : ∀ id, Blind (store.exportKey id))
    (id : String) : Blind (store.exportWebKey id) := fun journal correlation s => by
  unfold KeyStore.exportWebKey
  simp only [h id journal correlation s]

/-! ## Calls -/

/-- A key store of the session, or one outside of it with whatever it answers. -/
inductive Manager
  | held (position : Nat)
  | outside (create : KeyType → Result (Option String × Option Bytes))
      (exportKey : String → Result (Option Bytes × String))

/-- The manager as a key store. What is outside has no part in the session. -/
def Manager.toStore : Manager → KeyStore Session
  | held position => store position
  | outside create exportKey =>
    { create := fun t s => (.ofResult (create t), s)
      exportKey := fun id s => (.ofResult (exportKey id), s) }

/-- A call with the type of its answers: a conversion, the creation or export of a key with a
manager, or what a session does with its own stores. -/
inductive Call : Type → Type
  | decodeKey (bs : Option Bytes) (tag : String) : Call Key
  | decodeWebKey (bs : Option Bytes) (tag : String) (kid : Option String) : Call WebKey
  | wrapKey (c : Candidate) (kid use alg : Option String) : Call WebKey
  | wrapX25519 (bs : Option Bytes) (kid : Option String) : Call WebKey
  | view (c : Candidate) : Call PublicView
  | encodeKey (c : Candidate) (tag : String) : Call Bytes
  | createWebKey (m : Manager) (tag : String) : Call WebKey
  | createKey (m : Manager) (tag : String) : Call (Option String × Key)
  | exportWebKey (m : Manager) (id : String) : Call (WebKey × KeyType)
  | create (position : Nat) (tag : String) : Call (Option String × Option Bytes)
  | exportKey (position : Nat) (id : String) : Call (Option Bytes × String)
  | keyPair (position : Nat) (id : String) : Call Key
  | addLocalStore (rsaBits : Option Int) : Call Nat
  | configure : Call Nat
  | register (name : String) (kind : StoreKind) : Call Unit
  | reset : Call Unit

namespace Call

def perform : Call α → Session → Traced α × Session
  | decodeKey bs tag, s => (Conversion.decodeKey bs tag, s)
  | decodeWebKey bs tag kid, s => (Conversion.decodeWebKey bs tag kid, s)
  | wrapKey c kid use alg, s => (Conversion.wrapKey c kid use alg, s)
  | wrapX25519 bs kid, s => (.ofResult (Conversion.wrapX25519 bs kid), s)
  | view c, s => (Conversion.view c, s)
  | encodeKey c tag, s => s.encodeKey c tag
  | createWebKey m tag, s => m.toStore.createWebKey tag s
  | createKey m tag, s => m.toStore.createKey tag s
  | exportWebKey m id, s => m.toStore.exportWebKey id s
  | create position tag, s => s.createTagged position tag
  | exportKey position id, s => s.exportFrom position id
  | keyPair position id, s => (.ofResult (s.keyPair position id), s)
  | addLocalStore rsaBits, s => (.ofResult (s.addLocalStore rsaBits).1, (s.addLocalStore rsaBits).2)
  | configure, s => s.configuredStore
  | register name kind, s => s.register name kind
  | reset, s => (.ofResult (.ok ()), s.resetStore)

theorem blind_create_toStore (m : Manager) (t : KeyType) : Blind (m.toStore.create t) := by
  cases m with
  | held position => exact blind_createIn position t
  | outside create exportKey => exact fun _ _ _ => rfl

theorem blind_exportKey_toStore (m : Manager) (id : String) : Blind (m.toStore.exportKey id) := by
  cases m with
  | held position => exact blind_exportFrom position id
  | outside create exportKey => exact fun _ _ _ => rfl

/-- No call sees the journal or the identifier, or has its hands on them. -/
theorem blind (c : Call α) : Blind c.perform := by
  cases c with
  | decodeKey | decodeWebKey | wrapKey | wrapX25519 | view | keyPair | register | reset =>
    exact fun _ _ _ => rfl
  | encodeKey c tag => exact blind_encodeKey c tag
  | createWebKey m tag =>
    show Blind (m.toStore.createWebKey tag)
    exact blind_createThen (blind_create_toStore m) tag _
  | createKey m tag =>
    show Blind (m.toStore.createKey tag)
    exact blind_createThen (blind_create_toStore m) tag _
  | exportWebKey m id => exact blind_exportWebKey (blind_exportKey_toStore m) id
  | create position tag => exact blind_createTagged position tag
  | exportKey position id => exact blind_exportFrom position id
  | addLocalStore rsaBits => exact (blind_addLocalStore rsaBits).map Traced.ofResult
  | configure => exact blind_configuredStore

end Call

theorem alike_run (h : Alike s s') (c : Call α) :
    (s'.run c.perform).1 = (s.run c.perform).1 ∧
      Alike (s.run c.perform).2 (s'.run c.perform).2 := by
  obtain ⟨hanswer, hafter⟩ := c.blind.alike h
  refine ⟨congrArg Traced.result hanswer, ?_⟩
  exact ((alike_observe _ _).symm.trans hafter).trans (alike_observe _ _)

end WebKeys.Session
