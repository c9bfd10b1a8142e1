import WebKeys.Creation
import WebKeys.Log.Journal
import WebKeys.Settings

/-!
# Sessions

All that operations share while a program runs: the environment and the settings once they have been
read from it, the registered stores and the one in use, the journal, and the entropy that is left.

* `Session.consult` reads the settings at their first use and keeps them; a failure is not kept.
* `Session.configuredStore` makes the store that the settings name and stays with it until
  `Session.resetStore`, whatever is registered or set in between.
* `Session.store` is a key store in the sense of `KeyStore`, with sessions for its states.
* `Session.observe` enters the events of an operation into the journal.
-/

namespace WebKeys

/-- The stores that can be registered: those of this library, and those of any class outside it that
can be made without fail. -/
inductive StoreKind
  | inMemory
  | outside (c : StoreClass)

/-- The stores without keys. -/
abbrev StoreKind.readOnly : StoreKind := .outside .withoutKeys

/-- A store that has been made. -/
inductive StoreState
  | inMemory (s : LocalStore)
  /-- A store of a class outside, and how it has been used, the latest use first. -/
  | outside (c : StoreClass) (uses : List StoreUse)

/-- A store without keys that has not been used. -/
abbrev StoreState.readOnly : StoreState := .outside .withoutKeys []

/-- What a store was registered as. -/
def StoreState.kind : StoreState → StoreKind
  | inMemory _ => .inMemory
  | outside c _ => .outside c

/-- Everything that the operations of a running program share. -/
structure Session where
  environment : Environment := []
  /-- The assignments of a settings file, which the environment overrides. -/
  assignments : Environment := []
  /-- The settings in force, once they have been read. -/
  settings? : Option Settings := none
  registry : List (String × StoreKind) := [("local", .inMemory)]
  /-- All stores that have been made. -/
  stores : List StoreState := []
  /-- The store in use, by its position. -/
  configured? : Option Nat := none
  journal : Log.Journal := .new
  /-- The identifier that goes into every entry of the journal. -/
  correlation : Option String := none
  entropy : Entropy

namespace Session

/-! ## Environment and settings -/

/-- Sets a variable in its place or adds it; without a value, removes it. -/
def setVariable (name : String) (value : Option String) (env : Environment) : Environment :=
  match value with
  | none => env.filter (·.1 ≠ name)
  | some v =>
    if env.any (·.1 = name) then env.map fun m => if m.1 = name then (name, v) else m
    else env ++ [(name, v)]

def setEnvironment (changes : List (String × Option String)) (s : Session) : Session :=
  { s with environment := changes.foldl (fun env m => setVariable m.1 m.2 env) s.environment }

/-- Has the settings read anew at their next use. -/
def forgetSettings (s : Session) : Session := { s with settings? := none }

/-- The settings, which are read if they have not been. -/
def consult (s : Session) : Result Settings × Session :=
  match s.settings? with
  | some v => (.ok v, s)
  | none =>
    let sources := [Settings.ofEnvironment s.environment, Settings.ofEnvironment s.assignments]
    match Settings.ofSources sources with
    | .ok v => (.ok v, { s with settings? := some v })
    | .error faults => (.error (.refused (.document faults)), s)

/-- Settings that the caller gives in part; the file of assignments does not count. -/
def settingsWith (given : Members) (s : Session) : Result Settings :=
  match Settings.ofSources [given, Settings.ofEnvironment s.environment] with
  | .ok v => .ok v
  | .error faults => .error (.refused (.document faults))

/-- The preferred form of keys, asked for only where the outcome depends on it. -/
def preferred (asks : Bool) (s : Session) : Result DerForm × Session :=
  if asks then
    let (settings, s) := s.consult
    (settings.map (·.derForm), s)
  else (.ok .legacy, s)

/-! ## The journal -/

/-- Enters the events of an operation into the journal. -/
def observe {α : Type} (t : Traced α) (s : Session) : Result α × Session :=
  (t.result, { s with journal := s.journal.noteAll { correlation := s.correlation } t.events })

/-- Runs an operation on the session and enters its events into the journal. -/
def run {α : Type} (f : Session → Traced α × Session) (s : Session) : Result α × Session :=
  let (t, s) := f s
  s.observe t

/-- Sets the journal up; what is left open is up to the settings, which are consulted in any
case. -/
def setUpJournal (json : Option Bool) (level : Option String) (s : Session) :
    Result Log.Setup × Session :=
  let (settings, s) := s.consult
  match settings with
  | .error e => (.error e, s)
  | .ok settings =>
    let name := level.getD settings.logLevel
    match Log.Level.ofName? name with
    | none => (.error (.unknownLevel name), s)
    | some l =>
      let setup : Log.Setup := ⟨l, json.getD settings.logJson⟩
      (.ok setup, { s with journal := s.journal.setUp setup })

/-- Logs a message from a place in the program. -/
def call (source : Log.Source) (c : Log.Journal.Call) (s : Session) : Result Unit × Session :=
  let (r, journal) := s.journal.call { correlation := s.correlation, source := source } c
  (r, { s with journal := journal })

/-- The entries of the journal, which are taken out of it. -/
def takeEntries (s : Session) : List Log.Entry × Session :=
  (s.journal.entries, { s with journal := { s.journal with entries := [] } })

/-- Runs something under another identifier; the one before it is back in force afterwards. -/
def within {α : Type} (id : Option String) (f : Session → α × Session) (s : Session) :
    α × Session :=
  let (a, inner) := f { s with correlation := id }
  (a, { inner with correlation := s.correlation })

/-- The identifiers in force on the way into nested contexts and out of them again. -/
def correlations : List (Option String) → Session → List (Option String) × Session
  | [], s => ([s.correlation], s)
  | id :: rest, s =>
    let (inner, after) := s.within id (correlations rest)
    (s.correlation :: inner ++ [after.correlation], after)

/-- The identifier that was in force before a block is in force after it. -/
@[simp] theorem correlation_within {α : Type} (id : Option String)
    (f : Session → α × Session) (s : Session) :
    (s.within id f).2.correlation = s.correlation := rfl

/-! ## The registry -/

def registryLogger : String := "kmsjwk.core.kms.factory"

/-- Registers a kind of store under a name in small letters, in place of the one before. -/
def register (name : String) (kind : StoreKind) (s : Session) : Traced Unit × Session :=
  let name := Text.lowercase name
  let registry :=
    if s.registry.any (·.1 = name) then
      s.registry.map fun m => if m.1 = name then (name, kind) else m
    else s.registry ++ [(name, kind)]
  (⟨.ok (), [⟨registryLogger, Log.Level.info, "Registered key manager",
    [("backend", .string name)], false⟩]⟩, { s with registry := registry })

/-- The registered names in the order of their characters. -/
def registered (s : Session) : List String :=
  (s.registry.map (·.1)).mergeSort fun a b => !decide (b < a)

/-! ## Stores -/

/-- The store at a position. Where none was made there is one without keys. -/
def storeAt (position : Nat) (s : Session) : StoreState := s.stores.getD position .readOnly

def addStore (store : StoreState) (s : Session) : Nat × Session :=
  (s.stores.length, { s with stores := s.stores ++ [store] })

/-- A new local store; without a size for RSA keys, or with zero, it has that of the settings. -/
def addLocalStore (rsaBits : Option Int) (s : Session) : Result Nat × Session :=
  match rsaBits.filter (· ≠ 0) with
  | some bits =>
    let (position, s) := s.addStore (.inMemory { rsaBits := bits })
    (.ok position, s)
  | none =>
    let (settings, s) := s.consult
    match settings with
    | .error e => (.error e, s)
    | .ok settings =>
      let (position, s) := s.addStore (.inMemory { rsaBits := settings.rsaBits })
      (.ok position, s)

/-- A store as it is made under these settings. -/
def newStore (settings : Settings) : StoreKind → StoreState
  | .inMemory => .inMemory { rsaBits := settings.rsaBits }
  | .outside c => .outside c []

/-- The store in use. If there is none, it is made as the settings say. -/
def configuredStore (s : Session) : Traced Nat × Session :=
  match s.configured? with
  | some position => (.ofResult (.ok position), s)
  | none =>
    let (settings, s) := s.consult
    match settings with
    | .error e => (.ofResult (.error e), s)
    | .ok settings =>
      let name := Text.lowercase settings.backend
      match s.registry.lookup name with
      | none => (.ofResult (.error (.store (.unknownStore name s.registered))), s)
      | some kind =>
        let (position, s) := s.addStore (newStore settings kind)
        (⟨.ok position, [⟨registryLogger, Log.Level.info, "Created key manager",
          [("backend", .string name)], false⟩]⟩, { s with configured? := some position })

/-- Takes the store in use out of use. It stays where it is, with its keys. -/
def resetStore (s : Session) : Session := { s with configured? := none }

/-! ## Using a store -/

/-- Has a store outside answer a use of it, which it remembers. -/
def useOutside {α : Type} (position : Nat) (c : StoreClass) (uses : List StoreUse) (use : StoreUse)
    (answer : Result α) (s : Session) : Traced α × Session :=
  (.ofResult answer, { s with stores := s.stores.set position (.outside c (use :: uses)) })

/-- Creates a key of a registered type in the store at a position. -/
def createIn (position : Nat) (t : KeyType) (s : Session) :
    Traced (Option String × Option Bytes) × Session :=
  match s.storeAt position with
  | .outside c uses =>
    s.useOutside position c uses (.create t.tag) (c.create position uses t.tag)
  | .inMemory store =>
    let (made, entropy) := s.entropy.key store.rsaBits t
    let (id, entropy) := entropy.identifier
    let (preferred, s) := { s with entropy := entropy }.preferred (t == KeyType.secp256k1Der)
    let (answer, store) := store.create preferred t made id
    (answer.andThen fun (id, bs) => .ofResult (.ok (some id, some bs)),
      { s with stores := s.stores.set position (.inMemory store) })

/-- Has the store at a position hand out the public bytes of a key. -/
def exportFrom (position : Nat) (id : String) (s : Session) :
    Traced (Option Bytes × String) × Session :=
  match s.storeAt position with
  | .outside c uses => s.useOutside position c uses (.exportKey id) (c.exportKey position uses id)
  | .inMemory store =>
    let asks := (store.find? id).any fun (t, k) => k.publicPart.asksPreference t
    let (preferred, s) := s.preferred asks
    (.ofResult ((store.exportKey preferred id).map fun (bs, t) => (some bs, t.tag)), s)

/-- Creates a key under a tag, which a store outside gets as it is. -/
def createTagged (position : Nat) (tag : String) (s : Session) :
    Traced (Option String × Option Bytes) × Session :=
  match s.storeAt position with
  | .outside c uses => s.useOutside position c uses (.create tag) (c.create position uses tag)
  | .inMemory _ =>
    match KeyType.require tag with
    | .error e => (.ofResult (.error e), s)
    | .ok t => s.createIn position t

/-- The store at a position as a key store. -/
def store (position : Nat) : KeyStore Session where
  create := createIn position
  exportKey := exportFrom position

/-- The whole key pair, which only a local store hands out. -/
def keyPair (position : Nat) (id : String) (s : Session) : Result Key :=
  match s.storeAt position with
  | .outside _ _ => .error .formless
  | .inMemory store => store.keyPair id

/-! ## Writing keys -/

/-- Writes a key for a key type, in the preferred form where the key has none of its own. -/
def encodeKey (c : Candidate) (tag : String) (s : Session) : Traced Bytes × Session :=
  let (preferred, s) := s.preferred (Conversion.asksPreference c tag)
  (Conversion.encodeKey preferred c tag, s)

end Session

end WebKeys
