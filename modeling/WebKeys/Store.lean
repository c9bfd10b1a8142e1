import WebKeys.Generation
import WebKeys.Log.Event
import WebKeys.PublicBytes

/-!
# Key stores

A key store makes key pairs, names each by an identifier, and hands out public keys as bytes. What
it is, is left open: `KeyStore` is any pair of such operations on any kind of state, and a
`StoreClass` the same two operations of stores that are known by their answers alone.

The `LocalStore` keeps its key pairs in memory.

* A pair is added only together with its exported bytes; an operation that fails changes nothing.
* `LocalStore.find?_create`: a pair that was added is found under its identifier.
-/

namespace WebKeys

/-- The two operations of a store with states in `σ`. A store outside this library may leave
anything out of its answers, and may claim any key type. -/
structure KeyStore (σ : Type) where
  create : KeyType → σ → Traced (Option String × Option Bytes) × σ
  /-- The public bytes of a key, and the tag of its type. -/
  exportKey : String → σ → Traced (Option Bytes × String) × σ

/-- A use that is made of a store: a key is created under a tag, or handed out by its identifier. -/
inductive StoreUse
  | create (tag : String)
  | exportKey (id : String)

/-- A class of stores outside this library. What a store of it answers may depend on which store of
the session it is and on how it has been used before, the latest use first. -/
structure StoreClass where
  create : Nat → List StoreUse → String → Result (Option String × Option Bytes)
  /-- The public bytes of a key, and the tag of its type. -/
  exportKey : Nat → List StoreUse → String → Result (Option Bytes × String)

/-- Stores that have no keys and take none. -/
def StoreClass.withoutKeys : StoreClass where
  create _ _ _ := .error (.store (.reported "BackendError" "read-only"))
  exportKey _ _ id := .error (.store (.reported "KeyNotFoundError" id))

/-- A store that keeps its key pairs in memory. -/
structure LocalStore where
  /-- The size of new RSA keys in bits. -/
  rsaBits : Int
  /-- The newest first. -/
  keys : List (String × KeyType × Key) := []

namespace LocalStore

def logger : String := "kmsjwk.core.kms.local"

def find? (s : LocalStore) (id : String) : Option (KeyType × Key) := s.keys.lookup id

/-- The key pair of an identifier, or the failure that it is not known. -/
def require (s : LocalStore) (id : String) : Result (KeyType × Key) :=
  match s.find? id with
  | some entry => .ok entry
  | none => .error (.store (.keyNotFound id))

/-! ## Creating keys -/

def created (id : String) (t : KeyType) : Log.Event :=
  ⟨logger, Log.Level.debug, "Local key created",
    [("key_id", .string id), ("key_type", .string t.tag)], false⟩

/-- The bytes under which a key pair is exported. -/
def publicBytes (preferred : Result DerForm) (t : KeyType) (k : Key) : Result Bytes :=
  Key.toPublicBytes preferred t k.publicPart

/-- Keeps a newly made key pair under an identifier, and exports it. -/
def create (preferred : Result DerForm) (t : KeyType) (made : Result Key) (id : String)
    (s : LocalStore) : Traced (String × Bytes) × LocalStore :=
  match made with
  | .error e => (.ofResult (.error e), s)
  | .ok k =>
    match publicBytes preferred t k with
    | .error e => (.ofResult (.error e), s)
    | .ok bs => (⟨.ok (id, bs), [created id t]⟩, { s with keys := (id, t, k) :: s.keys })

/-! ## Handing out keys -/

/-- The public bytes of a key pair, and its type. -/
def exportKey (preferred : Result DerForm) (id : String) (s : LocalStore) :
    Result (Bytes × KeyType) := do
  let (t, k) ← s.require id
  return (← publicBytes preferred t k, t)

/-- The whole pair. -/
def keyPair (id : String) (s : LocalStore) : Result Key := do
  return (← s.require id).2

/-! ## What is found -/

theorem find?_cons (bits : Int) (keys : List (String × KeyType × Key)) (id other : String)
    (t : KeyType) (k : Key) : find? ⟨bits, (id, t, k) :: keys⟩ other =
      if other = id then some (t, k) else find? ⟨bits, keys⟩ other := by
  by_cases hid : other = id
  · simp [find?, hid]
  · simp [find?, List.lookup_cons, hid, beq_false_of_ne hid]

/-- What is found after a creation is the new key, or what was found before. -/
theorem find?_create {preferred : Result DerForm} {t : KeyType} {k : Key} {id : String}
    {s : LocalStore} {bs : Bytes} (h : publicBytes preferred t k = .ok bs) (other : String) :
    (s.create preferred t (.ok k) id).2.find? other
      = if other = id then some (t, k) else s.find? other := by
  simp only [create, h]
  exact find?_cons _ _ _ _ _ _

theorem create_eq_self_of_error {preferred : Result DerForm} {t : KeyType} {made : Result Key}
    {id : String} {s : LocalStore} {e : Failure}
    (h : (s.create preferred t made id).1.result = .error e) :
    (s.create preferred t made id).2 = s := by
  unfold create at h ⊢
  split at h
  · rfl
  · split at h <;> simp_all [Traced.ofResult]

end LocalStore

end WebKeys
