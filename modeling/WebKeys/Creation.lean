import WebKeys.Conversion
import WebKeys.Store

/-!
# Web keys from a key store

Creates keys in a store and takes them over as keys or web keys, the identifier becoming the web
key's own. The store is asked exactly once, and not at all for a type that is not registered; what
it reports is passed on, and when its bytes cannot be read there is no result at all.
-/

namespace WebKeys

namespace KeyType

/-- The key type of a tag, or the error of one that is not registered. -/
def require (tag : String) : Result KeyType :=
  match ofTag? tag with
  | some t => .ok t
  | none =>
    .error (.conversion { ConversionError.ofReason (.unknownTag tag) with keyType := some tag })

theorem require_tag (t : KeyType) : require t.tag = .ok t := by
  rw [require, ofTag?_tag]

end KeyType

namespace KeyStore

variable {σ : Type}

def logger : String := "kmsjwk.core.key_creator"

/-- The event of a creation. Raw creations note more. -/
def created (id : Option String) (t : KeyType) (more : Members) : Log.Event :=
  ⟨logger, Log.Level.info, "Key created",
    [("key_id", Json.ofOption id), ("key_type", .string t.tag)] ++ more, false⟩

/-- Creates a key and goes on with what the store answers. -/
def createThen {α : Type} (store : KeyStore σ) (tag : String)
    (f : KeyType → Option String → Option Bytes → Traced α) (s : σ) : Traced α × σ :=
  match KeyType.require tag with
  | .error e => (.ofResult (.error e), s)
  | .ok t =>
    let (answer, s) := store.create t s
    (answer.andThen fun (id, bs) => f t id bs, s)

theorem createThen_tag {α : Type} (store : KeyStore σ) (t : KeyType)
    (f : KeyType → Option String → Option Bytes → Traced α) (s : σ) :
    store.createThen t.tag f s =
      ((store.create t s).1.andThen fun r => f t r.1 r.2, (store.create t s).2) := by
  rw [createThen, KeyType.require_tag]

/-- Creates a key and returns it as a web key with the identifier. -/
def createWebKey (store : KeyStore σ) (tag : String) : σ → Traced WebKey × σ :=
  store.createThen tag fun t id bs =>
    (Conversion.decodeWebKey bs t.tag id).andThen fun k =>
      ⟨.ok k, [created id t [("kty", .string k.group), ("crv", Json.ofOption k.curve)]]⟩

/-- Creates a key and returns the identifier and the key alone. -/
def createKey (store : KeyStore σ) (tag : String) : σ → Traced (Option String × Key) × σ :=
  store.createThen tag fun t id bs =>
    (Conversion.decodeKey bs t.tag).andThen fun k => ⟨.ok (id, k), [created id t []]⟩

/-- An existing key as a web key, and its type. -/
def exportWebKey (store : KeyStore σ) (id : String) (s : σ) : Traced (WebKey × KeyType) × σ :=
  let (answer, s) := store.exportKey id s
  (answer.andThen fun (bs, tag) =>
    (Traced.ofResult (KeyType.require tag)).andThen fun t =>
      (Conversion.decodeWebKey bs t.tag id).andThen fun k => .ofResult (.ok (k, t)), s)

end KeyStore

end WebKeys
