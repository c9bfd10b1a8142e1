import WebKeys.Primitives
import WebKeys.WebKey

/-!
# What is handed in for a key

Callers hand in keys, keys that the primitives hold, web keys, documents, and things that are none
of these. `Candidate.toKey?` takes over the first two kinds; the rest are named in the refusal.
-/

namespace WebKeys

/-- Whatever a caller hands in where a key is asked for. -/
inductive Candidate
  | absent
  | key (k : Key)
  | held (k : HeldKey)
  | webKey (k : WebKey)
  | document (members : Members)
  /-- Something else, by the name of its type. -/
  | other (typeName : String)

namespace Candidate

def typeName : Candidate → String
  | absent => "NoneType"
  | key (.ec _) => "ECKey"
  | key (.okp _) => "OKPKey"
  | key (.rsa _) => "RSAKey"
  | key (.bls _) => "BLSKey"
  | held k => k.typeName
  | webKey _ => "JWK"
  | document _ => "dict"
  | other name => name

/-- The key that is meant, none if it is no key at all. -/
def toKey? : Candidate → Result (Option Key)
  | key k => .ok (some k)
  | held k => k.toKey.map some
  | _ => .ok none

/-- An octet key that the primitives hold; everything else is refused by name. -/
def toOctetKey : Candidate → Result Key
  | held (.okpPrivate c seed) => (HeldKey.okpPrivate c seed).toKey
  | held (.okpPublic c octets) => (HeldKey.okpPublic c octets).toKey
  | c => .error (.ofReason (.notOctets c.typeName))

/-- A web key under the given label. -/
def toWebKey (c : Candidate) (label : Option String × Option String)
    (kid use alg : Option String) : Result WebKey := do
  match ← c.toKey? with
  | some k => WebKey.create k label kid use alg
  | none => throw (.ofReason (.notCreatable c.typeName) (some .createWebKey))

end Candidate

end WebKeys
