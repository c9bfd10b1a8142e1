import WebKeys.Json.Writer
import WebKeys.Layout.Point
import WebKeys.Layout.RsaDer

/-!
# Web keys

A web key is a key under the group and curve name that it is published with, and with the optional
members that go along with it unread. `WebKey.create` is the only way to a web key, and it refuses
a label that is not the key's own.

* `WebKey.members` lists the members of the document, private ones on demand.
* `WebKey.publicBytes` is one canonical byte string for a public key.
-/

namespace WebKeys

/-- A key under its label, with the members that go along. -/
structure WebKey where
  key : Key
  /-- The group, in the document's member `kty`. -/
  group : String
  /-- The curve, in the document's member `crv`. -/
  curve : Option String := none
  kid : Option String := none
  use : Option String := none
  alg : Option String := none
  deriving DecidableEq

namespace WebKey

/-- Puts a web key together if the label is that of the key. -/
def create (key : Key) (label : Option String × Option String)
    (kid use alg : Option String := none) : Result WebKey :=
  if label = (some key.label.1, key.label.2) then
    .ok ⟨key, key.label.1, key.label.2, kid, use, alg⟩
  else .error (.ofReason (.labelMismatch label.1 label.2 key.family) (some .createWebKey))

/-- A web key under the key's own label. -/
def ofKey (key : Key) (kid use alg : Option String := none) : Result WebKey :=
  create key (some key.label.1, key.label.2) kid use alg

def isPrivate (k : WebKey) : Bool := k.key.isPrivate

/-- The web key without its private part, under the same label. -/
def publicPart (k : WebKey) : WebKey := { k with key := k.key.publicPart }

/-- Equality up to the form in which the key was read. -/
def same (a b : WebKey) : Bool :=
  { a with key := a.key.withoutForm } = { b with key := b.key.withoutForm }

/-! ## Documents -/

def bytesText (bs : Bytes) : String := String.ofList (Base64.encode .link bs)

/-- A number in a fixed width. -/
def fixedText (width : Nat) (n : Int) : Result String :=
  match Bytes.ofInt? width n with
  | some bs => .ok (bytesText bs)
  | none => .error .unrepresentable

/-- A number in the fewest bytes. -/
def minimalText (n : Int) : Result String :=
  match Bytes.minimal? n with
  | some bs => .ok (bytesText bs)
  | none => .error .unrepresentable

/-- The members with these names and numbers, those left out that have none. -/
def minimalMembers : List (String × Option Int) → Result (List (String × String))
  | [] => .ok []
  | (_, none) :: rest => minimalMembers rest
  | (name, some n) :: rest => do
    let text ← minimalText n
    return (name, text) :: (← minimalMembers rest)

/-- The members that hold the public part of a key. -/
def publicMembers : Key → Result (List (String × String))
  | .ec k => do
    let x ← fixedText k.curve.size k.x
    let y ← fixedText k.curve.size k.y
    return [("x", x), ("y", y)]
  | .okp k => .ok [("x", bytesText k.x)]
  | .bls k => .ok [("x", bytesText k.x)]
  | .rsa k => minimalMembers [("n", some k.n), ("e", some k.e)]

/-- The members that hold the private part of a key; a key without one has none. -/
def privateMembers : Key → Result (List (String × String))
  | .ec k =>
    match k.d with
    | some d => do return [("d", ← fixedText k.curve.size d)]
    | none => .ok []
  | .okp k =>
    match k.d with
    | some seed => .ok [("d", bytesText seed)]
    | none => .ok []
  | .bls k =>
    match k.d with
    | some d => do return [("d", ← fixedText 32 d)]
    | none => .ok []
  | .rsa k =>
    match k.d with
    | some d =>
      minimalMembers
        [("d", some d), ("p", k.p), ("q", k.q), ("dp", k.dp), ("dq", k.dq), ("qi", k.qi)]
    | none => .ok []

def optionalMember (name : String) (value : Option String) : List (String × String) :=
  match value with
  | some s => [(name, s)]
  | none => []

/-- The members of the document in their order, all of them texts. -/
def members (k : WebKey) (withPrivate : Bool := true) : Result (List (String × String)) := do
  let publicOnes ← publicMembers k.key
  let privateOnes ← if withPrivate then privateMembers k.key else pure []
  return ("kty", k.group) :: optionalMember "crv" k.curve ++ publicOnes ++ privateOnes
    ++ optionalMember "kid" k.kid ++ optionalMember "use" k.use ++ optionalMember "alg" k.alg

def documentOf (members : List (String × String)) : Json :=
  .object (members.map fun m => (m.1, .string m.2))

def toJson (k : WebKey) (withPrivate : Bool := true) : Result String := do
  return (documentOf (← k.members withPrivate)).toText

/-! ## Bytes -/

/-- A point in full for an elliptic curve key, DER for an RSA key, and otherwise the key itself. -/
def publicBytes (k : WebKey) : Result Bytes :=
  match k.key with
  | .ec k => k.toPoint
  | .okp k => .ok k.x
  | .bls k => .ok k.x
  | .rsa k => k.toDer

end WebKey

end WebKeys
