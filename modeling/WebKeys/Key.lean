import WebKeys.Bytes
import WebKeys.Curve

/-!
# Keys

A key carries its own curve, its public part, and its private part if it has one. Nothing is checked
when a key is put together: numbers may be negative, too large or off the curve, and it is for the
operations on keys to refuse them.

* `Key.publicPart` drops everything private.
* `Key.same` compares two keys by curve and numbers. The form in which a key was read does not
  count.
-/

namespace WebKeys

/-- Which algorithm identifier the DER form of a secp256k1 key carries. -/
inductive DerForm
  /-- The placeholder `2.0`, under which the length of the point names the curve. -/
  | legacy
  /-- The registered identifier of elliptic curve keys, with the curve's own. -/
  | registered
  /-- A form by a name that is none of the two. -/
  | unknown (name : String)
  deriving DecidableEq

namespace DerForm

/-- The form of a name; an unknown one is kept, and refused when it is asked for. -/
def ofName : String → DerForm
  | "legacy" => legacy
  | "registered" => registered
  | s => unknown s

def name : DerForm → String
  | legacy => "legacy"
  | registered => "registered"
  | unknown s => s

end DerForm

/-- A key on an elliptic curve: a point, and the private scalar if it is known. -/
structure EcKey where
  curve : Curve
  x : Int
  y : Int
  d : Option Int := none
  /-- The form in which the key was read, where its curve has more than one. -/
  form : Option DerForm := none
  deriving DecidableEq

/-- A key of octets: the public ones, and the private seed if it is known. -/
structure OkpKey where
  curve : Curve
  x : Bytes
  d : Option Bytes := none
  deriving DecidableEq

/-- An RSA key by its numbers, as they were given: they may be negative, and need not belong
together. -/
structure RsaKey where
  n : Int
  e : Int
  d : Option Int := none
  p : Option Int := none
  q : Option Int := none
  dp : Option Int := none
  dq : Option Int := none
  qi : Option Int := none
  deriving DecidableEq

/-- A key on the pairing curve: the compressed public point, and the private scalar if known. -/
structure BlsKey where
  x : Bytes
  d : Option Int := none
  deriving DecidableEq

/-- A key of one of the four families that have a public part. -/
inductive Key
  | ec (k : EcKey)
  | okp (k : OkpKey)
  | rsa (k : RsaKey)
  | bls (k : BlsKey)
  deriving DecidableEq

def EcKey.publicPart (k : EcKey) : EcKey := { k with d := none }

def OkpKey.publicPart (k : OkpKey) : OkpKey := { k with d := none }

def RsaKey.publicPart (k : RsaKey) : RsaKey := ⟨k.n, k.e, none, none, none, none, none, none⟩

/-- The size of the modulus in bits. -/
def RsaKey.bits (k : RsaKey) : Nat := bitLength k.n.natAbs

def BlsKey.publicPart (k : BlsKey) : BlsKey := ⟨k.x, none⟩

namespace Key

def family : Key → Family
  | ec _ => .ec
  | okp _ => .okp
  | rsa _ => .rsa
  | bls _ => .bls

/-- The curve that a key is on; RSA keys are on none. -/
def curve? : Key → Option Curve
  | ec k => some k.curve
  | okp k => some k.curve
  | rsa _ => none
  | bls _ => some .bls12381G2

def isPrivate : Key → Bool
  | ec k => k.d.isSome
  | okp k => k.d.isSome
  | rsa k => k.d.isSome
  | bls k => k.d.isSome

/-- The key without its private part. -/
def publicPart : Key → Key
  | ec k => ec k.publicPart
  | okp k => okp k.publicPart
  | rsa k => rsa k.publicPart
  | bls k => bls k.publicPart

/-- The group and the curve name that a key is published under. -/
def label (k : Key) : String × Option String :=
  match k.curve? with
  | some c => (c.group, some c.name)
  | none => ("RSA", none)

/-- The key without a memory of how it was read. -/
def withoutForm : Key → Key
  | ec k => ec { k with form := none }
  | k => k

/-- Equality up to the form in which a key was read. -/
def same (a b : Key) : Bool := a.withoutForm = b.withoutForm

/-! ## Public parts -/

@[simp] theorem isPrivate_publicPart (k : Key) : k.publicPart.isPrivate = false := by
  cases k <;> rfl

/-- Taking the public part twice is taking it once. -/
@[simp] theorem publicPart_publicPart (k : Key) : k.publicPart.publicPart = k.publicPart := by
  cases k <;> rfl

@[simp] theorem label_publicPart (k : Key) : k.publicPart.label = k.label := by
  cases k <;> rfl

@[simp] theorem label_withoutForm (k : Key) : k.withoutForm.label = k.label := by
  cases k <;> rfl

end Key

end WebKeys
