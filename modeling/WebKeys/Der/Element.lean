import WebKeys.Failure

/-!
# DER elements

An element is a tag of one byte, the length of its value, and the value. The length has one form
only: a single byte below 128, or else the fewest bytes after a byte that counts them.

* `encode` writes an element, `read` takes one from the front of a byte string.
* Lengths of five bytes and more are refused unread, and so are tags that take more than a byte.
-/

namespace WebKeys.Der

/-- A tag and the value under it. The length between them is not kept, for there is one way to write
it. -/
structure Element where
  tag : UInt8
  value : Bytes
  deriving DecidableEq

/-- The tag of a string of bits, of which the first byte says how many are unused. -/
def bitStringTag : UInt8 := 0x03

/-- The tag of an integer with a sign. -/
def integerTag : UInt8 := 0x02

/-- The tag of the element without a value. -/
def nullTag : UInt8 := 0x05

/-- The tag of an object identifier. -/
def objectIdTag : UInt8 := 0x06

/-- The tag of elements one after the other. -/
def sequenceTag : UInt8 := 0x30

/-! ## Writing -/

/-- The length of a value: by itself below 128, else behind the number of its bytes. -/
def lengthOctets (n : Nat) : Bytes :=
  if n < 128 then [UInt8.ofNat n]
  else
    let body := Bytes.ofNat (Bytes.width n) n
    UInt8.ofNat (128 + body.length) :: body

/-- The bytes of an element. -/
def encode (tag : UInt8) (value : Bytes) : Bytes :=
  tag :: (lengthOctets value.length ++ value)

/-! ## Reading -/

/-- The length that `count` bytes spell, which must be the fewest that can. -/
def longLength (count : Nat) (bs : Bytes) : Except DerFault (Nat × Bytes) :=
  if 4 < count ∨ bs.length < count then .error .truncated
  else if bs.head? = some 0 then .error .leadingZeroLength
  else
    let n := Bytes.toNat (bs.take count)
    if n < 128 then .error .longLength else .ok (n, bs.drop count)

/-- The length that starts with the byte `first`, and what follows it. -/
def lengthFrom (first : UInt8) (rest : Bytes) : Except DerFault (Nat × Bytes) :=
  if first < 128 then .ok (first.toNat, rest)
  else if first = 128 then .error .indefiniteLength
  else longLength (first.toNat - 128) rest

/-- The first element, and what follows it. -/
def read : Bytes → Except DerFault (Element × Bytes)
  | tag :: first :: rest => do
    if tag.toNat % 32 = 31 then throw .highTag
    let (length, rest) ← lengthFrom first rest
    if rest.length < length then throw .truncated
    return (⟨tag, rest.take length⟩, rest.drop length)
  | _ => .error .truncated

/-- The value of a first element that must carry the given tag. -/
def expect (tag : UInt8) (bs : Bytes) : Except DerFault (Bytes × Bytes) := do
  let (element, rest) ← read bs
  if element.tag ≠ tag then throw .wrongTag
  return (element.value, rest)

end WebKeys.Der
