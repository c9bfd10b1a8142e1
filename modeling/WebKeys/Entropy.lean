import WebKeys.Bytes.Base64
import WebKeys.Bytes.Hex
import WebKeys.Bytes.Sha512

/-!
# Entropy

Bytes and numbers that nobody can foretell who does not know the seed. They are drawn from a
sequence of blocks, each the digest of the seed and the position, and no block is used twice.
-/

namespace WebKeys

/-- A source of random bytes, which come in blocks that are worked out of one seed. -/
structure Entropy where
  seed : Bytes
  /-- How many blocks have been used. -/
  used : Nat := 0

namespace Entropy

def blockSize : Nat := 64

def block (e : Entropy) (position : Nat) : Bytes :=
  Sha512.digest (e.seed ++ Bytes.ofNat 8 position)

/-- Some random bytes; what is left of the last block is thrown away. -/
def bytes (count : Nat) (e : Entropy) : Bytes × Entropy :=
  let blocks := (count + blockSize - 1) / blockSize
  (((List.range blocks).flatMap fun i => e.block (e.used + i)).take count,
    { e with used := e.used + blocks })

/-- A number below a bound, from so many more bytes than it needs that none is preferred. -/
def below (bound : Nat) (e : Entropy) : Nat × Entropy :=
  let (bs, e) := e.bytes (Bytes.width bound + 16)
  (Bytes.toNat bs % bound, e)

/-- A text that names a key: 16 bytes in 22 characters. -/
def identifier (e : Entropy) : String × Entropy :=
  let (bs, e) := e.bytes 16
  (String.ofList (Base64.encode .link bs), e)

/-- Random bytes with the marks of a random UUID, the high bits of two of them. -/
def uuidBytes (bs : Bytes) : Bytes :=
  (bs.set 6 (bs.getD 6 0 % 16 + 0x40)).set 8 (bs.getD 8 0 % 64 + 0x80)

/-- A random UUID in its usual form. -/
def uuid (e : Entropy) : String × Entropy :=
  let (bs, e) := e.bytes 16
  let ds := Hex.encode (uuidBytes bs)
  let group := fun (start count : Nat) => String.ofList ((ds.drop start).take count)
  (String.intercalate "-" [group 0 8, group 8 4, group 12 4, group 16 4, group 20 12], e)

end Entropy

end WebKeys
