import WebKeys.Failure
import WebKeys.Text.Numeral

/-!
# Object identifiers

An object identifier is a path of numbers, its arcs. As bytes, the first two arcs share a number,
and every number stands in base 128, most significant digit first, with the high bit set on all of
its bytes but the last. As text, the arcs stand in decimal between dots.

* `arcs` reads bytes strictly: no number may start with a zero digit, none may be cut off.
* `base128?` writes a number, and never comes to an end with a negative one.
* `parse` reads text leniently, arc by arc; `text?` writes it, unless an arc is too long to write.
* `encode` turns text into bytes, `decode` bytes into text.
-/

namespace WebKeys.ObjectId

/-! ## Bytes -/

/-- A whole number while it is written in base 128, last digit first. -/
structure Writing where
  /-- What is left of the number. -/
  left : Int
  /-- The digits behind it. -/
  written : Bytes

/-- Takes the last digit of what is left, and marks it as followed by more. -/
def Writing.next (w : Writing) : Writing :=
  ⟨w.left / 128, UInt8.ofNat (128 + (w.left % 128).toNat) :: w.written⟩

/-- Goes on until nothing is left. Division never takes a negative number to zero, so that there is
no first digit to it. -/
def Writing.finish? (w : Writing) : Option Bytes :=
  if w.left = 0 then some w.written else w.next |>.finish?
partial_fixpoint

/-- The bytes of a whole number in base 128; none where writing them goes on forever. -/
def base128? (n : Int) : Option Bytes :=
  Writing.finish? ⟨n / 128, [UInt8.ofNat (n % 128).toNat]⟩

/-- The digits of a natural number in base 128, all marked as followed by more. -/
def leadingDigits (n : Nat) : Bytes :=
  if _h : n = 0 then [] else leadingDigits (n / 128) ++ [UInt8.ofNat (128 + n % 128)]
termination_by n
decreasing_by omega

/-- The bytes that `base128?` comes to for a natural number. -/
def base128 (n : Nat) : Bytes := leadingDigits (n / 128) ++ [UInt8.ofNat (n % 128)]

/-- Reads numbers; `pending` is the part of the current one that has been read, if it has begun. -/
def numbers (pending : Option Nat) : Bytes → Except DerFault (List Nat)
  | [] => if pending.isSome then .error .truncatedObjectId else .ok []
  | b :: rest =>
    if pending.isNone ∧ b = 128 then .error .paddedObjectId
    else
      let n := 128 * pending.getD 0 + b.toNat % 128
      if b < 128 then (numbers none rest).map (n :: ·) else numbers (some n) rest

/-- Takes the first two arcs out of the number that they share. -/
def splitFirst (n : Nat) : List Nat :=
  if n < 40 then [0, n] else if n < 80 then [1, n - 40] else [2, n - 80]

/-- The arcs that bytes spell; the last byte must end a number. -/
def arcs (bs : Bytes) : Except DerFault (List Nat) :=
  if bs.getLast?.all (128 ≤ ·) then .error .truncatedObjectId
  else (numbers none bs).map fun
    | first :: rest => splitFirst first ++ rest
    | [] => []

/-- Puts the first two arcs into the number that they share. The second is below 40 unless the
first is 2, so that they can be told apart. -/
def joinFirst? : List Int → Option (List Int)
  | first :: second :: rest =>
    if 2 < first ∨ (first < 2 ∧ 40 ≤ second) then none else some ((40 * first + second) :: rest)
  | _ => none

/-! ## Text -/

/-- The parts of a text between dots. -/
def parts : List Char → List (List Char)
  | [] => [[]]
  | c :: rest =>
    if c = '.' then [] :: parts rest
    else match parts rest with
      | part :: more => (c :: part) :: more
      | [] => [[c]]

/-- The arcs that a text spells, each of them as leniently as a whole number is read. -/
def parse (s : String) : Except Refusal (List Int) :=
  match (parts s.toList).mapM fun part => Text.integer? (String.ofList part) with
  | some ns => .ok ns
  | none => .error .arc

/-- The arcs in dotted form, unless one of them has more digits than are written. -/
def text? (ns : List Nat) : Option String :=
  (ns.mapM Text.decimal?).map (String.intercalate ".")

/-- The bytes of an identifier in dotted form. -/
def encode (s : String) : Except Refusal Bytes := do
  match joinFirst? (← parse s) with
  | none => .error (.objectId s)
  | some ns =>
    match ns.mapM base128? with
    | some digits => .ok digits.flatten
    | none => .error .endless

/-- Why the bytes of an identifier have no dotted form. -/
inductive Unreadable
  | der (fault : DerFault)
  /-- An arc has more digits than are written. -/
  | longArc

/-- The dotted form of the bytes of an identifier. -/
def decode (bs : Bytes) : Except Unreadable String :=
  match arcs bs with
  | .error fault => .error (.der fault)
  | .ok ns =>
    match text? ns with
    | some s => .ok s
    | none => .error .longArc

/-- An unreadable identifier as a failure of its own. -/
def Unreadable.failure : Unreadable → Failure
  | der fault => .ofReason (.der fault)
  | longArc => .refused .arc

end WebKeys.ObjectId
