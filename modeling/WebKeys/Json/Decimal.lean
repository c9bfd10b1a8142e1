/-!
# Decimal fractions

A JSON number with a fraction or an exponent, kept by its digits. It stands for the nearest number
that a 64-bit word holds, a tie going to the even one.

* `Binary.ofDecimal` is that number, as a whole multiple of a power of two.
* `Binary.shortest` finds the fewest digits that read back as the same number.
* `Decimal.text` writes those digits: in positions while the exponent of the first digit is from
  -4 to 15, in scientific notation beyond.
-/

namespace WebKeys

/-- A number by its sign and its decimal digits, or one of the values that are no numbers. -/
inductive Decimal
  | finite (negative : Bool) (digits : Nat) (exponent : Int)
  | infinite (negative : Bool)
  | undefined
  deriving DecidableEq, Inhabited

/-! ## The nearest 64-bit number -/

/-- The number `mantissa · 2 ^ exponent`. -/
structure Binary where
  mantissa : Nat
  exponent : Int
  deriving DecidableEq

namespace Binary

attribute [local instance (2000)] instPowNat

/-- A quotient rounded to a whole number, a tie going to the even one. -/
def roundHalfEven (num den : Nat) : Nat :=
  let q := num / den
  let r := num % den
  if den < 2 * r ∨ (2 * r = den ∧ q % 2 = 1) then q + 1 else q

/-- The power of a base as a fraction of whole numbers. -/
def powerOf (base : Nat) (exponent : Int) : Nat × Nat :=
  (base ^ exponent.toNat, base ^ (-exponent).toNat)

/-- The greatest power of two that is not above a positive fraction. -/
def top (num den : Nat) : Int :=
  let guess := (Nat.log2 num : Int) - Nat.log2 den
  if num * 2 ^ (-guess).toNat < den * 2 ^ guess.toNat then guess - 1 else guess

/-- The nearest number with 53 digits, none of them below 2 ^ -1074. -/
def ofFraction (num den : Nat) : Binary :=
  if num = 0 then ⟨0, 0⟩
  else
    let unit := max (top num den - 52) (-1074)
    let m := roundHalfEven (num * 2 ^ (-unit).toNat) (den * 2 ^ unit.toNat)
    if m = 1 <<< 53 then ⟨1 <<< 52, unit + 1⟩ else ⟨m, unit⟩

/-- The binary number nearest to a decimal. -/
def ofDecimal (digits : Nat) (exponent : Int) : Binary :=
  let (num, den) := powerOf 10 exponent
  ofFraction (digits * num) den

/-- Whether the number is too large for a 64-bit word. -/
def overflows (b : Binary) : Bool := 971 < b.exponent

/-- The number as a fraction. -/
def fraction (b : Binary) : Nat × Nat :=
  let (num, den) := powerOf 2 b.exponent
  (b.mantissa * num, den)

/-! ## The fewest digits -/

/-- Whether a number of quarter units lies so near that it reads as `b`. The gap below a power of
two is half of that above it; the ends belong to an even mantissa. -/
def readsBack (b : Binary) (num den : Nat) : Bool :=
  let low := if b.mantissa = 1 <<< 52 ∧ -1074 < b.exponent then 4 * b.mantissa - 1
    else 4 * b.mantissa - 2
  let high := 4 * b.mantissa + 2
  if b.mantissa % 2 = 0 then low * den ≤ num && num ≤ high * den
  else low * den < num && num < high * den

/-- `n · 10 ^ scale` in quarters of the unit of `b`, as a fraction. -/
def quarters (b : Binary) (n : Nat) (scale : Int) : Nat × Nat :=
  let (num, den) := powerOf 10 scale
  let (up, down) := powerOf 2 (b.exponent - 2)
  (n * num * down, den * up)

/-- Of the two multiples of `10 ^ scale` around the number, the nearest that reads back. -/
def onGrid? (b : Binary) (scale : Int) : Option Nat :=
  let (num, den) := b.fraction
  let (up, down) := powerOf 10 scale
  let near := roundHalfEven (num * down) (den * up)
  let below := num * down / (den * up)
  let far := if near = below then below + 1 else below
  [near, far].find? fun n =>
    let (num, den) := quarters b n scale
    readsBack b num den

/-- The exponent of the first decimal digit of a positive number. -/
def firstDigit (b : Binary) : Int :=
  let (num, den) := b.fraction
  if den ≤ num then ((toString (num / den)).length : Int) - 1
  else -((toString ((den - 1) / num)).length : Int)

/-- The fewest digits that read back, and their exponent; 17 digits always do. -/
def shortest (b : Binary) : Nat × Int :=
  if b.mantissa = 0 then (0, 0)
  else
    let first := b.firstDigit
    match (List.range 17).findSome? fun (k : Nat) =>
        let scale := first - (k : Int)
        (b.onGrid? scale).map fun n => (n, scale) with
    | some r => r
    | none => (0, 0)

end Binary

namespace Decimal

/-! ## Text -/

/-- Drops trailing zeros of the digits and counts them in the exponent. -/
def strip (digits : Nat) (exponent : Int) : Nat × Int :=
  if _h : digits ≠ 0 ∧ digits % 10 = 0 then strip (digits / 10) (exponent + 1)
  else (digits, exponent)
termination_by digits
decreasing_by omega

def zeros (n : Nat) : List Char := List.replicate n '0'

/-- An exponent with its sign and at least two digits. -/
def exponentText (e : Int) : List Char :=
  let ds := (toString e.natAbs).toList
  'e' :: (if e < 0 then '-' else '+') :: (zeros (2 - ds.length) ++ ds)

/-- Digits with a point after the first `point` of them; `point` may lie outside. -/
def positional (ds : List Char) (point : Int) : List Char :=
  if point ≤ 0 then '0' :: '.' :: (zeros point.natAbs ++ ds)
  else if point.toNat < ds.length then ds.take point.toNat ++ '.' :: ds.drop point.toNat
  else ds ++ zeros (point.toNat - ds.length) ++ ['.', '0']

/-- Digits with a point after the first one, and the exponent. -/
def scientific (ds : List Char) (first : Int) : List Char :=
  let mantissa := match ds with
    | [] => []
    | [d] => [d]
    | d :: rest => d :: '.' :: rest
  mantissa ++ exponentText first

/-- The shortest decimal that reads back as the number, positional unless it is very large or very
small. -/
def magnitudeText (digits : Nat) (exponent : Int) : List Char :=
  let short := (Binary.ofDecimal digits exponent).shortest
  let (digits, exponent) := strip short.1 short.2
  if digits = 0 then ['0', '.', '0']
  else
    let ds := (toString digits).toList
    let point := ds.length + exponent
    if -4 < point ∧ point ≤ 16 then positional ds point else scientific ds (point - 1)

def signed (negative : Bool) (cs : List Char) : String :=
  String.ofList (if negative then '-' :: cs else cs)

def text : Decimal → String
  | finite negative digits exponent => signed negative (magnitudeText digits exponent)
  | infinite negative => signed negative "inf".toList
  | undefined => "nan"

/-- The fraction that a finite number stands for. -/
def magnitude (digits : Nat) (exponent : Int) : Nat × Nat :=
  (Binary.ofDecimal digits exponent).fraction

end Decimal

end WebKeys
