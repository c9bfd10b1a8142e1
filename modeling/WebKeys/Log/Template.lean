import WebKeys.Failure
import WebKeys.Json.Shown

/-!
# Message templates

A message with placeholders that start with a percent sign, and the arguments to put into them. A
placeholder has, after the sign and in this order: a name in round brackets, flags among `#0- +`, a
width, a precision after a point, one of the letters `hlL` that means nothing, and the letter of its
kind. A star for a width or a precision takes it from the arguments.

* `fill` puts the arguments in, one after the other; each of them has to be used. A single object
  is looked up by name, and need not be used.
* The kinds are `s r a` for text, `d i u o x X` for whole numbers, `e E f F g G` for fractions, and
  `c` for one character. Two percent signs are one.
-/

namespace WebKeys.Log.Template

/-! ## Placeholders -/

/-- The name in front of a placeholder, in parentheses that may be left open. -/
inductive Name
  | none
  | named (name : List Char)
  | unclosed

/-- A width or a precision. -/
inductive Size
  | none
  | number (n : Nat)
  | star

/-- The flags of a placeholder, in any order and as often as they come. -/
structure Flags where
  left : Bool := false
  plus : Bool := false
  blank : Bool := false
  alternate : Bool := false
  zero : Bool := false

/-- All that stands between a percent sign and the letter that it ends with. -/
structure Placeholder where
  name : Name
  flags : Flags
  width : Size
  precision : Size
  /-- The letter of the kind, unless the template ends before it. -/
  kind : Option Char

/-- A template is made of characters that stand for themselves, and of placeholders. -/
inductive Piece
  | char (c : Char)
  | placeholder (p : Placeholder)

/-- The characters up to the bracket that closes `depth` open ones. -/
def bracketed (depth : Nat) : List Char → Option (List Char × List Char)
  | [] => none
  | c :: rest =>
    if c = ')' then
      match depth with
      | 0 => some ([], rest)
      | depth + 1 => (bracketed depth rest).map fun r => (c :: r.1, r.2)
    else if c = '(' then (bracketed (depth + 1) rest).map fun r => (c :: r.1, r.2)
    else (bracketed depth rest).map fun r => (c :: r.1, r.2)

def nameFrom : List Char → Name × List Char
  | '(' :: rest =>
    match bracketed 0 rest with
    | some (name, rest) => (.named name, rest)
    | none => (.unclosed, [])
  | cs => (.none, cs)

def flagsFrom (flags : Flags) : List Char → Flags × List Char
  | '-' :: rest => flagsFrom { flags with left := true } rest
  | '+' :: rest => flagsFrom { flags with plus := true } rest
  | ' ' :: rest => flagsFrom { flags with blank := true } rest
  | '#' :: rest => flagsFrom { flags with alternate := true } rest
  | '0' :: rest => flagsFrom { flags with zero := true } rest
  | cs => (flags, cs)

def digitsValue (ds : List Char) : Nat := ds.foldl (fun n c => 10 * n + (c.toNat - 48)) 0

def sizeFrom : List Char → Size × List Char
  | '*' :: rest => (.star, rest)
  | cs =>
    match cs.span Char.isDigit with
    | ([], rest) => (.none, rest)
    | (ds, rest) => (.number (digitsValue ds), rest)

/-- A point alone means a precision of zero. -/
def precisionFrom : List Char → Size × List Char
  | '.' :: rest =>
    match sizeFrom rest with
    | (.none, rest) => (.number 0, rest)
    | r => r
  | cs => (.none, cs)

def lengthLetter : List Char → List Char
  | c :: rest => if c = 'h' ∨ c = 'l' ∨ c = 'L' then rest else c :: rest
  | [] => []

/-- The placeholder whose percent sign has been read. -/
def placeholderFrom (cs : List Char) : Placeholder × List Char :=
  let (name, cs) := nameFrom cs
  let (flags, cs) := flagsFrom {} cs
  let (width, cs) := sizeFrom cs
  let (precision, cs) := precisionFrom cs
  match lengthLetter cs with
  | kind :: rest => (⟨name, flags, width, precision, some kind⟩, rest)
  | [] => (⟨name, flags, width, precision, none⟩, [])

/-- The pieces of a template; every piece takes a character, so `fuel` is its length. -/
def pieces (fuel : Nat) (cs : List Char) : List Piece :=
  match fuel, cs with
  | 0, _ => []
  | _, [] => []
  | fuel + 1, '%' :: '%' :: rest => .char '%' :: pieces fuel rest
  | fuel + 1, '%' :: rest =>
    let (p, rest) := placeholderFrom rest
    .placeholder p :: pieces fuel rest
  | fuel + 1, c :: rest => .char c :: pieces fuel rest

/-! ## Numbers -/

/-- The digits of a number in a base, most significant first. -/
def digitsIn (base n : Nat) : List Char :=
  if _h : n < base ∨ base < 2 then [Hex.digit n]
  else digitsIn base (n / base) ++ [Hex.digit (n % base)]
termination_by n
decreasing_by exact Nat.div_lt_self (by omega) (by omega)

def padded (width : Nat) (ds : List Char) : List Char :=
  List.replicate (width - ds.length) '0' ++ ds

attribute [local instance (2000)] instPowNat in
/-- A fraction with `places` digits after the point. -/
def fixedDigits (num den places : Nat) : List Char × List Char :=
  let ds := padded (places + 1)
    (toString (Binary.roundHalfEven (num * 10 ^ places) den)).toList
  (ds.take (ds.length - places), ds.drop (ds.length - places))

/-- The exponent of the first digit of a positive fraction. -/
def firstDigit (num den : Nat) : Int :=
  if den ≤ num then ((toString (num / den)).length : Int) - 1
  else -((toString ((den - 1) / num)).length : Int)

/-- A fraction rounded to `places + 1` digits, and the exponent of the first of them. -/
def scientificDigits (num den places : Nat) : List Char × Int :=
  if num = 0 then (padded (places + 1) [], 0)
  else
    let first := firstDigit num den
    let (up, down) := Binary.powerOf 10 (places - first)
    let ds := (toString (Binary.roundHalfEven (num * up) (den * down))).toList
    if ds.length = places + 2 then (ds.take (places + 1), first + 1) else (ds, first)

/-- Digits before and after the point, which is left out with nothing behind it. -/
def withPoint (alternate : Bool) (whole fraction : List Char) : List Char :=
  if fraction.isEmpty && !alternate then whole else whole ++ '.' :: fraction

def fixedText (alternate : Bool) (num den places : Nat) : List Char :=
  let (whole, fraction) := fixedDigits num den places
  withPoint alternate whole fraction

def scientificText (alternate : Bool) (num den places : Nat) : List Char :=
  let (ds, first) := scientificDigits num den places
  withPoint alternate (ds.take 1) (ds.drop 1) ++ Decimal.exponentText first

def withoutZeros (ds : List Char) : List Char := (ds.reverse.dropWhile (· = '0')).reverse

/-- A fraction with a number of digits, in whichever form is the plainer. -/
def generalText (alternate : Bool) (num den precision : Nat) : List Char :=
  let digits := max precision 1
  let (ds, first) := scientificDigits num den (digits - 1)
  let trim := fun (ds : List Char) => if alternate then ds else withoutZeros ds
  if -4 ≤ first ∧ first < digits then
    let (whole, fraction) := fixedDigits num den ((digits : Int) - 1 - first).toNat
    withPoint alternate whole (trim fraction)
  else
    withPoint alternate (ds.take 1) (trim (ds.drop 1)) ++ Decimal.exponentText first

/-! ## Values -/

/-- A text of ASCII characters alone. -/
def asciiText (s : String) : List Char :=
  s.toList.flatMap fun c =>
    if c.toNat < 0x80 then [c]
    else if c.toNat < 0x100 then '\\' :: 'x' :: Hex.fixed 2 c.toNat
    else if c.toNat < 0x10000 then '\\' :: 'u' :: Hex.fixed 4 c.toNat
    else '\\' :: 'U' :: Hex.fixed 8 c.toNat

/-- A value that is a whole number. -/
def asInteger? : Json → Option Int
  | .int n => some n
  | .bool b => some (if b then 1 else 0)
  | _ => none

/-- A number with its fraction cut off. -/
def truncated (v : Json) : Result Int :=
  match asInteger? v with
  | some n => .ok n
  | none =>
    match v with
    | .float (.finite negative digits exponent) =>
      let (num, den) := Decimal.magnitude digits exponent
      .ok (if negative then -(num / den : Nat) else (num / den : Nat))
    | .float (.infinite _) => .error .unrepresentable
    | .float .undefined => .error .badTemplate
    | _ => .error .badCall

/-- A number as a fraction with a sign, or the text of one that is none. -/
inductive Real
  | finite (negative : Bool) (num den : Nat)
  | special (negative : Bool) (name : List Char)

/-- A number that a placeholder for real numbers takes, unless it is too large. -/
def asReal (v : Json) : Result Real :=
  match asInteger? v with
  | some n =>
    let b := Binary.ofFraction n.natAbs 1
    if b.overflows then .error .unrepresentable
    else .ok (.finite (n < 0) b.fraction.1 b.fraction.2)
  | none =>
    match v with
    | .float (.finite negative digits exponent) =>
      let (num, den) := Decimal.magnitude digits exponent
      .ok (.finite negative num den)
    | .float (.infinite negative) => .ok (.special negative "inf".toList)
    | .float .undefined => .ok (.special false "nan".toList)
    | _ => .error .badCall

/-! ## Layout -/

/-- What a placeholder is filled with: the sign and the base mark keep their place in front of
zeros that fill up the width. -/
structure Filling where
  sign : List Char := []
  mark : List Char := []
  body : List Char
  zeros : Bool := false

/-- Sign, mark and body in a width, with blanks or zeros where there is room. -/
def Filling.layOut (f : Filling) (left : Bool) (width : Nat) : List Char :=
  let used := f.sign.length + f.mark.length + f.body.length
  let gap := width - used
  let front := f.sign ++ f.mark
  if left then front ++ f.body ++ List.replicate gap ' '
  else if f.zeros then front ++ List.replicate gap '0' ++ f.body
  else List.replicate gap ' ' ++ front ++ f.body

def signOf (flags : Flags) (negative : Bool) : List Char :=
  if negative then ['-'] else if flags.plus then ['+'] else if flags.blank then [' '] else []

def upperIf (upper : Bool) (cs : List Char) : List Char :=
  if upper then cs.map Char.toUpper else cs

def wholeFilling (flags : Flags) (precision : Option Nat) (base : Nat) (mark : List Char)
    (upper : Bool) (n : Int) : Filling where
  sign := signOf flags (n < 0)
  mark := if flags.alternate then mark else []
  body := upperIf upper (padded (precision.getD 0) (digitsIn base n.natAbs))
  zeros := flags.zero

/-- A real number, in the way of the letter of its kind. -/
def realFilling (flags : Flags) (precision : Option Nat) (kind : Char) : Real → Filling
  | .special negative name =>
    { sign := signOf flags negative, body := upperIf kind.isUpper name, zeros := flags.zero }
  | .finite negative num den =>
    let places := precision.getD 6
    let body :=
      match kind.toLower with
      | 'f' => fixedText flags.alternate num den places
      | 'e' => scientificText flags.alternate num den places
      | _ => generalText flags.alternate num den places
    { sign := signOf flags negative, body := upperIf kind.isUpper body, zeros := flags.zero }

/-- A text, cut at the precision. -/
def textFilling (precision : Option Nat) (cs : List Char) : Filling where
  body := match precision with
    | some n => cs.take n
    | none => cs

/-- A single character, given as such or by its number. -/
def characterOf : Json → Result (List Char)
  | .string s =>
    match s.toList with
    | [c] => .ok [c]
    | _ => .error .badCall
  | v =>
    match asInteger? v with
    | some n =>
      if 0 ≤ n ∧ n.toNat.isValidChar then .ok [Char.ofNat n.toNat] else .error .unrepresentable
    | none => .error .badCall

/-- What a placeholder of this kind makes of a value. -/
def filling (flags : Flags) (precision : Option Nat) (kind : Char) (v : Json) :
    Result Filling := do
  match kind with
  | 's' => return textFilling precision v.shown.toList
  | 'r' => return textFilling precision v.nested.toList
  | 'a' => return textFilling precision (asciiText v.nested)
  | 'd' | 'i' | 'u' => return wholeFilling flags precision 10 [] false (← truncated v)
  | 'o' | 'x' | 'X' =>
    match asInteger? v with
    | none => throw .badCall
    | some n =>
      if kind = 'o' then return wholeFilling flags precision 8 ['0', 'o'] false n
      else return wholeFilling flags precision 16 ['0', kind] (kind = 'X') n
  | 'e' | 'E' | 'f' | 'F' | 'g' | 'G' => return realFilling flags precision kind (← asReal v)
  | 'c' => return textFilling none (← characterOf v)
  | _ => throw .badTemplate

/-! ## Filling in -/

/-- The arguments that are left, and the object that names are looked up in. -/
structure Arguments where
  left : List Json
  named : Option Members

/-- The next argument, and those left after it. -/
def Arguments.next (args : Arguments) : Result (Json × Arguments) :=
  match args.left with
  | [] => .error .badCall
  | v :: rest => .ok (v, { args with left := rest })

/-- A name replaces the arguments by what it stands for. -/
def Arguments.select (args : Arguments) : Name → Result Arguments
  | .none => .ok args
  | .unclosed => if args.named.isSome then .error .badTemplate else .error .badCall
  | .named name =>
    match args.named with
    | none => .error .badCall
    | some ms =>
      match Members.get? ms (String.ofList name) with
      | some v => .ok ⟨[v], some ms⟩
      | none => .error (.noSuchName (String.ofList name))

def widestWidth : Nat := 1 <<< 63 - 1

def widestPrecision : Nat := 1 <<< 31 - 1

/-- A width or precision of limited size; one that comes from the arguments may be negative. -/
def Arguments.size (args : Arguments) (limit : Nat) : Size → Result (Option Int × Arguments)
  | .none => .ok (none, args)
  | .number n => if n ≤ limit then .ok (some n, args) else .error .badTemplate
  | .star => do
    let (v, args) ← args.next
    match asInteger? v with
    | none => throw .badCall
    | some n => if n.natAbs ≤ limit then return (some n, args) else throw .unrepresentable

/-- Fills a placeholder. Name, width and precision take arguments of their own. -/
def fillOne (args : Arguments) (p : Placeholder) : Result (List Char × Arguments) := do
  let args ← args.select p.name
  let (width, args) ← args.size widestWidth p.width
  let (precision, args) ← args.size widestPrecision p.precision
  match p.kind with
  | none => throw .badTemplate
  | some kind =>
    let (v, args) ← args.next
    let left := p.flags.left || width.any (· < 0)
    let f ← filling p.flags (precision.map Int.toNat) kind v
    return (f.layOut left (width.getD 0).natAbs, args)

/-- Fills a template. In the end no argument may be left over, unless they go by names. -/
def fillPieces (args : Arguments) : List Piece → Result (List Char)
  | [] => if args.left.isEmpty || args.named.isSome then .ok [] else .error .badCall
  | .char c :: rest => (fillPieces args rest).map (c :: ·)
  | .placeholder p :: rest => do
    let (cs, args) ← fillOne args p
    return cs ++ (← fillPieces args rest)

/-- A single object that is not empty is taken by name. -/
def argumentsOf (args : List Json) : Arguments :=
  match args with
  | [.object (m :: ms)] => ⟨args, some (m :: ms)⟩
  | _ => ⟨args, none⟩

/-- Puts arguments into a template. Without arguments it is no template, and stays as it is. -/
def fill (template : String) (args : List Json) : Result String :=
  if args.isEmpty then .ok template
  else
    let cs := template.toList
    (fillPieces (argumentsOf args) (pieces cs.length cs)).map String.ofList

end WebKeys.Log.Template
