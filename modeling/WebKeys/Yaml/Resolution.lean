/-!
# What plain text means in YAML 1.1

A plain scalar is not always text. `isText` tells which ones are: those that are read neither as a
truth value, a number, a date, nothing, nor one of three reserved marks.
-/

namespace WebKeys.Yaml

/-- Drops a sign. -/
def unsigned : List Char → List Char
  | '+' :: rest => rest
  | '-' :: rest => rest
  | cs => cs

/-- The parts of a text between separators, one at least. -/
def partsAt (separator : Char) : List Char → List (List Char)
  | [] => [[]]
  | c :: rest =>
    if c = separator then [] :: partsAt separator rest
    else match partsAt separator rest with
      | part :: more => (c :: part) :: more
      | [] => [[c]]

def isDigitOrUnderscore (c : Char) : Bool := c.isDigit || c == '_'

/-- A digit, and after it digits and underscores. -/
def isNumeral : List Char → Bool
  | c :: rest => c.isDigit && rest.all isDigitOrUnderscore
  | [] => false

/-- One or two digits below sixty. -/
def isSixtieth : List Char → Bool
  | [a] => a.isDigit
  | [a, b] => '0' ≤ a && a ≤ '5' && b.isDigit
  | _ => false

/-! ## Whole numbers -/

def isHexadecimal (c : Char) : Bool :=
  c.isDigit || ('a' ≤ c && c ≤ 'f') || ('A' ≤ c && c ≤ 'F') || c == '_'

/-- Not empty, and all characters of a kind. -/
def allOf (kind : Char → Bool) (cs : List Char) : Bool := !cs.isEmpty && cs.all kind

/-- Whether a plain scalar is read as a whole number, in any of the bases. -/
def isWhole (cs : List Char) : Bool :=
  match unsigned cs with
  | ['0'] => true
  | '0' :: 'b' :: rest => allOf (fun c => c == '0' || c == '1' || c == '_') rest
  | '0' :: 'x' :: rest => allOf isHexadecimal rest
  | '0' :: rest => allOf (fun c => ('0' ≤ c && c ≤ '7') || c == '_') rest
  | cs =>
    match partsAt ':' cs with
    | first :: more => isNumeral first && more.all isSixtieth
    | [] => false

/-! ## Fractions -/

/-- Nothing, or an exponent with its sign. -/
def isExponent : List Char → Bool
  | [] => true
  | e :: sign :: rest =>
    (e == 'e' || e == 'E') && (sign == '+' || sign == '-') && allOf Char.isDigit rest
  | _ => false

/-- Digits and underscores, and perhaps an exponent. -/
def isFractionPart (cs : List Char) : Bool := isExponent (cs.dropWhile isDigitOrUnderscore)

/-- Whether a plain scalar is read as a number with a fraction, or as one of the special ones. -/
def isFraction (cs : List Char) : Bool :=
  match (unsigned cs).span (· ≠ '.') with
  | (whole, '.' :: fraction) =>
    if whole.isEmpty then
      ["inf", "Inf", "INF"].contains (String.ofList fraction)
        || (cs.head? == some '.'
          && (["nan", "NaN", "NAN"].contains (String.ofList fraction)
            || (fraction.head?.any Char.isDigit && isFractionPart fraction)))
    else
      match partsAt ':' whole with
      | [first] => isNumeral first && isFractionPart fraction
      | first :: more =>
        isNumeral first && more.all isSixtieth && fraction.all isDigitOrUnderscore
      | [] => false
  | _ => false

/-! ## Dates -/

/-- What follows a number of digits between two bounds. -/
def afterDigits? (least most : Nat) (cs : List Char) : Option (List Char) :=
  let ds := cs.takeWhile Char.isDigit
  if least ≤ ds.length ∧ ds.length ≤ most then some (cs.dropWhile Char.isDigit) else none

def after? (c : Char) : List Char → Option (List Char)
  | d :: rest => if d = c then some rest else none
  | [] => none

/-- A date in full, with two digits for month and day. -/
def isPlainDate (cs : List Char) : Bool :=
  (do
    let cs ← after? '-' (← afterDigits? 4 4 cs)
    let cs ← after? '-' (← afterDigits? 2 2 cs)
    afterDigits? 2 2 cs) == some []

def isZone (cs : List Char) : Bool :=
  match cs.dropWhile (· == ' ') with
  | [] => cs.isEmpty
  | ['Z'] => true
  | sign :: rest =>
    (sign == '+' || sign == '-')
      && match afterDigits? 1 2 rest with
        | some (':' :: rest) => afterDigits? 2 2 rest == some []
        | rest => rest == some []

/-- What parts a date and a time of day. -/
def afterGap? : List Char → Option (List Char)
  | 'T' :: rest => some rest
  | 't' :: rest => some rest
  | ' ' :: rest => some (rest.dropWhile (· == ' '))
  | _ => none

/-- Whether a plain scalar is read as a date with a time. -/
def isDateWithTime (cs : List Char) : Bool :=
  match (do
    let cs ← after? '-' (← afterDigits? 4 4 cs)
    let cs ← after? '-' (← afterDigits? 1 2 cs)
    let cs ← afterGap? (← afterDigits? 1 2 cs)
    let cs ← after? ':' (← afterDigits? 1 2 cs)
    let cs ← after? ':' (← afterDigits? 2 2 cs)
    afterDigits? 2 2 cs) with
  | some ('.' :: rest) => isZone (rest.dropWhile Char.isDigit)
  | some rest => isZone rest
  | none => false

/-! ## All of them -/

def truthWords : List String :=
  ["yes", "Yes", "YES", "no", "No", "NO", "true", "True", "TRUE", "false", "False", "FALSE",
   "on", "On", "ON", "off", "Off", "OFF"]

def nothingWords : List String := ["", "~", "null", "Null", "NULL"]

/-- The mark for merging, that for a default, and three that start something else. -/
def reservedWords : List String := ["<<", "=", "!", "&", "*"]

/-- Whether a plain scalar is read as text. -/
def isText (s : String) : Bool :=
  let cs := s.toList
  !((truthWords ++ nothingWords ++ reservedWords).contains s || isWhole cs || isFraction cs
    || isPlainDate cs || isDateWithTime cs)

end WebKeys.Yaml
