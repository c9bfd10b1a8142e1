import WebKeys.Bytes.Hex
import WebKeys.Json
import WebKeys.Text.Numeral
import WebKeys.Text.Utf8

/-!
# Reading JSON

The grammar of RFC 8259, with `NaN`, `Infinity` and `-Infinity` as further numbers. No comments, no
trailing commas, no control characters inside strings, no lone surrogates, at most `deepest` levels
of nesting.

Every reader takes the characters in front of it and returns the rest; a reader of values carries
an allowance of steps, and every step consumes a character.

* `read?` is for documents, whose numerals and nesting are limited.
* `readAny?` reads texts without any limit.
-/

namespace WebKeys.Json

/-- How deeply arrays and objects may be nested. -/
def deepest : Nat := 200

def isSpace (c : Char) : Bool := c = ' ' ∨ c = '\t' ∨ c = '\n' ∨ c = '\r'

def skipSpace (cs : List Char) : List Char := cs.dropWhile isSpace

def expect (literal : List Char) (cs : List Char) : Option (List Char) :=
  match literal, cs with
  | [], cs => some cs
  | l :: ls, c :: cs => if l = c then expect ls cs else none
  | _ :: _, [] => none

/-! ## Strings -/

def fourDigits? : List Char → Option (Nat × List Char)
  | a :: b :: c :: d :: rest => (Hex.toNat? [a, b, c, d]).map (·, rest)
  | _ => none

def isHighSurrogate (n : Nat) : Bool := 0xD800 ≤ n && n ≤ 0xDBFF

def isLowSurrogate (n : Nat) : Bool := 0xDC00 ≤ n && n ≤ 0xDFFF

/-- The character of a `\u` escape, whose letter has been read; a surrogate needs its partner. -/
def unicodeEscape? (cs : List Char) : Option (Char × List Char) := do
  let (high, rest) ← fourDigits? cs
  if isHighSurrogate high then
    match rest with
    | '\\' :: 'u' :: more =>
      let (low, rest) ← fourDigits? more
      if isLowSurrogate low then
        some (Char.ofNat (0x10000 + (high - 0xD800) * 0x400 + (low - 0xDC00)), rest)
      else none
    | _ => none
  else if isLowSurrogate high then none
  else some (Char.ofNat high, rest)

/-- The character that one letter after a backslash stands for, but for those by number. -/
def escape? : List Char → Option (Char × List Char)
  | '"' :: rest => some ('"', rest)
  | '\\' :: rest => some ('\\', rest)
  | '/' :: rest => some ('/', rest)
  | 'b' :: rest => some ('\x08', rest)
  | 'f' :: rest => some ('\x0c', rest)
  | 'n' :: rest => some ('\n', rest)
  | 'r' :: rest => some ('\r', rest)
  | 't' :: rest => some ('\t', rest)
  | 'u' :: rest => unicodeEscape? rest
  | _ => none

/-- The characters up to the closing quote, the opening one having been read. -/
def stringBody (fuel : Nat) (cs : List Char) : Option (List Char × List Char) :=
  match fuel, cs with
  | 0, _ => none
  | _, [] => none
  | fuel + 1, c :: rest =>
    if c = '"' then some ([], rest)
    else if c = '\\' then do
      let (e, rest) ← escape? rest
      let (es, rest) ← stringBody fuel rest
      some (e :: es, rest)
    else if c.toNat < 0x20 then none
    else do
      let (es, rest) ← stringBody fuel rest
      some (c :: es, rest)

def stringFrom (cs : List Char) : Option (String × List Char) :=
  (stringBody (cs.length + 1) cs).map fun r => (String.ofList r.1, r.2)

/-! ## Numbers -/

def digitsValue (ds : List Char) : Nat := ds.foldl (fun n c => 10 * n + (c.toNat - 48)) 0

/-- The digits before the point: a single zero, or digits that start with another. -/
def wholePart? (cs : List Char) : Option (List Char × List Char) :=
  match cs.span Char.isDigit with
  | ([], _) => none
  | (['0'], rest) => some (['0'], rest)
  | ('0' :: _, _) => none
  | r => some r

/-- The digits after a point, none if there is no point. -/
def fractionPart? : List Char → Option (List Char × List Char)
  | '.' :: cs =>
    match cs.span Char.isDigit with
    | ([], _) => none
    | r => some r
  | cs => some ([], cs)

def signOf : List Char → Bool × List Char
  | '-' :: cs => (true, cs)
  | '+' :: cs => (false, cs)
  | cs => (false, cs)

/-- The exponent, if one follows; a letter without digits behind it is a fault. -/
def exponentPart? (cs : List Char) : Option (Option Int × List Char) :=
  match cs with
  | e :: more =>
    if e = 'e' ∨ e = 'E' then
      let (negative, more) := signOf more
      match more.span Char.isDigit with
      | ([], _) => none
      | (ds, rest) =>
        let n : Int := digitsValue ds
        some (some (if negative then -n else n), rest)
    else some (none, cs)
  | [] => some (none, [])

/-- A fraction beyond the range of a 64-bit number is infinite or zero. -/
def fractionValue (negative : Bool) (digits : Nat) (exponent : Int) : Decimal :=
  let first := (toString digits).length + exponent
  if digits = 0 then .finite negative 0 0
  else if first > 310 then .infinite negative
  else if first < -330 then .finite negative 0 0
  else if (Binary.ofDecimal digits exponent).overflows then .infinite negative
  else .finite negative digits exponent

/-- The number after its sign. Its whole part must not be longer than a numeral may be, the minus
sign counting as well. -/
def numberFrom (longest : Nat) (negative : Bool) (cs : List Char) : Option (Json × List Char) := do
  let (whole, rest) ← wholePart? cs
  if longest < whole.length + negative.toNat then none
  let (fraction, afterFraction) ← fractionPart? rest
  let (exponent, rest) ← exponentPart? afterFraction
  if fraction.isEmpty && exponent.isNone then
    let n : Int := digitsValue whole
    some (.int (if negative then -n else n), rest)
  else
    let digits := digitsValue (whole ++ fraction)
    some (.float (fractionValue negative digits (exponent.getD 0 - fraction.length)), rest)

/-! ## Values -/

mutual
/-- Reads a value that starts with its first character. -/
def value (longest fuel depth : Nat) (cs : List Char) : Option (Json × List Char) :=
  match fuel with
  | 0 => none
  | fuel + 1 =>
    match cs with
    | '"' :: rest => (stringFrom rest).map fun r => (.string r.1, r.2)
    | '[' :: rest =>
      match depth with
      | 0 => none
      | depth + 1 =>
        match skipSpace rest with
        | ']' :: rest => some (.array [], rest)
        | rest => (itemsFrom longest fuel depth rest).map fun r => (.array r.1, r.2)
    | '\x7b' :: rest =>
      match depth with
      | 0 => none
      | depth + 1 =>
        match skipSpace rest with
        | '\x7d' :: rest => some (.object [], rest)
        | rest => (membersFrom longest fuel depth rest).map fun r => (.object r.1, r.2)
    | 't' :: rest => (expect "rue".toList rest).map (.bool true, ·)
    | 'f' :: rest => (expect "alse".toList rest).map (.bool false, ·)
    | 'n' :: rest => (expect "ull".toList rest).map (.null, ·)
    | 'N' :: rest => (expect "aN".toList rest).map (.float .undefined, ·)
    | 'I' :: rest => (expect "nfinity".toList rest).map (.float (.infinite false), ·)
    | '-' :: 'I' :: rest => (expect "nfinity".toList rest).map (.float (.infinite true), ·)
    | '-' :: rest => numberFrom longest true rest
    | cs => numberFrom longest false cs

/-- The items of an array up to its bracket, at least one. -/
def itemsFrom (longest fuel depth : Nat) (cs : List Char) : Option (List Json × List Char) :=
  match fuel with
  | 0 => none
  | fuel + 1 =>
    match value longest fuel depth cs with
    | none => none
    | some (v, rest) =>
      match skipSpace rest with
      | ']' :: rest => some ([v], rest)
      | ',' :: rest => (itemsFrom longest fuel depth (skipSpace rest)).map fun r => (v :: r.1, r.2)
      | _ => none

/-- The members of an object up to its brace, at least one. -/
def membersFrom (longest fuel depth : Nat) (cs : List Char) :
    Option (List (String × Json) × List Char) :=
  match fuel with
  | 0 => none
  | fuel + 1 =>
    match cs with
    | '"' :: rest =>
      match stringFrom rest with
      | none => none
      | some (name, rest) =>
        match skipSpace rest with
        | ':' :: rest =>
          match value longest fuel depth (skipSpace rest) with
          | none => none
          | some (v, rest) =>
            match skipSpace rest with
            | '\x7d' :: rest => some ([(name, v)], rest)
            | ',' :: rest =>
              (membersFrom longest fuel depth (skipSpace rest)).map fun r => ((name, v) :: r.1, r.2)
            | _ => none
        | _ => none
    | _ => none
end

/-- The one value of a text, with white space around it. -/
def readWithin? (longest depth : Nat) (cs : List Char) : Option Json :=
  match value longest (2 * cs.length + 1) depth (skipSpace cs) with
  | some (v, rest) => if (skipSpace rest).isEmpty then some v else none
  | none => none

/-- Reads a text under the limits of documents. -/
def read? (cs : List Char) : Option Json := readWithin? Text.longestNumeral deepest cs

/-- No numeral is longer than the text it is in, and no nesting deeper. -/
def readAny? (cs : List Char) : Option Json := readWithin? cs.length cs.length cs

def readBytes? (bs : Bytes) : Option Json := (Utf8.decode? bs).bind read?

end WebKeys.Json
