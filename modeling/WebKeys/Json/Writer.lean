import WebKeys.Bytes.Hex
import WebKeys.Json

/-!
# JSON text

Three forms. `spaced` and `indented` use ASCII alone: every other character is an escape of its
UTF-16 units in small hexadecimal digits. `compact` has no blanks, and keeps every character that
JSON lets stand.
-/

namespace WebKeys.Json

/-! ## Strings -/

def unitEscape (unit : Nat) : List Char := '\\' :: 'u' :: Hex.fixed 4 unit

/-- The escapes of a character by its UTF-16 units. -/
def unitEscapes (c : Char) : List Char :=
  let n := c.toNat
  if n < 0x10000 then unitEscape n
  else unitEscape (0xD800 + (n - 0x10000) / 0x400) ++ unitEscape (0xDC00 + (n - 0x10000) % 0x400)

/-- The two-character escapes that every form of JSON uses. -/
def shortEscape? (c : Char) : Option (List Char) :=
  if c = '"' then some ['\\', '"']
  else if c = '\\' then some ['\\', '\\']
  else if c = '\n' then some ['\\', 'n']
  else if c = '\r' then some ['\\', 'r']
  else if c = '\t' then some ['\\', 't']
  else if c = '\x08' then some ['\\', 'b']
  else if c = '\x0c' then some ['\\', 'f']
  else none

/-- A character in plain ASCII, escaped where it must be. -/
def asciiEscape (c : Char) : List Char :=
  (shortEscape? c).getD (if 0x20 ≤ c.toNat ∧ c.toNat < 0x7F then [c] else unitEscapes c)

/-- A character as it is, but for those that must be escaped. -/
def compactEscape (c : Char) : List Char :=
  (shortEscape? c).getD (if c.toNat < 0x20 then unitEscape c.toNat else [c])

def stringWith (escape : Char → List Char) (s : String) : List Char :=
  '"' :: s.toList.flatMap escape ++ ['"']

/-! ## Numbers -/

/-- A number as readers of JSON that know no limits take it. -/
def decimalText : Decimal → String
  | .infinite false => "Infinity"
  | .infinite true => "-Infinity"
  | .undefined => "NaN"
  | x => x.text

def boolText (b : Bool) : List Char := if b then "true".toList else "false".toList

/-- Joins with a separator between neighbours. -/
def joined (separator : List Char) : List (List Char) → List Char
  | [] => []
  | [x] => x
  | x :: rest => x ++ separator ++ joined separator rest

/-! ## On one line -/

mutual
/-- A value on one line, with a blank after each comma and colon. -/
def spaced : Json → List Char
  | null => "null".toList
  | bool b => boolText b
  | int n => (toString n).toList
  | float x => (decimalText x).toList
  | string s => stringWith asciiEscape s
  | array items => '[' :: joined [',', ' '] (spacedItems items) ++ [']']
  | object members => '\x7b' :: joined [',', ' '] (spacedMembers members) ++ ['\x7d']

def spacedItems : List Json → List (List Char)
  | [] => []
  | v :: rest => spaced v :: spacedItems rest

def spacedMembers : List (String × Json) → List (List Char)
  | [] => []
  | (name, v) :: rest =>
    (stringWith asciiEscape name ++ ':' :: ' ' :: spaced v) :: spacedMembers rest
end

/-! ## On several lines -/

def newline (depth : Nat) : List Char := '\n' :: List.replicate (2 * depth) ' '

/-- Opens a bracket, puts each part on a line of its own one level deeper, and closes it. -/
def bracketed (opening closing : Char) (depth : Nat) : List (List Char) → List Char
  | [] => [opening, closing]
  | parts =>
    opening :: newline (depth + 1) ++ joined (',' :: newline (depth + 1)) parts
      ++ newline depth ++ [closing]

mutual
/-- A value with two blanks of indentation a level. -/
def indented (depth : Nat) : Json → List Char
  | null => "null".toList
  | bool b => boolText b
  | int n => (toString n).toList
  | float x => (decimalText x).toList
  | string s => stringWith asciiEscape s
  | array items => bracketed '[' ']' depth (indentedItems (depth + 1) items)
  | object members => bracketed '\x7b' '\x7d' depth (indentedMembers (depth + 1) members)

def indentedItems (depth : Nat) : List Json → List (List Char)
  | [] => []
  | v :: rest => indented depth v :: indentedItems depth rest

def indentedMembers (depth : Nat) : List (String × Json) → List (List Char)
  | [] => []
  | (name, v) :: rest =>
    (stringWith asciiEscape name ++ ':' :: ' ' :: indented depth v) :: indentedMembers depth rest
end

/-- The members of an object of texts, without blanks. -/
def compactTexts (members : List (String × String)) : List Char :=
  '\x7b' :: joined [','] (members.map fun m =>
    stringWith compactEscape m.1 ++ ':' :: stringWith compactEscape m.2) ++ ['\x7d']

def toText (v : Json) : String := String.ofList v.spaced

def toLines (v : Json) : String := String.ofList (v.indented 0)

end WebKeys.Json
