import WebKeys.Bytes.Hex
import WebKeys.Yaml.Resolution

/-!
# YAML documents of texts

A mapping of names to texts in block style, in ASCII. A text stands plain where it is read as the
same text again, in single quotes where only its meaning or its first characters are in the way,
and in double quotes where it has characters that must be escaped.

Lines are folded at blanks once they have more than 80 columns. A folded line goes on after two
blanks.
-/

namespace WebKeys.Yaml

def widest : Nat := 80

/-- Where a line goes on that has been folded. -/
def indentation : Nat := 2

def newline : List Char := '\n' :: List.replicate indentation ' '

/-! ## Styles -/

/-- How a scalar is written; a plain one must not be read as anything but a text. -/
inductive Style
  | plain
  | singleQuoted
  | doubleQuoted
  deriving DecidableEq

def isBreak (c : Char) : Bool := c == '\n'

/-- A printable character of ASCII, or a line break. -/
def isUnescaped (c : Char) : Bool := (' ' ≤ c && c ≤ '~') || isBreak c

/-- Whether a blank and a line break meet. -/
def hasBreakAtBlank : List Char → Bool
  | a :: b :: rest =>
    (a == ' ' && isBreak b) || (isBreak a && b == ' ') || hasBreakAtBlank (b :: rest)
  | _ => false

/-- Whether a character is followed by a blank, a line break or the end. -/
def endsWord : List Char → Bool
  | [] => true
  | c :: _ => c == ' ' || isBreak c

/-- Characters that start something other than a plain scalar. -/
def indicators : List Char :=
  ['#', ',', '[', ']', '\x7b', '\x7d', '&', '*', '!', '|', '>', '\'', '"', '%', '@', '\x60']

/-- Whether the start of a text keeps it from being plain. -/
def startsOtherwise : List Char → Bool
  | [] => false
  | cs@(c :: rest) =>
    "---".toList.isPrefixOf cs || "...".toList.isPrefixOf cs || indicators.contains c
      || ((c == '?' || c == ':' || c == '-') && endsWord rest)

/-- Whether a text has, after its first character, the end of a name or the start of a comment. -/
def hasIndicatorInside : List Char → Bool
  | a :: b :: rest =>
    (b == ':' && endsWord rest) || (b == '#' && (a == ' ' || isBreak a))
      || hasIndicatorInside (b :: rest)
  | _ => false

def isBlankOrBreak (c : Char) : Bool := c == ' ' || isBreak c

/-- The style of a text: the plainest one that reads back as the text. -/
def styleOf (s : String) : Style :=
  let cs := s.toList
  if !cs.all isUnescaped || hasBreakAtBlank cs then .doubleQuoted
  else if isText s && !cs.any isBreak && !cs.head?.any isBlankOrBreak
      && !cs.getLast?.any isBlankOrBreak && !startsOtherwise cs && !hasIndicatorInside cs then
    .plain
  else .singleQuoted

/-! ## Plain and single-quoted text -/

/-- The runs of blanks, of line breaks, and of other characters. -/
def runs (cs : List Char) : List (List Char) :=
  cs.splitBy fun a b => (a == ' ') == (b == ' ') && isBreak a == isBreak b

/-- Writes runs from a column on; a single blank may become the end of a line, but neither the
first nor the last run of a text does. -/
def foldRuns (quote : Char → List Char) (first : Bool) (column : Nat) :
    List (List Char) → List Char
  | [] => []
  | run :: rest =>
    if run.head?.any isBreak then
      List.replicate (run.length + 1) '\n' ++ List.replicate indentation ' '
        ++ foldRuns quote false indentation rest
    else if run = [' '] ∧ widest < column ∧ first = false ∧ rest ≠ [] then
      newline ++ foldRuns quote false indentation rest
    else
      let written := run.flatMap quote
      written ++ foldRuns quote false (column + written.length) rest

def doubled (c : Char) : List Char := if c = '\'' then ['\'', '\''] else [c]

/-! ## Double-quoted text -/

/-- Digits of a code point in capitals. -/
def codeText (width : Nat) (c : Char) : List Char := (Hex.fixed width c.toNat).map Char.toUpper

/-- How a character stands between double quotes, if not as itself. -/
def escape? (c : Char) : Option (List Char) :=
  match c.toNat with
  | 0x00 => some ['\\', '0']
  | 0x07 => some ['\\', 'a']
  | 0x08 => some ['\\', 'b']
  | 0x09 => some ['\\', 't']
  | 0x0A => some ['\\', 'n']
  | 0x0B => some ['\\', 'v']
  | 0x0C => some ['\\', 'f']
  | 0x0D => some ['\\', 'r']
  | 0x1B => some ['\\', 'e']
  | 0x22 => some ['\\', '"']
  | 0x5C => some ['\\', '\\']
  | 0x85 => some ['\\', 'N']
  | 0xA0 => some ['\\', '_']
  | 0x2028 => some ['\\', 'L']
  | 0x2029 => some ['\\', 'P']
  | n =>
    if 0x20 ≤ n ∧ n ≤ 0x7E then none
    else if n ≤ 0xFF then some ('\\' :: 'x' :: codeText 2 c)
    else if n ≤ 0xFFFF then some ('\\' :: 'u' :: codeText 4 c)
    else some ('\\' :: 'U' :: codeText 8 c)

/-- Ends a line between double quotes; a blank that comes next is kept by a backslash. -/
def foldBefore (next : Option Char) : List Char :=
  '\\' :: newline ++ if next = some ' ' then ['\\'] else []

/-- Where a line goes on after a fold; a blank that is next stays in front. -/
def columnAfterFold (next : Option Char) : Nat :=
  indentation + if next = some ' ' then 1 else 0

/-- Writes text from a column on. A line may end before a blank, and on either side of an escape:
`open?` tells that an escape or a fold came just before. The first and the last character end no
line. -/
def foldEscaped (first afterEscape : Bool) (column : Nat) : List Char → List Char
  | [] => []
  | c :: rest =>
    let inside := !first && !rest.isEmpty
    match escape? c with
    | some cs =>
      let column := column + cs.length
      if inside && widest + 1 < column then
        cs ++ foldBefore rest.head? ++ foldEscaped false true (columnAfterFold rest.head?) rest
      else cs ++ foldEscaped false true column rest
    | none =>
      if inside && (c == ' ' || afterEscape) && widest < column then
        foldBefore (some c) ++ c :: foldEscaped false false (columnAfterFold (some c) + 1) rest
      else c :: foldEscaped false false (column + 1) rest

/-! ## Documents -/

/-- A text from a column on. -/
def scalar (column : Nat) (s : String) : List Char :=
  match styleOf s with
  | .plain => foldRuns (fun c => [c]) true column (runs s.toList)
  | .singleQuoted => '\'' :: foldRuns doubled true (column + 1) (runs s.toList) ++ ['\'']
  | .doubleQuoted => '"' :: foldEscaped true true (column + 1) s.toList ++ ['"']

/-- A member on lines of its own. Names are those of web keys, which may stand plain. -/
def member (name text : String) : List Char :=
  name.toList ++ [':', ' '] ++ scalar (name.length + 2) text

/-- The lines of a document, with nothing after the last. -/
def document (members : List (String × String)) : String :=
  String.ofList ((members.map fun m => member m.1 m.2).intersperse ['\n']).flatten

end WebKeys.Yaml
