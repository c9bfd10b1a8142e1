import WebKeys.Text.CaseTable

/-!
# Small and capital letters

* `lowercase` writes a text in small letters by the rules of Unicode: the capital dotted I becomes
  two characters, and a capital sigma at the end of a word takes its final form.
* `capitals?` writes a text in plain A to Z, if its capital form has no other letters; the dotless
  i, the long s, the sharp s and the Latin ligatures are the only others that have one.
-/

namespace WebKeys.Text

def inRanges (rs : List (Nat × Nat)) (c : Char) : Bool :=
  rs.any fun r => r.1 ≤ c.toNat && c.toNat ≤ r.2

def isCased (c : Char) : Bool := inRanges casedRanges c

def isCaseIgnorable (c : Char) : Bool := inRanges ignorableRanges c

/-- The small form of one character, taken alone. -/
def smallForm (c : Char) : List Char :=
  if c.toNat < 0x80 then [c.toLower]
  else if c = '\u0130' then ['i', '\u0307']
  else match smallRuns.find? (·.has c.toNat) with
    | some r => [Char.ofNat (c.toNat + r.offset).toNat]
    | none => [c]

/-- Whether the nearest character that is not passed over is a letter with case. -/
def meetsCased (cs : List Char) : Bool :=
  match cs.dropWhile isCaseIgnorable with
  | c :: _ => isCased c
  | [] => false

/-- `before` holds the characters already read, the nearest first. -/
def lowercaseAfter (before : List Char) : List Char → List Char
  | [] => []
  | c :: rest =>
    let form :=
      if c = '\u03A3' then
        [if meetsCased before && !meetsCased rest then '\u03C2' else '\u03C3']
      else smallForm c
    form ++ lowercaseAfter (c :: before) rest

/-- A text in small letters, by the rules of Unicode. -/
def lowercase (s : String) : String := String.ofList (lowercaseAfter [] s.toList)

/-- The capital form of a character, where it consists of ASCII characters. -/
def capital? (c : Char) : Option (List Char) :=
  if c.toNat < 0x80 then some [c.toUpper]
  else match c.toNat with
    | 0xDF => some ['S', 'S']
    | 0x131 => some ['I']
    | 0x17F => some ['S']
    | 0xFB00 => some ['F', 'F']
    | 0xFB01 => some ['F', 'I']
    | 0xFB02 => some ['F', 'L']
    | 0xFB03 => some ['F', 'F', 'I']
    | 0xFB04 => some ['F', 'F', 'L']
    | 0xFB05 | 0xFB06 => some ['S', 'T']
    | _ => none

/-- A text in capitals, if these are all in ASCII. -/
def capitals? (s : String) : Option String :=
  (s.toList.mapM capital?).map fun cs => String.ofList cs.flatten

end WebKeys.Text
