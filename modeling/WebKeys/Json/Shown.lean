import WebKeys.Json
import WebKeys.Text.Quoted

/-!
# Values for people to read

A text stands as it is; inside a list or an object it is quoted. The empty value and the truth
values are capitalised words.
-/

namespace WebKeys.Json

mutual
/-- A value as it stands inside another. -/
def nested : Json → String
  | null => "None"
  | bool b => if b then "True" else "False"
  | int n => toString n
  | float x => x.text
  | string s => Text.quoted s
  | array items => "[" ++ String.intercalate ", " (nestedItems items) ++ "]"
  | object members => "\x7b" ++ String.intercalate ", " (nestedMembers members) ++ "\x7d"

def nestedItems : List Json → List String
  | [] => []
  | v :: rest => nested v :: nestedItems rest

def nestedMembers : List (String × Json) → List String
  | [] => []
  | (name, v) :: rest => (Text.quoted name ++ ": " ++ nested v) :: nestedMembers rest
end

/-- A value as it stands after a field: texts as they are, all others as if nested. -/
def shown : Json → String
  | string s => s
  | v => v.nested

end WebKeys.Json
