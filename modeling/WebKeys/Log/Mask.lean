import WebKeys.Json
import WebKeys.Text.Casing

/-!
# Masking

The values of sensitive fields never reach a line. Whether a field is sensitive is a matter of its
name alone, in small letters: the short names of private members count only as whole names, longer
words wherever they occur. Fields inside fields are masked too, unless they are inside a list.
-/

namespace WebKeys.Log

/-- Words that make a name sensitive wherever they occur in it. -/
def sensitiveWords : List String :=
  ["password", "secret", "token", "credential", "private_key", "private", "seed", "scalar"]

/-- Names that are sensitive by themselves, but not as parts of others. -/
def sensitiveNames : List String := ["d", "p", "q", "dp", "dq", "qi"]

/-- Whether a list of characters occurs in another. -/
def occursIn (word : List Char) : List Char → Bool
  | [] => word.isEmpty
  | c :: rest => word.isPrefixOf (c :: rest) || occursIn word rest

/-- Whether a name is one of the sensitive ones, or has a sensitive word in it, in letters of any
size. -/
def isSensitive (name : String) : Bool :=
  let name := Text.lowercase name
  sensitiveNames.contains name || sensitiveWords.any fun w => occursIn w.toList name.toList

/-- What stands in the place of a sensitive value. -/
def redacted : Json := .string "[REDACTED]"

mutual
/-- Masks inside of an object. Lists are not looked into. -/
def maskValue : Json → Json
  | .object members => .object (mask members)
  | v => v

/-- Puts a mark in place of every value under a sensitive name. -/
def mask : List (String × Json) → List (String × Json)
  | [] => []
  | (name, v) :: rest =>
    (name, if isSensitive name then redacted else maskValue v) :: mask rest
end

end WebKeys.Log
