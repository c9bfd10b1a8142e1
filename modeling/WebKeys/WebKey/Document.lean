import WebKeys.Json.Fields

/-!
# Documents of web keys

The members of a web key that are read, all of them texts. Only the group is required, and it must
not be empty; members of other names are passed over.
-/

namespace WebKeys

/-- The members of a document by their names, as texts that are not looked into yet. -/
structure Document where
  kty : String
  crv : Option String
  kid : Option String
  use : Option String
  alg : Option String
  x : Option String
  y : Option String
  d : Option String
  n : Option String
  e : Option String
  p : Option String
  q : Option String
  dp : Option String
  dq : Option String
  qi : Option String
  deriving DecidableEq

namespace Document

open Json

/-- The members that may be left out. -/
def optionalNames : List String :=
  ["crv", "kid", "use", "alg", "x", "y", "d", "n", "e", "p", "q", "dp", "dq", "qi"]

/-- All that is wrong with the members, in the order of the fields. -/
def faults (ms : Members) : List FieldFault :=
  (requiredTextFault? ms "kty").toList ++ optionalNames.filterMap (textFault? ms)

/-- The document that members say, or all their faults. -/
def ofMembers (ms : Members) : Except (List FieldFault) Document :=
  if (faults ms).isEmpty then
    .ok {
      kty := (textMember? ms "kty").getD ""
      crv := textMember? ms "crv"
      kid := textMember? ms "kid"
      use := textMember? ms "use"
      alg := textMember? ms "alg"
      x := textMember? ms "x"
      y := textMember? ms "y"
      d := textMember? ms "d"
      n := textMember? ms "n"
      e := textMember? ms "e"
      p := textMember? ms "p"
      q := textMember? ms "q"
      dp := textMember? ms "dp"
      dq := textMember? ms "dq"
      qi := textMember? ms "qi" }
  else .error (faults ms)

def ofJson (v : Json) : Except (List FieldFault) Document := do
  ofMembers (← asObject v)

def ofJsonText (bs : Bytes) : Except (List FieldFault) Document := do
  ofJson (← documentText bs)

end Document

end WebKeys
