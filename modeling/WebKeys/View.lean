import WebKeys.Json.Fields
import WebKeys.Json.Writer

/-!
# Flat views of public keys

The form in which key stores exchange the public part of a key: its coordinates or numbers as
bytes, each of them optional, with the curve and the group by name. As JSON it is compact, members
that are not set are left out, and bytes stand in padded base 64.
-/

namespace WebKeys

/-- The public part of a web key with its numbers as bytes; every member may be left out. -/
structure PublicView where
  kid : Option String := none
  x : Option Bytes := none
  y : Option Bytes := none
  n : Option Bytes := none
  e : Option Bytes := none
  curve : Option String := none
  group : Option String := none
  deriving DecidableEq

namespace PublicView

open Json

/-! ## Writing -/

def bytesText (bs : Bytes) : String := String.ofList (Base64.encodePadded .standard bs)

/-- The members that are set, in their order. -/
def members (v : PublicView) : List (String × String) :=
  [("kid", v.kid), ("x", v.x.map bytesText), ("y", v.y.map bytesText), ("n", v.n.map bytesText),
   ("e", v.e.map bytesText), ("curve", v.curve), ("type", v.group)].filterMap
    fun (name, value) => value.map (name, ·)

/-- The view as JSON without blanks. -/
def toJson (v : PublicView) : String := String.ofList (compactTexts v.members)

/-! ## Reading -/

/-- A member for bytes may be absent or null, or else must be base 64. -/
def bytesFault? (ms : Members) (name : String) : Option FieldFault :=
  match Members.get? ms name with
  | none | some .null => none
  | some (.string s) =>
    match Base64.decode .standard s.toList with
    | .ok _ => none
    | .error _ => some ⟨name, .badValue⟩
  | some _ => some ⟨name, .notBytes⟩

def bytesMember? (ms : Members) (name : String) : Option Bytes :=
  (textMember? ms name).bind fun s => (Base64.decode .standard s.toList).toOption

/-- All that is wrong with the members, in the order of the fields. -/
def faults (ms : Members) : List FieldFault :=
  [textFault? ms "kid", bytesFault? ms "x", bytesFault? ms "y", bytesFault? ms "n",
   bytesFault? ms "e", textFault? ms "curve", textFault? ms "type"].filterMap id

/-- The view that members say, or all their faults. -/
def ofMembers (ms : Members) : Except (List FieldFault) PublicView :=
  if (faults ms).isEmpty then
    .ok {
      kid := textMember? ms "kid"
      x := bytesMember? ms "x"
      y := bytesMember? ms "y"
      n := bytesMember? ms "n"
      e := bytesMember? ms "e"
      curve := textMember? ms "curve"
      group := textMember? ms "type" }
  else .error (faults ms)

def ofJsonText (bs : Bytes) : Except (List FieldFault) PublicView := do
  ofMembers (← asObject (← documentText bs))

end PublicView

end WebKeys
