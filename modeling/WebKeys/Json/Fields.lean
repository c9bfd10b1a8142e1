import WebKeys.Failure
import WebKeys.Json.Reader

/-!
# Members of a document

A document is an object with members of known names; others do not matter. A member may be absent
or null, which is the same, and otherwise has to be of its type. All faults are reported together,
in the order in which the members are declared.
-/

namespace WebKeys.Json

/-- The members of an object, or the fault of whatever else it is. -/
def asObject : Json → Except (List FieldFault) Members
  | .object ms => .ok ms
  | _ => .error [⟨"", .notObject⟩]

/-- The value of a text, whose faults are those of the document as a whole. -/
def documentText (bs : Bytes) : Except (List FieldFault) Json :=
  match readBytes? bs with
  | some v => .ok v
  | none => .error [⟨"", .notJson⟩]

/-- A member that is text. -/
def textMember? (ms : Members) (name : String) : Option String :=
  match Members.get? ms name with
  | some (.string s) => some s
  | _ => none

/-- A member may be absent or null, or else must be a text. -/
def textFault? (ms : Members) (name : String) : Option FieldFault :=
  match Members.get? ms name with
  | none | some .null | some (.string _) => none
  | some _ => some ⟨name, .notText⟩

/-- The fault of a member that must be there and have at least one character. -/
def requiredTextFault? (ms : Members) (name : String) : Option FieldFault :=
  match Members.get? ms name with
  | none => some ⟨name, .missing⟩
  | some (.string s) => if s.isEmpty then some ⟨name, .tooShort⟩ else none
  | some _ => some ⟨name, .notText⟩

end WebKeys.Json
