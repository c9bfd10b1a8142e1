import WebKeys.WebKey
import WebKeys.WebKey.Document
import WebKeys.Proofs.JsonGrammar
import WebKeys.Proofs.Members

/-!
# Documents survive their JSON

`Document.members` lists what a document has in the order of the published members. A document with
a group is read back from those members as it was, from an object (`ofJson_members`) and from the
text of one (`ofJsonText_members`).
-/

namespace WebKeys

namespace Json

theorem optionalMember_eq (name : String) (value : Option String) :
    WebKey.optionalMember name value = present [(name, value)] := by
  cases value <;> rfl

end Json

theorem WebKey.documentOf_eq (ms : List (String × String)) :
    WebKey.documentOf ms = .object (Json.texts ms) := rfl

namespace Document

open Json

/-- The members of a document, there or not. -/
def fields (doc : Document) : List (String × Option String) :=
  [("kty", some doc.kty), ("crv", doc.crv), ("x", doc.x), ("y", doc.y), ("n", doc.n), ("e", doc.e),
   ("d", doc.d), ("p", doc.p), ("q", doc.q), ("dp", doc.dp), ("dq", doc.dq), ("qi", doc.qi),
   ("kid", doc.kid), ("use", doc.use), ("alg", doc.alg)]

def members (doc : Document) : List (String × String) := present doc.fields

theorem exists_mem_fields (doc : Document) {name : String} (h : name ∈ optionalNames) :
    ∃ value, (name, value) ∈ doc.fields := by
  have hnames : ∀ name ∈ optionalNames, name ∈ doc.fields.map (·.1) := by
    simp [optionalNames, fields]
  obtain ⟨m, hm, rfl⟩ := List.mem_map.mp (hnames name h)
  exact ⟨m.2, hm⟩

theorem ofMembers_of_holds {doc : Document} {ms : Members} (hkty : doc.kty.isEmpty = false)
    (h : Holds ms doc.fields) : ofMembers ms = .ok doc := by
  have hget (name : String) (value : Option String) (hm : (name, value) ∈ doc.fields) :
      Members.get? ms name = value.map .string := h (name, value) hm
  have hfaults : faults ms = [] := by
    rw [faults, requiredTextFault?_eq_none (hget "kty" (some doc.kty) (by simp [fields])) hkty,
      Option.toList_none, List.nil_append, List.filterMap_eq_nil_iff]
    intro name hname
    obtain ⟨value, hmem⟩ := doc.exists_mem_fields hname
    exact textFault?_eq_none (hget name value hmem)
  have htext (name : String) (value : Option String) (hm : (name, value) ∈ doc.fields) :
      textMember? ms name = value := textMember?_eq (hget name value hm)
  rw [ofMembers, hfaults, if_pos List.isEmpty_nil, htext "kty" (some doc.kty) (by simp [fields]),
    htext "crv" doc.crv (by simp [fields]), htext "kid" doc.kid (by simp [fields]),
    htext "use" doc.use (by simp [fields]), htext "alg" doc.alg (by simp [fields]),
    htext "x" doc.x (by simp [fields]), htext "y" doc.y (by simp [fields]),
    htext "d" doc.d (by simp [fields]), htext "n" doc.n (by simp [fields]),
    htext "e" doc.e (by simp [fields]), htext "p" doc.p (by simp [fields]),
    htext "q" doc.q (by simp [fields]), htext "dp" doc.dp (by simp [fields]),
    htext "dq" doc.dq (by simp [fields]), htext "qi" doc.qi (by simp [fields]),
    Option.getD_some]

theorem ofMembers_members {doc : Document} (h : doc.kty.isEmpty = false) :
    ofMembers (texts doc.members) = .ok doc :=
  ofMembers_of_holds h (holds_present (by simp [fields]))

theorem ofJson_members {doc : Document} (h : doc.kty.isEmpty = false) :
    ofJson (WebKey.documentOf doc.members) = .ok doc := ofMembers_members h

theorem ofJsonText_members {doc : Document} (h : doc.kty.isEmpty = false) :
    ofJsonText (Utf8.encode (WebKey.documentOf doc.members).toText.toList) = .ok doc := by
  have htext := readBytes?_toText doc.members
  rw [← WebKey.documentOf_eq] at htext
  rw [ofJsonText, documentText, htext]
  exact ofMembers_members h

end Document

end WebKeys
