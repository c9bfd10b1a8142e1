import WebKeys.Json.Fields
import WebKeys.Proofs.JsonStrings

/-!
# Members of an object

Under different names each member is found as it was put in (`Members.get?_of_mem`), and what is
added counts before what was there (`Members.get?_update`).

An object of texts holds the members of a list that have a value (`Json.present`). Under different
names each of them is found (`get?_present_of_mem`), and none of them is a fault. Readers look no
further than that, so other objects that hold the members (`Holds`) are read alike.
-/

namespace WebKeys

open Json

namespace Members

/-! ## Look-ups -/

/-- Of members picked by their names, one is found as before if its name is picked. -/
theorem get?_filter (ms : Members) (p : String → Bool) (name : String) :
    get? (ms.filter fun m => p m.1) name = if p name then get? ms name else none := by
  induction ms with
  | nil => simp [get?]
  | cons m ms ih =>
    obtain ⟨n, v⟩ := m
    by_cases hname : n = name
    · subst hname
      cases hp : p n <;> simp [get?, hp, ih]
    · cases hp : p n <;> simp [get?, hp, hname, ih]

theorem get?_eq_none {ms : Members} {name : String} :
    get? ms name = none ↔ ∀ m ∈ ms, m.1 ≠ name := by
  induction ms with
  | nil => simp [get?]
  | cons m ms ih =>
    obtain ⟨n, v⟩ := m
    rw [get?, Option.or_eq_none_iff, ih, List.forall_mem_cons, and_comm]
    simp

theorem get?_of_not_mem {ms : Members} {name : String} (h : name ∉ ms.map (·.1)) :
    get? ms name = none := by
  rw [get?_eq_none]
  intro m hm heq
  exact h (List.mem_map.mpr ⟨m, hm, heq⟩)

theorem get?_of_mem {ms : Members} (hnames : (ms.map (·.1)).Nodup) {m : String × Json}
    (hm : m ∈ ms) : get? ms m.1 = some m.2 := by
  induction ms with
  | nil => cases hm
  | cons m' ms ih =>
    rw [List.map_cons, List.nodup_cons] at hnames
    obtain ⟨n, v⟩ := m'
    rw [get?]
    rcases List.mem_cons.mp hm with rfl | hm
    · rw [get?_of_not_mem hnames.1, if_pos rfl, Option.none_or]
    · rw [ih hnames.2 hm, Option.some_or]

theorem get?_append (ms ns : Members) (name : String) :
    get? (ms ++ ns) name = (get? ns name).or (get? ms name) := by
  induction ms with
  | nil => rw [List.nil_append, get?, Option.or_none]
  | cons m ms ih =>
    obtain ⟨n, v⟩ := m
    rw [List.cons_append, get?, get?, ih, Option.or_assoc]

/-- The order of members matters only among those of one name. -/
theorem get?_of_perm {ms ns : Members} (h : ms.Perm ns) (hnames : (ms.map (·.1)).Nodup)
    (name : String) : get? ms name = get? ns name := by
  have hnames' : (ns.map (·.1)).Nodup := (h.map (·.1)).nodup_iff.mp hnames
  by_cases hname : name ∈ ms.map (·.1)
  · obtain ⟨m, hm, rfl⟩ := List.mem_map.mp hname
    rw [get?_of_mem hnames hm, get?_of_mem hnames' (h.mem_iff.mp hm)]
  · rw [get?_of_not_mem hname, get?_of_not_mem fun hmem => hname ((h.map (·.1)).mem_iff.mpr hmem)]

/-! ## Additions -/

theorem mem_names_put {ms : Members} {name n : String} {v : Json} :
    n ∈ (put ms name v).map (·.1) ↔ n = name ∨ n ∈ ms.map (·.1) := by
  induction ms with
  | nil => simp [put]
  | cons m ms ih =>
    obtain ⟨n', w⟩ := m
    rw [put]
    by_cases hname : n' = name
    · rw [if_pos hname]
      simp [hname]
    · rw [if_neg hname, List.map_cons, List.mem_cons, ih, List.map_cons, List.mem_cons]
      exact or_left_comm

theorem nodup_put {ms : Members} (hnames : (ms.map (·.1)).Nodup) (name : String) (v : Json) :
    ((put ms name v).map (·.1)).Nodup := by
  induction ms with
  | nil => simp [put]
  | cons m ms ih =>
    rw [List.map_cons, List.nodup_cons] at hnames
    obtain ⟨n, w⟩ := m
    rw [put]
    by_cases hname : n = name
    · rw [if_pos hname, List.map_cons, List.nodup_cons]
      exact hnames
    · rw [if_neg hname, List.map_cons, List.nodup_cons, mem_names_put]
      refine ⟨?_, ih hnames.2⟩
      rintro (rfl | hn)
      · exact hname rfl
      · exact hnames.1 hn

/-- A member put in place is found under its name, and the others stay. -/
theorem get?_put {ms : Members} (hnames : (ms.map (·.1)).Nodup) (name n : String) (v : Json) :
    get? (put ms name v) n = if name = n then some v else get? ms n := by
  induction ms with
  | nil => simp [put, get?]
  | cons m ms ih =>
    rw [List.map_cons, List.nodup_cons] at hnames
    obtain ⟨n', w⟩ := m
    rw [put]
    by_cases hname : n' = name
    · subst hname
      rw [if_pos rfl, get?, get?]
      by_cases hn : n' = n
      · subst hn
        rw [get?_of_not_mem hnames.1, if_pos rfl, if_pos rfl, Option.none_or]
      · rw [if_neg hn, if_neg hn, if_neg hn]
    · rw [if_neg hname, get?, get?, ih hnames.2]
      by_cases hn : name = n
      · rw [if_pos hn, if_pos hn, Option.some_or]
      · rw [if_neg hn, if_neg hn]

theorem names_put_congr {ms ns : Members} (h : ms.map (·.1) = ns.map (·.1)) (name : String)
    (v w : Json) : (put ms name v).map (·.1) = (put ns name w).map (·.1) := by
  induction ms generalizing ns with
  | nil =>
    cases ns with
    | nil => rfl
    | cons n ns => cases h
  | cons m ms ih =>
    cases ns with
    | nil => cases h
    | cons n ns =>
      obtain ⟨m, u⟩ := m
      obtain ⟨n, u'⟩ := n
      rw [List.map_cons, List.map_cons, List.cons.injEq] at h
      obtain ⟨rfl, h⟩ := h
      rw [put, put]
      by_cases hname : m = name
      · rw [if_pos hname, if_pos hname, List.map_cons, List.map_cons, h]
      · rw [if_neg hname, if_neg hname, List.map_cons, List.map_cons, ih h]

/-- The names after an addition depend on names alone. -/
theorem names_update_congr {ms ns added added' : Members} (h : ms.map (·.1) = ns.map (·.1))
    (hadded : added.map (·.1) = added'.map (·.1)) :
    (update ms added).map (·.1) = (update ns added').map (·.1) := by
  induction added generalizing ms ns added' with
  | nil =>
    cases added' with
    | nil => exact h
    | cons m added' => cases hadded
  | cons m added ih =>
    cases added' with
    | nil => cases hadded
    | cons m' added' =>
      obtain ⟨name, v⟩ := m
      obtain ⟨name', w⟩ := m'
      rw [List.map_cons, List.map_cons, List.cons.injEq] at hadded
      obtain ⟨hname, hadded⟩ := hadded
      dsimp only at hname
      subst hname
      exact @ih (put ms name v) (put ns name w) added' (names_put_congr h name v w) hadded

theorem nodup_update {ms : Members} (hnames : (ms.map (·.1)).Nodup) (added : Members) :
    ((update ms added).map (·.1)).Nodup := by
  induction added generalizing ms with
  | nil => exact hnames
  | cons m added ih => exact ih (nodup_put hnames m.1 m.2)

/-- What is added counts before what was there. -/
theorem get?_update {ms : Members} (hnames : (ms.map (·.1)).Nodup) (added : Members) (n : String) :
    get? (update ms added) n = (get? added n).or (get? ms n) := by
  induction added generalizing ms with
  | nil => rfl
  | cons m added ih =>
    obtain ⟨name, v⟩ := m
    show get? (update (put ms name v) added) n = _
    rw [ih (nodup_put hnames name v), get?_put hnames, get?]
    by_cases hn : name = n
    · rw [if_pos hn, if_pos hn, Option.or_assoc, Option.some_or]
    · rw [if_neg hn, if_neg hn, Option.or_none]

theorem put_of_not_mem {ms : Members} {name : String} (h : name ∉ ms.map (·.1)) (v : Json) :
    put ms name v = ms ++ [(name, v)] := by
  induction ms with
  | nil => rfl
  | cons m ms ih =>
    obtain ⟨n, w⟩ := m
    rw [List.map_cons, List.mem_cons, not_or] at h
    rw [put, if_neg (Ne.symm h.1), ih h.2, List.cons_append]

/-- Under names of their own all additions come last. -/
theorem update_eq_append {ms added : Members} (h : ((ms ++ added).map (·.1)).Nodup) :
    update ms added = ms ++ added := by
  induction added generalizing ms with
  | nil => exact (List.append_nil ms).symm
  | cons m added ih =>
    have hnot : m.1 ∉ ms.map (·.1) := by
      rw [List.map_append, List.nodup_append] at h
      exact fun hm => h.2.2 m.1 hm m.1 (by simp) rfl
    show update (put ms m.1 m.2) added = _
    rw [List.append_cons] at h ⊢
    rw [put_of_not_mem hnot, ih h]

end Members

namespace Json

/-- The members that have a value, in their order. -/
def present (ms : List (String × Option String)) : List (String × String) :=
  ms.filterMap fun m => m.2.map (m.1, ·)

@[simp] theorem present_nil : present [] = [] := rfl

@[simp] theorem present_cons_some (name s : String) (ms : List (String × Option String)) :
    present ((name, some s) :: ms) = (name, s) :: present ms := rfl

@[simp] theorem present_cons_none (name : String) (ms : List (String × Option String)) :
    present ((name, none) :: ms) = present ms := rfl

theorem present_append (ms ms' : List (String × Option String)) :
    present (ms ++ ms') = present ms ++ present ms' :=
  List.filterMap_append

theorem get?_present_cons {n name : String} {value : Option String}
    {ms : List (String × Option String)} : Members.get? (texts (present ((n, value) :: ms))) name =
      (Members.get? (texts (present ms)) name).or
        (if n = name then value.map .string else none) := by
  cases value with
  | none => simp
  | some s => rfl

theorem get?_present_of_not_mem {ms : List (String × Option String)} {name : String}
    (h : name ∉ ms.map (·.1)) : Members.get? (texts (present ms)) name = none := by
  induction ms with
  | nil => rfl
  | cons m ms ih =>
    rw [List.map_cons, List.mem_cons, not_or] at h
    rw [get?_present_cons, ih h.2, if_neg (Ne.symm h.1)]
    rfl

/-- Of members with different names, each is found under its own. -/
theorem get?_present_of_mem {ms : List (String × Option String)} (hnames : (ms.map (·.1)).Nodup)
    {name : String} {value : Option String} (h : (name, value) ∈ ms) :
    Members.get? (texts (present ms)) name = value.map .string := by
  induction ms with
  | nil => cases h
  | cons m ms ih =>
    rw [List.map_cons, List.nodup_cons] at hnames
    rw [get?_present_cons]
    rcases List.mem_cons.mp h with rfl | htail
    · rw [get?_present_of_not_mem hnames.1, if_pos rfl, Option.none_or]
    · have hne : m.1 ≠ name := by
        rintro rfl
        exact hnames.1 (List.mem_map.mpr ⟨_, htail, rfl⟩)
      rw [ih hnames.2 htail, if_neg hne, Option.or_none]

/-- The object has the members that have a value, in any order and among members of other names, and
lacks those that have none. -/
def Holds (ms : Members) (fields : List (String × Option String)) : Prop :=
  ∀ m ∈ fields, Members.get? ms m.1 = m.2.map .string

theorem holds_present {fields : List (String × Option String)}
    (hnames : (fields.map (·.1)).Nodup) : Holds (texts (present fields)) fields :=
  fun _ hm => get?_present_of_mem hnames hm

/-! ## Reading a member -/

variable {ms : Members} {name : String} {value : Option String}

theorem textMember?_eq (h : Members.get? ms name = value.map .string) :
    textMember? ms name = value := by
  rw [textMember?, h]
  cases value <;> rfl

theorem textFault?_eq_none (h : Members.get? ms name = value.map .string) :
    textFault? ms name = none := by
  rw [textFault?, h]
  cases value <;> rfl

theorem requiredTextFault?_eq_none {s : String} (h : Members.get? ms name = some (.string s))
    (hs : s.isEmpty = false) : requiredTextFault? ms name = none := by
  rw [requiredTextFault?, h]
  simp [hs]

end Json

end WebKeys
