import WebKeys.Log.Record
import WebKeys.Proofs.JsonInjective
import WebKeys.Proofs.Members

/-!
# What masking hides

Two runs with fields that are equal but for values under sensitive names. Masking makes them the
same exactly where all differences are in objects (`sameMembers_mask_iff`), and then no line tells
them apart. It does not look into lists. Since a line of JSON tells values apart, a difference
inside a list always shows there, unless the record puts something of its own over the field.

* `Alike inLists`: equal but for values under sensitive names, at any depth of objects, and of lists
  too if `inLists` says so.
* `Record.kept`: the fields that a record puts nothing over.
* `Record.masked_lines`: which fields that are alike in objects and lists give the same lines.
-/

namespace WebKeys

open Json

/-! ## The same members -/

namespace Json.SameMembers

variable {ms ns : Members}

theorem names_eq (h : SameMembers ms ns) : ms.map (·.1) = ns.map (·.1) := by
  induction ms generalizing ns with
  | nil =>
    cases h
    rfl
  | cons m ms ih =>
    cases h with
    | cons name hv h => rw [List.map_cons, List.map_cons, ih h]

/-- A look-up finds the same value in both, or none. -/
theorem get?_rel (h : SameMembers ms ns) (n : String) :
    Option.Rel Same (Members.get? ms n) (Members.get? ns n) := by
  induction ms generalizing ns with
  | nil =>
    cases h
    exact .none
  | cons m ms ih =>
    cases h with
    | @cons name v w _ ns hv h =>
      rw [Members.get?, Members.get?]
      have hrest := ih h
      generalize Members.get? ms n = found, Members.get? ns n = found' at hrest ⊢
      cases hrest with
      | some hsame => exact .some hsame
      | none =>
        rw [Option.none_or, Option.none_or]
        by_cases hname : name = n
        · rw [if_pos hname, if_pos hname]
          exact .some hv
        · rw [if_neg hname, if_neg hname]
          exact .none

theorem same_of_get? (h : SameMembers ms ns) {n : String} {v w : Json}
    (hv : Members.get? ms n = some v) (hw : Members.get? ns n = some w) : Same v w := by
  have hrel := h.get?_rel n
  rw [hv, hw] at hrel
  cases hrel with
  | some hsame => exact hsame

/-- Members under the same names, no name twice, are the same if look-ups find the same. -/
theorem of_get? {xs ys : Members} (hnames : xs.map (·.1) = ys.map (·.1))
    (hnodup : (xs.map (·.1)).Nodup)
    (h : ∀ n v w, Members.get? xs n = some v → Members.get? ys n = some w → Same v w) :
    SameMembers xs ys := by
  have hparts : ∀ {zs ws : Members}, zs.map (·.1) = ws.map (·.1) → zs ⊆ xs → ws ⊆ ys →
      SameMembers zs ws := by
    intro zs
    induction zs with
    | nil =>
      intro ws hnames' _ _
      cases ws with
      | nil => exact .nil
      | cons w ws => cases hnames'
    | cons z zs ih =>
      intro ws hnames' hzs hws
      cases ws with
      | nil => cases hnames'
      | cons w ws =>
        obtain ⟨n, v⟩ := z
        obtain ⟨n', w⟩ := w
        rw [List.map_cons, List.map_cons, List.cons.injEq] at hnames'
        obtain ⟨rfl, hnames'⟩ := hnames'
        rw [List.cons_subset] at hzs hws
        have hv := h n v w (Members.get?_of_mem hnodup hzs.1)
          (Members.get?_of_mem (hnames ▸ hnodup) hws.1)
        exact .cons n hv (ih hnames' hzs.2 hws.2)
  exact hparts hnames (List.Subset.refl xs) (List.Subset.refl ys)

end Json.SameMembers

/-! ## Alike but for sensitive values -/

namespace Log

mutual
/-- Equal but for the values of sensitive names, at any depth of objects, and if `inLists` at any
depth of lists too. -/
inductive Alike (inLists : Bool) : Json → Json → Prop
  | same {v w : Json} (h : Same v w) : Alike inLists v w
  | array {vs ws : List Json} (hlists : inLists = true) (h : AlikeItems inLists vs ws) :
      Alike inLists (.array vs) (.array ws)
  | object {ms ns : Members} (h : AlikeMembers inLists ms ns) :
      Alike inLists (.object ms) (.object ns)

inductive AlikeItems (inLists : Bool) : List Json → List Json → Prop
  | nil : AlikeItems inLists [] []
  | cons {v w : Json} {vs ws : List Json} (hv : Alike inLists v w) (h : AlikeItems inLists vs ws) :
      AlikeItems inLists (v :: vs) (w :: ws)

inductive AlikeMembers (inLists : Bool) : Members → Members → Prop
  | nil : AlikeMembers inLists [] []
  | sensitive {name : String} {ms ns : Members} (hname : isSensitive name = true) (v w : Json)
      (h : AlikeMembers inLists ms ns) : AlikeMembers inLists ((name, v) :: ms) ((name, w) :: ns)
  | cons (name : String) {v w : Json} {ms ns : Members} (hv : Alike inLists v w)
      (h : AlikeMembers inLists ms ns) : AlikeMembers inLists ((name, v) :: ms) ((name, w) :: ns)
end

theorem AlikeMembers.names_eq {inLists : Bool} {ms ns : Members} (h : AlikeMembers inLists ms ns) :
    ms.map (·.1) = ns.map (·.1) := by
  induction ms generalizing ns with
  | nil =>
    cases h
    rfl
  | cons m ms ih =>
    cases h with
    | sensitive _ _ _ h => rw [List.map_cons, List.map_cons, ih h]
    | cons name _ h => rw [List.map_cons, List.map_cons, ih h]

theorem AlikeMembers.filter {inLists : Bool} {ms ns : Members} (h : AlikeMembers inLists ms ns)
    (p : String → Bool) :
    AlikeMembers inLists (ms.filter fun m => p m.1) (ns.filter fun m => p m.1) := by
  induction ms generalizing ns with
  | nil =>
    cases h
    exact .nil
  | cons m ms ih =>
    cases h with
    | @sensitive name _ _ hname v w h =>
      cases hp : p name with
      | false => simpa [hp] using ih h
      | true => simpa [hp] using AlikeMembers.sensitive hname v w (ih h)
    | cons name hv h =>
      cases hp : p name with
      | false => simpa [hp] using ih h
      | true => simpa [hp] using AlikeMembers.cons name hv (ih h)

/-! ## Masking makes the same of what is alike in objects -/

theorem names_mask (ms : Members) : (mask ms).map (·.1) = ms.map (·.1) := by
  induction ms with
  | nil => rfl
  | cons m ms ih => rw [mask, List.map_cons, List.map_cons, ih]

/-- A look-up after masking finds the field masked by its own name. -/
theorem get?_mask (ms : Members) (n : String) : Members.get? (mask ms) n =
    (Members.get? ms n).map fun v => if isSensitive n then redacted else maskValue v := by
  induction ms with
  | nil => rfl
  | cons m ms ih =>
    obtain ⟨name, v⟩ := m
    rw [mask, Members.get?, Members.get?, ih, Option.map_or]
    by_cases hname : name = n
    · rw [if_pos hname, if_pos hname, hname]
      rfl
    · rw [if_neg hname, if_neg hname]
      rfl

theorem get?_mask_of_not_sensitive {n : String} (h : isSensitive n = false) (ms : Members) :
    Members.get? (mask ms) n = (Members.get? ms n).map maskValue := by
  rw [get?_mask, h]
  rfl

theorem maskValue_eq_self {v : Json} (h : ∀ ms, v ≠ .object ms) : maskValue v = v := by
  cases v with
  | object ms => exact absurd rfl (h ms)
  | _ => rfl

theorem maskValue_eq_iff {v w : Json} (hw : ∀ ms, w ≠ .object ms) : maskValue v = w ↔ v = w := by
  constructor
  · intro h
    cases v with
    | object ms => exact absurd h.symm (hw _)
    | _ => exact h
  · rintro rfl
    exact maskValue_eq_self hw

mutual
theorem same_maskValue {v w : Json} : Same v w → Same (maskValue v) (maskValue w)
  | .null => .null
  | .bool b => .bool b
  | .int n => .int n
  | .float h => .float h
  | .string s => .string s
  | .array h => .array h
  | .object h => .object (sameMembers_mask h)

theorem sameMembers_mask {ms ns : Members} : SameMembers ms ns → SameMembers (mask ms) (mask ns)
  | .nil => .nil
  | .cons name hv h => by
    rw [mask, mask]
    refine .cons name ?_ (sameMembers_mask h)
    split
    · exact Same.refl _
    · exact same_maskValue hv
end

mutual
theorem Alike.same_maskValue {v w : Json} : Alike false v w → Same (maskValue v) (maskValue w)
  | .same h => Log.same_maskValue h
  | .object h => .object (AlikeMembers.sameMembers_mask h)

theorem AlikeMembers.sameMembers_mask {ms ns : Members} :
    AlikeMembers false ms ns → SameMembers (mask ms) (mask ns)
  | .nil => .nil
  | .sensitive hname v w h => by
    rw [mask, mask, if_pos hname, if_pos hname]
    exact .cons _ (Same.refl _) (AlikeMembers.sameMembers_mask h)
  | .cons name hv h => by
    rw [mask, mask]
    refine .cons name ?_ (AlikeMembers.sameMembers_mask h)
    split
    · exact Same.refl _
    · exact Alike.same_maskValue hv
end

theorem same_of_maskValue {v w : Json} (hv : ∀ ms, v ≠ .object ms)
    (h : Same (maskValue v) (maskValue w)) : Same v w := by
  rw [maskValue_eq_self hv] at h
  cases w with
  | object ns =>
    cases h with
    | object h => exact absurd rfl (hv _)
  | _ => exact h

mutual
/-- Values that look the same when masked differ only in what is masked. -/
theorem alike_of_same_maskValue :
    ∀ v w : Json, Same (maskValue v) (maskValue w) → Alike false v w
  | .object ms, w, h => by
    cases w with
    | object ns =>
      cases h with
      | object h => exact .object (alike_of_sameMembers_mask ms ns h)
    | _ => cases h
  | .null, _, h => .same (same_of_maskValue (by rintro _ ⟨⟩) h)
  | .bool _, _, h => .same (same_of_maskValue (by rintro _ ⟨⟩) h)
  | .int _, _, h => .same (same_of_maskValue (by rintro _ ⟨⟩) h)
  | .float _, _, h => .same (same_of_maskValue (by rintro _ ⟨⟩) h)
  | .string _, _, h => .same (same_of_maskValue (by rintro _ ⟨⟩) h)
  | .array _, _, h => .same (same_of_maskValue (by rintro _ ⟨⟩) h)

theorem alike_of_sameMembers_mask :
    ∀ ms ns : Members, SameMembers (mask ms) (mask ns) → AlikeMembers false ms ns
  | [], ns, h => by
    cases ns with
    | nil => exact .nil
    | cons n ns => cases h
  | (name, v) :: ms, ns, h => by
    cases ns with
    | nil => cases h
    | cons n ns =>
      obtain ⟨name', w⟩ := n
      rw [mask, mask] at h
      cases h with
      | cons _ hv h =>
        have hrest := alike_of_sameMembers_mask ms ns h
        by_cases hname : isSensitive name = true
        · exact .sensitive hname v w hrest
        · rw [if_neg hname, if_neg hname] at hv
          exact .cons name (alike_of_same_maskValue v w hv) hrest
end

/-- Masking makes the same of two objects exactly if they are alike in objects alone. -/
theorem sameMembers_mask_iff {ms ns : Members} :
    SameMembers (mask ms) (mask ns) ↔ AlikeMembers false ms ns :=
  ⟨alike_of_sameMembers_mask ms ns, AlikeMembers.sameMembers_mask⟩

/-! ## Lines -/

namespace Record

/-- The record with these fields in place of its own. -/
def withFields (r : Record) (fields : Members) : Record := { r with fields := fields }

/-- The members that a record puts after its fields, or over those of the same name. -/
def lastMembers (r : Record) : Members :=
  (r.exception.map fun text => ("exception", Json.string text)).toList ++
    if Level.warning ≤ r.level then [("source", r.source.toJson)] else []

/-- The fields that the record puts nothing over. -/
def kept (r : Record) (fields : Members) : Members :=
  fields.filter fun m => (Members.get? r.lastMembers m.1).isNone

theorem members_withFields (now : Moment) (r : Record) (fields : Members) :
    (r.withFields fields).members now =
      Members.update (Members.update (r.ownMembers now) (mask fields)) r.lastMembers := by
  show (r.withFields fields).members now = _
  unfold members lastMembers withFields
  dsimp only
  cases r.exception <;> by_cases hlevel : Level.warning ≤ r.level <;>
    simp [hlevel, Members.update] <;> rfl

theorem nodup_ownMembers (now : Moment) (r : Record) : ((r.ownMembers now).map (·.1)).Nodup := by
  unfold ownMembers
  cases r.identifier? <;> simp

/-- Where a member of the line of JSON comes from. -/
theorem get?_members (now : Moment) (r : Record) (fields : Members) (n : String) :
    Members.get? ((r.withFields fields).members now) n = (Members.get? r.lastMembers n).or
      ((Members.get? (mask fields) n).or (Members.get? (r.ownMembers now) n)) := by
  rw [members_withFields, Members.get?_update (Members.nodup_update (nodup_ownMembers now r) _),
    Members.get?_update (nodup_ownMembers now r)]

theorem get?_mask_kept (r : Record) (fields : Members) (n : String) :
    Members.get? (mask (r.kept fields)) n =
      if (Members.get? r.lastMembers n).isNone then Members.get? (mask fields) n else none := by
  have hmask : mask (r.kept fields) =
      (mask fields).filter fun m => (Members.get? r.lastMembers m.1).isNone := by
    induction fields with
    | nil => rfl
    | cons m fields ih =>
      obtain ⟨name, v⟩ := m
      rw [kept] at ih ⊢
      cases hname : (Members.get? r.lastMembers name).isNone <;>
        simp [mask, hname, ih]
  rw [hmask, Members.get?_filter _ fun name => (Members.get? r.lastMembers name).isNone]

theorem names_kept {a b : Members} (hnames : a.map (·.1) = b.map (·.1)) (r : Record) :
    (r.kept a).map (·.1) = (r.kept b).map (·.1) := by
  have hkept (fields : Members) : (r.kept fields).map (·.1) =
      (fields.map (·.1)).filter fun n => (Members.get? r.lastMembers n).isNone := by
    rw [kept, List.filter_map]
    rfl
  rw [hkept, hkept, hnames]

/-- A line of JSON gives away what is left of the kept fields after masking, and nothing else of the
fields but their names. -/
theorem toJsonLine_eq_iff {a b : Members} (hnames : a.map (·.1) = b.map (·.1))
    (hnodup : (a.map (·.1)).Nodup) (now : Moment) (r : Record) :
    (r.withFields a).toJsonLine now = (r.withFields b).toJsonLine now ↔
      AlikeMembers false (r.kept a) (r.kept b) := by
  rw [toJsonLine, toJsonLine, Json.toText_eq_iff, ← sameMembers_mask_iff]
  constructor
  · intro h
    cases h with
    | object hmembers =>
      apply SameMembers.of_get?
      · rw [names_mask, names_mask, names_kept hnames]
      · rw [names_mask]
        exact hnodup.sublist (List.filter_sublist.map _)
      · intro n v w hv hw
        rw [get?_mask_kept] at hv hw
        split at hv
        · next hlast =>
          rw [if_pos hlast] at hw
          rw [Option.isNone_iff_eq_none] at hlast
          apply hmembers.same_of_get? (n := n)
          · rw [get?_members, hlast, hv, Option.none_or, Option.some_or]
          · rw [get?_members, hlast, hw, Option.none_or, Option.some_or]
        · cases hv
  · intro h
    refine .object (SameMembers.of_get? ?_ ?_ ?_)
    · rw [members_withFields, members_withFields]
      apply Members.names_update_congr _ rfl
      apply Members.names_update_congr rfl
      rw [names_mask, names_mask, hnames]
    · rw [members_withFields]
      exact Members.nodup_update (Members.nodup_update (nodup_ownMembers now r) _) _
    · intro n v w hv hw
      rw [get?_members] at hv hw
      have hrel := h.get?_rel n
      rw [get?_mask_kept, get?_mask_kept] at hrel
      cases hlast : Members.get? r.lastMembers n with
      | some u =>
        -- Both lines have what the record puts there.
        rw [hlast, Option.some_or] at hv hw
        cases hv
        cases hw
        exact Same.refl _
      | none =>
        rw [hlast, Option.none_or] at hv hw
        rw [hlast, Option.isNone_none, if_pos rfl, if_pos rfl] at hrel
        generalize Members.get? (mask a) n = found, Members.get? (mask b) n = found' at hrel hv hw
        cases hrel with
        | some hsame =>
          cases hv
          cases hw
          exact hsame
        | none =>
          cases hv.symm.trans hw
          exact Same.refl _

/-- Fields that look the same when masked are shown alike to people. -/
theorem fieldsText_eq {a b : Members} (h : SameMembers (mask a) (mask b)) :
    fieldsText a = fieldsText b := by
  have hshown : ∀ {ms ns : Members}, SameMembers ms ns →
      ms.map (fun m => m.1 ++ "=" ++ m.2.shown) = ns.map fun m => m.1 ++ "=" ++ m.2.shown := by
    intro ms
    induction ms with
    | nil =>
      rintro ns ⟨⟩
      rfl
    | cons m ms ih =>
      intro ns h
      cases h with
      | cons name hv h => rw [List.map_cons, List.map_cons, ih h, hv.shown_eq]
  have hempty : a.isEmpty = b.isEmpty := by
    have hnames := congrArg List.isEmpty h.names_eq
    rwa [names_mask, names_mask, List.isEmpty_map, List.isEmpty_map] at hnames
  rw [fieldsText, fieldsText, hempty, hshown h]

theorem toHumanLine_eq {a b : Members} (h : SameMembers (mask a) (mask b)) (now : Moment)
    (r : Record) : (r.withFields a).toHumanLine now = (r.withFields b).toHumanLine now := by
  have hfields := fieldsText_eq h
  unfold toHumanLine withFields identifier?
  dsimp only
  rw [hfields]

/-- Fields that are equal but for sensitive values, at any depth of objects and lists: if they are
alike in objects alone, no line tells them apart, and if they are not, the line of JSON does, as far
as the record puts nothing over them. -/
theorem masked_lines {a b : Members} (h : AlikeMembers true a b) (hnodup : (a.map (·.1)).Nodup)
    (now : Moment) (r : Record) :
    (AlikeMembers false a b →
      (r.withFields a).toJsonLine now = (r.withFields b).toJsonLine now ∧
        (r.withFields a).toHumanLine now = (r.withFields b).toHumanLine now) ∧
    ((r.withFields a).toJsonLine now = (r.withFields b).toJsonLine now ↔
      AlikeMembers false (r.kept a) (r.kept b)) := by
  have hjson := toJsonLine_eq_iff h.names_eq hnodup now r
  refine ⟨fun halike => ⟨hjson.mpr ?_, ?_⟩, hjson⟩
  · exact halike.filter fun name => (Members.get? r.lastMembers name).isNone
  · exact toHumanLine_eq (sameMembers_mask_iff.mpr halike) now r

/-- A private member in an object is in no line, and in a list it is in the line of JSON. -/
theorem private_member_masked_and_shown : ∃ (now : Moment) (r : Record),
    (r.withFields [("jwk", .object [("d", .string "B")])]).toHumanLine now =
        (r.withFields [("jwk", .object [("d", .int 2)])]).toHumanLine now ∧
      (r.withFields [("keys", .array [.object [("d", .string "B")]])]).toJsonLine now ≠
        (r.withFields [("keys", .array [.object [("d", .int 2)]])]).toJsonLine now := by
  have hd (inLists : Bool) :
      AlikeMembers inLists [("d", .string "B")] [("d", .int 2)] :=
    .sensitive (by decide +kernel) _ _ .nil
  have hobject (inLists : Bool) : AlikeMembers inLists
      [("jwk", .object [("d", .string "B")])] [("jwk", .object [("d", .int 2)])] :=
    .cons "jwk" (.object (hd inLists)) .nil
  have hlist : AlikeMembers true
      [("keys", .array [.object [("d", .string "B")]])]
      [("keys", .array [.object [("d", .int 2)]])] :=
    .cons "keys" (.array rfl (.cons (.object (hd true)) .nil)) .nil
  have hshown : ¬AlikeMembers false
      [("keys", .array [.object [("d", .string "B")]])]
      [("keys", .array [.object [("d", .int 2)]])] := by
    rw [← sameMembers_mask_iff]
    intro h
    exact absurd h.spaced_eq (by decide +kernel)
  refine ⟨⟨"", "", .undefined⟩,
    ⟨Level.info, "kmsjwk.test", "m", [], none, none, ⟨"", 0, ""⟩⟩, ?_, ?_⟩
  · exact ((masked_lines (hobject true) (by decide) _ _).1 (hobject false)).2
  · exact fun hline => hshown ((masked_lines hlist (by decide) _ _).2.mp hline)

/-- The same member inside a list is in the line. -/
theorem private_member_in_list_shown : ∃ (a b : Members) (now : Moment) (r : Record),
    AlikeMembers true a b ∧
      (r.withFields a).toJsonLine now ≠ (r.withFields b).toJsonLine now ∧
      (r.withFields a).toHumanLine now ≠ (r.withFields b).toHumanLine now :=
  ⟨[("keys", .array [.object [("d", .string "secret")]])],
    [("keys", .array [.object [("d", .string "hidden")]])], ⟨"", "", .undefined⟩,
    ⟨Level.info, "kmsjwk.test", "m", [], none, none, ⟨"", 0, ""⟩⟩,
    .cons "keys" (.array rfl (.cons (.object (.sensitive (by decide +kernel) _ _ .nil)) .nil)) .nil,
    by decide +kernel, by decide +kernel⟩

end Record

end Log

end WebKeys
